import EntryScan.Config

/-!
# EntryScan.Sweep

The linear sweep over a region of code.

* `decodeAt?` — the instruction at one offset of a region.
* `steps`     — the sweep: one step a position, from the first byte on, each step starting where
  the one before it ended. Bytes that do not decode are passed over by a fixed stride, so that the
  sweep always gets to the end.
-/

namespace EntryScan

structure Step where
  offset : Nat
  address : Int
  size : Nat
  reading : Reading
deriving DecidableEq, Repr

namespace Sweep

/-- The most bytes handed to the decoder. -/
def windowSize (c : Config) : Arch → Nat
  | .amd64 => c.amd64Window
  | .arm64 => c.arm64Window

/-- The bytes passed over when nothing decodes. -/
def stride (c : Config) : Arch → Nat
  | .amd64 => 1
  | .arm64 => c.arm64Window

/-- The fewest bytes that must be left for an instruction to be looked for. -/
def needed (c : Config) : Arch → Nat
  | .amd64 => 1
  | .arm64 => c.arm64Window

/-- The instruction at the front of the bytes that are left. -/
def decodeFront? (c : Config) (arch : Arch) (rest : List UInt8) (address : Int) :
    Option Decoded :=
  if rest.isEmpty || Bytes.fewerThan (needed c arch) rest then none
  else
    match c.decoder.decode? arch (rest.take (windowSize c arch)) address with
    | some d => if d.size = 0 then none else some d
    | none => none

/-- The instruction at an offset of a region, as standing at `address`. -/
def decodeAt? (c : Config) (arch : Arch) (code : List UInt8) (offset address : Int) :
    Option Decoded :=
  if offset < 0 then none else decodeFront? c arch (code.drop offset.toNat) address

def atMarker (c : Config) (arch : Arch) (rest : List UInt8) : Bool :=
  arch = .amd64 && !Bytes.fewerThan 4 rest && c.markers.contains (rest.take 4)

/-- What the sweep finds at the front of the bytes that are left, and how far it goes on. -/
def readFront (c : Config) (arch : Arch) (rest : List UInt8) (address : Int) : Reading × Nat :=
  if atMarker c arch rest then (.marker, 4)
  else
    match decodeFront? c arch rest address with
    | some d => (.insn d.insn, d.size)
    | none => (.failed, stride c arch)

/-- The sweep over the bytes that are left at an offset. -/
def stepsFrom (c : Config) (arch : Arch) (base : Int) (offset : Nat) : List UInt8 → List Step
  | [] => []
  | b :: bs =>
    if Bytes.fewerThan (needed c arch) (b :: bs) then []
    else
      let address := Address.wrap (base + offset)
      let (reading, size) := readFront c arch (b :: bs) address
      ⟨offset, address, size, reading⟩ :: stepsFrom c arch base (offset + size) (bs.drop (size - 1))
termination_by rest => rest.length
decreasing_by simp only [List.length_drop, List.length_cons]; omega

def steps (c : Config) (arch : Arch) (code : List UInt8) (base : Int) : List Step :=
  stepsFrom c arch base 0 code

/-- What the sweep finds, without the places. -/
def readings (c : Config) (arch : Arch) (code : List UInt8) (base : Int) : List Reading :=
  (steps c arch code base).map (·.reading)

end Sweep
end EntryScan
