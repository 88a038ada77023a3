import EntryScan.Amd64.Operand
import EntryScan.Bytes

/-!
# EntryScan.Amd64.Encoding

The parts of an x86-64 encoding that instructions share: prefix bytes, the REX byte, the byte
that names a register and a place (`ModRM`), and immediates.
-/

namespace EntryScan
namespace Amd64

/-- The prefixes in force at the opcode. -/
structure Prefixes where
  /-- `66`: 16-bit operands. -/
  narrow : Bool := false
  /-- `67`: 32-bit addresses. -/
  shortAddress : Bool := false
  /-- `f2`. -/
  repeatNot : Bool := false
  /-- `f3`. -/
  repeated : Bool := false
  /-- The segment register that a prefix names. -/
  segment : Option String := none
  /-- The low four bits of the REX byte. -/
  rex : Option Nat := none
deriving DecidableEq, Repr

namespace Prefixes

def segment? (b : Nat) : Option String :=
  if b = 0x26 then some "es"
  else if b = 0x2e then some "cs"
  else if b = 0x36 then some "ss"
  else if b = 0x3e then some "ds"
  else if b = 0x64 then some "fs"
  else if b = 0x65 then some "gs"
  else none

/-- The prefixes after one more byte, if the byte is a prefix. A REX byte holds only until the
next legacy prefix. -/
def add? (p : Prefixes) (b : Nat) : Option Prefixes :=
  if b = 0x66 then some { p with narrow := true, rex := none }
  else if b = 0x67 then some { p with shortAddress := true, rex := none }
  else if b = 0xf2 then some { p with repeatNot := true, rex := none }
  else if b = 0xf3 then some { p with repeated := true, rex := none }
  else if 0x40 ≤ b ∧ b ≤ 0x4f then some { p with rex := some (b - 0x40) }
  else match segment? b with
    | some s => some { p with segment := some s, rex := none }
    | none => none

/-- Reads prefixes until the opcode. -/
def scan (p : Prefixes) : List UInt8 → Prefixes × List UInt8
  | [] => (p, [])
  | b :: bs =>
    match p.add? b.toNat with
    | some q => scan q bs
    | none => (p, b :: bs)

/-- A bit of the REX byte, as the number it adds to a register's. -/
def rexBit (p : Prefixes) (bit : Nat) : Nat :=
  8 * ((p.rex.getD 0) >>> bit % 2)

def wide (p : Prefixes) : Bool := p.rexBit 3 ≠ 0

def width (p : Prefixes) : Width :=
  if p.wide then .qword else if p.narrow then .word else .dword

/-- The width of stack operands, which are 64 bits unless narrowed. -/
def stackWidth (p : Prefixes) : Width :=
  if p.narrow && !p.wide then .word else .qword

def register (p : Prefixes) (width : Width) (n : Nat) : Arg :=
  .reg (registerName width p.rex.isSome n)

def addressRegister (p : Prefixes) (n : Nat) : String :=
  registerName (if p.shortAddress then .dword else .qword) true n

end Prefixes

/-- The place that a `ModRM` byte names. -/
inductive Place where
  | reg (n : Nat)
  | mem (ref : MemRef)
deriving DecidableEq, Repr

namespace Place

/-- The place as an argument of a width. -/
def arg (p : Prefixes) (width : Width) : Place → Arg
  | .reg n => p.register width n
  | .mem ref => .mem width.sizeWords ref

end Place

/-- Reads the displacement that a mode asks for. -/
def readDisp (mode : Nat) : Reader Int :=
  if mode = 1 then Reader.signed 1
  else if mode = 2 then Reader.signed 4
  else pure 0

/-- Reads the scale-index-base byte and the displacement after it. Without a base there is
always a 32-bit displacement. The missing index is written `riz`, or `eiz` in a short address,
unless the encoding needs it: with scale one, below a base of number 4 or without a base. -/
def readScaled (p : Prefixes) (mode : Nat) : Reader MemRef := do
  let sib ← Reader.byte
  let scale := 1 <<< (sib / 64)
  let indexField := sib / 8 % 8
  let baseField := sib % 8
  let noBase := baseField = 5 ∧ mode = 0
  let disp ← if noBase then Reader.signed 4 else readDisp mode
  let index :=
    if indexField = 4 ∧ p.rexBit 1 = 0 then
      if scale = 1 ∧ (baseField = 4 ∨ noBase) then none
      else some (if p.shortAddress then "eiz" else "riz")
    else some (p.addressRegister (indexField + p.rexBit 1))
  return {
    segment := p.segment
    base := if noBase then none else some (p.addressRegister (baseField + p.rexBit 0))
    index := index
    scale := scale
    disp := disp }

def readPlace (p : Prefixes) (mode field : Nat) : Reader Place := do
  if mode = 3 then
    return .reg (field + p.rexBit 0)
  else if field = 4 then
    return .mem (← readScaled p mode)
  else if field = 5 ∧ mode = 0 then
    let disp ← Reader.signed 4
    return .mem ⟨p.segment, some (if p.shortAddress then "eip" else "rip"), none, 1, disp⟩
  else
    let disp ← readDisp mode
    return .mem ⟨p.segment, some (p.addressRegister (field + p.rexBit 0)), none, 1, disp⟩

/-- Reads a `ModRM` byte and its place. The first component is the register field, without the
bit that REX adds to it. -/
def readModRm (p : Prefixes) : Reader (Nat × Place) := do
  let b ← Reader.byte
  let place ← readPlace p (b / 64) (b % 8)
  return (b / 8 % 8, place)

/-- Reads an immediate of a width: unsigned, but a 64-bit operand takes a signed 32-bit one. -/
def readImm : Width → Reader Int
  | .byte => return (← Reader.unsigned 1)
  | .word => return (← Reader.unsigned 2)
  | .dword => return (← Reader.unsigned 4)
  | .qword => Reader.signed 4

/-- A number as the unsigned number of a width. -/
def Width.unsign (width : Width) (v : Int) : Int :=
  v % (1 <<< width.bits : Nat)

end Amd64
end EntryScan
