/-!
# EntryScan.Bytes

Reading numbers from the front of a byte list. A reader takes what it needs and hands back the
rest; it fails when the bytes run out.
-/

namespace EntryScan

abbrev Reader := StateT (List UInt8) Option

namespace Bytes

/-- Whether fewer than `n` bytes are left. No more than `n` of them are looked at. -/
def fewerThan (n : Nat) (bs : List UInt8) : Bool := (bs.take n).length < n

/-- The number that bytes denote, the least significant byte first. -/
def littleEndian : List UInt8 → Nat
  | [] => 0
  | b :: bs => b.toNat + 256 * littleEndian bs

/-- The number that bytes denote, the most significant byte first. -/
def bigEndian (bs : List UInt8) : Nat :=
  littleEndian bs.reverse

/-- The low `width` bytes of a number, the least significant byte first. -/
def toLittleEndian : Nat → Nat → List UInt8
  | 0, _ => []
  | width + 1, n => UInt8.ofNat n :: toLittleEndian width (n / 256)

/-- The number of `bits` bits read as a signed number. -/
def signExtend (bits : Nat) (n : Nat) : Int :=
  if n < 1 <<< (bits - 1) then n else (n : Int) - (1 <<< bits : Nat)

end Bytes

namespace Reader

def fail {α : Type} : Reader α := fun _ => none

def byte : Reader Nat
  | [] => none
  | b :: bs => some (b.toNat, bs)

def unsigned (width : Nat) : Reader Nat := fun bs =>
  if bs.length < width then none
  else some (Bytes.littleEndian (bs.take width), bs.drop width)

def signed (width : Nat) : Reader Int := do
  return Bytes.signExtend (8 * width) (← unsigned width)

end Reader
end EntryScan
