import EntryScan.Bytes
import EntryScan.Elf.Problem

/-!
# EntryScan.Elf.Image

An image as the loader reads it: bytes at positions, fewer than asked for at the end, and possibly a
range of positions at which reading fails. An image in memory and one on a disk have different
limits.
-/

namespace EntryScan
namespace Elf

/-- An image. Reading fails from a position in the half-open range `broken`. -/
structure Image where
  bytes : List UInt8
  broken : Option (Nat × Nat) := none
  onDisk : Bool := false

namespace Image

def isBroken (img : Image) (pos : Nat) : Bool :=
  match img.broken with
  | some (lo, hi) => lo ≤ pos && pos < hi
  | none => false

/-- At most `size` bytes from a position; nothing when reading fails. -/
def read? (img : Image) (pos size : Nat) : Option (List UInt8) :=
  if img.isBroken pos then none else some ((img.bytes.drop pos).take size)

def read (img : Image) (pos size : Nat) : Except Problem (List UInt8) :=
  match img.read? pos size with
  | some bs => .ok bs
  | none => .error .unreadable

/-- The first number that is no position. -/
def offsetLimit : Nat := 0x8000000000000000

/-- The last position beyond the end of a file on a disk that can be asked for. -/
def lastOnDisk : Nat := 0xffffffff000

/-- A position that an image can have. All up to its end are among them. -/
def checkOffset (img : Image) (pos : Nat) : Except Problem Unit :=
  if img.onDisk then
    if offsetLimit ≤ pos then .error .fileOffsetTooLarge
    else if lastOnDisk < pos ∧ img.bytes.length < pos then .error .badOffset
    else .ok ()
  else if offsetLimit ≤ pos then .error .offsetTooLarge
  else .ok ()

def sizeLimit : Nat := 0x8000000000000000

/-- A size that can be asked for. Memory for all of it is taken at once for a file on a disk, and
there is room for as much as the file holds. -/
def checkSize (img : Image) (size : Nat) : Except Problem Unit :=
  if sizeLimit ≤ size then .error .sizeTooLarge
  else if img.onDisk ∧ sizeLimit - 33 ≤ size then .error .bytesTooLarge
  else if img.onDisk ∧ 0x1000000000 ≤ size ∧ img.bytes.length < size then .error .outOfMemory
  else .ok ()

def field (img : Image) (big : Bool) (pos width : Nat) : Except Problem Nat :=
  match img.read? pos width with
  | none => .error .unreadableField
  | some bs =>
    if bs.length < width then .error (.shortField width bs.length)
    else .ok (if big then Bytes.bigEndian bs else Bytes.littleEndian bs)

def fields (img : Image) (big : Bool) (pos : Nat) : List Nat → Except Problem (List Nat)
  | [] => .ok []
  | width :: widths => do
    let n ← img.field big pos width
    let ns ← img.fields big (pos + width) widths
    return n :: ns

/-- The bytes from a position to the next zero byte, if one follows, looked for in so many pieces
of 64 bytes. -/
def textWithin (img : Image) (pos : Nat) : Nat → Except Problem (Option (List UInt8))
  | 0 => .ok none
  | pieces + 1 => do
    let piece ← img.read pos 64
    if piece.contains 0 then return some (piece.takeWhile (· ≠ 0))
    else if piece.length < 64 then return none
    else return (← img.textWithin (pos + 64) pieces).map (piece ++ ·)

/-- The bytes from a position to the next zero byte; none when no zero byte follows. -/
def textAt (img : Image) (pos : Nat) : Except Problem (List UInt8) := do
  img.checkOffset pos
  return (← img.textWithin pos (img.bytes.length / 64 + 1)).getD []

end Image
end Elf
end EntryScan
