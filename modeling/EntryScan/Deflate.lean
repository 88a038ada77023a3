import EntryScan.Deflate.Block

/-!
# EntryScan.Deflate

Expansion of a compressed body: blocks inside a wrapper of a two-byte head and a checksum at the
end. Data that is cut off expands to what is there; the checksum is compared only when all of it
is there.
-/

namespace EntryScan
namespace Deflate

/-- The checksum of the expanded bytes. -/
def adler32 (bs : List UInt8) : Nat :=
  let step (s : Nat × Nat) (b : UInt8) : Nat × Nat :=
    let low := (s.1 + b.toNat) % 65521
    (low, (s.2 + low) % 65521)
  let (low, high) := bs.foldl step (1, 0)
  high * 65536 + low

def headFault? (first second : UInt8) : Option Fault :=
  if Bytes.bigEndian [first, second] % 31 ≠ 0 then some .headCheck
  else if first.toNat % 16 ≠ 8 then some .method
  else if 7 < first.toNat / 16 then some .windowSize
  else none

/-- Expands a body to at most `limit` bytes; a limit of zero is none. A head that asks for a
dictionary names it in the four bytes behind, and there is none to give. -/
def expand (limit : Nat) : List UInt8 → Except Fault (List UInt8)
  | first :: second :: body =>
    match headFault? first second with
    | some f => .error f
    | none =>
      if second.toNat / 32 % 2 = 1 then if 4 ≤ body.length then .error .dictionary else .ok []
      else
        match expandBlocks (if limit = 0 then none else some limit) #[] ⟨[], body⟩ with
        | .error f => .error f
        | .ok ⟨out, none⟩ => .ok out.toList
        | .ok ⟨out, some rest⟩ =>
          if 4 ≤ rest.bytes.length ∧ Bytes.bigEndian (rest.bytes.take 4) ≠ adler32 out.toList then
            .error .dataCheck
          else .ok out.toList
  | _ => .ok []

end Deflate
end EntryScan
