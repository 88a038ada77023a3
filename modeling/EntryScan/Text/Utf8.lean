/-!
# EntryScan.Text.Utf8

Text from bytes in UTF-8. Bytes that are no part of a character are replaced: each longest start
of a character that goes wrong, and each byte that starts none, becomes one `U+FFFD`.
-/

namespace EntryScan
namespace Text

/-- The character that stands for wrong bytes. -/
def replacement : Char := Char.ofNat 0xfffd

/-- What a leading byte announces: how many bytes follow, the range of the first of them, and the
bits the leading byte itself holds. -/
structure Lead where
  tails : Nat
  least : Nat
  greatest : Nat
  bits : Nat

/-- What a byte above the ASCII range announces. -/
def lead? (b : Nat) : Option Lead :=
  if 0xc2 ≤ b ∧ b ≤ 0xdf then some ⟨1, 0x80, 0xbf, b - 0xc0⟩
  else if b = 0xe0 then some ⟨2, 0xa0, 0xbf, 0⟩
  else if b = 0xed then some ⟨2, 0x80, 0x9f, b - 0xe0⟩
  else if 0xe1 ≤ b ∧ b ≤ 0xef then some ⟨2, 0x80, 0xbf, b - 0xe0⟩
  else if b = 0xf0 then some ⟨3, 0x90, 0xbf, 0⟩
  else if 0xf1 ≤ b ∧ b ≤ 0xf3 then some ⟨3, 0x80, 0xbf, b - 0xf0⟩
  else if b = 0xf4 then some ⟨3, 0x80, 0x8f, b - 0xf0⟩
  else none

/-- Takes the bytes that follow a leading one, as long as they fit: the code point if none is
missing, and how many bytes fit. -/
def takeTails : Nat → Nat → Nat → Nat → List UInt8 → Option Nat × Nat
  | 0, _, _, bits, _ => (some bits, 0)
  | _ + 1, _, _, _, [] => (none, 0)
  | n + 1, least, greatest, bits, b :: bs =>
    if least ≤ b.toNat ∧ b.toNat ≤ greatest then
      let (point, used) := takeTails n 0x80 0xbf (bits * 64 + (b.toNat - 0x80)) bs
      (point, used + 1)
    else (none, 0)

def decodeUtf8 : List UInt8 → List Char
  | [] => []
  | b :: bs =>
    if b.toNat < 0x80 then Char.ofNat b.toNat :: decodeUtf8 bs
    else
      match lead? b.toNat with
      | none => replacement :: decodeUtf8 bs
      | some l =>
        let (point, used) := takeTails l.tails l.least l.greatest l.bits bs
        (point.map Char.ofNat).getD replacement :: decodeUtf8 (bs.drop used)
termination_by bs => bs.length
decreasing_by all_goals simp only [List.length_drop, List.length_cons]; omega

end Text
end EntryScan
