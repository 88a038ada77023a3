import EntryScan.Text.Quoted

/-!
# EntryScan.Number.Hex

Numbers in base sixteen, as addresses and operands are written.

* `hex`     — signed, unbounded: `0x10`, `-0x10`.
* `operand` — decimal for one digit, base sixteen beyond: `9`, `0xa`, `-0x10`.
-/

namespace EntryScan
namespace Number

/-- The digits of `n` in base sixteen, without leading zeros. -/
def hexDigits (n : Nat) : List Char :=
  if n < 16 then [Text.hexDigit n] else hexDigits (n / 16) ++ [Text.hexDigit (n % 16)]
termination_by n
decreasing_by omega

/-- A natural number in base sixteen, with its `0x`. -/
def hexNat (n : Nat) : String :=
  String.ofList ('0' :: 'x' :: hexDigits n)

/-- An integer in base sixteen, the sign before the `0x`. -/
def hex (n : Int) : String :=
  if n < 0 then "-" ++ hexNat n.natAbs else hexNat n.natAbs

/-- A number as instruction operands show it. -/
def operand (n : Int) : String :=
  if -9 ≤ n ∧ n ≤ 9 then toString n else hex n

end Number
end EntryScan
