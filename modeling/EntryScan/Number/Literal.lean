import EntryScan.Text.Blank
import EntryScan.Text.Digit

/-!
# EntryScan.Number.Literal

Integer literals as a user types them: blanks around, an optional sign, and either a decimal
number or `0x`, `0o`, `0b` and digits of that base. A single underscore may stand between digits
and after the base mark. A digit of any script counts as its ASCII digit. A decimal number other
than zero has no leading zero, and a decimal number has at most `maxDecimalDigits` digits.
-/

namespace EntryScan
namespace Number

inductive LiteralFault where
  | malformed
  | tooManyDigits (count : Nat)
deriving DecidableEq, Repr

/-- The most digits a number may have in decimal. -/
def maxDecimalDigits : Nat := 4300

/-- Whether a number has few enough digits to be written in decimal. -/
def isWritable (n : Int) : Bool := n.natAbs < Nat.pow 10 maxDecimalDigits

/-- A digit of any script as its ASCII digit, all else kept. -/
def plainDigit (c : Char) : Char :=
  match Text.decimalDigit? c with
  | some d => Char.ofNat (0x30 + d)
  | none => c

/-- The value of an ASCII digit or of a letter `a` to `f` in either case. -/
def digitValue? (c : Char) : Option Nat :=
  let n := c.toNat
  if 0x30 ≤ n && n ≤ 0x39 then some (n - 0x30)
  else if 0x61 ≤ n && n ≤ 0x66 then some (n - 0x57)
  else if 0x41 ≤ n && n ≤ 0x46 then some (n - 0x37)
  else none

def isDigitOf (base : Nat) (c : Char) : Bool :=
  match digitValue? c with
  | some d => d < base
  | none => false

/-- The base a mark after the leading zero stands for. -/
def baseOfMark? (c : Char) : Option Nat :=
  if c = 'x' || c = 'X' then some 16
  else if c = 'o' || c = 'O' then some 8
  else if c = 'b' || c = 'B' then some 2
  else none

/-- Splits off the sign; `true` is minus. -/
def splitSign : List Char → Bool × List Char
  | '+' :: cs => (false, cs)
  | '-' :: cs => (true, cs)
  | cs => (false, cs)

/-- Splits off the base mark, and the one underscore that may follow it. -/
def splitBase : List Char → Nat × List Char
  | '0' :: c :: cs =>
    match baseOfMark? c, cs with
    | some base, '_' :: rest => (base, rest)
    | some base, rest => (base, rest)
    | none, _ => (10, '0' :: c :: cs)
  | cs => (10, cs)

/-- Underscores stand singly, between digits. -/
def underscoresPlaced : List Char → Bool
  | [] => true
  | ['_'] => false
  | '_' :: '_' :: _ => false
  | _ :: cs => underscoresPlaced cs

def digitsValue (base : Nat) (ds : List Char) : Nat :=
  ds.foldl (fun n c => n * base + (digitValue? c).getD 0) 0

def parseLiteral (text : List Char) : Except LiteralFault Int :=
  let (negative, body) := splitSign ((text.map plainDigit).dropWhile Text.isNumberBlank)
  let (base, cs) := splitBase body
  let run := cs.takeWhile fun c => isDigitOf base c || c == '_'
  let rest := cs.dropWhile fun c => isDigitOf base c || c == '_'
  let digits := run.filter (· != '_')
  let value := digitsValue base digits
  if run.head? == some '_' || !underscoresPlaced run then .error .malformed
  else if base = 10 ∧ maxDecimalDigits < digits.length then .error (.tooManyDigits digits.length)
  else if base = 10 ∧ digits.head? = some '0' ∧ value ≠ 0 then .error .malformed
  else if digits.isEmpty || !rest.all Text.isNumberBlank then .error .malformed
  else .ok (if negative then -value else value)

end Number
end EntryScan
