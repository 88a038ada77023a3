import EntryScan.Log.Template
import EntryScan.Number.Decimal

/-!
# EntryScan.Log.Fill

Templates filled in with values. Values come one after another, or from a mapping by name; what a
name selects is then the next value. Every value must be used, except those of a mapping.
-/

namespace EntryScan
namespace Log

/-! ## One value -/

/-- How a value is written, once width and precision are known. -/
structure Style where
  flags : List Char
  width : Nat
  precision : Option Nat
deriving DecidableEq, Repr

/-- The length from which on a text is taken to be longer than memory. -/
def memoryLimit : Nat := 0x20000000

namespace Style

/-- Pads a text to the width, on the left unless a flag says otherwise. -/
def pad (s : Style) (text : String) : Except TemplateFault String :=
  let blanks := String.ofList (List.replicate (s.width - text.length) ' ')
  if memoryLimit ≤ s.width then .error .outOfMemory
  else .ok (if s.flags.contains '-' then text ++ blanks else blanks ++ text)

/-- Pads a number to the width. Zeros go between what stands before the digits and the digits. -/
def padNumber (s : Style) (start digits : String) : Except TemplateFault String :=
  if s.flags.contains '0' && !s.flags.contains '-' && s.width < memoryLimit then
    let zeros := List.replicate (s.width - start.length - digits.length) '0'
    .ok (start ++ String.ofList zeros ++ digits)
  else s.pad (start ++ digits)

def sign (s : Style) (n : Int) : String :=
  if n < 0 then "-" else if s.flags.contains '+' then "+"
  else if s.flags.contains ' ' then " " else ""

/-- Cuts a text to the precision and pads it. -/
def text (s : Style) (t : String) : Except TemplateFault String :=
  s.pad (match s.precision with
    | some p => String.ofList (t.toList.take p)
    | none => t)

/-- The largest precision that a whole number is written with. -/
def digitsLimit : Nat := 0x7ffffffc

/-- A whole number; the precision is the least number of its digits. -/
def whole (s : Style) (start : String) (n : Int) (digits : List Char) :
    Except TemplateFault String :=
  let least := s.precision.getD 0
  if digitsLimit < least then .error .precisionTooLarge
  else if memoryLimit ≤ least then .error .outOfMemory
  else
    let zeros := List.replicate (least - digits.length) '0'
    s.padNumber (s.sign n ++ start) (String.ofList (zeros ++ digits))

def decimal (s : Style) (n : Int) : Except TemplateFault String :=
  s.whole "" n (Nat.toDigits 10 n.natAbs)

/-- A number in base eight or sixteen, with the mark after a zero in front if a flag asks. -/
def based (s : Style) (mark : Char) (n : Int) : Except TemplateFault String :=
  let digits := Nat.toDigits (if mark = 'o' then 8 else 16) n.natAbs
  let digits := if mark = 'X' then digits.map Char.toUpper else digits
  s.whole (if s.flags.contains '#' then String.ofList ['0', mark] else "") n digits

def real (s : Style) (mark : Char) (n : Int) : Except TemplateFault String :=
  let pointed := s.flags.contains '#'
  let places := s.precision.getD 6
  match Number.nearestDouble? n.natAbs with
  | none => .error .realRange
  | some x =>
    -- a general form leaves zeros out, so it stays short
    if memoryLimit ≤ places && (pointed || mark.toLower != 'g') then .error .outOfMemory
    else
      let digits := match mark.toLower with
        | 'e' => Number.scientific pointed places x
        | 'f' => Number.fixedPoint pointed places x
        | _ => Number.general pointed places x
      let digits := if mark.isUpper then digits.map Char.toUpper else digits
      s.padNumber (s.sign n) (String.ofList digits)

/-- A character, given as itself or by its code point. -/
def character (s : Style) : Value → Except TemplateFault String
  | .text t => if t.length = 1 then s.pad t else .error .needsCharacter
  | .int n => ofCode n
  | .bool b => ofCode (if b then 1 else 0)
  | _ => .error .needsCharacter
where
  /-- The character of a code point. -/
  ofCode (n : Int) : Except TemplateFault String :=
    if 0 ≤ n ∧ n < 0x110000 then s.pad (String.ofList [Char.ofNat n.toNat])
    else .error .characterRange

end Style

/-- The number that a document counts as. -/
def number? : Value → Option Int
  | .int n => some n
  | .bool b => some (if b then 1 else 0)
  | _ => none

/-- A document as the mark of a field asks. -/
def Style.write (s : Style) (mark : Char) (index : Nat) (v : Value) : Except TemplateFault String :=
  let numeric (complaint : String → TemplateFault) (f : Int → Except TemplateFault String) :=
    match number? v with
    | some n => f n
    | none => .error (complaint v.kindName)
  match mark with
  | 's' => s.text v.display
  | 'r' => s.text v.literal
  | 'a' => s.text (Text.asciiOnly v.literal)
  | 'c' => s.character v
  | 'd' | 'i' | 'u' => numeric (.needsNumber mark) s.decimal
  | 'x' | 'X' | 'o' => numeric (.needsInteger mark) (s.based mark)
  | 'e' | 'E' | 'f' | 'F' | 'g' | 'G' => numeric .needsReal (s.real mark)
  | _ => .error (.unsupported mark index)

/-! ## Many values -/

structure Supply where
  mapping : Option (List (String × Value))
  /-- The values that come next. -/
  next : List Value

namespace Supply

def inOrder (vs : List Value) : Supply := ⟨none, vs⟩

/-- Values by name. A field without a name takes the whole mapping. -/
def byName (fields : List (String × Value)) : Supply := ⟨some fields, [.object fields]⟩

def take (s : Supply) : Except TemplateFault (Value × Supply) :=
  match s.next with
  | v :: vs => .ok (v, { s with next := vs })
  | [] => .error .notEnough

def select (s : Supply) (name : FieldName) : Except TemplateFault Supply :=
  match name, s.mapping with
  | .absent, _ => .ok s
  | _, none => .error .needsMapping
  | .cutOff, some _ => .error .incompleteName
  | .named n, some fields =>
    match fields.lookup n with
    | some v => .ok { s with next := [v] }
    | none => .error (.unknownName n)

/-- The number that an amount stands for, kept in so many bits. -/
def amount (s : Supply) (bits : Nat) (type : String) (a : Amount) :
    Except TemplateFault (Option Int × Supply) :=
  match a with
  | .absent => .ok (none, s)
  | .fixed n => .ok (some n, s)
  | .given => do
    let (v, s) ← s.take
    match number? v with
    | none => .error .needsSize
    | some n =>
      let bound : Int := (1 <<< (bits - 1) : Nat)
      if n < -bound ∨ bound ≤ n then .error (.sizeRange type) else .ok (some n, s)

def fillField (s : Supply) (f : Field) : Except TemplateFault (String × Supply) := do
  let s ← s.select f.name
  let (width, s) ← s.amount 64 "ssize_t" f.width
  let (precision, s) ← s.amount 32 "int" f.precision
  match f.ending with
  | .broken cause => .error cause
  | .mark mark index =>
    let (v, s) ← s.take
    let width := width.getD 0
    let style : Style := {
      -- a negative width pads on the right
      flags := if width < 0 then '-' :: f.flags else f.flags
      width := if width = -0x8000000000000000 then 0 else width.natAbs
      precision := precision.map Int.toNat }
    let text ← style.write mark index v
    if s.mapping.isSome && !s.next.isEmpty then .error .notAllUsed
    return (text, s)

def fill (s : Supply) : List Piece → Except TemplateFault String
  | [] => if s.mapping.isNone && !s.next.isEmpty then .error .notAllUsed else .ok ""
  | .text c :: ps => (s.fill ps).map (c.toString ++ ·)
  | .field f :: ps => do
    let (text, s) ← s.fillField f
    return text ++ (← s.fill ps)

end Supply
end Log
end EntryScan
