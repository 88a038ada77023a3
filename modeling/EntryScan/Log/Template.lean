import EntryScan.Value.Basic

/-!
# EntryScan.Log.Template

Templates with percent fields, cut into pieces. A field names what it shows, or takes what comes
next; it may pad and cut, and ends in a mark that says how a value is written. Width and precision
stand in the template, or a `*` takes them from the values.

A field that cannot be read ends the template. What the field asked for before it broke off is
kept, because values that are missing are reported first.
-/

namespace EntryScan
namespace Log

inductive TemplateFault where
  | noField (template : String)
  | unknownField (name : String)
  | unknownName (name : String)
  | incomplete
  | incompleteName
  | unsupported (mark : Char) (index : Nat)
  | needsMapping
  | notEnough
  | notAllUsed
  | needsNumber (mark : Char) (given : String)
  | needsInteger (mark : Char) (given : String)
  | needsReal (given : String)
  | needsCharacter
  | characterRange
  | realRange
  /-- A width or a precision among the values is no number. -/
  | needsSize
  /-- A width or a precision among the values is too large for the type it is kept in. -/
  | sizeRange (type : String)
  | widthTooBig
  | precisionTooBig
  /-- A precision that no number is written with. -/
  | precisionTooLarge
  /-- The text is longer than memory. -/
  | outOfMemory
deriving DecidableEq, Repr

namespace TemplateFault

/-- How a message shows a character of a template: as it is between unit separator and tilde. -/
def shownMark (mark : Char) : Char :=
  if 31 ≤ mark.toNat ∧ mark.toNat ≤ 126 then mark else '?'

def message : TemplateFault → String
  | .noField template => s!"Invalid format '{template}' for '%' style"
  | .unknownField name => "Formatting field not found in record: " ++ Text.quoted name
  | .unknownName name => Text.quoted name
  | .incomplete => "incomplete format"
  | .incompleteName => "incomplete format key"
  | .unsupported mark index =>
    let shown := shownMark mark
    let code := String.ofList (Nat.toDigits 16 mark.toNat)
    s!"unsupported format character '{shown}' (0x{code}) at index {index}"
  | .needsMapping => "format requires a mapping"
  | .notEnough => "not enough arguments for format string"
  | .notAllUsed => "not all arguments converted during string formatting"
  | .needsNumber mark given => s!"%{mark} format: a real number is required, not {given}"
  | .needsInteger mark given => s!"%{mark} format: an integer is required, not {given}"
  | .needsReal given => "must be real number, not " ++ given
  | .needsCharacter => "%c requires int or char"
  | .characterRange => "%c arg not in range(0x110000)"
  | .realRange => "int too large to convert to float"
  | .needsSize => "* wants int"
  | .sizeRange type => "Python int too large to convert to C " ++ type
  | .widthTooBig => "width too big"
  | .precisionTooBig => "precision too big"
  | .precisionTooLarge => "precision too large"
  | .outOfMemory => ""

end TemplateFault

inductive FieldName where
  | absent
  | named (name : String)
  /-- The template ends before the name does. -/
  | cutOff
deriving DecidableEq, Repr

inductive Amount where
  | absent
  | fixed (n : Nat)
  /-- The next value says it. -/
  | given
deriving DecidableEq, Repr

inductive Ending where
  /-- The mark that says what is written, and where it stands in the template. -/
  | mark (mark : Char) (index : Nat)
  | broken (cause : TemplateFault)
deriving DecidableEq, Repr

structure Field where
  name : FieldName := .absent
  flags : List Char := []
  width : Amount := .absent
  precision : Amount := .absent
  ending : Ending
deriving DecidableEq, Repr

inductive Piece where
  | text (c : Char)
  | field (f : Field)
deriving DecidableEq, Repr

def isFlag (c : Char) : Bool := ['#', '0', '+', ' ', '-'].contains c

/-- Splits at the bracket that closes as many as are open. -/
def splitClosing : Nat → List Char → Option (List Char × List Char)
  | _, [] => none
  | 0, ')' :: cs => some ([], cs)
  | level + 1, ')' :: cs => (splitClosing level cs).map fun (name, rest) => (')' :: name, rest)
  | level, '(' :: cs => (splitClosing (level + 1) cs).map fun (name, rest) => ('(' :: name, rest)
  | level, c :: cs => (splitClosing level cs).map fun (name, rest) => (c :: name, rest)

def splitName : List Char → FieldName × List Char
  | '(' :: cs =>
    match splitClosing 0 cs with
    | some (name, rest) => (.named (String.ofList name), rest)
    | none => (.cutOff, [])
  | cs => (.absent, cs)

/-- Splits an amount off, which may not exceed the limit. -/
def splitAmount (limit : Nat) : List Char → Option (Amount × List Char)
  | '*' :: cs => some (.given, cs)
  | cs =>
    let digits := cs.takeWhile Char.isDigit
    let n := digits.foldl (fun n c => n * 10 + (c.toNat - 0x30)) 0
    if digits.isEmpty then some (.absent, cs)
    else if limit < n then none
    else some (.fixed n, cs.dropWhile Char.isDigit)

def widthLimit : Nat := 0x7fffffffffffffff

def precisionLimit : Nat := 0x7fffffff

/-- Splits the precision of a field off. A point without a number means none at all. -/
def splitPrecision : List Char → Option (Amount × List Char)
  | '.' :: cs => (splitAmount precisionLimit cs).map fun (p, rest) =>
    (if p = .absent then .fixed 0 else p, rest)
  | cs => some (.absent, cs)

/-- Passes over one letter for the size of a number, which means nothing. -/
def skipSizeLetter : List Char → List Char
  | c :: cs => if c = 'h' || c = 'l' || c = 'L' then cs else c :: cs
  | [] => []

/-- Reads the field after a percent sign in a template of so many characters; the rest is what
follows its mark. -/
def readField (total : Nat) (cs : List Char) : Field × List Char :=
  let (name, cs) := splitName cs
  let flags := cs.takeWhile isFlag
  if name = .cutOff then (⟨name, [], .absent, .absent, .broken .incompleteName⟩, [])
  else
    match splitAmount widthLimit (cs.dropWhile isFlag) with
    | none => (⟨name, flags, .absent, .absent, .broken .widthTooBig⟩, [])
    | some (width, cs) =>
      match splitPrecision cs with
      | none => (⟨name, flags, width, .absent, .broken .precisionTooBig⟩, [])
      | some (precision, cs) =>
        match skipSizeLetter cs with
        | [] => (⟨name, flags, width, precision, .broken .incomplete⟩, [])
        | mark :: rest =>
          (⟨name, flags, width, precision, .mark mark (total - (rest.length + 1))⟩, rest)

/-- Cuts a template of so many characters into pieces; each round takes at least one of them. Two
percent signs are one sign of the text. -/
def cut (total : Nat) : Nat → List Char → List Piece
  | 0, _ => []
  | _ + 1, [] => []
  | rounds + 1, '%' :: '%' :: cs => .text '%' :: cut total rounds cs
  | rounds + 1, '%' :: cs =>
    let (f, rest) := readField total cs
    .field f :: cut total rounds rest
  | rounds + 1, c :: cs => .text c :: cut total rounds cs

def pieces (template : String) : List Piece :=
  cut template.length (template.length + 1) template.toList

end Log
end EntryScan
