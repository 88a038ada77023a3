import EntryScan.Log.Fill
import EntryScan.Log.Level
import EntryScan.Text.Digit
import EntryScan.Text.WordChar

/-!
# EntryScan.Log.Record

Log records and the lines they become. A layout is a template with named fields; a coloured layout
paints the level's name and the message.
-/

namespace EntryScan
namespace Log

structure Record where
  logger : String
  level : Level
  message : String
deriving DecidableEq, Repr

/-! ## Layouts -/

/-- The marks that a named field of a layout may end in, in either case. Two letters beside ASCII
count as the letter `i`, and one as the letter `s`. -/
def layoutMarks : List Char :=
  ['d', 'i', 'o', 'u', 'x', 'e', 'f', 'g', 'c', 'r', 's', 'a', '%', '\u0130', '\u0131', '\u017f']

/-- Passes over a `*` or a number in digits of any script; none when there is neither. -/
def skipAmount? : List Char → Option (List Char)
  | '*' :: cs => some cs
  | c :: cs =>
    let isDigit (c : Char) : Bool := (Text.decimalDigit? c).isSome
    if isDigit c then some (cs.dropWhile isDigit) else none
  | [] => none

def skipPrecision : List Char → List Char
  | '.' :: cs => (skipAmount? cs).getD ('.' :: cs)
  | cs => cs

def startsField : List Char → Bool
  | '%' :: '(' :: cs =>
    match cs.takeWhile Text.isWordChar, cs.dropWhile Text.isWordChar with
    | _ :: _, ')' :: rest =>
      let rest := rest.dropWhile isFlag
      match skipPrecision ((skipAmount? rest).getD rest) with
      | mark :: _ => layoutMarks.contains mark.toLower
      | [] => false
    | _, _ => false
  | _ => false

def holdsField : List Char → Bool
  | [] => false
  | c :: cs => startsField (c :: cs) || holdsField cs

structure Layout where
  template : String
  coloured : Bool
deriving DecidableEq, Repr

namespace Layout

/-- The template of a layout when none is given: the message alone. -/
def messageOnly : String := "%(message)s"

def projectTemplate : String := "%(asctime)s - %(name)s - %(levelname)s - %(message)s"

/-- A layout of a template, which must hold a field. An empty template counts as none. -/
def make (template : Option String) (coloured : Bool) : Except TemplateFault Layout :=
  let text := match template with
    | some t => if t.isEmpty then messageOnly else t
    | none => messageOnly
  if holdsField text.toList then .ok ⟨text, coloured⟩ else .error (.noField text)

def line (l : Layout) (time : String) (r : Record) : Except TemplateFault String :=
  let paint (text : String) : String := if l.coloured then r.level.paint text else text
  let supply := Supply.byName
    [("name", .text r.logger), ("levelname", .text (paint r.level.name)),
      ("levelno", .int r.level), ("message", .text (paint r.message)), ("asctime", .text time)]
  (supply.fill (pieces l.template)).mapError fun
    | .unknownName name => .unknownField name
    | cause => cause

end Layout

/-- A message with its arguments filled in. Without arguments it stands for itself; a single
mapping gives its values by name. -/
def render (message : String) (args : List Value) : Except TemplateFault String :=
  match args with
  | [] => .ok message
  | [.object (f :: fs)] => (Supply.byName (f :: fs)).fill (pieces message)
  | vs => (Supply.inOrder vs).fill (pieces message)

end Log
end EntryScan
