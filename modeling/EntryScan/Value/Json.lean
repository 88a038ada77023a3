import EntryScan.Number.Fault
import EntryScan.Value.Basic

/-!
# EntryScan.Value.Json

The JSON text of a document, in two layouts: on one line, or with one item a line and two blanks
of indent a level. The text is ASCII: every other character is escaped, as a pair of surrogates
above `U+FFFF`. `dump` refuses documents with numbers of too many digits.
-/

namespace EntryScan
namespace Value

/-- The escape of one UTF-16 unit. -/
def escapeUnit (n : Nat) : List Char :=
  '\\' :: 'u' :: Text.hexPadded 4 n

def jsonChar (c : Char) : List Char :=
  let n := c.toNat
  if c = '"' then ['\\', '"']
  else if c = '\\' then ['\\', '\\']
  else if n = 0x8 then ['\\', 'b']
  else if n = 0xc then ['\\', 'f']
  else if c = '\n' then ['\\', 'n']
  else if c = '\r' then ['\\', 'r']
  else if c = '\t' then ['\\', 't']
  else if 0x20 ≤ n ∧ n ≤ 0x7e then [c]
  else if n < 0x10000 then escapeUnit n
  else escapeUnit (0xd800 + (n - 0x10000) / 0x400) ++ escapeUnit (0xdc00 + (n - 0x10000) % 0x400)

def jsonString (s : String) : String :=
  String.ofList ('"' :: s.toList.flatMap jsonChar ++ ['"'])

/-- How the items of a list or object are set apart. -/
structure Layout where
  /-- One item a line. -/
  pretty : Bool

/-- The break before an item at a nesting level; on one line there is none. -/
def Layout.newline (l : Layout) (level : Nat) : String :=
  if l.pretty then String.ofList ('\n' :: List.replicate (2 * level) ' ') else ""

/-- What stands between two items at a nesting level. -/
def Layout.between (l : Layout) (level : Nat) : String :=
  if l.pretty then "," ++ l.newline level else ", "

mutual

/-- The JSON text of a document at a nesting level. -/
def jsonAt (l : Layout) (level : Nat) : Value → String
  | .null => "null"
  | .bool true => "true"
  | .bool false => "false"
  | .int n => toString n
  | .text s => jsonString s
  | .list [] => "[]"
  | .list (v :: vs) =>
    "[" ++ l.newline (level + 1) ++ jsonAt l (level + 1) v ++ jsonItems l (level + 1) vs ++
      l.newline level ++ "]"
  | .object [] => "\x7b\x7d"
  | .object ((k, v) :: fs) =>
    "\x7b" ++ l.newline (level + 1) ++ jsonString k ++ ": " ++ jsonAt l (level + 1) v ++
      jsonFields l (level + 1) fs ++ l.newline level ++ "\x7d"

def jsonItems (l : Layout) (level : Nat) : List Value → String
  | [] => ""
  | v :: vs => l.between level ++ jsonAt l level v ++ jsonItems l level vs

def jsonFields (l : Layout) (level : Nat) : List (String × Value) → String
  | [] => ""
  | (k, v) :: fs =>
    l.between level ++ jsonString k ++ ": " ++ jsonAt l level v ++ jsonFields l level fs

end

def toJson (v : Value) (pretty : Bool) : String :=
  jsonAt ⟨pretty⟩ 0 v

mutual

def numbers : Value → List Int
  | .int n => [n]
  | .list items => itemNumbers items
  | .object fields => fieldNumbers fields
  | _ => []

def itemNumbers : List Value → List Int
  | [] => []
  | v :: vs => numbers v ++ itemNumbers vs

def fieldNumbers : List (String × Value) → List Int
  | [] => []
  | (_, v) :: fs => numbers v ++ fieldNumbers fs

end

/-- The JSON text of a document, if all numbers in it can be written. -/
def dump (v : Value) (pretty : Bool) : Except Number.Fault String :=
  if v.numbers.all Number.isWritable then .ok (v.toJson pretty) else .error .unwritable

end Value
end EntryScan
