import EntryScan.Text.Quoted

/-!
# EntryScan.Value.Basic

Documents: what a report is made of, and what a caller may hand in where a name is expected.
Fields keep their order. `display` is the text of a document in a message.
-/

namespace EntryScan

inductive Value where
  | null
  | bool (b : Bool)
  | int (n : Int)
  | text (s : String)
  | list (items : List Value)
  | object (fields : List (String × Value))
deriving Inhabited, Repr

namespace Value

/-- The name of a document's kind, as complaints about it say. -/
def kindName : Value → String
  | .null => "NoneType"
  | .bool _ => "bool"
  | .int _ => "int"
  | .text _ => "str"
  | .list _ => "list"
  | .object _ => "dict"

def ofText? : Option String → Value
  | some s => .text s
  | none => .null

def texts (items : List String) : Value :=
  .list (items.map .text)

mutual

/-- A document inside a list or an object of a message; texts stand in quotes. -/
def literal : Value → String
  | .null => "None"
  | .bool true => "True"
  | .bool false => "False"
  | .int n => toString n
  | .text s => Text.quoted s
  | .list items => "[" ++ ", ".intercalate (literals items) ++ "]"
  | .object fields => "\x7b" ++ ", ".intercalate (fieldLiterals fields) ++ "\x7d"

def literals : List Value → List String
  | [] => []
  | v :: vs => literal v :: literals vs

def fieldLiterals : List (String × Value) → List String
  | [] => []
  | (k, v) :: fs => (Text.quoted k ++ ": " ++ literal v) :: fieldLiterals fs

end

/-- The text of a document in a message: a text stands for itself. -/
def display : Value → String
  | .text s => s
  | v => literal v

end Value
end EntryScan
