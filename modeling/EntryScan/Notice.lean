import EntryScan.Elf.Load
import EntryScan.FaultFamily
import EntryScan.Value.Basic

/-!
# EntryScan.Notice

Faults that a caller reports on its own. A notice of a family is made from documents: an
unsupported architecture or machine from its name and what is supported instead, a missing section
from its name, and any other from whatever there is to say.
-/

namespace EntryScan

/-- A fault of a family, with what can be read off it. -/
structure Notice where
  family : FaultFamily
  message : String
  supported : Option (List String) := none
  sectionName : Option Value := none

namespace Notice

inductive Fault where
  | missing (family : FaultFamily) (parameter : String)
  /-- More documents than the family takes. -/
  | tooMany (family : FaultFamily) (allowed : String) (given : Nat)
  /-- What is supported is no collection. -/
  | notACollection (kind : String)
  /-- Something that is supported is no text. -/
  | notAText (index : Nat) (kind : String)
deriving DecidableEq, Repr

/-- The wording of a fault. Counts include the notice itself. -/
def Fault.message : Fault → String
  | .missing family parameter =>
    family.name ++ ".__init__() missing 1 required positional argument: " ++ Text.quoted parameter
  | .tooMany family allowed given =>
    family.name ++ s!".__init__() takes {allowed} positional arguments but {given + 1} were given"
  | .notACollection kind => s!"'{kind}' object is not iterable"
  | .notAText index kind => s!"sequence item {index}: expected str instance, {kind} found"

/-- The items of a document, which are characters for a text and names for an object. What counts
as empty has none. -/
def items : Value → Except Fault (List Value)
  | .null | .bool false | .int 0 => .ok []
  | .text s => .ok (s.toList.map fun c => .text c.toString)
  | .list vs => .ok vs
  | .object fields => .ok (fields.map fun (name, _) => .text name)
  | v => .error (.notACollection v.kindName)

/-- Documents that must all be texts, counted from an index. -/
def asTexts (index : Nat) : List Value → Except Fault (List String)
  | [] => .ok []
  | .text s :: vs => (asTexts (index + 1) vs).map (s :: ·)
  | v :: _ => .error (.notAText index v.kindName)

def unsupported (family : FaultFamily) (parameter : String) : List Value → Except Fault Notice
  | [] => .error (.missing family parameter)
  | [name] => about name .null
  | [name, supported] => about name supported
  | vs => .error (.tooMany family "from 2 to 3" vs.length)
where
  /-- The notice, given what is unsupported and what is supported. -/
  about (name supported : Value) : Except Fault Notice := do
    let supported ← asTexts 0 (← items supported)
    return { family, message := Elf.unsupportedText name.display supported, supported }

def sectionMissing : List Value → Except Fault Notice
  | [] => .error (.missing .sectionNotFound "section_name")
  | [name] => .ok {
      family := .sectionNotFound
      message := (Elf.Fault.noSection name.display).message
      sectionName := some name }
  | vs => .error (.tooMany .sectionNotFound "2" vs.length)

/-- The wording of any other notice: one document stands for itself, more stand in brackets. -/
def wording : List Value → String
  | [] => ""
  | [v] => v.display
  | vs => "(" ++ ", ".intercalate (Value.literals vs) ++ ")"

def make (family : FaultFamily) (documents : List Value) : Except Fault Notice :=
  match family with
  | .unsupportedArchitecture => unsupported family "arch" documents
  | .unsupportedMachine => unsupported family "machine" documents
  | .sectionNotFound => sectionMissing documents
  | _ => .ok { family, message := wording documents }

end Notice
end EntryScan
