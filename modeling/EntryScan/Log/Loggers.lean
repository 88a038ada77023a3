import EntryScan.Log.Record

/-!
# EntryScan.Log.Loggers

Loggers form a tree by the dots in their names. A record is let through if its level reaches that
of the nearest logger above it that has one. It is then handed up from logger to logger, and is
shown if it gets to the root; a logger on the way may keep it. A kept record that matters is shown
on the terminal, as its message alone.

A logger is part of the tree from its first use on. It hangs below the nearest logger of the tree
that its name leads to. It takes over the loggers whose names lead to it, unless they hang below
one whose name starts with its own.
-/

namespace EntryScan
namespace Log

/-- What is set for a logger. The level zero means that it has none. -/
structure Logger where
  level : Level := 0
  propagates : Bool := true
  /-- The logger above it, if that is not the root. -/
  parent : Option String := none
deriving DecidableEq, Repr

structure Loggers where
  root : Logger := { level := Level.warning }
  named : List (String × Logger) := []
deriving DecidableEq, Repr

def rootName : String := "root"

/-- Whether a name means the root, which the empty name does too. -/
def isRoot (name : String) : Bool := name.isEmpty || name == rootName

/-- The names that a name leads to, the nearest first. Each is what stands before a dot. The dots
are looked for from the end, and the character before a dot is passed over, so that of two dots side
by side only the second counts. Nothing stands before a dot at the start. -/
def leadsTo (name : String) : List String :=
  (go name.toList.reverse).map fun cs => String.ofList cs.reverse
where
  /-- What follows the dots of a reversed name. -/
  go : List Char → List (List Char)
    | '.' :: c :: cs => (c :: cs) :: go cs
    | _ :: cs => go cs
    | [] => []

inductive Fate where
  | heldBack
  /-- It gets to the root. -/
  | shown
  /-- Nothing is there to show it but the terminal. -/
  | unattended
deriving DecidableEq, Repr

namespace Loggers

def get (ls : Loggers) (name : String) : Logger :=
  if isRoot name then ls.root else (ls.named.lookup name).getD {}

def ensure (ls : Loggers) (name : String) : Loggers :=
  if isRoot name || (ls.named.lookup name).isSome then ls
  else
    let above := (leadsTo name).find? fun n => (ls.named.lookup n).isSome
    let takeOver (other : String × Logger) : String × Logger :=
      let (n, l) := other
      if (leadsTo n).contains name && !name.toList.isPrefixOf (l.parent.getD rootName).toList then
        (n, { l with parent := some name })
      else (n, l)
    { ls with named := ls.named.map takeOver ++ [(name, { parent := above })] }

def modify (ls : Loggers) (name : String) (f : Logger → Logger) : Loggers :=
  if isRoot name then { ls with root := f ls.root }
  else
    let ls := ls.ensure name
    { ls with named := ls.named.map fun (n, l) => if n = name then (n, f l) else (n, l) }

/-- A logger and so many of those above it, up to the root. -/
def climb (ls : Loggers) : Nat → Option String → List Logger
  | 0, _ => []
  | _ + 1, none => [ls.root]
  | steps + 1, some name =>
    let l := ls.get name
    l :: ls.climb steps l.parent

/-- A logger and those above it, the root last. -/
def chain (ls : Loggers) (name : String) : List Logger :=
  ls.climb (ls.named.length + 2) (if isRoot name then none else some name)

/-- The level that a logger's records must reach. -/
def effective (ls : Loggers) (name : String) : Level :=
  (((ls.chain name).map (·.level)).find? (· ≠ 0)).getD 0

/-- What becomes of a record. A record needs a level above zero. -/
def fate (ls : Loggers) (r : Record) : Fate :=
  if r.level ≤ 0 || r.level < ls.effective r.logger then .heldBack
  else if (ls.chain r.logger).dropLast.all (·.propagates) then .shown
  else if Level.warning ≤ r.level then .unattended
  else .heldBack

def fates (ls : Loggers) : List Record → List (Record × Fate)
  | [] => []
  | r :: rs =>
    let ls := ls.ensure r.logger
    (r, ls.fate r) :: ls.fates rs

def after (ls : Loggers) (rs : List Record) : Loggers :=
  rs.foldl (fun ls r => ls.ensure r.logger) ls

/-- Takes a logger off the tree and gives it a level. -/
def silence (ls : Loggers) (name : String) (level : Level) : Loggers :=
  ls.modify name fun l => { l with level := level, propagates := false }

end Loggers

/-- The loggers of other libraries that the program silences. -/
def noisy : List String := ["capstone", "elftools", "networkx", "asyncio"]

def project : String := "funcfinder"

def ours (part : String) : String := project ++ "." ++ part

/-! ## Levels on request -/

inductive Fault where
  | unknownLevel (name : String)
  | notALevel (text : String)
  | neitherNumberNorName (shown : String)
  | notAName
  | template (cause : TemplateFault)
deriving DecidableEq, Repr

namespace Fault

def message : Fault → String
  | .unknownLevel name => s!"module 'logging' has no attribute '{name}'"
  | .notALevel text => "Unknown level: " ++ Text.quoted text
  | .neitherNumberNorName shown => "Level not an integer or a valid string: " ++ shown
  | .notAName => "A logger name must be a string"
  | .template cause => cause.message

end Fault

/-- The level that a document stands for: a number, or the name of a level in capitals. -/
def Level.ofValue : Value → Except Fault Level
  | .int n => .ok n
  | .bool b => .ok (if b then 1 else 0)
  | .text name =>
    match Level.levelNames.lookup name with
    | some l => .ok l
    | none => .error (.notALevel name)
  | v => .error (.neitherNumberNorName v.literal)

def Level.Named.asLevel : Level.Named → Except Fault Level
  | .level l => .ok l
  | .text content => .error (.notALevel content)
  | .other shown => .error (.neitherNumberNorName shown)

/-- What a requested level stands for: a text is looked up, anything else stands for itself. -/
def Level.request : Value → Except Fault Level.Named
  | .text name => (Level.lookup name).mapError .unknownLevel
  | v =>
    match Level.ofValue v with
    | .ok l => .ok (.level l)
    | .error _ => .ok (.other v.literal)

/-! ## Places to write to -/

/-- A logging that is set up: a layout for the console, and one for the log file if there is
one. -/
structure Setup where
  console : Layout
  file : Option Layout
deriving DecidableEq, Repr

namespace Setup

def sinks (s : Setup) : Nat := if s.file.isSome then 2 else 1

/-- Sets up the program's logging: the level holds for the root and for the program's loggers. -/
def make (ls : Loggers) (level : Value) (template : Option String) (toFile coloured : Bool) :
    Except Fault (Setup × Loggers) := do
  let named ← Level.request level
  let template := some (template.getD Layout.projectTemplate)
  let console ← (Layout.make template coloured).mapError .template
  let file ← (Layout.make template false).mapError .template
  let level ← named.asLevel
  let withLevel (l : Logger) : Logger := { l with level := level }
  return (⟨console, if toFile then some file else none⟩,
    (ls.modify rootName withLevel).modify project withLevel)

/-- A record as lines show it: the root has one name there. -/
def shown (r : Record) : Record :=
  if isRoot r.logger then { r with logger := rootName } else r

/-- The line that a layout makes of a record, with its end. -/
def line (layout : Layout) (time : String) (r : Record) : Except Fault String :=
  ((layout.line time (shown r)).mapError .template).map (· ++ "\n")

def consoleLines (s : Setup) (ls : Loggers) (time : String) (rs : List Record) :
    Except Fault String := do
  let lines ← (ls.fates rs).mapM fun
    | (r, .shown) => line s.console time r
    | (r, .unattended) => .ok (r.message ++ "\n")
    | (_, .heldBack) => .ok ""
  return String.join lines

/-- What the log file gets of records, if there is one. -/
def fileLines (s : Setup) (ls : Loggers) (time : String) (rs : List Record) :
    Except Fault (Option String) :=
  s.file.mapM fun layout => do
    let lines ← (ls.fates rs).mapM fun
      | (r, .shown) => line layout time r
      | _ => .ok ""
    return String.join lines

end Setup
end Log
end EntryScan
