import EntryScan.Detector

/-!
# EntryScan.Registry

Which detectors and decoders serve which architecture. The tables keep the order in which entries
came in; an entry that is replaced keeps its place.
-/

namespace EntryScan

/-- The tables of detectors, decoders and preserved registers. -/
structure Registry where
  prologues : List (Arch × DetectorKind) :=
    Arch.all.map fun a => (a, .detector .prologues (some a))
  callSites : List (Arch × DetectorKind) :=
    Arch.all.map fun a => (a, .detector .callSites (some a))
  decoders : List Arch := Arch.all
  preserved : List (Arch × List String) := Arch.all.map fun a => (a, a.calleeSaved)

def Arch.parse (tag : String) : Except Fault Arch :=
  match Arch.parse? tag with
  | some a => .ok a
  | none => .error (.unsupported tag)

namespace Registry

/-- A table with the entry of an architecture set. -/
def assign (table : List (Arch × DetectorKind)) (arch : Arch) (kind : DetectorKind) :
    List (Arch × DetectorKind) :=
  if (table.lookup arch).isSome then
    table.map fun (a, old) => if a = arch then (a, kind) else (a, old)
  else table ++ [(arch, kind)]

def without {α : Type} (table : List (Arch × α)) (arch : Arch) : List (Arch × α) :=
  table.filter (·.1 ≠ arch)

def table (r : Registry) : Pursuit → List (Arch × DetectorKind)
  | .prologues => r.prologues
  | .callSites => r.callSites

def set (r : Registry) (p : Pursuit) (arch : Arch) (kind : Option DetectorKind) : Registry :=
  match p, kind with
  | _, none => r
  | .prologues, some c => { r with prologues := assign r.prologues arch c }
  | .callSites, some c => { r with callSites := assign r.callSites arch c }

/-- Whether a kind of detector may be registered for a pursuit. -/
def permit (p : Pursuit) : Option DetectorKind → Except Fault Unit
  | some c => if c.pursues p then .ok () else .error (.wrongFamily p.generalName)
  | none => .ok ()

def register (r : Registry) (tag : String) (prologue callSite : Option DetectorKind) :
    Except Fault Registry := do
  let arch ← Arch.parse tag
  permit .prologues prologue
  permit .callSites callSite
  return (r.set .prologues arch prologue).set .callSites arch callSite

/-- The tables that entries can be removed from. -/
inductive Table where
  | prologues
  | callSites
  | decoders
  | preserved
deriving DecidableEq, Repr

def unregister (r : Registry) (t : Table) (tag : String) : Except Fault Registry := do
  let arch ← Arch.parse tag
  return match t with
    | .prologues => { r with prologues := without r.prologues arch }
    | .callSites => { r with callSites := without r.callSites arch }
    | .decoders => { r with decoders := r.decoders.filter (· ≠ arch) }
    | .preserved => { r with preserved := without r.preserved arch }

def available (r : Registry) : List Arch :=
  (r.prologues.map (·.1)).filter fun a => (r.callSites.lookup a).isSome

def decoder (r : Registry) (tag : String) : Except Fault Arch := do
  let arch ← Arch.parse tag
  if r.decoders.contains arch then return arch else .error (.unsupported tag)

/-- The registers that a callee preserves on an architecture. -/
def preservedOn (r : Registry) (arch : Arch) : Except Fault (List String) :=
  match r.preserved.lookup arch with
  | some names => .ok names
  | none => .error (.unsupported arch.name)

/-- How an architecture that is not there shows in messages. -/
def archText : Option Arch → String
  | some a => a.name
  | none => "None"

/-- Makes a detector of a kind for a pursuit, with the decoder it is given or with one of its own. -/
def furnish (r : Registry) (kind : DetectorKind) (p : Pursuit) (given : Option Arch) :
    Except Fault Detector := do
  match given with
  | some d =>
    if some d ≠ kind.arch then .error (.wrongDecoder kind.name (archText kind.arch) d.name)
  | none => discard (r.decoder (archText kind.arch))
  match kind.arch with
  | none => .error (.unsupported (archText none))
  | some a => return ⟨p, a, ← r.preservedOn a, kind.own?⟩

/-- Makes a detector of a kind. The general detector of prologues has no patterns to look for. -/
def make (r : Registry) (kind : DetectorKind) (given : Option Arch) : Except Fault Detector :=
  match kind with
  | .foreign name => .error (.withoutPatterns name)
  | .detector .prologues none => .error (.withoutPatterns kind.name)
  | .detector p _ => r.furnish kind p given
  | .derived own => r.furnish kind own.visit.pursuit given

def lookup (r : Registry) (p : Pursuit) (tag : String) : Except Fault DetectorKind := do
  let arch ← Arch.parse tag
  match (r.table p).lookup arch with
  | some kind => return kind
  | none => .error (.unsupported tag)

def create (r : Registry) (p : Pursuit) (tag : String) (given : Option Arch) :
    Except Fault Detector := do
  r.make (← r.lookup p tag) given

end Registry
end EntryScan
