import EntryScan.CommandLine.Run

/-!
# EntryScan.Session

A session: settings, registered detectors, loggers and detectors by name, as they change from one
request to the next. A request that fails changes nothing, but for what a run of the command line
set up before it failed.
-/

namespace EntryScan

inductive Setting where
  | amd64Window (n : Nat)
  | arm64Window (n : Nat)
  | markers (ms : List (List UInt8))
  | amd64Preserved (names : List String)
  | highTrust (kinds : List String)
  | trust (kinds : List (String × Int))
  | callConfidence (name : String)
  | jumpConfidence (name : String)
  | conditionalConfidence (name : String)
  | defaultSection (name : String)
  | inRegionOnly (on : Bool)
deriving DecidableEq, Repr

def Config.apply (c : Config) : Setting → Config
  | .amd64Window n => { c with amd64Window := n }
  | .arm64Window n => { c with arm64Window := n }
  | .markers ms => { c with markers := ms }
  | .amd64Preserved names => { c with amd64Preserved := names }
  | .highTrust kinds => { c with highTrust := kinds }
  | .trust kinds => { c with trust := kinds }
  | .callConfidence name => { c with callConfidence := name }
  | .jumpConfidence name => { c with jumpConfidence := name }
  | .conditionalConfidence name => { c with conditionalConfidence := name }
  | .defaultSection name => { c with defaultSection := name }
  | .inRegionOnly on => { c with inRegionOnly := on }

structure Session where
  tools : Toolbox := {}
  loggers : Log.Loggers := {}
  detectors : List (String × Detector) := []

namespace Session

def configure (s : Session) (change : Setting) : Session :=
  { s with tools := { s.tools with config := s.tools.config.apply change } }

def register (s : Session) (tag : String) (prologue callSite : Option DetectorKind) :
    Except Fault Session := do
  let r ← s.tools.registry.register tag prologue callSite
  return { s with tools := { s.tools with registry := r } }

def unregister (s : Session) (t : Registry.Table) (tag : String) : Except Fault Session := do
  let r ← s.tools.registry.unregister t tag
  return { s with tools := { s.tools with registry := r } }

/-- The loggers after a detector's logger got a level; an empty name asks for none. -/
def levelled (s : Session) (d : Detector) (level : String) : Except Fault Log.Loggers := do
  if level.isEmpty then return s.loggers
  let l ← (Log.Level.request (.text level) >>= (·.asLevel)).mapError .log
  return s.loggers.modify (Detector.loggerOf d.kind) fun old => { old with level := l }

/-- Makes a detector and keeps it under a name. A decoder that is asked for is made first. -/
def create (s : Session) (name : String) (pursuit : Pursuit) (tag : String)
    (decoder : Option String) (level : String) : Except Fault (Detector × Session) := do
  let given ← decoder.mapM s.tools.registry.decoder
  let d ← s.tools.registry.create pursuit tag given
  let loggers ← s.levelled d level
  return (d, { s with
    loggers := loggers
    detectors := (name, d) :: s.detectors.filter (·.1 ≠ name) })

def scan (s : Session) (name : String) (code : List UInt8) (base : Int) : Logged Findings := do
  match s.detectors.lookup name with
  | some d => d.scan s.tools.config code base
  | none => throw (.unknownDetector name)

/-- The records that reach the root when it has a level. -/
def seen (s : Session) (level : Log.Level) (rs : List Log.Record) : List Log.Record :=
  let ls := s.loggers.modify Log.rootName fun l => { l with level := level }
  ((ls.fates rs).filter (·.2 = .shown)).map (·.1)

def runCommand (s : Session) (argv : List String) (desk : CommandLine.Desk) :
    Except Fault Nat × Session × CommandLine.Desk :=
  let x : CommandLine.Run (StateM CommandLine.Desk) Nat := CommandLine.run s.tools argv
  let ((result, loggers), desk) := (x.run.run s.loggers).run desk
  (result, { s with loggers := loggers }, desk)

end Session
end EntryScan
