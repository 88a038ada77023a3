import EntryScan.CommandLine.Options
import EntryScan.CommandLine.Surroundings
import EntryScan.Report

/-!
# EntryScan.CommandLine.Run

A run of the command line: read the arguments, set up logging, analyse the input, report. The exit
code tells a bad request (2) from a bad input (1); other faults end the run.
-/

namespace EntryScan
namespace CommandLine

def programName : String := Log.project

def helpText : String :=
  let line (o : Opt) : String :=
    let value := match o.choices with
      | some choices => " \x7b" ++ ",".intercalate choices ++ "\x7d"
      | none => if o.takesValue then " VALUE" else ""
    "  " ++ ", ".intercalate o.spellings ++ value ++ "\n"
  "usage: " ++ programName ++ " [options] binary_path\n\noptions:\n" ++
    String.join (Opt.all.map line)

/-- A request that can be met, as far as the options show. -/
def Options.check (o : Options) : Except Misuse Unit :=
  if o.raw then
    if o.arch.isNone then .error .rawWithoutArch
    else
      match Address.parse o.baseAddress with
      | .ok _ => .ok ()
      | .error _ => .error (.badBase o.baseAddress)
  else .ok ()

/-- Analyses the bytes of the input, and gives the name of the section they came from. -/
def examine (t : Toolbox) (o : Options) (bytes : List UInt8) :
    Logged (Analysis × Option String) := do
  if o.raw then
    let base ← Logged.lift ((Address.parse o.baseAddress).mapError .address)
    let arch ← Logged.lift (Arch.parse (o.arch.getD ""))
    let a ← t.analyze bytes base arch.name (some o.inSectionOnly)
    return (a, none)
  else
    let s ← t.loadSection { bytes := bytes, onDisk := true } (some o.sectionName)
    let a ← t.analyze s.data s.address s.arch.name (some o.inSectionOnly)
    return (a, some s.name)

/-- The exit code for a fault of the analysis; without one the fault ends the run. -/
def exitCode? (f : Fault) : Option Nat :=
  if f.isA .unsupportedArchitecture then some 2
  else if f.isA .container then some 1
  else none

/-- A run that can be ended by a fault and changes what is set for loggers. -/
abbrev Run (m : Type → Type) := ExceptT Fault (StateT Log.Loggers m)

section
variable {m : Type → Type} [Monad m] [Surroundings m]

def outside {α : Type} (x : m α) : Run m α := ExceptT.lift (StateT.lift x)

/-- Does something outside with a file, which may end the run. -/
def withFile {α : Type} (x : m (Except Disk.Fault α)) : Run m α := do
  match ← outside x with
  | .ok a => return a
  | .error f => throw (.file f)

/-- A text that is there and not empty. -/
def given (text : Option String) : Option String :=
  text.filter (!·.isEmpty)

def writeLog (setup : Log.Setup) (logFile : Option String) (rs : List Log.Record) :
    Run m Unit := do
  let time ← outside Surroundings.now
  let ls ← get
  outside (Surroundings.err (← liftExcept (setup.consoleLines ls time rs)))
  match ← liftExcept (setup.fileLines ls time rs), logFile with
  | some lines, some path =>
    if lines.isEmpty then pure () else withFile (Surroundings.appendFile (Disk.plainPath path) lines)
  | _, _ => pure ()
  set (ls.after rs)
where
  /-- A fault of the logging ends the run. -/
  liftExcept {α : Type} : Except Log.Fault α → Run m α
    | .ok a => return a
    | .error f => throw (.log f)

/-- Makes the log file if it is not there. -/
def openLog : Option String → Run m Unit
  | some path => withFile (Surroundings.appendFile (Disk.plainPath path) "")
  | none => pure ()

/-- Sets up logging: other libraries are silenced, and the log file is opened. Only then is the level
looked at. -/
def setUpLog (o : Options) : Run m Log.Setup := do
  modify fun ls => Log.noisy.foldl (fun ls name => ls.silence name Log.Level.warning) ls
  openLog (given o.logFile)
  let toFile := (given o.logFile).isSome
  let level : Value := (o.logLevel.map .text).getD (.list [])
  match Log.Setup.make (← get) level none toFile true with
  | .error f => throw (.log f)
  | .ok (setup, loggers) =>
    set loggers
    return setup

def writeReport (o : Options) (setup : Log.Setup) (a : Analysis) (sectionName : Option String) :
    Run m Unit := do
  let (report, records) := (Report.build a o.mode sectionName o.callgraph).outcome
  let logFile := given o.logFile
  writeLog setup logFile records
  match report with
  | .error f => throw f
  | .ok document =>
    let text := document.toJson o.pretty
    match given o.output with
    | some path =>
      withFile (Surroundings.replaceFile path text)
      writeLog setup logFile [⟨Log.ours "main", .info, "Results written to: " ++ path⟩]
    | none => outside (Surroundings.out (text ++ "\n"))

/-- Carries out a request, and gives the exit code. -/
def carryOut (t : Toolbox) (o : Options) (path : String) : Run m Nat := do
  let setup ← setUpLog o
  let fail (code : Nat) (message : String) : Run m Nat := do
    outside (Surroundings.err ("Error: " ++ message ++ "\n"))
    return code
  match ← outside (Surroundings.readFile path) with
  | .error f =>
    if f.isOfSystem then fail 1 ("cannot read " ++ path ++ ": " ++ f.message)
    else throw (.file f)
  | .ok bytes =>
    let (result, records) := (examine t o bytes).outcome
    writeLog setup (given o.logFile) records
    match result with
    | .error f =>
      match exitCode? f with
      | some code => fail code f.message
      | none => throw f
    | .ok (a, sectionName) =>
      writeReport o setup a sectionName
      return 0

/-- Runs the command line with arguments, and gives the exit code. -/
def run (t : Toolbox) (argv : List String) : Run m Nat := do
  let misuse (e : Misuse) : Run m Nat := do
    outside (Surroundings.err (programName ++ ": error: " ++ e.message ++ "\n"))
    return 2
  match Options.parse t.config argv with
  | .error e => misuse e
  | .ok o =>
    match o.help, o.check, o.path with
    | true, _, _ =>
      outside (Surroundings.out helpText)
      return 0
    | _, .error e, _ => misuse e
    | _, .ok _, some path => carryOut t o path
    | _, .ok _, none => misuse .noInput

end
end CommandLine
end EntryScan
