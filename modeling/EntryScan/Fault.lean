import EntryScan.Address
import EntryScan.Disk
import EntryScan.Elf.Load
import EntryScan.Log.Loggers
import EntryScan.Notice

/-!
# EntryScan.Fault

Everything that can stop an operation, with its wording. Faults about architectures and about
containers belong to families, and the command line decides by family.
-/

namespace EntryScan

inductive Fault where
  | unsupportedArchitecture (tag : String) (supported : List String)
  | container (cause : Elf.Fault)
  /-- A setting that names no confidence, in capitals. -/
  | unknownConfidence (name : String)
  /-- A text that is no value of a kind. -/
  | notAValue (text : String) (kind : String)
  /-- A detector that got a decoder for another architecture. -/
  | wrongDecoder (detector needed given : String)
  /-- A detector that is registered in a table it does not belong to. -/
  | wrongFamily (family : String)
  /-- A detector that has no patterns of its own. -/
  | withoutPatterns (detector : String)
  | unknownDetector (name : String)
  /-- A number that cannot be read or written. -/
  | address (cause : Number.Fault)
  | log (cause : Log.Fault)
  | file (cause : Disk.Fault)
  | notice (cause : Notice.Fault)
deriving DecidableEq, Repr

namespace Fault

/-- An architecture tag that nothing is known about. -/
def unsupported (tag : String) : Fault := .unsupportedArchitecture tag Arch.supported

def message : Fault → String
  | .unsupportedArchitecture tag supported => Elf.unsupportedText tag supported
  | .container cause => cause.message
  | .unknownConfidence name => Text.quoted name
  | .notAValue text kind => Text.quoted text ++ " is not a valid " ++ kind
  | .wrongDecoder detector needed given => s!"{detector} needs a {needed} decoder, got {given}"
  | .wrongFamily family => s!"Detector class must inherit from {family}"
  | .withoutPatterns detector =>
    s!"Can't instantiate abstract class {detector} with abstract method visit"
  | .unknownDetector name => Text.quoted name
  | .address cause => cause.message
  | .log cause => cause.message
  | .file cause => cause.message
  | .notice cause => cause.message

def family? : Fault → Option FaultFamily
  | .unsupportedArchitecture .. => some .unsupportedArchitecture
  | .container cause =>
    match cause with
    | .malformed .. => some .malformedContainer
    | .unreadable .. => some .containerRead
    | .unsupportedMachine _ => some .unsupportedMachine
    | .noSection _ => some .sectionNotFound
    | .noContents _ | .badBody .. | .truncated .. => some .sectionRead
    | .impossible _ => none
  | _ => none

def isA (f : Fault) (family : FaultFamily) : Bool :=
  match f.family? with
  | some own => own.lineage.contains family
  | none => false

end Fault

/-- An operation that writes log records as it goes, and may be stopped by a fault. The records
that were written stay. -/
abbrev Logged := ExceptT Fault (StateM (List Log.Record))

namespace Logged

def log (logger : String) (level : Log.Level) (message : String) : Logged Unit :=
  modify (· ++ [⟨logger, level, message⟩])

def lift {α : Type} (r : Except Fault α) : Logged α :=
  match r with
  | .ok a => pure a
  | .error f => throw f

def outcome {α : Type} (x : Logged α) : Except Fault α × List Log.Record :=
  x.run.run []

end Logged
end EntryScan
