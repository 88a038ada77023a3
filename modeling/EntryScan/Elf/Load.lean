import EntryScan.Arch
import EntryScan.Config
import EntryScan.Elf.Section

/-!
# EntryScan.Elf.Load

The code section of an ELF image. `load` reads the header, then all sections, then the body of the
one that is wanted, and reports the first thing that goes wrong.
-/

namespace EntryScan
namespace Elf

/-- The part of an image that is being read. -/
inductive Stage where
  | header
  | sections
deriving DecidableEq, Repr

/-- Why no code section comes out of an image. -/
inductive Fault where
  | malformed (stage : Stage) (cause : Problem)
  | unreadable (stage : Stage) (cause : Problem)
  | unsupportedMachine (machine : String)
  | noSection (name : String)
  | noContents (name : String)
  | badBody (name : String) (cause : Problem)
  | truncated (name : String) (found expected : Nat)
  /-- A request that cannot be carried out at all. -/
  | impossible (cause : Problem)
deriving DecidableEq, Repr

def unsupportedText (name : String) (supported : List String) : String :=
  let known := if supported.isEmpty then "" else " (supported: " ++ ", ".intercalate supported ++ ")"
  "unsupported architecture: " ++ name ++ known

namespace Fault

def message : Fault → String
  | .malformed .header cause => "failed to parse ELF file: " ++ cause.message
  | .malformed .sections cause => "failed to parse section headers: " ++ cause.message
  | .unreadable .header cause => "failed to read ELF header: " ++ cause.message
  | .unreadable .sections cause => "failed to read section headers: " ++ cause.message
  | .unsupportedMachine machine => unsupportedText machine Arch.supported
  | .noSection name => "no " ++ name ++ " section found"
  | .noContents name => name ++ " section has no file contents"
  | .badBody name cause => "failed to read " ++ name ++ " section: " ++ cause.message
  | .truncated name found expected =>
    name ++ s!" section truncated: read {found} of {expected} bytes"
  | .impossible cause => cause.message

def during (stage : Stage) (cause : Problem) : Fault :=
  match cause.report with
  | .malformed => .malformed stage cause
  | .unreadable => .unreadable stage cause
  | .impossible => .impossible cause

def inBody (name : String) (cause : Problem) : Fault :=
  match cause.report with
  | .impossible => .impossible cause
  | _ => .badBody name cause

end Fault

/-- The bytes of a section, and where and for what they run. -/
structure CodeSection where
  name : String
  address : Int
  data : List UInt8
  arch : Arch
deriving DecidableEq, Repr

def archOf? (machine : Nat) : Option Arch :=
  [(62, Arch.amd64), (183, Arch.arm64)].lookup machine

/-- The section name that a request means: an empty one means the default. -/
def requestedName (c : Config) : Option String → String
  | some name => if name.isEmpty then c.defaultSection else name
  | none => c.defaultSection

/-- The body of the section that is wanted, in full. -/
def takeBody (img : Image) (wide : Bool) (name : String) (s : Section) :
    Except Fault (List UInt8) := do
  if s.header.isEmptyInFile then .error (.noContents name)
  let data ← (s.body img wide).mapError (.inBody name)
  if !s.header.isCompressed && data.length ≠ s.header.size then
    .error (.truncated name data.length s.header.size)
  return data

def load (c : Config) (img : Image) (requested : Option String) : Except Fault CodeSection := do
  let name := requestedName c requested
  let header ← (Header.read img).mapError (.during .header)
  match archOf? header.machine with
  | none => .error (.unsupportedMachine header.machineName)
  | some arch =>
    let sections ← (Section.readAll img header).mapError (.during .sections)
    match Section.named? sections name with
    | none => .error (.noSection name)
    | some s =>
      let data ← takeBody img header.wide name s
      return ⟨name, s.header.address, data, arch⟩

end Elf
end EntryScan
