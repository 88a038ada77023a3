import EntryScan.CallSite.Scan
import EntryScan.Fault
import EntryScan.Prologue.Scan
import EntryScan.Sweep

/-!
# EntryScan.Detector

Detectors: for each architecture one that looks for prologues and one that looks for call sites.
A detector sweeps over code with a decoder of its architecture and reports what it found. Further
detectors may be derived, with patterns of their own.
-/

namespace EntryScan

inductive Pursuit where
  | prologues
  | callSites
deriving DecidableEq, Repr

/-- What a derived detector makes of an instruction, the one before it and what it found so far. -/
inductive Visit where
  | prologues (visit : Config → Option Instruction → Instruction → List Prologue → List Prologue)
  | callSites (visit : Config → Option Instruction → Instruction → List CallSite → List CallSite)

def Visit.pursuit : Visit → Pursuit
  | .prologues _ => .prologues
  | .callSites _ => .callSites

/-- A detector with patterns of its own. -/
structure Derived where
  name : String
  arch : Option Arch
  visit : Visit

/-- What can be registered as a detector. Each pursuit also has a general detector without an
architecture; what is not even derived from one is foreign. -/
inductive DetectorKind where
  | detector (pursuit : Pursuit) (arch : Option Arch)
  | derived (own : Derived)
  | foreign (name : String)

namespace Pursuit

def generalName : Pursuit → String
  | .prologues => "PrologueDetector"
  | .callSites => "CallSiteDetector"

end Pursuit

namespace DetectorKind

def name : DetectorKind → String
  | .detector pursuit none => pursuit.generalName
  | .detector pursuit (some .amd64) => "AMD64" ++ pursuit.generalName
  | .detector pursuit (some .arm64) => "ARM64" ++ pursuit.generalName
  | .derived own => own.name
  | .foreign name => name

/-- The architecture that a kind is made for. -/
def arch : DetectorKind → Option Arch
  | .detector _ arch => arch
  | .derived own => own.arch
  | .foreign _ => none

def own? : DetectorKind → Option Derived
  | .derived own => some own
  | _ => none

def all : List DetectorKind :=
  [Pursuit.prologues, .callSites].flatMap fun p =>
    [none, some Arch.amd64, some .arm64].map (.detector p)

/-- The detector of a name; any other name is foreign. -/
def ofName (name : String) : DetectorKind :=
  (all.find? (·.name == name)).getD (.foreign name)

/-- Whether a kind may stand in the table of a pursuit. -/
def pursues (c : DetectorKind) (p : Pursuit) : Bool :=
  match c with
  | .detector q _ => q = p
  | .derived own => own.visit.pursuit = p
  | .foreign _ => false

end DetectorKind

/-- A detector that is ready to scan: the registers it takes as preserved were fixed when it was
made. -/
structure Detector where
  pursuit : Pursuit
  arch : Arch
  preserved : List String
  own : Option Derived := none

def Arch.decoderName : Arch → String
  | .amd64 => "AMD64Decoder"
  | .arm64 => "ARM64Decoder"

inductive Findings where
  | prologues (found : List Prologue)
  | callSites (found : List CallSite)
deriving DecidableEq, Repr

namespace Findings

def count : Findings → Nat
  | .prologues found => found.length
  | .callSites found => found.length

def toValue : Findings → Value
  | .prologues found => .list (found.map (·.toValue))
  | .callSites found => .list (found.map (·.toValue))

end Findings

namespace Sweep

def failures (ss : List Step) : Nat :=
  (ss.filter (·.reading = .failed)).length

def logger : String := Log.ours "decoder"

/-- Records that positions did not decode, if any did not. -/
def logFailures (arch : Arch) (code : List UInt8) (base : Int) (ss : List Step) : Logged Unit :=
  let count := failures ss
  let place := Number.hex base
  if count = 0 then pure ()
  else
    Logged.log logger .debug
      s!"{arch.name}: {count} decode failure(s) over {code.length} bytes at base {place}"

/-- The sweep over a region, with its record. -/
def logged (c : Config) (arch : Arch) (code : List UInt8) (base : Int) : Logged (List Step) := do
  let ss := steps c arch code base
  logFailures arch code base ss
  return ss

/-- What keeps a decoder from working at all. -/
inductive Breakdown where
  | memory
  | architecture
  | handle
deriving DecidableEq, Repr

def Breakdown.message : Breakdown → String
  | .memory => "Out of memory (CS_ERR_MEM)"
  | .architecture => "Invalid/unsupported architecture(CS_ERR_ARCH)"
  | .handle => "Invalid handle (CS_ERR_HANDLE)"

/-- The instruction at an offset, from a decoder that may have broken down. A breakdown shows only
where there is something to decode. -/
def decodeWith (broken : Option Breakdown) (c : Config) (arch : Arch) (code : List UInt8)
    (offset address : Int) : Logged (Option Decoded) :=
  match broken with
  | none => pure (decodeAt? c arch code offset address)
  | some b =>
    let rest := code.drop offset.toNat
    let place := Number.hex address
    if offset < 0 ∨ rest.isEmpty ∨ Bytes.fewerThan (needed c arch) rest then pure none
    else do
      Logged.log logger .debug s!"capstone error at {place}: {b.message}"
      return none

end Sweep

namespace Detector

def kind (d : Detector) : DetectorKind :=
  match d.own with
  | some own => .derived own
  | none => .detector d.pursuit (some d.arch)

def loggerOf (c : DetectorKind) : String := Log.ours c.name

def logCount (d : Detector) (count : Nat) (code : List UInt8) (base : Int) : Logged Unit :=
  let place := Number.hex base
  Logged.log (loggerOf d.kind) .debug
    s!"{count} record(s) from {code.length} bytes at {place}"

def prologues (c : Config) (d : Detector) (rs : List Reading) : List Prologue :=
  match d.own with
  | some ⟨_, _, .prologues visit⟩ => Reading.gatherFrom (visit c) none [] rs
  | _ => Prologue.scan d.arch d.preserved rs

def callSites (c : Config) (d : Detector) (rs : List Reading) : Except Fault (List CallSite) :=
  match d.own with
  | some ⟨_, _, .callSites visit⟩ => .ok (Reading.gatherFrom (visit c) none [] rs)
  | _ => (CallSite.scan c d.arch rs).mapError .unknownConfidence

def find (c : Config) (d : Detector) (rs : List Reading) : Except Fault Findings :=
  match d.pursuit with
  | .prologues => .ok (.prologues (d.prologues c rs))
  | .callSites => (d.callSites c rs).map .callSites

def scanPrologues (c : Config) (d : Detector) (code : List UInt8) (base : Int) :
    Logged (List Prologue) := do
  let ss ← Sweep.logged c d.arch code base
  let found := d.prologues c (ss.map (·.reading))
  d.logCount found.length code base
  return found

/-- Scans code for call sites. A setting that names no confidence stops the sweep midway. -/
def scanCallSites (c : Config) (d : Detector) (code : List UInt8) (base : Int) :
    Logged (List CallSite) := do
  let ss := Sweep.steps c d.arch code base
  let found ← Logged.lift (d.callSites c (ss.map (·.reading)))
  Sweep.logFailures d.arch code base ss
  d.logCount found.length code base
  return found

def scan (c : Config) (d : Detector) (code : List UInt8) (base : Int) : Logged Findings :=
  match d.pursuit with
  | .prologues => return .prologues (← d.scanPrologues c code base)
  | .callSites => return .callSites (← d.scanCallSites c code base)

end Detector
end EntryScan
