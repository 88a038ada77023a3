import EntryScan.Confidence
import EntryScan.Prologue.Basic

/-!
# EntryScan.Candidate.Basic

Function candidates: addresses that may be a function's entry, with the evidence for them.
-/

namespace EntryScan

/-- Where the evidence for a candidate comes from. -/
inductive DetectionKind where
  | prologueOnly
  | callTarget
  | jumpTarget
  | both
deriving DecidableEq, Repr

namespace DetectionKind

def name : DetectionKind → String
  | .prologueOnly => "prologue-only"
  | .callTarget => "call-target"
  | .jumpTarget => "jump-target"
  | .both => "both"

def ofName? (s : String) : Option DetectionKind :=
  [DetectionKind.prologueOnly, .callTarget, .jumpTarget, .both].find? (·.name == s)

end DetectionKind

/-- An address that may be a function's entry. The sources of the calls and jumps to it stand in
ascending order, each once. -/
structure Candidate where
  address : Int
  detection : DetectionKind
  confidence : Confidence
  prologueKind : Option PrologueKind
  calledFrom : List Int
  jumpedFrom : List Int
deriving DecidableEq, Repr

def Candidate.toValue (c : Candidate) : Value :=
  .object [
    ("address", .text (Address.hexify c.address)),
    ("detection_kind", .text c.detection.name),
    ("prologue_kind", .ofText? (c.prologueKind.map (·.name))),
    ("confidence", .text c.confidence.name),
    ("called_from", .texts (c.calledFrom.map Address.hexify)),
    ("jumped_from", .texts (c.jumpedFrom.map Address.hexify))]

end EntryScan
