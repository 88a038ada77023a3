import EntryScan.AddressMap
import EntryScan.CallSite.Basic
import EntryScan.Candidate.Basic
import EntryScan.Config

/-!
# EntryScan.Candidate.Merge

Prologues and edges become candidates, one for each address that has any evidence. The evidence
is gathered address by address and weighed at the end. Edges without a target say nothing.
-/

namespace EntryScan

namespace PrologueKind

def trust (c : Config) (k : PrologueKind) : Int := (c.trust.lookup k.name).getD 0

/-- The confidence in a candidate that only a prologue of the kind speaks for. -/
def confidence (c : Config) (k : PrologueKind) : Confidence :=
  if c.highTrust.contains k.name then .high else .medium

end PrologueKind

structure Evidence where
  prologueKind : Option PrologueKind := none
  calledFrom : List Int := []
  jumpedFrom : List Int := []
deriving DecidableEq, Repr

namespace Evidence

/-- Adds a prologue. Of several kinds the most trusted is kept, and of equals the first. -/
def addPrologue (c : Config) (k : PrologueKind) (e : Evidence) : Evidence :=
  match e.prologueKind with
  | none => { e with prologueKind := some k }
  | some old => if old.trust c < k.trust c then { e with prologueKind := some k } else e

def addEdge (kind : EdgeKind) (source : Int) (e : Evidence) : Evidence :=
  match kind with
  | .call => { e with calledFrom := insertAddress source e.calledFrom }
  | .jump => { e with jumpedFrom := insertAddress source e.jumpedFrom }

/-- Weighs the evidence for an address. -/
def candidate (c : Config) (address : Int) (e : Evidence) : Candidate :=
  let verdict : DetectionKind × Confidence :=
    match e.prologueKind with
    | some k =>
      if e.calledFrom.isEmpty && e.jumpedFrom.isEmpty then (.prologueOnly, k.confidence c)
      else (.both, .high)
    | none => if e.calledFrom.isEmpty then (.jumpTarget, .low) else (.callTarget, .medium)
  ⟨address, verdict.1, verdict.2, e.prologueKind, e.calledFrom, e.jumpedFrom⟩

end Evidence

namespace Candidate

def gatherPrologue (c : Config) (m : AddressMap Evidence) (p : Prologue) : AddressMap Evidence :=
  m.alter p.address fun e => (e.getD {}).addPrologue c p.kind

def gatherEdge (m : AddressMap Evidence) (e : CallSite) : AddressMap Evidence :=
  match e.target with
  | some t => m.alter t fun old => (old.getD {}).addEdge e.kind e.source
  | none => m

def gather (c : Config) (prologues : List Prologue) (edges : List CallSite) :
    AddressMap Evidence :=
  edges.foldl gatherEdge (prologues.foldl (gatherPrologue c) [])

/-- The candidates that prologues and edges speak for, in ascending order. -/
def merge (c : Config) (prologues : List Prologue) (edges : List CallSite) : List Candidate :=
  (gather c prologues edges).map fun (a, e) => e.candidate c a

end Candidate
end EntryScan
