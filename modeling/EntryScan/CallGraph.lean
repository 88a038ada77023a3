import EntryScan.AddressMap
import EntryScan.CallSite.Basic
import EntryScan.Candidate.Basic

/-!
# EntryScan.CallGraph

The direct call graph between candidates. The source of an edge belongs to the nearest candidate
at or below it; bare jump targets own nothing, as they are mostly labels inside a function.
-/

namespace EntryScan

/-- The number of leading entries of an ascending array that are at most `x`, found in the
half-open range from `lo` to `hi`. -/
def bisectRight (starts : Array Int) (x : Int) (lo hi : Nat) : Nat :=
  if lo < hi then
    let mid := (lo + hi) / 2
    if x < starts.getD mid 0 then bisectRight starts x lo mid
    else bisectRight starts x (mid + 1) hi
  else lo
termination_by hi - lo
decreasing_by all_goals omega

/-- The greatest start at or below an address; the starts are ascending. -/
def owner? (starts : Array Int) (address : Int) : Option Int :=
  match bisectRight starts address 0 starts.size with
  | 0 => none
  | n + 1 => starts[n]?

/-- What a candidate says about its node. -/
structure Node where
  detection : DetectionKind
  confidence : Confidence
  prologueKind : Option PrologueKind
deriving DecidableEq, Repr

/-- The edges between two nodes, taken together: their kinds, and their sources in the order they
came in. -/
structure Link where
  kinds : List EdgeKind
  sites : List Int
  count : Nat
deriving DecidableEq, Repr

/-- A call graph. A node without a candidate is known only as a target. -/
structure CallGraph where
  nodes : AddressMap (Option Node) := []
  links : AddressMap (AddressMap Link) := []
deriving DecidableEq, Repr

namespace Candidate

def node (c : Candidate) : Node := ⟨c.detection, c.confidence, c.prologueKind⟩

end Candidate

namespace Link

/-- The link after one more edge. -/
def add (kind : EdgeKind) (source : Int) : Option Link → Link
  | none => ⟨[kind], [source], 1⟩
  | some l =>
    ⟨if l.kinds.contains kind then l.kinds else l.kinds ++ [kind], l.sites ++ [source],
      l.count + 1⟩

def kindNames (l : Link) : List String :=
  [EdgeKind.call, .jump].filterMap fun k => if l.kinds.contains k then some k.name else none

end Link

namespace CallGraph

/-- The graph after one more candidate; a later candidate replaces an earlier one. -/
def addCandidate (g : CallGraph) (c : Candidate) : CallGraph :=
  { g with nodes := g.nodes.alter c.address fun _ => some c.node }

def addLink (g : CallGraph) (caller callee : Int) (kind : EdgeKind) (source : Int) : CallGraph where
  nodes := g.nodes.alter callee fun old => old.getD none
  links := g.links.alter caller fun m => AddressMap.alter callee (Link.add kind source) (m.getD [])

/-- The graph after one more call site, if it has a target, an owner, and a kind that counts. -/
def addEdge (starts : Array Int) (includeJumps : Bool) (g : CallGraph) (e : CallSite) : CallGraph :=
  match e.target with
  | none => g
  | some t =>
    if !includeJumps && e.kind = .jump then g
    else
      match owner? starts e.source with
      | none => g
      | some caller => g.addLink caller t e.kind e.source

/-- The addresses that may own call sites, ascending. -/
def owners (candidates : List Candidate) : Array Int :=
  ((candidates.filter (·.detection ≠ .jumpTarget)).map (·.address)).mergeSort.toArray

def build (candidates : List Candidate) (edges : List CallSite) (includeJumps : Bool) :
    CallGraph :=
  edges.foldl (addEdge (owners candidates) includeJumps) (candidates.foldl addCandidate {})

/-- The callers and callees of every link, in ascending order. -/
def linkList (g : CallGraph) : List (Int × Int × Link) :=
  g.links.flatMap fun (caller, m) => m.map fun (callee, l) => (caller, callee, l)

def hasNode (g : CallGraph) (a : Int) : Bool := (g.nodes.get? a).isSome

def callees (g : CallGraph) (a : Int) : List Int :=
  if g.hasNode a then ((g.links.get? a).getD []).keys else []

def callers (g : CallGraph) (a : Int) : List Int :=
  if g.hasNode a then
    g.links.filterMap fun (caller, m) => if (m.get? a).isSome then some caller else none
  else []

def toValue (g : CallGraph) : Value :=
  .object [
    ("nodes", .texts (g.nodes.keys.map Address.hexify)),
    ("edges", .list (g.linkList.map fun (caller, callee, l) =>
      .object [
        ("caller", .text (Address.hexify caller)),
        ("callee", .text (Address.hexify callee)),
        ("kinds", .texts l.kindNames),
        ("count", .int l.count)]))]

end CallGraph
end EntryScan
