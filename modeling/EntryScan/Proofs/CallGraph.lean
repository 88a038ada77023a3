import EntryScan.Proofs.AddressMap
import EntryScan.Proofs.Owner

/-!
# EntryScan.Proofs.CallGraph

What a call graph holds, said without the passes over candidates and edges that build it.

`Lifts cs includeJumps e a t` says that the edge `e` counts as one from the candidate at `a` to the
address `t`.

* `link?_build`: a link is made of the edges that count between its ends, in the order they came in.
* `get?_nodes_build`, `mem_nodes_build`: the nodes are the candidates and what edges lead to.
* `mem_callers`, `mem_linkList`: what can be asked of a graph, in terms of its links.
-/

namespace EntryScan

/-! ## Links -/

namespace Link

def empty : Link := ⟨[], [], 0⟩

def plus (l : Link) (e : CallSite) : Link := add e.kind e.source (some l)

theorem add_eq_plus (e : CallSite) (l : Option Link) :
    add e.kind e.source l = (l.getD empty).plus e := by
  cases l with
  | none => simp [add, plus, empty]
  | some l => rfl

theorem count_foldl_plus (es : List CallSite) (l : Link) :
    (es.foldl plus l).count = l.count + es.length := by
  induction es generalizing l with
  | nil => rfl
  | cons e es ih =>
    rw [List.foldl_cons, ih, List.length_cons]
    simp only [plus, add]
    omega

end Link

namespace CallGraph

/-! ## Edges that count -/

/-- The edge counts as one from the candidate at `a` to the address `t`. -/
def Lifts (cs : List Candidate) (includeJumps : Bool) (e : CallSite) (a t : Int) : Prop :=
  e.target = some t ∧ (e.kind = .call ∨ includeJumps) ∧ Owns cs a e.source

instance (cs : List Candidate) (includeJumps : Bool) (e : CallSite) (a t : Int) :
    Decidable (Lifts cs includeJumps e a t) :=
  inferInstanceAs (Decidable (_ ∧ _ ∧ _))

/-- The ends between which an edge counts, if it does. -/
def lift? (starts : Array Int) (includeJumps : Bool) (e : CallSite) : Option (Int × Int) :=
  match e.target with
  | none => none
  | some t =>
    if !includeJumps && e.kind = .jump then none else (owner? starts e.source).map (·, t)

def caller? (starts : Array Int) (includeJumps : Bool) (e : CallSite) : Option Int :=
  (lift? starts includeJumps e).map (·.1)

def callee? (starts : Array Int) (includeJumps : Bool) (e : CallSite) : Option Int :=
  (lift? starts includeJumps e).map (·.2)

variable {cs : List Candidate} {es : List CallSite} {includeJumps : Bool} {a t : Int}

theorem lift?_eq_some_iff {e : CallSite} :
    lift? (owners cs) includeJumps e = some (a, t) ↔ Lifts cs includeJumps e a t := by
  unfold lift? Lifts
  cases htarget : e.target with
  | none => simp
  | some u =>
    cases hkind : e.kind with
    | call => simp [owner?_owners, and_comm]
    | jump => cases includeJumps <;> simp [owner?_owners, and_comm]

theorem lift?_eq_some_iff_ends {starts : Array Int} {e : CallSite} :
    lift? starts includeJumps e = some (a, t) ↔
      caller? starts includeJumps e = some a ∧ callee? starts includeJumps e = some t := by
  unfold caller? callee?
  cases lift? starts includeJumps e with
  | none => simp
  | some ends => simp [Prod.ext_iff]

theorem exists_lifts_iff {e : CallSite} :
    callee? (owners cs) includeJumps e = some t ↔ ∃ a, Lifts cs includeJumps e a t := by
  simp only [callee?, Option.map_eq_some_iff, Prod.exists, exists_eq_right, lift?_eq_some_iff]

/-! ## The passes -/

theorem addEdge_eq (starts : Array Int) (includeJumps : Bool) (g : CallGraph) (e : CallSite) :
    addEdge starts includeJumps g e =
      match lift? starts includeJumps e with
      | none => g
      | some (caller, callee) => g.addLink caller callee e.kind e.source := by
  unfold addEdge lift?
  cases e.target with
  | none => rfl
  | some t =>
    dsimp only
    split
    · rfl
    · cases owner? starts e.source <;> rfl

theorem addEdge_nodes (starts : Array Int) (includeJumps : Bool) (g : CallGraph) (e : CallSite) :
    (addEdge starts includeJumps g e).nodes =
      g.nodes.tally (callee? starts includeJumps) none (fun v _ => v) e := by
  rw [addEdge_eq, AddressMap.tally, callee?]
  cases lift? starts includeJumps e <;> rfl

theorem addEdge_links (starts : Array Int) (includeJumps : Bool) (g : CallGraph) (e : CallSite) :
    (addEdge starts includeJumps g e).links =
      g.links.tally (caller? starts includeJumps) []
        (AddressMap.tally (callee? starts includeJumps) .empty .plus) e := by
  rw [addEdge_eq, AddressMap.tally, caller?]
  cases hlift : lift? starts includeJumps e with
  | none => rfl
  | some ends =>
    have hadd : Link.add e.kind e.source = fun l => (l.getD .empty).plus e :=
      funext fun l => Link.add_eq_plus e l
    simp only [addLink, hadd, Option.map_some, AddressMap.tally, callee?, hlift]

theorem addCandidate_nodes (g : CallGraph) (x : Candidate) :
    (addCandidate g x).nodes =
      g.nodes.tally (some ·.address) none (fun _ x => some x.node) x := rfl

theorem build_nodes (cs : List Candidate) (es : List CallSite) (includeJumps : Bool) :
    (build cs es includeJumps).nodes =
      es.foldl (AddressMap.tally (callee? (owners cs) includeJumps) none (fun v _ => v))
        (cs.foldl (AddressMap.tally (some ·.address) none (fun _ x => some x.node)) []) := by
  rw [build, ← List.foldl_hom nodes fun g e => (addEdge_nodes _ _ g e).symm,
    ← List.foldl_hom nodes fun g x => (addCandidate_nodes g x).symm]

theorem addCandidates_links (cs : List Candidate) (g : CallGraph) :
    (cs.foldl addCandidate g).links = g.links := by
  induction cs generalizing g with
  | nil => rfl
  | cons x cs ih => rw [List.foldl_cons, ih, addCandidate]

theorem build_links (cs : List Candidate) (es : List CallSite) (includeJumps : Bool) :
    (build cs es includeJumps).links =
      es.foldl (AddressMap.tally (caller? (owners cs) includeJumps) []
        (AddressMap.tally (callee? (owners cs) includeJumps) .empty .plus)) [] := by
  rw [build, ← List.foldl_hom links fun g e => (addEdge_links _ _ g e).symm, addCandidates_links]

/-! ## What the graph holds -/

/-- The link between two nodes. -/
def link? (g : CallGraph) (a t : Int) : Option Link := (g.links.get? a).bind (·.get? t)

theorem nodes_ascending (cs : List Candidate) (es : List CallSite) (includeJumps : Bool) :
    (build cs es includeJumps).nodes.Ascending := by
  rw [build_nodes]
  exact (AddressMap.Ascending.tallies List.Pairwise.nil cs).tallies es

theorem links_ascending (cs : List Candidate) (es : List CallSite) (includeJumps : Bool) :
    (build cs es includeJumps).links.Ascending := by
  rw [build_links]
  exact AddressMap.Ascending.tallies List.Pairwise.nil es

theorem links_get?_ascending {m : AddressMap Link}
    (h : (build cs es includeJumps).links.get? a = some m) : m.Ascending := by
  rw [build_links, AddressMap.get?_tallies_nil] at h
  split at h
  · cases h
  · cases h
    exact AddressMap.Ascending.tallies List.Pairwise.nil _

theorem filter_caller_callee (cs : List Candidate) (es : List CallSite) (includeJumps : Bool)
    (a t : Int) :
    (es.filter (caller? (owners cs) includeJumps · = some a)).filter
        (callee? (owners cs) includeJumps · = some t) =
      es.filter (Lifts cs includeJumps · a t) := by
  rw [List.filter_filter]
  refine List.filter_congr fun e _ => ?_
  rw [← Bool.decide_and]
  exact decide_eq_decide.mpr (by rw [← lift?_eq_some_iff, lift?_eq_some_iff_ends, and_comm])

/-- A link is made of the edges that count between its ends, in the order they came in. -/
theorem link?_build :
    (build cs es includeJumps).link? a t =
      if es.filter (Lifts cs includeJumps · a t) = [] then none
      else some ((es.filter (Lifts cs includeJumps · a t)).foldl .plus .empty) := by
  rw [link?, build_links, AddressMap.get?_tallies_nil, ← filter_caller_callee]
  split
  · rename_i hnone
    rw [hnone]
    rfl
  · rw [Option.bind_some, AddressMap.get?_tallies_nil]

theorem isSome_link?_build :
    ((build cs es includeJumps).link? a t).isSome ↔ ∃ e ∈ es, Lifts cs includeJumps e a t := by
  rw [link?_build]
  split
  · rename_i hnone
    simpa using hnone
  · rename_i hsome
    simpa using hsome

/-- A link counts the edges that count between its ends. -/
theorem count_link?_build :
    ((build cs es includeJumps).link? a t).elim 0 (·.count) =
      es.countP (Lifts cs includeJumps · a t) := by
  rw [link?_build, List.countP_eq_length_filter]
  split
  · rename_i hnone
    rw [hnone]
    rfl
  · rw [Option.elim_some, Link.count_foldl_plus]
    exact Nat.zero_add _

/-- What the candidates alone leave at an address: the last of those that stand there. -/
theorem get?_candidates (cs : List Candidate) (a : Int) :
    (cs.foldl (AddressMap.tally (some ·.address) none (fun _ x => some x.node))
        ([] : AddressMap (Option Node))).get? a =
      (cs.filter (·.address = a)).getLast?.map (some ·.node) := by
  have hlast (xs : List Candidate) (v : Option Node) :
      xs.foldl (fun _ x => some x.node) v = xs.getLast?.elim v (some ·.node) := by
    induction xs generalizing v with
    | nil => rfl
    | cons x xs ih =>
      rw [List.foldl_cons, ih, List.getLast?_cons]
      cases xs.getLast? <;> rfl
  rw [AddressMap.get?_tallies_nil, hlast]
  simp only [Option.some.injEq]
  cases hfilter : (cs.filter (·.address = a)).getLast? with
  | none =>
    rw [if_pos (List.getLast?_eq_none_iff.mp hfilter)]
    rfl
  | some x =>
    have hne : cs.filter (·.address = a) ≠ [] := by
      intro hnil
      rw [hnil] at hfilter
      cases hfilter
    rw [if_neg hne]
    rfl

theorem get?_nodes_build :
    (build cs es includeJumps).nodes.get? a =
      if es.filter (callee? (owners cs) includeJumps · = some a) = [] then
        (cs.filter (·.address = a)).getLast?.map (some ·.node)
      else some (((cs.filter (·.address = a)).getLast?.map (some ·.node)).getD none) := by
  rw [build_nodes, AddressMap.get?_tallies (AddressMap.Ascending.tallies List.Pairwise.nil cs),
    get?_candidates, List.foldl_fixed]

/-- A node shows the last of the candidates at its address; edges do not change it. -/
theorem get?_nodes_of_candidate {x : Candidate}
    (hx : (cs.filter (·.address = a)).getLast? = some x) :
    (build cs es includeJumps).nodes.get? a = some (some x.node) := by
  rw [get?_nodes_build, hx]
  split <;> rfl

theorem mem_nodes_build :
    a ∈ (build cs es includeJumps).nodes.keys ↔
      (∃ x ∈ cs, x.address = a) ∨ ∃ e ∈ es, ∃ caller, Lifts cs includeJumps e caller a := by
  have hcandidate : ((cs.filter (·.address = a)).getLast?.map (some ·.node)).isSome ↔
      ∃ x ∈ cs, x.address = a := by
    simp
  have hedge : es.filter (callee? (owners cs) includeJumps · = some a) = [] ↔
      ¬ ∃ e ∈ es, ∃ caller, Lifts cs includeJumps e caller a := by
    simp [← exists_lifts_iff]
  rw [← AddressMap.isSome_get?_iff, get?_nodes_build]
  split
  · rename_i hnone
    rw [hcandidate, or_iff_left (hedge.mp hnone)]
  · rename_i hsome
    simp only [Option.isSome_some, true_iff]
    exact Or.inr (not_not.mp (mt hedge.mpr hsome))

/-! ## What can be asked of a graph -/

theorem mem_linkList {l : Link} :
    (a, t, l) ∈ (build cs es includeJumps).linkList ↔
      (build cs es includeJumps).link? a t = some l := by
  have hlinks := links_ascending cs es includeJumps
  simp only [linkList, link?, List.mem_flatMap, List.mem_map, Prod.exists, Prod.mk.injEq,
    Option.bind_eq_some_iff]
  constructor
  · rintro ⟨caller, m, hm, callee, l', hl, rfl, rfl, rfl⟩
    have hget := (AddressMap.mem_iff_get? hlinks).mp hm
    exact ⟨m, hget, (AddressMap.mem_iff_get? (links_get?_ascending hget)).mp hl⟩
  · rintro ⟨m, hget, hl⟩
    have hmem := (AddressMap.mem_iff_get? (links_get?_ascending hget)).mpr hl
    exact ⟨a, m, (AddressMap.mem_iff_get? hlinks).mpr hget, t, l, hmem, rfl, rfl, rfl⟩

theorem mem_callers {g : CallGraph} (hlinks : g.links.Ascending) :
    a ∈ g.callers t ↔ t ∈ g.nodes.keys ∧ (g.link? a t).isSome := by
  rw [callers, hasNode, ← AddressMap.isSome_get?_iff]
  split
  · rename_i hnode
    simp only [and_iff_right hnode, List.mem_filterMap, Prod.exists, link?]
    constructor
    · rintro ⟨caller, m, hm, hcaller⟩
      split at hcaller
      · rename_i hsome
        cases hcaller
        rw [(AddressMap.mem_iff_get? hlinks).mp hm]
        exact hsome
      · cases hcaller
    · intro h
      cases hget : g.links.get? a with
      | none =>
        rw [hget] at h
        cases h
      | some m =>
        rw [hget] at h
        exact ⟨a, m, (AddressMap.mem_iff_get? hlinks).mpr hget, if_pos h⟩
  · rename_i hnode
    simp [hnode]

theorem callers_ascending {g : CallGraph} (hlinks : g.links.Ascending) (t : Int) :
    (g.callers t).Pairwise (· < ·) := by
  unfold callers
  split
  · refine List.Pairwise.filterMap _ ?_ hlinks
    rintro ⟨a, m⟩ ⟨b, n⟩ hab a' ha' b' hb'
    dsimp only at ha' hb'
    split at ha' <;> cases ha'
    split at hb' <;> cases hb'
    exact hab
  · exact List.Pairwise.nil

end CallGraph
end EntryScan
