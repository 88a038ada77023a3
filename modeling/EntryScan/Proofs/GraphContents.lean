import EntryScan.Proofs.Analysis
import EntryScan.Proofs.CallGraph

/-!
# EntryScan.Proofs.GraphContents

All that a call graph holds, and that no edge is lost or counted twice on the way into it.

* `CallGraph.bundles_of_link?`: what a link holds is what the edges between its ends bring.
* `CallGraph.linkList_ascending`: the links stand in order, one between any two ends.
* `CallGraph.weight_addEdge`, `CallGraph.weight_build`: an edge that counts adds one to the counts of
  all links together, and every other edge adds nothing.

`Toolbox.callGraph_exact` puts this together with the nodes.
-/

namespace EntryScan

/-! ## Links -/

namespace Link

theorem sites_foldl_plus (es : List CallSite) (l : Link) :
    (es.foldl plus l).sites = l.sites ++ es.map (·.source) := by
  induction es generalizing l with
  | nil => simp
  | cons e es ih =>
    rw [List.foldl_cons, ih]
    simp [plus, add]

theorem mem_kinds_plus {l : Link} {e : CallSite} {kind : EdgeKind} :
    kind ∈ (l.plus e).kinds ↔ kind ∈ l.kinds ∨ e.kind = kind := by
  simp only [plus, add]
  by_cases hthere : e.kind ∈ l.kinds
  · simp only [List.contains_iff_mem, hthere, if_true]
    constructor
    · exact Or.inl
    · rintro (hkind | rfl)
      · exact hkind
      · exact hthere
  · simp [hthere, eq_comm]

theorem mem_kinds_foldl_plus {es : List CallSite} {l : Link} {kind : EdgeKind} :
    kind ∈ (es.foldl plus l).kinds ↔ kind ∈ l.kinds ∨ ∃ e ∈ es, e.kind = kind := by
  induction es generalizing l with
  | nil => simp
  | cons e es ih =>
    rw [List.foldl_cons, ih, mem_kinds_plus]
    simp [or_assoc]

theorem nodup_kinds_plus {l : Link} (h : l.kinds.Nodup) (e : CallSite) :
    (l.plus e).kinds.Nodup := by
  simp only [plus, add]
  split
  · exact h
  · rename_i hnew
    rw [List.contains_iff_mem] at hnew
    exact h.append (List.nodup_singleton _) (List.disjoint_singleton.mpr hnew)

theorem nodup_kinds_foldl_plus (es : List CallSite) {l : Link} (h : l.kinds.Nodup) :
    (es.foldl plus l).kinds.Nodup := by
  induction es generalizing l with
  | nil => exact h
  | cons e es ih =>
    rw [List.foldl_cons]
    exact ih (nodup_kinds_plus h e)

end Link

/-! ## Sums over a map -/

namespace AddressMap

variable {α : Type}

/-- What the entries of a map weigh together. -/
def total (weigh : α → Nat) (m : AddressMap α) : Nat := (m.map fun x => weigh x.2).sum

theorem total_cons (weigh : α → Nat) (a : Int) (v : α) (m : AddressMap α) :
    total weigh ((a, v) :: m) = weigh v + total weigh m := by
  simp [total]

/-- An entry that grows by `n`, or is new and weighs `n`, adds `n` to the whole. -/
theorem total_alter {weigh : α → Nat} {f : Option α → α} {n : Nat}
    (h : ∀ v, weigh (f v) = v.elim 0 weigh + n) (a : Int) (m : AddressMap α) :
    total weigh (m.alter a f) = total weigh m + n := by
  induction m with
  | nil =>
    rw [alter, total_cons, h]
    simp [total]
  | cons entry rest ih =>
    obtain ⟨b, v⟩ := entry
    simp only [alter]
    -- the entry is new, is the first one, or stands further on
    split
    · rw [total_cons, h none]
      simp only [Option.elim_none]
      omega
    · split
      · rw [total_cons, total_cons, h (some v)]
        simp only [Option.elim_some]
        omega
      · rw [total_cons, total_cons, ih]
        omega

end AddressMap

namespace CallGraph

variable {cs : List Candidate} {es : List CallSite} {includeJumps : Bool} {a t : Int}

/-! ## Edges that are counted -/

/-- The edge counts between some candidate and some address. -/
def Lifted (cs : List Candidate) (includeJumps : Bool) (e : CallSite) : Prop :=
  ∃ a t, Lifts cs includeJumps e a t

theorem isSome_lift?_iff {e : CallSite} :
    (lift? (owners cs) includeJumps e).isSome ↔ Lifted cs includeJumps e := by
  simp [Option.isSome_iff_exists, Lifted, lift?_eq_some_iff]

/-- The owner is one of the candidates, so that it can be looked for. -/
theorem lifted_iff {e : CallSite} : Lifted cs includeJumps e ↔
    e.target.isSome ∧ (e.kind = .call ∨ includeJumps) ∧ ∃ x ∈ cs, Owns cs x.address e.source := by
  constructor
  · rintro ⟨a, t, htarget, hkind, howns⟩
    obtain ⟨x, hx, _, rfl⟩ := howns.1
    exact ⟨Option.isSome_of_mem htarget, hkind, x, hx, howns⟩
  · rintro ⟨htarget, hkind, x, _, howns⟩
    obtain ⟨t, ht⟩ := Option.isSome_iff_exists.mp htarget
    exact ⟨x.address, t, ht, hkind, howns⟩

instance (cs : List Candidate) (includeJumps : Bool) (e : CallSite) :
    Decidable (Lifted cs includeJumps e) :=
  decidable_of_iff _ lifted_iff.symm

/-- The counts of all links together. -/
def weight (g : CallGraph) : Nat := (g.linkList.map (·.2.2.count)).sum

theorem weight_eq_total (g : CallGraph) :
    g.weight = g.links.total fun m => m.total (·.count) := by
  rw [weight, linkList, AddressMap.total]
  induction g.links with
  | nil => rfl
  | cons entry rest ih =>
    simp only [List.flatMap_cons, List.map_append, List.sum_append, List.map_cons, List.sum_cons, ih]
    simp [AddressMap.total, Function.comp_def]

theorem weight_addLink (g : CallGraph) (caller callee : Int) (kind : EdgeKind) (source : Int) :
    (g.addLink caller callee kind source).weight = g.weight + 1 := by
  have hlink (l : Option Link) : (Link.add kind source l).count = l.elim 0 (·.count) + 1 := by
    cases l with
    | none => rfl
    | some l => rfl
  rw [weight_eq_total, weight_eq_total, addLink]
  -- the caller's map of callees grows by what the link in it grows by
  refine AddressMap.total_alter ?_ _ _
  intro m
  rw [AddressMap.total_alter hlink]
  cases m with
  | none => rfl
  | some m => rfl

theorem weight_addEdge (starts : Array Int) (includeJumps : Bool) (g : CallGraph) (e : CallSite) :
    (addEdge starts includeJumps g e).weight =
      g.weight + if (lift? starts includeJumps e).isSome then 1 else 0 := by
  rw [addEdge_eq]
  cases lift? starts includeJumps e with
  | none => rfl
  | some ends => exact weight_addLink g _ _ _ _

theorem weight_addEdges (starts : Array Int) (includeJumps : Bool) (es : List CallSite)
    (g : CallGraph) : (es.foldl (addEdge starts includeJumps) g).weight =
      g.weight + es.countP fun e => (lift? starts includeJumps e).isSome := by
  induction es generalizing g with
  | nil => rfl
  | cons e es ih =>
    rw [List.foldl_cons, ih, weight_addEdge, List.countP_cons]
    omega

/-- Candidates bring no links, so the counts are those of the edges that count. -/
theorem weight_build (cs : List Candidate) (es : List CallSite) (includeJumps : Bool) :
    (build cs es includeJumps).weight = es.countP (Lifted cs includeJumps ·) := by
  have hstart : (cs.foldl addCandidate {}).weight = 0 := by
    rw [weight_eq_total, addCandidates_links]
    rfl
  rw [build, weight_addEdges, hstart, Nat.zero_add]
  refine List.countP_congr fun e _ => ?_
  rw [isSome_lift?_iff, decide_eq_true_eq]

/-! ## Links between ends -/

/-- What the edges that count between two ends bring to the link between them. -/
structure Bundles (cs : List Candidate) (es : List CallSite) (includeJumps : Bool) (a t : Int)
    (l : Link) : Prop where
  sites : l.sites = (es.filter (Lifts cs includeJumps · a t)).map (·.source)
  count : l.count = l.sites.length ∧ 1 ≤ l.count
  kinds : l.kinds.Nodup ∧
    ∀ kind, kind ∈ l.kinds ↔ ∃ e ∈ es, Lifts cs includeJumps e a t ∧ e.kind = kind

theorem bundles_of_link? {l : Link} (h : (build cs es includeJumps).link? a t = some l) :
    Bundles cs es includeJumps a t l := by
  rw [link?_build] at h
  split at h
  · cases h
  · rename_i hsome
    cases h
    have hsites := Link.sites_foldl_plus (es.filter (Lifts cs includeJumps · a t)) .empty
    have hcount := Link.count_foldl_plus (es.filter (Lifts cs includeJumps · a t)) .empty
    have hpos := List.length_pos_of_ne_nil hsome
    refine ⟨hsites, ⟨?_, ?_⟩, Link.nodup_kinds_foldl_plus _ List.nodup_nil, ?_⟩
    · rw [hcount, hsites]
      simp [Link.empty]
    · rw [hcount]
      omega
    · intro kind
      rw [Link.mem_kinds_foldl_plus]
      simp [Link.empty, and_assoc]

/-- The callers stand in order, and with each of them its callees. -/
theorem linkList_ascending (cs : List Candidate) (es : List CallSite) (includeJumps : Bool) :
    (build cs es includeJumps).linkList.Pairwise
      fun x y => x.1 < y.1 ∨ x.1 = y.1 ∧ x.2.1 < y.2.1 := by
  have hlinks := links_ascending cs es includeJumps
  refine List.pairwise_flatMap.mpr ⟨?_, hlinks.imp ?_⟩
  · rintro ⟨caller, m⟩ hm
    have hget := (AddressMap.mem_iff_get? hlinks).mp hm
    refine List.pairwise_map.mpr ((links_get?_ascending hget).imp ?_)
    intro x y hlt
    exact Or.inr ⟨rfl, hlt⟩
  · intro x y hlt link hlink link' hlink'
    obtain ⟨_, _, rfl⟩ := List.mem_map.mp hlink
    obtain ⟨_, _, rfl⟩ := List.mem_map.mp hlink'
    exact Or.inl hlt

/-! ## Nodes without a candidate -/

theorem get?_nodes_of_target (ha : a ∈ (build cs es includeJumps).nodes.keys)
    (hno : ∀ x ∈ cs, x.address ≠ a) : (build cs es includeJumps).nodes.get? a = some none := by
  have hnil : cs.filter (·.address = a) = [] := by simpa using hno
  rw [← AddressMap.isSome_get?_iff, get?_nodes_build, hnil] at ha
  rw [get?_nodes_build, hnil]
  split
  · rename_i hnone
    rw [if_pos hnone] at ha
    cases ha
  · rfl

end CallGraph

/-! ## All that a graph holds -/

/-- **All that a call graph holds.** For all candidates and edges the graph has a link from `a` to
`t` exactly if an edge counts between them. The link holds the sources of these edges in the order
they came in, their number and the set of their kinds. The links stand in order, one between any two
ends, and their counts add up to the number of edges that count. The nodes are the candidates and
what edges that count lead to. Where a candidate stands, the node shows the last of those there, and
elsewhere it shows nothing. -/
theorem Toolbox.callGraph_exact (cs : List Candidate) (es : List CallSite) (includeJumps : Bool) :
    ∃ g, (callGraph cs es includeJumps).outcome.1 = .ok g ∧
      (∀ a t, (∃ l, g.link? a t = some l) ↔ ∃ e ∈ es, CallGraph.Lifts cs includeJumps e a t) ∧
      (∀ a t l, g.link? a t = some l → CallGraph.Bundles cs es includeJumps a t l) ∧
      (∀ a t l, (a, t, l) ∈ g.linkList ↔ g.link? a t = some l) ∧
      g.linkList.Pairwise (fun x y => x.1 < y.1 ∨ x.1 = y.1 ∧ x.2.1 < y.2.1) ∧
      (g.linkList.map (·.2.2.count)).sum = es.countP (CallGraph.Lifted cs includeJumps ·) ∧
      g.nodes.keys.Pairwise (· < ·) ∧
      (∀ a, a ∈ g.nodes.keys ↔ (∃ x ∈ cs, x.address = a) ∨
        ∃ e ∈ es, ∃ caller, CallGraph.Lifts cs includeJumps e caller a) ∧
      (∀ a x, (cs.filter (·.address = a)).getLast? = some x →
        g.nodes.get? a = some (some x.node)) ∧
      ∀ a ∈ g.nodes.keys, (∀ x ∈ cs, x.address ≠ a) → g.nodes.get? a = some none := by
  refine ⟨_, (callGraph_returns cs es includeJumps).outcome, ?_, ?_, ?_, ?_, ?_, ?_, ?_, ?_, ?_⟩
  · intro a t
    rw [← CallGraph.isSome_link?_build, Option.isSome_iff_exists]
  · intro a t l
    exact CallGraph.bundles_of_link?
  · intro a t l
    exact CallGraph.mem_linkList
  · exact CallGraph.linkList_ascending cs es includeJumps
  · exact CallGraph.weight_build cs es includeJumps
  · exact List.pairwise_map.mpr (CallGraph.nodes_ascending cs es includeJumps)
  · intro a
    exact CallGraph.mem_nodes_build
  · intro a x hx
    exact CallGraph.get?_nodes_of_candidate hx
  · intro a ha hno
    exact CallGraph.get?_nodes_of_target ha hno

/-- A function at `0x100` is listed twice, first as a bare jump target, and calls `0x200` from two
places. The jump does not count, the call from `0x50` has no owner, and `0x300` is no candidate. -/
theorem Toolbox.callGraph_exact_listed_twice :
    let edge (kind : EdgeKind) (s t : Int) : CallSite :=
      ⟨s, some t, kind, .pcRelative, .high, "", false⟩
    let cs : List Candidate := [⟨0x200, .callTarget, .medium, none, [], []⟩,
      ⟨0x100, .jumpTarget, .low, none, [], []⟩, ⟨0x180, .jumpTarget, .low, none, [], []⟩,
      ⟨0x100, .prologueOnly, .high, some .classic, [], []⟩]
    let es := [edge .call 0x190 0x200, edge .jump 0x120 0x100, edge .call 0x50 0x200,
      edge .call 0x104 0x200, edge .call 0x204 0x300]
    ∃ g, (callGraph cs es false).outcome.1 = .ok g ∧
      (∃ l, g.link? 0x100 0x200 = some l ∧ l.sites = [0x190, 0x104] ∧ l.count = 2) ∧
      (g.linkList.map (·.2.2.count)).sum = 3 ∧
      g.nodes.get? 0x100 = some (some ⟨.prologueOnly, .high, some .classic⟩) ∧
      g.nodes.get? 0x300 = some none := by
  intro edge cs es
  obtain ⟨g, hg, hlinks, hbundles, _, _, hweight, _, hkeys, hnodes, htargets⟩ :=
    callGraph_exact cs es false
  refine ⟨g, hg, ?_, ?_, ?_, ?_⟩
  · obtain ⟨l, hl⟩ := (hlinks 0x100 0x200).mpr ⟨edge .call 0x104 0x200, by decide, by decide⟩
    obtain ⟨hsites, ⟨hcount, _⟩, _⟩ := hbundles _ _ _ hl
    have hsources : l.sites = [0x190, 0x104] := by
      rw [hsites]
      decide
    exact ⟨l, hl, hsources, by rw [hcount, hsources]; rfl⟩
  · rw [hweight]
    decide
  · exact hnodes 0x100 ⟨0x100, .prologueOnly, .high, some .classic, [], []⟩ (by decide)
  · refine htargets 0x300 ((hkeys _).mpr (Or.inr ?_)) (by decide)
    exact ⟨edge .call 0x204 0x300, by decide, 0x200, by decide⟩

end EntryScan
