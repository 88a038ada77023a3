import EntryScan.Proofs.Analysis
import EntryScan.Proofs.CallGraph

/-!
# EntryScan.Proofs.Agreement

The merge and the call graph take in the same edges in two ways: the merge keeps for each target the
set of its sources, and the graph keeps for each owner and target a link with a count.

* `CallGraph.build_nodes_merge`: the nodes are the candidates.
* `CallGraph.exists_lifts_merge`: an edge counts from an owner to a candidate exactly if the owner
  has one of the candidate's sources.
* `Candidate.countP_sources`: where no two edges are the same, each source stands for one edge.
* `CallGraph.agrees_with_merge` puts this together.
-/

namespace EntryScan

/-! ## Edges that differ -/

namespace CallSite

/-- No two edges with a target have the same source, target and kind. -/
def Distinct (es : List CallSite) : Prop :=
  ((es.filter (·.target.isSome)).map fun e => (e.source, e.target, e.kind)).Nodup

instance (es : List CallSite) : Decidable (Distinct es) :=
  inferInstanceAs (Decidable (List.Nodup _))

theorem distinct_iff {es : List CallSite} :
    Distinct es ↔ es.Pairwise fun e f => e.target.isSome → f.target.isSome →
      (e.source, e.target, e.kind) ≠ (f.source, f.target, f.kind) := by
  rw [Distinct, List.Nodup, List.pairwise_map, List.pairwise_filter]

theorem distinct_of_sources {es : List CallSite}
    (h : es.Pairwise fun e f => e.source ≠ f.source) : Distinct es := by
  refine distinct_iff.mpr (h.imp ?_)
  intro e f hne _ _ heq
  exact hne (congrArg Prod.fst heq)

end CallSite

/-- In a region that is no longer than the address space, no two steps stand at one address. -/
theorem Sweep.steps_address_ne {dec : Decoder} {arch : Arch} {code : List UInt8} (base : Int)
    (hlength : code.length ≤ 2 ^ 64) :
    (steps dec.config arch code base).Pairwise fun s t => s.address ≠ t.address := by
  have hwalk : Walk dec.config arch code base 0 (steps dec.config arch code base) :=
    steps_walk (Nat.succ_pos 3)
  refine (hwalk.ascending (Nat.succ_pos 3)).imp_of_mem ?_
  intro s t hs ht hlt heq
  obtain ⟨hroom, hturn⟩ := step_turn ht
  have hbounds := hturn.size_bounds (Nat.succ_pos 3) hroom
  rw [hturn.address_eq, (step_turn hs).2.address_eq, Address.wrap_eq_emod,
    Address.wrap_eq_emod] at heq
  omega

theorem Sweep.edges_distinct {dec : Decoder} {arch : Arch} {code : List UInt8} (base : Int)
    (hlength : code.length ≤ 2 ^ 64) :
    CallSite.Distinct (CallSite.edges arch (readings dec.config arch code base)) := by
  refine CallSite.distinct_of_sources (CallSite.edges_pairwise ?_)
  exact instructions_pairwise (steps_address_ne base hlength)

/-! ## Sources and edges -/

namespace Candidate

variable {c : Config} {ps : List Prologue} {es : List CallSite} {a : Int}

/-- Where no two edges are the same, the sources for an address are those of its edges. -/
theorem perm_sources (hdistinct : CallSite.Distinct es) (kind : EdgeKind) :
    ((es.filter fun e => e.target = some a ∧ e.kind = kind).map (·.source)).Perm
      ((evidenceAt c ps es a).sources kind) := by
  have hnodup : ((es.filter fun e => e.target = some a ∧ e.kind = kind).map (·.source)).Nodup := by
    rw [List.Nodup, List.pairwise_map, List.pairwise_filter]
    refine (CallSite.distinct_iff.mp hdistinct).imp ?_
    intro e f hne he hf hsource
    simp only [decide_eq_true_eq] at he hf
    refine hne ?_ ?_ ?_
    · rw [he.1]; rfl
    · rw [hf.1]; rfl
    · rw [hsource, he.1, hf.1, he.2, hf.2]
  have hsources : ((evidenceAt c ps es a).sources kind).Nodup :=
    (sources_ascending c ps es a kind).imp Int.ne_of_lt
  refine (List.perm_ext_iff_of_nodup hnodup hsources).mpr fun s => ?_
  rw [mem_sources]
  simp only [List.mem_map, List.mem_filter, decide_eq_true_eq]
  constructor
  · rintro ⟨e, ⟨he, htarget, hkind⟩, hsource⟩
    exact ⟨e, he, hkind, htarget, hsource⟩
  · rintro ⟨e, he, hkind, htarget, hsource⟩
    exact ⟨e, ⟨he, htarget, hkind⟩, hsource⟩

theorem countP_sources (hdistinct : CallSite.Distinct es) (kind : EdgeKind) (p : Int → Bool) :
    ((evidenceAt c ps es a).sources kind).countP p =
      es.countP fun e => p e.source && decide (e.target = some a ∧ e.kind = kind) := by
  rw [← (perm_sources hdistinct kind).countP_eq, List.countP_map, List.countP_filter]
  rfl

end Candidate

namespace CallGraph

variable {c : Config} {ps : List Prologue} {es : List CallSite} {includeJumps : Bool}
  {x : Candidate} {a : Int}

theorem getLast?_merge (hx : x ∈ Candidate.merge c ps es) :
    ((Candidate.merge c ps es).filter (·.address = x.address)).getLast? = some x := by
  cases hlast : ((Candidate.merge c ps es).filter (·.address = x.address)).getLast? with
  | none =>
    rw [List.getLast?_eq_none_iff, List.filter_eq_nil_iff] at hlast
    exact absurd (decide_eq_true rfl) (hlast x hx)
  | some y =>
    obtain ⟨hy, haddress⟩ := List.mem_filter.mp (List.mem_of_getLast? hlast)
    rw [Candidate.merge_unique hy hx (of_decide_eq_true haddress)]

/-- The targets of edges are candidates themselves, so the nodes are the candidates. -/
theorem build_nodes_merge :
    (build (Candidate.merge c ps es) es includeJumps).nodes =
      (Candidate.merge c ps es).map fun x => (x.address, some x.node) := by
  have : Std.Irrefl fun x y : Int × Option Node => x.1 < y.1 := ⟨fun x => Int.lt_irrefl _⟩
  have : Std.Antisymm fun x y : Int × Option Node => x.1 < y.1 :=
    ⟨fun x y hxy hyx => absurd hxy (Int.not_lt.mpr (Int.le_of_lt hyx))⟩
  refine List.Pairwise.eq_of_mem_iff (nodes_ascending _ es includeJumps)
    (List.pairwise_map.mpr (Candidate.merge_ascending c ps es)) fun (a, v) => ?_
  rw [AddressMap.mem_iff_get? (nodes_ascending _ es includeJumps), List.mem_map]
  constructor
  · intro hget
    have hnode := mem_nodes_build.mp (AddressMap.isSome_get?_iff.mp (Option.isSome_of_mem hget))
    have hcandidate : a ∈ (Candidate.merge c ps es).map (·.address) := by
      rcases hnode with ⟨x, hx, rfl⟩ | ⟨e, he, caller, htarget, _⟩
      · exact List.mem_map_of_mem hx
      · exact Candidate.mem_addresses_merge.mpr (Or.inr ⟨e, he, htarget⟩)
    obtain ⟨x, hx, rfl⟩ := List.mem_map.mp hcandidate
    rw [get?_nodes_of_candidate (getLast?_merge hx)] at hget
    cases hget
    exact ⟨x, hx, rfl⟩
  · rintro ⟨x, hx, heq⟩
    cases heq
    exact get?_nodes_of_candidate (getLast?_merge hx)

theorem calledFrom_merge (hx : x ∈ Candidate.merge c ps es) :
    x.calledFrom = (Candidate.evidenceAt c ps es x.address).sources .call :=
  congrArg Candidate.calledFrom (Candidate.mem_merge.mp hx).2

theorem jumpedFrom_merge (hx : x ∈ Candidate.merge c ps es) :
    x.jumpedFrom = (Candidate.evidenceAt c ps es x.address).sources .jump :=
  congrArg Candidate.jumpedFrom (Candidate.mem_merge.mp hx).2

/-- An edge counts from an owner to a candidate exactly if the owner has one of its sources. -/
theorem exists_lifts_merge {cs : List Candidate} (hx : x ∈ Candidate.merge c ps es) :
    (∃ e ∈ es, Lifts cs includeJumps e a x.address) ↔
      ∃ s, (s ∈ x.calledFrom ∨ includeJumps ∧ s ∈ x.jumpedFrom) ∧ Owns cs a s := by
  rw [calledFrom_merge hx, jumpedFrom_merge hx]
  simp only [Candidate.mem_sources]
  constructor
  · rintro ⟨e, he, htarget, hcounts, howns⟩
    refine ⟨e.source, ?_, howns⟩
    cases hkind : e.kind with
    | call => exact Or.inl ⟨e, he, hkind, htarget, rfl⟩
    | jump =>
      rw [hkind] at hcounts
      exact Or.inr ⟨hcounts.resolve_left (by decide), e, he, hkind, htarget, rfl⟩
  · rintro ⟨s, ⟨e, he, hkind, htarget, rfl⟩ | ⟨hjumps, e, he, _, htarget, rfl⟩, howns⟩
    · exact ⟨e, he, htarget, Or.inl hkind, howns⟩
    · exact ⟨e, he, htarget, Or.inr hjumps, howns⟩

/-- The edges that count from an owner to an address are calls, and jumps where these count. -/
theorem countP_lifts (cs : List Candidate) (es : List CallSite) (includeJumps : Bool) (a t : Int) :
    es.countP (Lifts cs includeJumps · a t) =
      (es.countP fun e => decide (Owns cs a e.source) &&
        decide (e.target = some t ∧ e.kind = .call)) +
      if includeJumps then es.countP fun e => decide (Owns cs a e.source) &&
        decide (e.target = some t ∧ e.kind = .jump) else 0 := by
  rw [List.countP_eq_countP_filter_add _ _ (fun e => decide (e.kind = .call)), List.countP_filter,
    List.countP_filter]
  congr 1
  · refine List.countP_congr fun e _ => ?_
    simp only [Bool.and_eq_true, decide_eq_true_eq]
    unfold Lifts
    tauto
  · cases includeJumps with
    | false =>
      rw [if_neg Bool.false_ne_true, List.countP_eq_zero]
      intro e _
      simp only [Bool.and_eq_true, decide_eq_true_eq, Bool.not_eq_true', decide_eq_false_iff_not]
      unfold Lifts
      simp only [Bool.false_eq_true]
      tauto
    | true =>
      rw [if_pos rfl]
      refine List.countP_congr fun e _ => ?_
      have hkind : e.kind ≠ .call ↔ e.kind = .jump := by cases e.kind <;> decide
      simp only [Bool.and_eq_true, decide_eq_true_eq, Bool.not_eq_true', decide_eq_false_iff_not]
      unfold Lifts
      tauto

/-- **The call graph and the merge agree.** Let a graph be built from edges and from the candidates
that these edges and some prologues give. Its nodes are the candidates, each with what the candidate
says. The callers of a candidate are the owners of its sources, in ascending order and each once;
sources of jumps are left out unless jumps count. Where no two edges are the same, a link counts the
sources of the candidate that its owner has. The edges that a scan finds in a region no longer than
the address space are never the same. -/
theorem agrees_with_merge (c : Config) (ps : List Prologue) (es : List CallSite)
    (includeJumps : Bool) :
    let cs := Candidate.merge c ps es
    let g := build cs es includeJumps
    g.nodes = cs.map (fun x => (x.address, some x.node)) ∧
    (∀ t ∈ cs, (g.callers t.address).Pairwise (· < ·) ∧
      ∀ a, a ∈ g.callers t.address ↔
        ∃ s, (s ∈ t.calledFrom ∨ includeJumps ∧ s ∈ t.jumpedFrom) ∧ Owns cs a s) ∧
    (CallSite.Distinct es → ∀ t ∈ cs, ∀ a,
      (g.link? a t.address).elim 0 (·.count) =
        t.calledFrom.countP (Owns cs a ·) +
          if includeJumps then t.jumpedFrom.countP (Owns cs a ·) else 0) ∧
    ∀ (dec : Decoder) (tag : String) (arch : Arch), Arch.parse? tag = some arch →
      ∀ (code : List UInt8) (base : Int), code.length ≤ 2 ^ 64 → ∃ found,
        (Toolbox.detectCallSites dec.tools code base tag).outcome.1 = .ok found ∧
          CallSite.Distinct found := by
  intro cs g
  refine ⟨build_nodes_merge, ?_, ?_, ?_⟩
  · intro t ht
    have hlinks := links_ascending cs es includeJumps
    refine ⟨callers_ascending hlinks _, fun a => ?_⟩
    have hnode : t.address ∈ g.nodes.keys := mem_nodes_build.mpr (Or.inl ⟨t, ht, rfl⟩)
    rw [mem_callers hlinks, and_iff_right hnode, isSome_link?_build, exists_lifts_merge ht]
  · intro hdistinct t ht a
    rw [count_link?_build, countP_lifts, calledFrom_merge ht, jumpedFrom_merge ht,
      Candidate.countP_sources hdistinct, Candidate.countP_sources hdistinct]
  · intro dec tag arch htag code base hlength
    exact ⟨_, (Toolbox.detectCallSites_returns htag code base).outcome,
      Sweep.edges_distinct base hlength⟩

/-- A function at `0x100` calls `0x200` twice, the second time from behind a label that it jumps to.
The label owns nothing, and a call from `0x50` is owned by no one. -/
theorem agrees_with_merge_label :
    let edge (kind : EdgeKind) (s t : Int) : CallSite :=
      ⟨s, some t, kind, .pcRelative, .high, "", false⟩
    let es := [edge .call 0x104 0x200, edge .jump 0x120 0x180, edge .call 0x190 0x200,
      edge .call 0x50 0x200, edge .jump 0x204 0x200]
    let cs := Candidate.merge {} [⟨0x100, .classic, "push rbp; mov rbp, rsp"⟩] es
    let g := build cs es true
    let t : Candidate := ⟨0x200, .callTarget, .medium, none, [0x50, 0x104, 0x190], [0x204]⟩
    CallSite.Distinct es ∧ t ∈ cs ∧ g.nodes.keys = [0x100, 0x180, 0x200] ∧
      0x100 ∈ g.callers 0x200 ∧ 0x180 ∉ g.callers 0x200 ∧
      (g.link? 0x100 0x200).elim 0 (·.count) = 2 := by
  intro edge es cs g t
  have hdistinct : CallSite.Distinct es := by decide
  have ht : t ∈ cs := by decide
  obtain ⟨hnodes, hcallers, hcount, _⟩ :=
    agrees_with_merge {} [⟨0x100, .classic, "push rbp; mov rbp, rsp"⟩] es true
  refine ⟨hdistinct, ht, ?_, ?_, ?_, ?_⟩
  · rw [AddressMap.keys, hnodes]
    decide
  · exact ((hcallers t ht).2 0x100).mpr ⟨0x190, by decide, by decide⟩
  · rw [(hcallers t ht).2]
    rintro ⟨s, _, howns⟩
    exact absurd howns.1 (by decide)
  · rw [hcount hdistinct t ht]
    decide

end CallGraph
end EntryScan
