import EntryScan.Proofs.Agreement
import EntryScan.Proofs.Region
import EntryScan.Report

/-!
# EntryScan.Proofs.ReportGraph

The call graph in a report on an analysis in which only edges that stay in the region count as
evidence. The analysis keeps all call sites, and the graph is built from them, so that a call out of
the region is left out of the candidates and stands in the graph.

* `Report.field?_callgraph`: where the graph stands in a report.
* `Analysis.candidate_of_inside`: a call site that leads into the region leads to a candidate.
* `Report.graph_inside_iff`: the nodes are the candidates, and beside them the targets outside the
  region of calls that have an owner. So the graph stays inside exactly if no such call leads out.
-/

namespace EntryScan

/-! ## The graph in a report -/

/-- The field of a document. -/
def Value.field? (key : String) : Value → Option Value
  | .object fields => fields.lookup key
  | _ => none

theorem Report.field?_callgraph (a : Analysis) (mode : String) (sectionName : Option String)
    (g : CallGraph) :
    (document a mode sectionName (some g)).field? "callgraph" = some g.toValue := by
  -- the parts before the graph are there or not, under other keys
  have hother (present : Bool) (key : String) (v : Value) (h : "callgraph" ≠ key) :
      (if present then [(key, v)] else []).lookup "callgraph" = none := by
    cases present <;> simp [h]
  simp only [document, Value.field?, List.lookup_append]
  rw [hother _ "section" _ (by decide), hother _ "prologues" _ (by decide),
    hother _ "call_sites" _ (by decide), hother _ "candidates" _ (by decide)]
  rfl

theorem Report.build_returns (a : Analysis) (mode : String) (sectionName : Option String) :
    (build a mode sectionName true).Returns
      (document a mode sectionName (some (.build a.candidates a.callSites false))) := by
  unfold build
  exact .bind (Toolbox.callGraph_returns _ _ _) (Logged.returns_pure _)

/-- A report is never stopped, with the call graph or without. -/
theorem Report.build_returns_document (a : Analysis) (mode : String) (sectionName : Option String)
    (withGraph : Bool) :
    (build a mode sectionName withGraph).Returns (document a mode sectionName
      (if withGraph then some (.build a.candidates a.callSites false) else none)) := by
  cases withGraph with
  | true => exact build_returns a mode sectionName
  | false => exact Logged.returns_pure _

/-! ## The candidates of a region -/

namespace Analysis

variable {dec : Decoder} {arch : Arch} {code : List UInt8} {base : Int}

theorem inside_of_candidate (hbase : 0 ≤ base) (htop : base + code.length ≤ 2 ^ 64) {a : Int}
    (ha : a ∈ (found dec arch code base true).candidates.map (·.address)) :
    base ≤ a ∧ a < base + code.length := by
  rcases Candidate.mem_addresses_merge.mp ha with ⟨p, hp, rfl⟩ | ⟨e, he, ht⟩
  · obtain ⟨k, hk, hp⟩ := Sweep.covers_prologue hp
    omega
  · rw [if_pos rfl, List.mem_filter, CallSite.staysIn_eq_any, ht] at he
    exact of_decide_eq_true he.2

theorem candidate_of_inside {e : CallSite} {t : Int}
    (he : e ∈ (found dec arch code base true).callSites) (ht : e.target = some t)
    (hinside : base ≤ t ∧ t < base + code.length) :
    t ∈ (found dec arch code base true).candidates.map (·.address) := by
  refine Candidate.mem_addresses_merge.mpr (Or.inr ⟨e, ?_, ht⟩)
  rw [if_pos rfl, List.mem_filter, CallSite.staysIn_eq_any, ht]
  exact ⟨he, decide_eq_true hinside⟩

end Analysis

/-! ## The graph of a region -/

/-- A call to `t` that a candidate owns. -/
def CallGraph.OwnedCall (cs : List Candidate) (es : List CallSite) (t : Int) : Prop :=
  ∃ e ∈ es, e.kind = .call ∧ e.target = some t ∧ ∃ a, Owns cs a e.source

theorem CallGraph.ownedCall_iff {cs : List Candidate} {es : List CallSite} {t : Int} :
    OwnedCall cs es t ↔ ∃ e ∈ es, ∃ a, Lifts cs false e a t := by
  simp only [OwnedCall, Lifts, Bool.false_eq_true, or_false]
  constructor
  · rintro ⟨e, he, hkind, ht, a, ha⟩
    exact ⟨e, he, a, ht, hkind, ha⟩
  · rintro ⟨e, he, a, ht, hkind, ha⟩
    exact ⟨e, he, hkind, ht, a, ha⟩

/-- **When the reported graph stays inside the region.** With the restriction to a region that does
not wrap, an analysis and its report end, and all candidates lie in the region. In the reported
graph callers are candidates and callees are nodes. The nodes are the candidates, and beside them
the addresses outside the region that calls with an owner lead to. So all nodes are candidates
exactly if no call with an owner leads out of the region. -/
theorem Report.graph_inside_iff (dec : Decoder) {tag : String} {arch : Arch}
    (htag : Arch.parse? tag = some arch) {code : List UInt8} {base : Int} (hbase : 0 ≤ base)
    (htop : base + code.length ≤ 2 ^ 64) (mode : String) (sectionName : Option String) :
    ∃ r doc, (Toolbox.analyze dec.tools code base tag (some true)).outcome.1 = .ok r ∧
      (build r mode sectionName true).outcome.1 = .ok doc ∧
      let g := CallGraph.build r.candidates r.callSites false
      let addresses := r.candidates.map (·.address)
      let inside (a : Int) : Prop := base ≤ a ∧ a < base + code.length
      doc.field? "callgraph" = some g.toValue ∧
      (∀ a ∈ addresses, inside a) ∧
      (∀ a t l, (a, t, l) ∈ g.linkList → a ∈ addresses ∧ t ∈ g.nodes.keys) ∧
      (∀ a, a ∈ g.nodes.keys ↔
        a ∈ addresses ∨ ¬ inside a ∧ CallGraph.OwnedCall r.candidates r.callSites a) ∧
      ((∀ a ∈ g.nodes.keys, a ∈ addresses) ↔
        ∀ t, CallGraph.OwnedCall r.candidates r.callSites t → inside t) := by
  let r := Analysis.found dec arch code base true
  refine ⟨r, _, (Toolbox.analyze_eq_ok_iff htag).mpr rfl, (build_returns r _ _).outcome, ?_⟩
  intro g addresses inside
  have hinside : ∀ a ∈ addresses, inside a := fun a => Analysis.inside_of_candidate hbase htop
  have hnodes (a : Int) : a ∈ g.nodes.keys ↔
      a ∈ addresses ∨ CallGraph.OwnedCall r.candidates r.callSites a := by
    rw [CallGraph.mem_nodes_build, CallGraph.ownedCall_iff, List.mem_map]
  -- a call that stays inside leads to a candidate
  have hcandidate (t : Int) (h : CallGraph.OwnedCall r.candidates r.callSites t) (ht : inside t) :
      t ∈ addresses := by
    obtain ⟨e, he, _, htarget, _⟩ := h
    exact Analysis.candidate_of_inside he htarget ht
  refine ⟨field?_callgraph _ _ _ _, hinside, ?_, ?_, ?_⟩
  · intro a t l hl
    rw [CallGraph.mem_linkList] at hl
    obtain ⟨e, he, hlifts⟩ := CallGraph.isSome_link?_build.mp (Option.isSome_of_mem hl)
    have hcall := CallGraph.ownedCall_iff.mpr ⟨e, he, a, hlifts⟩
    obtain ⟨x, hx, _, rfl⟩ := hlifts.2.2.1
    exact ⟨List.mem_map_of_mem hx, (hnodes t).mpr (Or.inr hcall)⟩
  · intro a
    rw [hnodes]
    constructor
    · rintro (ha | hcall)
      · exact Or.inl ha
      · by_cases ha : inside a
        · exact Or.inl (hcandidate a hcall ha)
        · exact Or.inr ⟨ha, hcall⟩
    · rintro (ha | ⟨_, hcall⟩)
      · exact Or.inl ha
      · exact Or.inr hcall
  · constructor
    · intro h t hcall
      exact hinside t (h t ((hnodes t).mpr (Or.inr hcall)))
    · intro h a ha
      rcases (hnodes a).mp ha with ha | hcall
      · exact ha
      · exact hcandidate a hcall (h a hcall)

/-- `push rbp; call 0x1000; jmp 0x1018` at `0x1000`: the jump leads out of the region, and is no
call. -/
theorem Report.graph_inside_iff_jump_out :
    let code : List UInt8 := [0x55, 0xe8, 0xfa, 0xff, 0xff, 0xff, 0xeb, 0x10]
    ∃ r doc, (Toolbox.analyze {} code 0x1000 "amd64" (some true)).outcome.1 = .ok r ∧
      (build r "all" (some ".text") true).outcome.1 = .ok doc ∧
      let g := CallGraph.build r.candidates r.callSites false
      doc.field? "callgraph" = some g.toValue ∧ g.nodes.keys = [0x1000] ∧
      ∀ a ∈ g.nodes.keys, a ∈ r.candidates.map (·.address) := by
  intro code
  have htag : Arch.parse? "amd64" = some .amd64 := by decide
  obtain ⟨r, doc, hr, hdoc, hfield, _, _, _, hiff⟩ := graph_inside_iff .standard htag
    (show (0 : Int) ≤ 0x1000 by decide) (show (0x1000 : Int) + code.length ≤ 2 ^ 64 by decide)
    "all" (some ".text")
  have hfound := (Toolbox.analyze_eq_ok_iff htag).mp hr
  refine ⟨r, doc, hr, hdoc, hfield, ?_, hiff.mpr ?_⟩
  · rw [hfound]
    decide +kernel
  · rintro t ⟨e, he, hkind, ht, _⟩
    have hcalls : ∀ e ∈ r.callSites, e.kind = .call → e.target = some 0x1000 := by
      rw [hfound]
      decide +kernel
    rw [hcalls e he hkind] at ht
    cases ht
    decide

/-- `push rbp; call 0x1010` at `0x1000`: the call leads out of the region, and its target stands in
the graph without being a candidate. -/
theorem Report.graph_leaves_region :
    let code : List UInt8 := [0x55, 0xe8, 0x0a, 0x00, 0x00, 0x00]
    ∃ r doc, (Toolbox.analyze {} code 0x1000 "amd64" (some true)).outcome.1 = .ok r ∧
      (build r "candidates" none true).outcome.1 = .ok doc ∧
      r.candidates.map (·.address) = [0x1000] ∧
      doc.field? "callgraph" = some (.object [
        ("nodes", .texts ["0x1000", "0x1010"]),
        ("edges", .list [.object [("caller", .text "0x1000"), ("callee", .text "0x1010"),
          ("kinds", .texts ["call"]), ("count", .int 1)]])]) := by
  intro code
  have htag : Arch.parse? "amd64" = some .amd64 := by decide
  let r := Analysis.found .standard .amd64 code 0x1000 true
  have hgraph : CallGraph.build r.candidates r.callSites false =
      ⟨[(0x1000, some ⟨.prologueOnly, .medium, some .pushOnly⟩), (0x1010, none)],
        [(0x1000, [(0x1010, ⟨[.call], [0x1001], 1⟩)])]⟩ := by
    decide +kernel
  refine ⟨r, _, (Toolbox.analyze_eq_ok_iff htag).mpr rfl, (build_returns r _ _).outcome, ?_, ?_⟩
  · decide +kernel
  · have hbase : Address.hexify 0x1000 = "0x1000" := by decide +kernel
    have htarget : Address.hexify 0x1010 = "0x1010" := by decide +kernel
    rw [field?_callgraph, hgraph]
    simp [CallGraph.toValue, CallGraph.linkList, AddressMap.keys, hbase, htarget, Link.kindNames,
      EdgeKind.name]

end EntryScan
