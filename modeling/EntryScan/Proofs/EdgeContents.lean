import EntryScan.Detector
import EntryScan.Proofs.Portable

/-!
# EntryScan.Proofs.EdgeContents

What the edges of a scan say, told by the instructions they come from. Whether an instruction makes
an edge, what kind of edge it is and whether it leads anywhere are decided apart from each other, by
the tables, by the mnemonic and by the operands.

* `Branch.of?_conditional_iff`: which instructions are conditional jumps.
* `CallSite.Describes arch e i`: every field of the edge `e`, told by the instruction `i`.
* `CallSite.describes_edge`, `CallSite.Describes.unique`: the edge of an instruction is the one that
  describes it.
* `CallSite.describes_edges`: so a scan returns one edge for each instruction of the tables.
-/

namespace EntryScan

/-! ## The tables -/

/-- The operations that only jump on a condition. -/
def Branch.conditionals : Arch → List String
  | .amd64 => amd64Conditionals
  | .arm64 => arm64Conditionals

/-- The instruction jumps on a condition. On A64 the plain branch shows a condition in its
mnemonic. -/
def Instruction.IsConditional (arch : Arch) (i : Instruction) : Prop :=
  i.operation ∈ Branch.conditionals arch ∨
    arch = .arm64 ∧ i.operation = "B" ∧ ['b', '.'] <+: i.mnemonic.toList

namespace Branch

variable {arch : Arch} {i : Instruction} {b : Branch}

theorem not_call_of_conditional (arch : Arch) :
    ∀ op ∈ conditionals arch, op ∉ operations arch .call := by
  cases arch <;> decide

/-- The calls are looked up first, but no conditional jump is among them. -/
theorem of?_conditional_iff : of? arch i = some .conditional ↔ i.IsConditional arch := by
  have hmnemonic : (i.mnemonic.toList.take 2 == ['b', '.']) = true ↔
      ['b', '.'] <+: i.mnemonic.toList := by
    rw [beq_iff_eq, List.prefix_iff_eq_take, eq_comm]
    rfl
  have hcalls := not_call_of_conditional arch i.operation
  have hplain : "B" ∉ operations .arm64 .call := by decide
  cases arch with
  | amd64 =>
    simp only [conditionals, operations] at hcalls
    simp only [of?, Instruction.IsConditional, conditionals]
    grind
  | arm64 =>
    simp only [conditionals, operations] at hcalls hplain
    simp only [of?, Instruction.IsConditional, conditionals, Bool.and_eq_true, hmnemonic]
    grind

theorem isBranch_of_of? (h : of? arch i = some b) : isBranch arch i.operation = true :=
  isBranch_iff.mpr ⟨b.kind, mem_operations_of_of? h⟩

end Branch

/-! ## One edge -/

/-- The edge tells where the instruction stands and how it reads, what it does, and where it leads:
to its last immediate, or nowhere if it has none. -/
structure CallSite.Describes (arch : Arch) (e : CallSite) (i : Instruction) : Prop where
  source : e.source = i.address
  instruction : e.instruction = i.text
  kind : ∀ kind, e.kind = kind ↔ i.operation ∈ Branch.operations arch kind
  conditional : e.conditional = true ↔ i.IsConditional arch
  jumps : e.conditional = true → e.kind = .jump
  target_none : e.target = none ↔ e.mode = .registerIndirect
  mode_indirect : e.mode = .registerIndirect ↔ e.confidence = .absent
  confidence_absent : e.confidence = .absent ↔ ∀ v, .imm v ∉ i.operands
  target : ∀ t, e.target = some t ↔ ∃ v, i.LastImmediate v ∧ t = v % 2 ^ 64
  bounds : ∀ t, e.target = some t → 0 ≤ t ∧ t < 2 ^ 64
  confidence : e.target ≠ none → e.confidence =
    if e.kind = .call then .high else if e.conditional = true then .low else .medium
  absolute : e.mode = .absolute ↔
    e.target ≠ none ∧ arch = .amd64 ∧ (i.operation = "LCALL" ∨ i.operation = "LJMP")

namespace CallSite

variable {arch : Arch} {i : Instruction} {b : Branch} {e f : CallSite}

theorem target?_eq_none_iff : i.target? = none ↔ ∀ v, .imm v ∉ i.operands := by
  rw [Instruction.target?, Option.map_eq_none_iff, List.getLast?_eq_none_iff,
    List.filterMap_eq_nil_iff]
  constructor
  · intro h v hv
    exact absurd (h _ hv) (Option.some_ne_none v)
  · intro h o ho
    cases o with
    | reg name => rfl
    | mem base disp => rfl
    | imm v => exact absurd ho (h v)

theorem modeOf_ne_indirect (arch : Arch) (i : Instruction) : modeOf arch i ≠ .registerIndirect := by
  unfold modeOf
  split <;> simp

theorem modeOf_absolute_iff :
    modeOf arch i = .absolute ↔ arch = .amd64 ∧ (i.operation = "LCALL" ∨ i.operation = "LJMP") := by
  simp only [modeOf, Branch.amd64Far, Bool.and_eq_true, decide_eq_true_eq, List.contains_iff_mem,
    List.mem_cons, List.not_mem_nil, or_false]
  split <;> simp_all

theorem describes_edge (hb : Branch.of? arch i = some b) : (edge arch i b).Describes arch i := by
  have hkind (kind : EdgeKind) : b.kind = kind ↔ i.operation ∈ Branch.operations arch kind := by
    rw [← Branch.of?_kind_iff, hb]
    simp
  have hconditional : decide (b = .conditional) = true ↔ i.IsConditional arch := by
    rw [← Branch.of?_conditional_iff, hb]
    simp
  have hjumps : decide (b = .conditional) = true → b.kind = .jump := by
    intro h
    rw [of_decide_eq_true h]
    rfl
  have hconfidence : b.confidence = if b.kind = .call then .high
      else if decide (b = .conditional) = true then .low else .medium := by
    cases b <;> rfl
  have hpresent : b.confidence ≠ .absent := by cases b <;> simp [Branch.confidence]
  have hnone := @target?_eq_none_iff i
  have hsome (t : Int) := @Instruction.target?_eq_some_iff i t
  unfold edge
  cases htarget : i.target? with
  | none =>
    rw [htarget] at hnone hsome
    exact {
      source := rfl
      instruction := rfl
      kind := hkind
      conditional := hconditional
      jumps := hjumps
      target_none := by simp
      mode_indirect := by simp
      confidence_absent := by simpa using hnone
      target := hsome
      bounds := by simp
      confidence := by simp
      absolute := by simp }
  | some t =>
    rw [htarget] at hnone hsome
    exact {
      source := rfl
      instruction := rfl
      kind := hkind
      conditional := hconditional
      jumps := hjumps
      target_none := by simp [modeOf_ne_indirect]
      mode_indirect := by simp [modeOf_ne_indirect, hpresent]
      confidence_absent := by simpa [hpresent] using hnone
      target := hsome
      bounds := by
        intro t' ht'
        obtain ⟨v, -, rfl⟩ := (hsome t').mp ht'
        omega
      confidence := fun _ => hconfidence
      absolute := by simp [modeOf_absolute_iff] }

/-- All fields are told, so no other edge describes the instruction. -/
theorem Describes.unique (he : e.Describes arch i) (hf : f.Describes arch i) : e = f := by
  have hsource : e.source = f.source := he.source.trans hf.source.symm
  have htext : e.instruction = f.instruction := he.instruction.trans hf.instruction.symm
  have hkind : e.kind = f.kind := ((hf.kind e.kind).mpr ((he.kind e.kind).mp rfl)).symm
  have hconditional : e.conditional = f.conditional :=
    Bool.eq_iff_iff.mpr (he.conditional.trans hf.conditional.symm)
  have htarget : e.target = f.target :=
    Option.ext fun t => (he.target t).trans (hf.target t).symm
  have hmode : e.mode = f.mode := by
    have habsolute : e.mode = .absolute ↔ f.mode = .absolute := by
      rw [he.absolute, hf.absolute, htarget]
    have hindirect : e.mode = .registerIndirect ↔ f.mode = .registerIndirect := by
      rw [← he.target_none, ← hf.target_none, htarget]
    cases hm : e.mode <;> cases hm' : f.mode <;> simp [hm, hm'] at habsolute hindirect ⊢
  have hconfidence : e.confidence = f.confidence := by
    cases hnone : e.target with
    | none =>
      rw [he.mode_indirect.mp (he.target_none.mp hnone),
        hf.mode_indirect.mp (hf.target_none.mp (htarget ▸ hnone))]
    | some t =>
      have hpresent : e.target ≠ none := by simp [hnone]
      rw [he.confidence hpresent, hf.confidence (htarget ▸ hpresent), hkind, hconditional]
  obtain ⟨source, target, kind, mode, confidence, text, conditional⟩ := e
  obtain ⟨source', target', kind', mode', confidence', text', conditional'⟩ := f
  simp only [mk.injEq]
  exact ⟨hsource, htarget, hkind, hmode, hconfidence, htext, hconditional⟩

/-! ## All edges -/

/-- By induction on the readings: an instruction makes an edge exactly if its operation stands in the
tables, and no other reading makes one. -/
theorem describes_edges (arch : Arch) (rs : List Reading) :
    List.Forall₂ (Describes arch) (edges arch rs)
      ((Reading.instructions rs).filter fun i => Branch.isBranch arch i.operation) := by
  induction rs with
  | nil => exact .nil
  | cons r rs ih =>
    cases r with
    | failed => exact ih
    | marker => exact ih
    | insn i =>
      have hcons : Reading.instructions (.insn i :: rs) = i :: Reading.instructions rs := rfl
      rw [edges_insn_cons, hcons, List.filter_cons]
      cases hb : Branch.of? arch i with
      | some b =>
        rw [if_pos (Branch.isBranch_of_of? hb)]
        exact .cons (describes_edge hb) ih
      | none =>
        have hother : ¬ Branch.isBranch arch i.operation = true := by
          intro h
          obtain ⟨kind, hmem⟩ := Branch.isBranch_iff.mp h
          simpa [hb] using Branch.of?_isSome_of_mem hmem
        rw [if_neg hother]
        exact ih

theorem eq_of_describes {es fs : List CallSite} {is : List Instruction}
    (he : List.Forall₂ (Describes arch) es is) (hf : List.Forall₂ (Describes arch) fs is) :
    es = fs := by
  induction he generalizing fs with
  | nil =>
    cases hf
    rfl
  | cons he _ ih =>
    cases hf with
    | cons hf hrest => rw [he.unique hf, ih hrest]

end CallSite

theorem Reading.instructions_skip {gap : List Reading} (hgap : ∀ r ∈ gap, r = .failed ∨ r = .marker)
    (before after : List Reading) :
    instructions (before ++ gap ++ after) = instructions (before ++ after) := by
  have hnone : instructions gap = [] := by
    apply List.eq_nil_iff_forall_not_mem.mpr
    intro i hi
    rcases hgap _ (mem_instructions.mp hi) with h | h <;> cases h
  simp only [instructions, List.filterMap_append] at hnone ⊢
  rw [hnone, List.append_nil]

/-- **A scan for call sites is complete, and its edges are coherent.** It ends, for every succession
of readings, with one edge for each instruction whose operation stands in the tables of the
architecture, in their order, and with no other. Each edge describes its instruction, and no other
list of edges describes them all. Failed readings and markers may be put in and taken out
anywhere. -/
theorem Detector.callSites_exact (arch : Arch) (preserved : List String) :
    let d : Detector := { pursuit := .callSites, arch := arch, preserved := preserved }
    (∀ rs : List Reading,
      let branches :=
        (Reading.instructions rs).filter fun i => Branch.isBranch arch i.operation
      ∃ es, d.find {} rs = .ok (.callSites es) ∧
        List.Forall₂ (CallSite.Describes arch) es branches ∧
        ∀ fs, List.Forall₂ (CallSite.Describes arch) fs branches → fs = es) ∧
    ∀ before gap after : List Reading, (∀ r ∈ gap, r = .failed ∨ r = .marker) →
      d.find {} (before ++ gap ++ after) = d.find {} (before ++ after) := by
  intro d
  have hfind (rs : List Reading) : d.find {} rs = .ok (.callSites (CallSite.edges arch rs)) := by
    simp only [d, find, callSites, CallSite.scan_eq_edges]
    rfl
  refine ⟨?_, ?_⟩
  · intro rs branches
    have hedges := CallSite.describes_edges arch rs
    refine ⟨_, hfind rs, hedges, ?_⟩
    intro fs hfs
    exact CallSite.eq_of_describes hfs hedges
  · intro before gap after hgap
    simp only [d, find, callSites, CallSite.scan, CallSite.branches]
    rw [Reading.instructions_skip hgap]

/-- A test of a bit whose target lies above the address space, a branch on a condition behind a
failed reading and a marker, a call through a register, and an instruction that is no branch. -/
theorem Detector.callSites_exact_bit_test :
    let d : Detector := { pursuit := .callSites, arch := .arm64, preserved := [] }
    let test : Instruction :=
      ⟨0, "TBZ", "tbz", "x0, #3, #0x40", [.reg "x0", .imm 3, .imm (2 ^ 64 + 0x40)]⟩
    let cond : Instruction := ⟨4, "B", "b.eq", "#0x40", [.imm 0x40]⟩
    let call : Instruction := ⟨8, "BLR", "blr", "x8", [.reg "x8"]⟩
    let rest : List Reading := [.insn cond, .insn call, .insn ⟨12, "NOP", "nop", "", []⟩]
    ∃ e f g, d.find {} (.insn test :: .failed :: .marker :: rest) = .ok (.callSites [e, f, g]) ∧
      d.find {} (.insn test :: rest) = .ok (.callSites [e, f, g]) ∧
      (e.target = some 0x40 ∧ e.conditional = true) ∧
      (f.kind = .jump ∧ f.conditional = true) ∧
      g.kind = .call ∧ g.target = none ∧ g.mode = .registerIndirect := by
  intro d test cond call rest
  obtain ⟨hexact, hskip⟩ := callSites_exact .arm64 []
  obtain ⟨es, hfind, hall, -⟩ := hexact (.insn test :: .failed :: .marker :: rest)
  have hbranches : (Reading.instructions (.insn test :: .failed :: .marker :: rest)).filter
      (fun i => Branch.isBranch .arm64 i.operation) = [test, cond, call] := by
    decide
  rw [hbranches] at hall
  obtain ⟨e, _, he, hrest, rfl⟩ := List.forall₂_cons_right_iff.mp hall
  obtain ⟨f, _, hf, hlast, rfl⟩ := List.forall₂_cons_right_iff.mp hrest
  obtain ⟨g, _, hg, hnil, rfl⟩ := List.forall₂_cons_right_iff.mp hlast
  obtain rfl := List.forall₂_nil_right_iff.mp hnil
  have hsame := hskip [.insn test] [.failed, .marker] rest (by simp)
  have hnowhere : g.mode = .registerIndirect :=
    hg.mode_indirect.mpr (hg.confidence_absent.mpr (by simp [call]))
  refine ⟨e, f, g, hfind, hsame.symm.trans hfind, ⟨?_, ?_⟩, ⟨?_, ?_⟩, ?_, ?_, hnowhere⟩
  · exact (he.target _).mpr ⟨2 ^ 64 + 0x40, ⟨[.reg "x0", .imm 3], [], rfl, by simp⟩, by decide⟩
  · exact he.conditional.mpr (Or.inl (by decide))
  · exact (hf.kind _).mpr (by decide)
  · exact hf.conditional.mpr (Or.inr ⟨rfl, rfl, by decide⟩)
  · exact (hg.kind _).mpr (by decide)
  · exact hg.target_none.mpr hnowhere

end EntryScan
