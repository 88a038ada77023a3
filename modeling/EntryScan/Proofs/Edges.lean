import EntryScan.CallSite.Scan
import EntryScan.Proofs.Address
import EntryScan.Proofs.Lookbehind

/-!
# EntryScan.Proofs.Edges

The edges of a succession of readings.

* `Instruction.LeadsTo arch kind i a`: `i` is a branch of the kind, and its last immediate, wrapped,
  is the address `a`.
* `CallSite.scan_eq_edges`: with the default settings a scan never fails.
* `CallSite.exists_edge_iff`: the edges of a kind to an address are the branches of this kind that
  lead there.
-/

namespace EntryScan

namespace Branch

/-- The operations that make edges of a kind. -/
def operations : Arch → EdgeKind → List String
  | .amd64, .call => amd64Calls
  | .amd64, .jump => amd64Jumps ++ amd64Conditionals
  | .arm64, .call => arm64Calls
  | .arm64, .jump => arm64Jumps ++ arm64Conditionals

/-- No operation both calls and jumps. -/
theorem not_jump_of_call (arch : Arch) :
    ∀ op ∈ operations arch .call, op ∉ operations arch .jump := by
  cases arch <;> decide

theorem mem_operations_of_of? {arch : Arch} {i : Instruction} {b : Branch}
    (h : of? arch i = some b) : i.operation ∈ operations arch b.kind := by
  unfold of? at h
  split at h
  · split at h
    · rename_i hcall
      cases h
      exact List.contains_iff_mem.mp hcall
    · split at h
      · rename_i hcond
        cases h
        exact List.mem_append_right _ (List.contains_iff_mem.mp hcond)
      · split at h
        · rename_i hjump
          cases h
          exact List.mem_append_left _ (List.contains_iff_mem.mp hjump)
        · cases h
  · split at h
    · rename_i hcall
      cases h
      exact List.contains_iff_mem.mp hcall
    · split at h
      · rename_i hplain
        cases h
        -- a branch on a condition has the operation of the plain branch
        rw [Bool.and_eq_true, beq_iff_eq] at hplain
        rw [hplain.1]
        decide
      · split at h
        · rename_i hcond
          cases h
          exact List.mem_append_right _ (List.contains_iff_mem.mp hcond)
        · split at h
          · rename_i hjump
            cases h
            exact List.mem_append_left _ (List.contains_iff_mem.mp hjump)
          · cases h

theorem of?_isSome_of_mem {arch : Arch} {i : Instruction} {kind : EdgeKind}
    (h : i.operation ∈ operations arch kind) : (of? arch i).isSome := by
  unfold of?
  cases arch <;> cases kind <;> simp only [operations, List.mem_append] at h <;> grind

/-- The kind of edge that an instruction makes depends on its operation alone. -/
theorem of?_kind_iff {arch : Arch} {i : Instruction} {kind : EdgeKind} :
    (∃ b, of? arch i = some b ∧ b.kind = kind) ↔ i.operation ∈ operations arch kind := by
  constructor
  · rintro ⟨b, hb, rfl⟩
    exact mem_operations_of_of? hb
  · intro h
    obtain ⟨b, hb⟩ := Option.isSome_iff_exists.mp (of?_isSome_of_mem h)
    have hown := mem_operations_of_of? hb
    refine ⟨b, hb, ?_⟩
    cases hkind : b.kind <;> cases kind
    · rfl
    · rw [hkind] at hown
      exact absurd h (not_jump_of_call arch _ hown)
    · rw [hkind] at hown
      exact absurd hown (not_jump_of_call arch _ h)
    · rfl

/-- The confidence in a resolved branch, by the default settings. -/
def confidence : Branch → Confidence
  | .call => .high
  | .jump => .medium
  | .conditional => .low

theorem parse_setting (b : Branch) : Confidence.parse (b.setting {}) = .ok b.confidence := by
  cases b <;> rfl

end Branch

namespace Instruction

/-- The value of the last operand that is an immediate. -/
def LastImmediate (i : Instruction) (v : Int) : Prop :=
  ∃ before after, i.operands = before ++ .imm v :: after ∧ ∀ o ∈ after, ∀ w, o ≠ .imm w

/-- The instruction is a branch of the kind to an address. -/
def LeadsTo (arch : Arch) (kind : EdgeKind) (i : Instruction) (a : Int) : Prop :=
  i.operation ∈ Branch.operations arch kind ∧ ∃ v, i.LastImmediate v ∧ a = v % 2 ^ 64

theorem getLast?_imm?_eq_some_iff {i : Instruction} {v : Int} :
    (i.operands.filterMap Operand.imm?).getLast? = some v ↔ i.LastImmediate v := by
  rw [List.getLast?_filterMap, List.findSome?_eq_some_iff]
  constructor
  · rintro ⟨after, o, before, hops, ho, hafter⟩
    cases o with
    | reg name => cases ho
    | mem base disp => cases ho
    | imm w =>
      cases ho
      refine ⟨before.reverse, after.reverse, ?_, ?_⟩
      · rw [← List.reverse_reverse i.operands, hops]
        simp
      · rintro o ho w rfl
        exact absurd (hafter _ (List.mem_reverse.mp ho)) (Option.some_ne_none w)
  · rintro ⟨before, after, hops, hafter⟩
    refine ⟨after.reverse, .imm v, before.reverse, ?_, rfl, ?_⟩
    · rw [hops]
      simp
    · intro o ho
      cases o with
      | reg name => rfl
      | mem base disp => rfl
      | imm w => exact absurd rfl (hafter _ (List.mem_reverse.mp ho) w)

theorem target?_eq_some_iff {i : Instruction} {a : Int} :
    i.target? = some a ↔ ∃ v, i.LastImmediate v ∧ a = v % 2 ^ 64 := by
  simp only [target?, Option.map_eq_some_iff, getLast?_imm?_eq_some_iff, Address.wrap_eq_emod]
  constructor
  · rintro ⟨v, hv, rfl⟩
    exact ⟨v, hv, rfl⟩
  · rintro ⟨v, hv, rfl⟩
    exact ⟨v, hv, rfl⟩

theorem target?_eq_none {i : Instruction} (h : ∀ o ∈ i.operands, o.imm? = none) :
    i.target? = none := by
  have himms : i.operands.filterMap Operand.imm? = [] := List.filterMap_eq_nil_iff.mpr h
  rw [target?, himms]
  rfl

theorem target?_of_last {i : Instruction} {first : List Operand} {v : Int}
    (h : i.operands = first ++ [.imm v]) : i.target? = some (Address.wrap v) := by
  simp [target?, h, Operand.imm?]

end Instruction

namespace CallSite

/-- The edge of a branch, by the default settings. -/
def edge (arch : Arch) (i : Instruction) (b : Branch) : CallSite :=
  match i.target? with
  | none => ⟨i.address, none, b.kind, .registerIndirect, .absent, i.text, b = .conditional⟩
  | some t => ⟨i.address, some t, b.kind, modeOf arch i, b.confidence, i.text, b = .conditional⟩

/-- The edges of a succession of readings, by the default settings. -/
def edges (arch : Arch) (rs : List Reading) : List CallSite :=
  (branches arch rs).map fun (i, b) => edge arch i b

theorem ofBranch_eq_edge (arch : Arch) (i : Instruction) (b : Branch) :
    ofBranch {} arch i b = .ok (edge arch i b) := by
  unfold ofBranch edge
  cases i.target? with
  | none => rfl
  | some t =>
    simp only [Branch.parse_setting]
    rfl

/-- The default settings name confidences, so that every branch gets its edge. -/
theorem scan_eq_edges (arch : Arch) (rs : List Reading) :
    scan {} arch rs = .ok (edges arch rs) := by
  simp only [scan, ofBranch_eq_edge, edges]
  exact List.mapM_pure

theorem edges_append (arch : Arch) (rs rs' : List Reading) :
    edges arch (rs ++ rs') = edges arch rs ++ edges arch rs' := by
  simp only [edges, branches, Reading.instructions, List.filterMap_append, List.map_append]

theorem edges_insn_cons (arch : Arch) (i : Instruction) (rs : List Reading) :
    edges arch (.insn i :: rs) =
      ((Branch.of? arch i).map (edge arch i)).toList ++ edges arch rs := by
  cases hb : Branch.of? arch i <;> simp [edges, branches, Reading.instructions, hb]

theorem edge_target (arch : Arch) (i : Instruction) (b : Branch) :
    (edge arch i b).target = i.target? := by
  unfold edge
  cases i.target? <;> rfl

theorem edge_source (arch : Arch) (i : Instruction) (b : Branch) :
    (edge arch i b).source = i.address := by
  unfold edge
  cases i.target? <;> rfl

theorem edge_kind (arch : Arch) (i : Instruction) (b : Branch) :
    (edge arch i b).kind = b.kind := by
  unfold edge
  cases i.target? <;> rfl

theorem mem_edges {arch : Arch} {rs : List Reading} {e : CallSite} :
    e ∈ edges arch rs ↔
      ∃ i b, .insn i ∈ rs ∧ Branch.of? arch i = some b ∧ e = edge arch i b := by
  simp only [edges, branches, List.mem_map, List.mem_filterMap, Option.map_eq_some_iff,
    Reading.mem_instructions, Prod.exists, Prod.mk.injEq]
  constructor
  · rintro ⟨i, b, ⟨j, hj, b', hb, rfl, rfl⟩, rfl⟩
    exact ⟨j, b', hj, hb, rfl⟩
  · rintro ⟨i, b, hi, hb, rfl⟩
    exact ⟨i, b, ⟨i, hi, b, hb, rfl, rfl⟩, rfl⟩

/-- What holds of the places of any two instructions holds of the sources of any two edges. -/
theorem edges_pairwise {R : Int → Int → Prop} {arch : Arch} {rs : List Reading}
    (h : (Reading.instructions rs).Pairwise fun i j => R i.address j.address) :
    (edges arch rs).Pairwise fun e f => R e.source f.source := by
  rw [edges, branches, List.pairwise_map, List.pairwise_filterMap]
  refine h.imp ?_
  rintro i j hij ⟨i', b⟩ hb ⟨j', b'⟩ hb'
  obtain ⟨_, _, hi⟩ := Option.map_eq_some_iff.mp hb
  obtain ⟨_, _, hj⟩ := Option.map_eq_some_iff.mp hb'
  cases hi
  cases hj
  rw [edge_source, edge_source]
  exact hij

/-- The edges of a kind to an address are the branches of this kind that lead there. -/
theorem exists_edge_iff {arch : Arch} {rs : List Reading} {kind : EdgeKind} {a s : Int} :
    (∃ e ∈ edges arch rs, e.kind = kind ∧ e.target = some a ∧ e.source = s) ↔
      ∃ i, .insn i ∈ rs ∧ i.LeadsTo arch kind a ∧ i.address = s := by
  constructor
  · rintro ⟨e, he, hkind, htarget, hsource⟩
    obtain ⟨i, b, hi, hb, rfl⟩ := mem_edges.mp he
    rw [edge_kind] at hkind
    rw [edge_target, Instruction.target?_eq_some_iff] at htarget
    rw [edge_source] at hsource
    exact ⟨i, hi, ⟨Branch.of?_kind_iff.mp ⟨b, hb, hkind⟩, htarget⟩, hsource⟩
  · rintro ⟨i, hi, ⟨hop, htarget⟩, hsource⟩
    obtain ⟨b, hb, hkind⟩ := Branch.of?_kind_iff.mpr hop
    refine ⟨edge arch i b, mem_edges.mpr ⟨i, b, hi, hb, rfl⟩, ?_, ?_, ?_⟩
    · rw [edge_kind, hkind]
    · rw [edge_target, Instruction.target?_eq_some_iff]
      exact htarget
    · rw [edge_source, hsource]

/-- A resolved edge leads to an address of 64 bits. -/
theorem target_bounds {arch : Arch} {rs : List Reading} {e : CallSite} {a : Int}
    (he : e ∈ edges arch rs) (ha : e.target = some a) : 0 ≤ a ∧ a < 2 ^ 64 := by
  obtain ⟨i, b, _, _, rfl⟩ := mem_edges.mp he
  rw [edge_target, Instruction.target?_eq_some_iff] at ha
  obtain ⟨v, _, rfl⟩ := ha
  omega

end CallSite
end EntryScan
