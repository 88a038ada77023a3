import EntryScan.Proofs.Analysis

/-!
# EntryScan.Proofs.Region

Analyses in which only edges that stay in the region count as evidence.

`Sweep.Covers code base a` says that `a` is the address of a byte of the region. Below the top of
the address space these are the addresses from `base` up to `base + code.length`; a region that
reaches past the top goes on at address zero. `Sweep.covers_iff` tells the two parts apart.

* `Toolbox.analyze_region_eq_filter`: in a region that does not wrap, restricting the edges is
  restricting the candidates.
* `Toolbox.staysIn_iff_covers`: an edge counts exactly if its target is covered and does not lie
  below the base, so that in a region that wraps the edges to its second part are lost.
-/

namespace EntryScan

theorem CallSite.staysIn_eq_any (start size : Int) (e : CallSite) :
    e.staysIn start size = e.target.any fun t => decide (start ≤ t ∧ t < start + size) := by
  unfold staysIn
  cases e.target with
  | none => rfl
  | some t => simp

namespace Sweep

/-- The address of a byte of the region. -/
def Covers (code : List UInt8) (base a : Int) : Prop :=
  ∃ k : Nat, k < code.length ∧ a = (base + k) % 2 ^ 64

variable {dec : Decoder} {arch : Arch} {code : List UInt8} {base a : Int}

/-- The steps stand at addresses of the region. -/
theorem covers_step {s : Step} (hs : s ∈ steps dec.config arch code base) :
    Covers code base s.address := by
  obtain ⟨hroom, hturn⟩ := step_turn hs
  obtain ⟨hpos, hle⟩ := hturn.size_bounds (Nat.succ_pos 3) hroom
  exact ⟨s.offset, by omega, hturn.address_eq.trans (Address.wrap_eq_emod _)⟩

theorem covers_prologue {p : Prologue}
    (hp : p ∈ Prologue.scan arch arch.calleeSaved (readings dec.config arch code base)) :
    Covers code base p.address := by
  obtain ⟨t, ht, ha⟩ := (exists_prologue_iff.mp ⟨p, hp, rfl⟩).exists_step
  rw [← ha]
  exact covers_step ht

/-- The region covers the addresses from its base on, and behind the top those from zero on. -/
theorem covers_iff (hbase : 0 ≤ base) (hbase' : base < 2 ^ 64) (ha : 0 ≤ a) (ha' : a < 2 ^ 64) :
    Covers code base a ↔
      (base ≤ a ∧ a < base + code.length) ∨ (a < base ∧ a + 2 ^ 64 < base + code.length) := by
  constructor
  · rintro ⟨k, hk, rfl⟩
    omega
  · rintro (⟨hlow, hhigh⟩ | ⟨hlow, hhigh⟩)
    · exact ⟨(a - base).toNat, by omega, by omega⟩
    · exact ⟨(a + 2 ^ 64 - base).toNat, by omega, by omega⟩

end Sweep

namespace Toolbox

variable {tag : String} {arch : Arch}

/-- **Restricting the edges is restricting the candidates.** In a region that does not reach past
the top of the address space, an analysis with the restriction finds the same prologues and call
sites, and of the candidates exactly those in the region, unchanged. -/
theorem analyze_region_eq_filter (dec : Decoder) (htag : Arch.parse? tag = some arch)
    {code : List UInt8} {base : Int} (hbase : 0 ≤ base) (htop : base + code.length ≤ 2 ^ 64) :
    ∃ all within, (analyze dec.tools code base tag (some false)).outcome.1 = .ok all ∧
      (analyze dec.tools code base tag (some true)).outcome.1 = .ok within ∧
      within.prologues = all.prologues ∧ within.callSites = all.callSites ∧
      within.candidates = all.candidates.filter fun x =>
        base ≤ x.address ∧ x.address < base + code.length := by
  refine ⟨_, _, (analyze_eq_ok_iff htag).mpr rfl, (analyze_eq_ok_iff htag).mpr rfl, rfl, rfl, ?_⟩
  simp only [Analysis.found, Option.getD_some, if_true, CallSite.staysIn_eq_any]
  refine Candidate.merge_filter fun p hp => ?_
  obtain ⟨k, hk, ha⟩ := Sweep.covers_prologue hp
  rw [decide_eq_true_eq]
  omega

/-- `push rbp; call 0x1000; jmp 0x1018` at `0x1000`: the jump leads out of the region. -/
theorem analyze_region_eq_filter_jump_out :
    let code : List UInt8 := [0x55, 0xe8, 0xfa, 0xff, 0xff, 0xff, 0xeb, 0x10]
    ∃ all within, (analyze {} code 0x1000 "amd64" (some false)).outcome.1 = .ok all ∧
      (analyze {} code 0x1000 "amd64" (some true)).outcome.1 = .ok within ∧
      all.candidates.map (·.address) = [0x1000, 0x1018] ∧
      within.candidates.map (·.address) = [0x1000] := by
  intro code
  have htag : Arch.parse? "amd64" = some .amd64 := by decide
  obtain ⟨all, within, hall, hwithin, _, _, hfilter⟩ := analyze_region_eq_filter .standard htag
    (show (0 : Int) ≤ 0x1000 by decide) (show (0x1000 : Int) + code.length ≤ 2 ^ 64 by decide)
  have hfound := (analyze_eq_ok_iff htag).mp hall
  refine ⟨all, within, hall, hwithin, ?_, ?_⟩
  · rw [hfound]
    decide +kernel
  · rw [hfilter, hfound]
    decide +kernel

/-- **The filter and the addresses of the sweep.** For a base of 64 bits, an edge of an analysis
counts exactly if its target is covered by the region and does not lie below the base. So the filter
agrees with the sweep on an edge exactly if its target is not in the part behind the wrap. -/
theorem staysIn_iff_covers (dec : Decoder) (htag : Arch.parse? tag = some arch)
    (code : List UInt8) {base : Int} (hbase : 0 ≤ base) (hbase' : base < 2 ^ 64) (region : Option Bool) :
    ∃ r, (analyze dec.tools code base tag region).outcome.1 = .ok r ∧
      ∀ e ∈ r.callSites, ∀ t, e.target = some t →
        let kept := e ∈ r.callSites.filter (·.staysIn base code.length)
        (kept ↔ Sweep.Covers code base t ∧ base ≤ t) ∧
        ((kept ↔ Sweep.Covers code base t) ↔
          ¬ (t < base ∧ t + 2 ^ 64 < base + code.length)) := by
  refine ⟨_, (analyze_eq_ok_iff htag).mpr rfl, ?_⟩
  intro e he t ht kept
  obtain ⟨hlow, hhigh⟩ := CallSite.target_bounds he ht
  have hkept : kept ↔ base ≤ t ∧ t < base + code.length := by
    simp only [kept, List.mem_filter, he, CallSite.staysIn_eq_any, ht, Option.any_some,
      decide_eq_true_eq, true_and]
  rw [hkept, Sweep.covers_iff hbase hbase' hlow hhigh]
  constructor <;> omega

/-- A jump to itself just below the top of the address space counts, also in a region that wraps. -/
theorem staysIn_iff_covers_jump_to_self :
    let code : List UInt8 := [0xeb, 0xfe, 0x90, 0x90, 0x90]
    ∃ r, (analyze {} code (2 ^ 64 - 2) "amd64" none).outcome.1 = .ok r ∧
      ∃ e ∈ r.callSites.filter (·.staysIn (2 ^ 64 - 2) code.length),
        e.target = some (2 ^ 64 - 2) := by
  intro code
  have htag : Arch.parse? "amd64" = some .amd64 := by decide
  obtain ⟨r, hr, hedges⟩ := staysIn_iff_covers .standard htag code
    (show (0 : Int) ≤ 2 ^ 64 - 2 by decide) (show (2 : Int) ^ 64 - 2 < 2 ^ 64 by decide) none
  have hfound := (analyze_eq_ok_iff htag).mp hr
  let e : CallSite :=
    ⟨2 ^ 64 - 2, some (2 ^ 64 - 2), .jump, .pcRelative, .medium, "jmp 0xfffffffffffffffe", false⟩
  have he : e ∈ r.callSites := by
    rw [hfound]
    decide +kernel
  have hcovers : Sweep.Covers code (2 ^ 64 - 2) (2 ^ 64 - 2) := ⟨0, by decide, by decide⟩
  exact ⟨r, hr, e, (hedges e he _ rfl).1.mpr ⟨hcovers, Int.le_refl _⟩, rfl⟩

/-- `jmp 2; nop; nop; push rbp; mov rbp, rsp` two bytes below the top: the jump leads to the fifth
byte of the region, and does not count. -/
theorem staysIn_loses_target_across_top :
    let code : List UInt8 := [0xeb, 0x02, 0x90, 0x90, 0x55, 0x48, 0x89, 0xe5]
    ∃ r, (analyze {} code (2 ^ 64 - 2) "amd64" (some true)).outcome.1 = .ok r ∧
      ∃ e ∈ r.callSites, e.target = some 2 ∧ Sweep.Covers code (2 ^ 64 - 2) 2 ∧
        e ∉ r.callSites.filter (·.staysIn (2 ^ 64 - 2) code.length) := by
  intro code
  have htag : Arch.parse? "amd64" = some .amd64 := by decide
  refine ⟨_, (analyze_eq_ok_iff htag).mpr rfl,
    ⟨2 ^ 64 - 2, some 2, .jump, .pcRelative, .medium, "jmp 2", false⟩, ?_, rfl, ?_, ?_⟩
  · decide +kernel
  · exact ⟨4, by decide, by decide⟩
  · decide +kernel

end Toolbox
end EntryScan
