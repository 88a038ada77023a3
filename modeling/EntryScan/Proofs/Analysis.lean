import EntryScan.Analysis
import EntryScan.Proofs.Edges
import EntryScan.Proofs.Merge
import EntryScan.Proofs.Patterns
import EntryScan.Proofs.Walk

/-!
# EntryScan.Proofs.Analysis

The analysis of a region, measured against the steps of the sweep over it.

* `Logged.Returns x a`: the operation `x` is not stopped and ends with `a`.
* `Toolbox.analyze_returns`: with the default settings and detectors and any decoder, an analysis
  for a known tag ends with `Analysis.found`, which is made of the two scans and the merge alone.
* `Sweep.PatternAt`, `Sweep.BranchFrom`: what the steps of a sweep say about an address.

`Toolbox.analyze_sound_complete` puts it together: the candidates are the addresses that the steps
speak for, each with the evidence that the steps give.
-/

namespace EntryScan

/-! ## Operations that are not stopped -/

namespace Logged

/-- The operation ends with a result, whatever was recorded before it. -/
def Returns {α : Type} (x : Logged α) (a : α) : Prop :=
  ∀ records, (x.run.run records).1 = .ok a

variable {α β : Type} {x : Logged α} {a : α} {b : β}

theorem Returns.outcome (h : Returns x a) : x.outcome.1 = .ok a := h []

theorem returns_pure (a : α) : Returns (pure a) a := fun _ => rfl

theorem returns_log (logger : String) (level : Log.Level) (message : String) :
    Returns (log logger level message) () := fun _ => rfl

theorem returns_lift (a : α) : Returns (lift (.ok a)) a := fun _ => rfl

/-- An operation goes on with the result of the one before it. -/
theorem Returns.bind {f : α → Logged β} (hx : Returns x a) (hf : Returns (f a) b) :
    Returns (x >>= f) b := by
  intro records
  have hx := hx records
  cases hrun : x.run.run records with
  | mk r records' =>
    rw [hrun] at hx
    cases hx
    rw [ExceptT.run_bind, StateT.run_bind, hrun]
    exact hf records'

end Logged

/-! ## What an analysis ends with -/

/-- What an analysis finds in a region: both scans, and the merge of what counts as evidence. -/
def Analysis.found (dec : Decoder) (arch : Arch) (code : List UInt8) (base : Int)
    (within : Bool) : Analysis :=
  let rs := Sweep.readings dec.config arch code base
  let prologues := Prologue.scan arch arch.calleeSaved rs
  let edges := CallSite.edges arch rs
  let counted := if within then edges.filter (·.staysIn base code.length) else edges
  ⟨arch, base, code.length, prologues, edges, Candidate.merge dec.config prologues counted⟩

theorem Arch.parse?_name (arch : Arch) : parse? arch.name = some arch := by
  cases arch <;> rfl

theorem Registry.decoder_default (arch : Arch) : decoder {} arch.name = .ok arch := by
  cases arch <;> rfl

theorem Registry.create_default (pursuit : Pursuit) (arch : Arch) :
    create {} pursuit arch.name (some arch) =
      .ok { pursuit := pursuit, arch := arch, preserved := arch.calleeSaved } := by
  cases pursuit <;> cases arch <;> rfl

theorem Sweep.returns_logFailures (arch : Arch) (code : List UInt8) (base : Int)
    (ss : List Step) : (logFailures arch code base ss).Returns () := by
  unfold logFailures
  dsimp only
  split
  · exact Logged.returns_pure ()
  · exact Logged.returns_log _ _ _

theorem Detector.returns_scanPrologues (c : Config) (d : Detector) (code : List UInt8)
    (base : Int) : (d.scanPrologues c code base).Returns
      (d.prologues c (Sweep.readings c d.arch code base)) := by
  unfold scanPrologues Sweep.logged
  exact .bind (.bind (Sweep.returns_logFailures _ _ _ _) (Logged.returns_pure _))
    (.bind (Logged.returns_log _ _ _) (Logged.returns_pure _))

theorem Detector.returns_scanCallSites {c : Config} {d : Detector} {code : List UInt8}
    {base : Int} {found : List CallSite}
    (h : d.callSites c (Sweep.readings c d.arch code base) = .ok found) :
    (d.scanCallSites c code base).Returns found := by
  unfold scanCallSites
  dsimp only
  rw [← Sweep.readings, h]
  exact .bind (Logged.returns_lift found)
    (.bind (Sweep.returns_logFailures _ _ _ _)
      (.bind (Logged.returns_log _ _ _) (Logged.returns_pure found)))

/-- With the default settings every call site is found. -/
theorem Detector.callSites_eq_edges (dec : Decoder) (arch : Arch) (preserved : List String)
    (rs : List Reading) :
    callSites dec.config { pursuit := .callSites, arch := arch, preserved := preserved } rs =
      .ok (CallSite.edges arch rs) := by
  have hscan : CallSite.scan dec.config arch rs = .ok _ := CallSite.scan_eq_edges arch rs
  rw [callSites, hscan]
  rfl

theorem Toolbox.merge_returns (t : Toolbox) (ps : List Prologue) (es : List CallSite) :
    (t.merge ps es).Returns (Candidate.merge t.config ps es) := by
  unfold merge
  exact .bind (Logged.returns_log _ _ _) (Logged.returns_pure _)

theorem Toolbox.callGraph_returns (cs : List Candidate) (es : List CallSite) (includeJumps : Bool) :
    (callGraph cs es includeJumps).Returns (.build cs es includeJumps) := by
  unfold callGraph
  exact .bind (Logged.returns_log _ _ _) (Logged.returns_pure _)

/-- An analysis for a known tag is not stopped if both detectors are made with the decoder of its
architecture. -/
theorem Toolbox.analyze_returns_of_create {t : Toolbox} {tag : String} {arch : Arch}
    {d e : Detector} {code : List UInt8} {base : Int} {es : List CallSite}
    (htag : Arch.parse? tag = some arch) (hdecoder : t.registry.decoder arch.name = .ok arch)
    (hd : t.registry.create .prologues arch.name (some arch) = .ok d)
    (he : t.registry.create .callSites arch.name (some arch) = .ok e)
    (hes : e.callSites t.config (Sweep.readings t.config e.arch code base) = .ok es)
    (region : Option Bool) :
    let ps := d.prologues t.config (Sweep.readings t.config d.arch code base)
    let counted :=
      if region.getD t.config.inRegionOnly then es.filter (·.staysIn base code.length) else es
    (t.analyze code base tag region).Returns
      ⟨arch, base, code.length, ps, es, Candidate.merge t.config ps counted⟩ := by
  intro ps counted
  have hparse : Arch.parse tag = .ok arch := by rw [Arch.parse, htag]
  unfold analyze
  rw [hparse]
  refine .bind (Logged.returns_lift arch) ?_
  rw [hdecoder]
  refine .bind (Logged.returns_lift arch) ?_
  rw [hd]
  refine .bind (Logged.returns_lift _) (.bind (Detector.returns_scanPrologues _ _ _ _) ?_)
  rw [he]
  refine .bind (Logged.returns_lift _) (.bind (Detector.returns_scanCallSites hes) ?_)
  exact .bind (merge_returns _ _ _) (.bind (Logged.returns_log _ _ _) (Logged.returns_pure _))

section
variable {dec : Decoder} {tag : String} {arch : Arch}

/-- With the default settings and detectors, an analysis for a known tag is not stopped. -/
theorem Toolbox.analyze_returns (htag : Arch.parse? tag = some arch) (code : List UInt8)
    (base : Int) (region : Option Bool) :
    (analyze dec.tools code base tag region).Returns
      (Analysis.found dec arch code base (region.getD false)) := by
  have hes := Detector.callSites_eq_edges dec arch arch.calleeSaved
    (Sweep.readings dec.config arch code base)
  exact analyze_returns_of_create (t := dec.tools) htag (Registry.decoder_default arch)
    (Registry.create_default .prologues arch) (Registry.create_default .callSites arch) hes region

theorem Registry.create_alone (htag : Arch.parse? tag = some arch) (pursuit : Pursuit) :
    create {} pursuit tag none =
      .ok { pursuit := pursuit, arch := arch, preserved := arch.calleeSaved } := by
  have hparse : Arch.parse tag = .ok arch := by rw [Arch.parse, htag]
  unfold create lookup
  rw [hparse]
  cases pursuit <;> cases arch <;> rfl

/-- The scan for prologues alone is not stopped. -/
theorem Toolbox.detectPrologues_returns (htag : Arch.parse? tag = some arch) (code : List UInt8)
    (base : Int) :
    (detectPrologues dec.tools code base tag).Returns
      (Prologue.scan arch arch.calleeSaved (Sweep.readings dec.config arch code base)) := by
  unfold detectPrologues
  rw [Registry.create_alone htag]
  exact .bind (Logged.returns_lift _) (Detector.returns_scanPrologues _ _ _ _)

/-- The scan for call sites alone is not stopped. -/
theorem Toolbox.detectCallSites_returns (htag : Arch.parse? tag = some arch) (code : List UInt8)
    (base : Int) :
    (detectCallSites dec.tools code base tag).Returns
      (CallSite.edges arch (Sweep.readings dec.config arch code base)) := by
  unfold detectCallSites
  rw [Registry.create_alone htag]
  exact .bind (Logged.returns_lift _)
    (Detector.returns_scanCallSites (Detector.callSites_eq_edges dec arch _ _))

theorem Toolbox.analyze_eq_ok_iff (htag : Arch.parse? tag = some arch) {code : List UInt8}
    {base : Int} {region : Option Bool} {r : Analysis} :
    (analyze dec.tools code base tag region).outcome.1 = .ok r ↔
      r = Analysis.found dec arch code base (region.getD false) := by
  rw [(analyze_returns htag code base region).outcome, Except.ok.injEq, eq_comm]

end

/-! ## What the steps of a sweep say -/

namespace Sweep

/-- A step completes a pattern, with the look-behind that the steps before it leave, and the pattern
is anchored at the instruction of a step at the address. -/
def PatternAt (arch : Arch) (ss : List Step) (a : Int) : Prop :=
  ∃ earlier s later i anchor kind text, ss = earlier ++ s :: later ∧ s.reading = .insn i ∧
    Matches arch (Reading.lookbehind (earlier.map (·.reading))) i anchor kind text ∧
    ∃ t ∈ ss, t.reading = .insn anchor ∧ t.address = a

theorem PatternAt.exists_step {arch : Arch} {ss : List Step} {a : Int} (h : PatternAt arch ss a) :
    ∃ t ∈ ss, t.address = a := by
  obtain ⟨_, _, _, _, _, _, _, _, _, _, t, ht, _, ha⟩ := h
  exact ⟨t, ht, ha⟩

/-- A step at the source is a branch of the kind to the address. -/
def BranchFrom (arch : Arch) (ss : List Step) (kind : EdgeKind) (source a : Int) : Prop :=
  ∃ s ∈ ss, ∃ i, s.reading = .insn i ∧ s.address = source ∧ i.LeadsTo arch kind a

variable {dec : Decoder} {arch : Arch} {code : List UInt8} {base : Int}

theorem mem_readings {i : Instruction} : .insn i ∈ readings dec.config arch code base ↔
    ∃ s ∈ steps dec.config arch code base, s.reading = .insn i :=
  List.mem_map

theorem step_turn {s : Step} (hs : s ∈ steps dec.config arch code base) :
    HasRoom dec.config arch code s.offset ∧ Turn dec.config arch code base s.offset s :=
  (steps_walk (Nat.succ_pos 3)).turn_of_mem hs

theorem step_insn_address {s : Step} {i : Instruction} (hs : s ∈ steps dec.config arch code base)
    (hi : s.reading = .insn i) : i.address = s.address :=
  (step_turn hs).2.insn_address hi

theorem wrap_step_address {s : Step} (hs : s ∈ steps dec.config arch code base) :
    Address.wrap s.address = s.address := by
  rw [(step_turn hs).2.address_eq, Address.wrap_wrap]

/-- What holds of the places of any two steps holds of the places of any two instructions. -/
theorem instructions_pairwise {R : Int → Int → Prop}
    (h : (steps dec.config arch code base).Pairwise fun s t => R s.address t.address) :
    (Reading.instructions (readings dec.config arch code base)).Pairwise
      fun i j => R i.address j.address := by
  refine Reading.instructions_pairwise ?_
  rw [readings, List.pairwise_map]
  refine h.imp_of_mem ?_
  intro s t hs ht hR i j hi hj
  rw [step_insn_address hs hi, step_insn_address ht hj]
  exact hR

/-- The instruction that a match is anchored at is the instruction of a step. -/
theorem exists_anchor {earlier : List Step} (later : List Step) {s : Step}
    {i anchor : Instruction} {kind : PrologueKind} {text : String} (hi : s.reading = .insn i)
    (hm : Matches arch (Reading.lookbehind (earlier.map (·.reading))) i anchor kind text) :
    ∃ t ∈ earlier ++ s :: later, t.reading = .insn anchor := by
  cases hm.anchor_cases with
  | inl hown =>
    subst hown
    exact ⟨s, by simp, hi⟩
  | inr hbehind =>
    obtain ⟨t, ht, hanchor⟩ := List.mem_map.mp (Reading.mem_of_lookbehind hbehind)
    exact ⟨t, List.mem_append_left _ ht, hanchor⟩

theorem exists_prologue_iff {a : Int} :
    (∃ p ∈ Prologue.scan arch arch.calleeSaved (readings dec.config arch code base), p.address = a) ↔
      PatternAt arch (steps dec.config arch code base) a := by
  constructor
  · rintro ⟨p, hp, rfl⟩
    obtain ⟨_, i, _, kind, hrs, anchor, text, hm, rfl⟩ := Prologue.mem_scan.mp hp
    obtain ⟨earlier, rest, hss, rfl, hrest⟩ := List.map_eq_append_iff.mp hrs
    obtain ⟨s, later, rfl, hi, -⟩ := List.map_eq_cons_iff.mp hrest
    obtain ⟨t, ht, hanchor⟩ := exists_anchor later hi hm
    rw [← hss] at ht
    refine ⟨earlier, s, later, i, anchor, kind, text, hss, hi, hm, t, ht, hanchor, ?_⟩
    exact (wrap_step_address ht).symm.trans (congrArg _ (step_insn_address ht hanchor).symm)
  · rintro ⟨earlier, s, later, i, anchor, kind, text, hss, hi, hm, t, ht, hanchor, rfl⟩
    refine ⟨.anchored anchor.address kind text, Prologue.mem_scan.mpr ?_, ?_⟩
    · refine ⟨earlier.map (·.reading), i, later.map (·.reading), kind, ?_, anchor, text, hm, rfl⟩
      rw [readings, hss, List.map_append, List.map_cons, hi]
    · rw [← wrap_step_address ht, ← step_insn_address ht hanchor]
      rfl

theorem exists_edge_iff_branchFrom {kind : EdgeKind} {source a : Int} :
    (∃ e ∈ CallSite.edges arch (readings dec.config arch code base),
      e.kind = kind ∧ e.target = some a ∧ e.source = source) ↔
      BranchFrom arch (steps dec.config arch code base) kind source a := by
  rw [CallSite.exists_edge_iff]
  constructor
  · rintro ⟨i, hi, hleads, rfl⟩
    obtain ⟨s, hs, hreading⟩ := mem_readings.mp hi
    exact ⟨s, hs, i, hreading, (step_insn_address hs hreading).symm, hleads⟩
  · rintro ⟨s, hs, i, hreading, rfl, hleads⟩
    exact ⟨i, mem_readings.mpr ⟨s, hs, hreading⟩, hleads, step_insn_address hs hreading⟩

/-- The scans speak for an address if and only if the steps do. -/
theorem spokenFor_iff {a : Int} :
    Candidate.SpokenFor (Prologue.scan arch arch.calleeSaved (readings dec.config arch code base))
        (CallSite.edges arch (readings dec.config arch code base)) a ↔
      PatternAt arch (steps dec.config arch code base) a ∨
        ∃ kind source, BranchFrom arch (steps dec.config arch code base) kind source a := by
  rw [Candidate.SpokenFor, exists_prologue_iff]
  simp only [← exists_edge_iff_branchFrom]
  constructor
  · rintro (hp | ⟨e, he, ha⟩)
    · exact Or.inl hp
    · exact Or.inr ⟨e.kind, e.source, e, he, rfl, ha, rfl⟩
  · rintro (hp | ⟨_, _, e, he, _, ha, _⟩)
    · exact Or.inl hp
    · exact Or.inr ⟨e, he, ha⟩

end Sweep

/-! ## The candidates -/

/-- **The candidates are what the sweep speaks for.** Whatever the decoder, and without a
restriction to the region, an analysis ends, for every region, and its candidates are the addresses at which a pattern is anchored
or to which a branch leads, in ascending order and each once. The sources of a candidate are those of
the calls and of the jumps that lead to it, and it has a prologue kind exactly if a pattern is
anchored there. -/
theorem Toolbox.analyze_sound_complete (dec : Decoder) (code : List UInt8) (base : Int)
    {tag : String} {arch : Arch} (htag : Arch.parse? tag = some arch)
    {region : Option Bool} (hregion : region.getD false = false) :
    let ss := Sweep.steps dec.config arch code base
    ∃ r, (analyze dec.tools code base tag region).outcome.1 = .ok r ∧
      r.candidates.Pairwise (fun x y => x.address < y.address) ∧
      (∀ a, a ∈ r.candidates.map (·.address) ↔
        Sweep.PatternAt arch ss a ∨ ∃ kind source, Sweep.BranchFrom arch ss kind source a) ∧
      ∀ x ∈ r.candidates,
        (∀ s, s ∈ x.calledFrom ↔ Sweep.BranchFrom arch ss .call s x.address) ∧
        (∀ s, s ∈ x.jumpedFrom ↔ Sweep.BranchFrom arch ss .jump s x.address) ∧
        (x.prologueKind.isSome ↔ Sweep.PatternAt arch ss x.address) := by
  intro ss
  refine ⟨Analysis.found dec arch code base false, ?_, ?_, ?_, ?_⟩
  · rw [analyze_eq_ok_iff htag, hregion]
  · exact Candidate.merge_ascending _ _ _
  · intro a
    exact Candidate.mem_addresses_merge.trans Sweep.spokenFor_iff
  · intro x hx
    have hevidence := (Candidate.mem_merge.mp hx).2
    rw [hevidence]
    refine ⟨fun s => ?_, fun s => ?_, ?_⟩
    · exact (Candidate.mem_sources .call).trans Sweep.exists_edge_iff_branchFrom
    · exact (Candidate.mem_sources .jump).trans Sweep.exists_edge_iff_branchFrom
    · exact Candidate.prologueKind_isSome_iff.trans Sweep.exists_prologue_iff

/-- `jmp 2; nop; nop; push rbp; mov rbp, rsp` two bytes below the top of the address space: the
frame is set up behind the wrap, where the jump leads. -/
theorem Toolbox.analyze_sound_complete_across_top :
    let code : List UInt8 := [0xeb, 0x02, 0x90, 0x90, 0x55, 0x48, 0x89, 0xe5]
    ∃ r, (analyze {} code (2 ^ 64 - 2) " X86_64 " none).outcome.1 = .ok r ∧
      ∃ x ∈ r.candidates, x.address = 2 ∧ 2 ^ 64 - 2 ∈ x.jumpedFrom ∧ x.prologueKind.isSome := by
  intro code
  let ss := Sweep.steps {} .amd64 code (2 ^ 64 - 2)
  let push : Instruction := ⟨2, "PUSH", "push", "rbp", [.reg "rbp"]⟩
  let move : Instruction := ⟨3, "MOV", "mov", "rbp, rsp", [.reg "rbp", .reg "rsp"]⟩
  have hbranch : Sweep.BranchFrom .amd64 ss .jump (2 ^ 64 - 2) 2 := by
    let jump : Instruction := ⟨2 ^ 64 - 2, "JMP", "jmp", "2", [.imm 2]⟩
    refine ⟨⟨0, 2 ^ 64 - 2, 2, .insn jump⟩, ?_, jump, rfl, rfl, ?_⟩
    · decide +kernel
    · exact ⟨by decide, 2, ⟨[], [], rfl, by simp⟩, by decide⟩
  have hpattern : Sweep.PatternAt .amd64 ss 2 := by
    have hbehind : Reading.lookbehind ((ss.take 4).map (·.reading)) = some push := by
      decide +kernel
    have hclassic : Matches .amd64 (some push) move push .classic _ := .classic rfl rfl rfl rfl
    rw [← hbehind] at hclassic
    refine ⟨ss.take 4, ⟨5, 3, 3, .insn move⟩, [], move, push, _, _, ?_, rfl, hclassic, ?_⟩
    · decide +kernel
    · exact ⟨⟨4, 2, 1, .insn push⟩, by decide +kernel, rfl, rfl⟩
  obtain ⟨r, hr, _, haddresses, hevidence⟩ := analyze_sound_complete .standard code (2 ^ 64 - 2)
    (show Arch.parse? " X86_64 " = some .amd64 by decide)
    (show (none : Option Bool).getD false = false from rfl)
  obtain ⟨x, hx, ha⟩ := List.mem_map.mp ((haddresses 2).mpr (Or.inl hpattern))
  obtain ⟨_, hjumped, hkind⟩ := hevidence x hx
  rw [ha] at hjumped hkind
  exact ⟨r, hr, x, hx, ha, (hjumped _).mpr hbranch, hkind.mpr hpattern⟩

end EntryScan
