import EntryScan.Proofs.AddressMap
import EntryScan.Proofs.Analysis

/-!
# EntryScan.Proofs.Registrations

The analysis and the single scans after any registrations.

* `Registry.Reached`: the registries that registrations lead to, none of which was refused.
* `Registry.Reached.stocked`: in each of them every architecture has a detector for each pursuit,
  which may be a derived one. A registration looks at what a detector pursues and not at the
  architecture that it is made for.
* `Registry.create_given_iff`, `Registry.create_alone_iff`: with a decoder that it is given, a
  detector asks for its own architecture; without one it takes its own.

`Toolbox.entryPoints_agree_iff` says what follows for the analysis and the scans.
-/

namespace EntryScan

/-! ## Tables of a registry -/

namespace Registry

theorem lookup_assign (table : List (Arch × DetectorKind)) (arch other : Arch)
    (kind : DetectorKind) :
    (assign table arch kind).lookup other = if other = arch then some kind else table.lookup other :=
  lookup_replace (fun _ _ => rfl) table other

theorem table_set (r : Registry) (p q : Pursuit) (arch : Arch) (kind : DetectorKind) :
    (r.set p arch (some kind)).table q =
      if q = p then assign (r.table q) arch kind else r.table q := by
  cases p <;> cases q <;> simp [set, table]

/-- What registrations leave as it is: a detector of the right pursuit for every architecture, with
all decoders and preserved registers. -/
structure Stocked (r : Registry) : Prop where
  entry : ∀ p arch, ∃ kind : DetectorKind,
    (r.table p).lookup arch = some kind ∧ kind.pursues p = true
  decoders : ∀ arch, arch ∈ r.decoders
  preserved : ∀ arch, r.preservedOn arch = .ok arch.calleeSaved

theorem stocked_initial : Stocked {} := by
  refine ⟨?_, ?_, ?_⟩
  · intro p arch
    cases p <;> cases arch <;> exact ⟨_, rfl, rfl⟩
  · intro arch
    cases arch <;> decide
  · intro arch
    cases arch <;> rfl

theorem pursues_of_permit {p : Pursuit} {kind : DetectorKind}
    (h : permit p (some kind) = .ok ()) : kind.pursues p = true := by
  by_contra hother
  simp [permit, hother] at h

theorem Stocked.set {r : Registry} (h : r.Stocked) {p : Pursuit} (arch : Arch)
    {kind : Option DetectorKind} (hpermit : permit p kind = .ok ()) :
    (r.set p arch kind).Stocked := by
  cases kind with
  | none => cases p <;> exact h
  | some kind =>
    refine ⟨?_, ?_, ?_⟩
    · intro q other
      rw [table_set]
      by_cases hq : q = p
      · rw [if_pos hq, lookup_assign, hq]
        by_cases hother : other = arch
        · exact ⟨kind, if_pos hother, pursues_of_permit hpermit⟩
        · rw [if_neg hother]
          exact h.entry p other
      · rw [if_neg hq]
        exact h.entry q other
    · cases p <;> exact h.decoders
    · cases p <;> exact h.preserved

theorem register_eq_ok {r r' : Registry} {tag : String} {prologue callSite : Option DetectorKind}
    (h : r.register tag prologue callSite = .ok r') :
    ∃ arch, permit .prologues prologue = .ok () ∧ permit .callSites callSite = .ok () ∧
      r' = (r.set .prologues arch prologue).set .callSites arch callSite := by
  simp only [register, bind, Except.bind] at h
  split at h
  · cases h
  · rename_i arch _
    split at h
    · cases h
    · rename_i hprologue
      split at h
      · cases h
      · rename_i hcallSite
        cases h
        exact ⟨arch, hprologue, hcallSite, rfl⟩

theorem Stocked.register {r r' : Registry} (h : r.Stocked) {tag : String}
    {prologue callSite : Option DetectorKind} (hr : r.register tag prologue callSite = .ok r') :
    r'.Stocked := by
  obtain ⟨arch, hprologue, hcallSite, rfl⟩ := register_eq_ok hr
  exact (h.set arch hprologue).set arch hcallSite

/-- The registries that registrations lead to, none of which was refused. -/
inductive Reached : Registry → Prop where
  | initial : Reached {}
  | register {r r' : Registry} {tag : String} {prologue callSite : Option DetectorKind} :
      Reached r → r.register tag prologue callSite = .ok r' → Reached r'

theorem Reached.stocked {r : Registry} (h : r.Reached) : r.Stocked := by
  induction h with
  | initial => exact stocked_initial
  | register _ hr ih => exact ih.register hr

/-! ## Making detectors -/

section
variable {r : Registry} {p : Pursuit} {tag : String} {arch : Arch} {kind : DetectorKind}
  {d : Detector}

theorem create_eq_make (hentry : (r.table p).lookup arch = some kind)
    (htag : Arch.parse? tag = some arch) (given : Option Arch) :
    r.create p tag given = r.make kind given := by
  simp [create, lookup, Arch.parse, htag, hentry, bind, Except.bind, pure, Except.pure]

theorem make_none (r : Registry) (h : kind.pursues p = true) (hnone : kind.arch = none)
    (given : Option Arch) : ∃ f, r.make kind given = .error f := by
  cases kind with
  | detector q made =>
    cases hnone
    cases q <;> cases given <;> exact ⟨_, rfl⟩
  | derived own =>
    simp only [make, furnish, hnone]
    cases given <;> exact ⟨_, rfl⟩
  | foreign name => cases h

/-- A detector that is made for an architecture has patterns. -/
theorem make_eq_furnish (h : kind.pursues p = true) {a : Arch} (ha : kind.arch = some a)
    (given : Option Arch) : r.make kind given = r.furnish kind p given := by
  cases kind with
  | detector q made =>
    cases of_decide_eq_true h
    cases ha
    cases p <;> rfl
  | derived own =>
    cases of_decide_eq_true h
    rfl
  | foreign name => cases h

theorem decoder_name (h : r.Stocked) (a : Arch) : r.decoder a.name = .ok a := by
  have hparse : Arch.parse a.name = .ok a := by rw [Arch.parse, Arch.parse?_name]
  simp [decoder, hparse, h.decoders, bind, Except.bind, pure, Except.pure]

theorem furnish_given (h : r.Stocked) {a : Arch} (ha : kind.arch = some a) (given : Arch) :
    r.furnish kind p (some given) =
      if given = a then .ok ⟨p, a, a.calleeSaved, kind.own?⟩
      else .error (.wrongDecoder kind.name a.name given.name) := by
  unfold furnish
  rw [ha]
  by_cases hsame : given = a
  · simp [hsame, h.preserved, bind, Except.bind, pure, Except.pure]
  · simp [hsame, archText, bind, Except.bind]

theorem furnish_alone (h : r.Stocked) {a : Arch} (ha : kind.arch = some a) :
    r.furnish kind p none = .ok ⟨p, a, a.calleeSaved, kind.own?⟩ := by
  have hdecoder : r.decoder (archText (some a)) = .ok a := decoder_name h a
  unfold furnish
  rw [ha]
  simp [hdecoder, h.preserved, discard, Functor.discard, Functor.mapConst, bind, Except.bind,
    Except.map, pure, Except.pure]

/-- With a decoder that it is given, the detector that is registered is made exactly if it is one
for the architecture of the decoder. -/
theorem create_given_iff (h : r.Stocked) (hentry : (r.table p).lookup arch = some kind)
    (htag : Arch.parse? tag = some arch) :
    r.create p tag (some arch) = .ok d ↔
      kind.arch = some arch ∧ d = ⟨p, arch, arch.calleeSaved, kind.own?⟩ := by
  obtain ⟨_, hentry', hpursues⟩ := h.entry p arch
  cases hentry.symm.trans hentry'
  rw [create_eq_make hentry htag]
  cases harch : kind.arch with
  | none =>
    obtain ⟨f, hf⟩ := make_none r hpursues harch (some arch)
    simp [hf]
  | some a =>
    rw [make_eq_furnish hpursues harch, furnish_given h harch]
    by_cases hsame : arch = a
    · simp [hsame, eq_comm]
    · simp [hsame, Ne.symm hsame]

/-- On its own it is made for whatever architecture it is one for. -/
theorem create_alone_iff (h : r.Stocked) (hentry : (r.table p).lookup arch = some kind)
    (htag : Arch.parse? tag = some arch) :
    r.create p tag none = .ok d ↔
      ∃ a, kind.arch = some a ∧ d = ⟨p, a, a.calleeSaved, kind.own?⟩ := by
  obtain ⟨_, hentry', hpursues⟩ := h.entry p arch
  cases hentry.symm.trans hentry'
  rw [create_eq_make hentry htag]
  cases harch : kind.arch with
  | none =>
    obtain ⟨f, hf⟩ := make_none r hpursues harch none
    simp [hf]
  | some a =>
    rw [make_eq_furnish hpursues harch, furnish_alone h harch]
    simp [eq_comm]

end
end Registry

/-! ## Operations that are stopped -/

namespace Logged

variable {α β : Type}

/-- The operation is stopped, whatever was recorded before it. -/
def Stops (x : Logged α) : Prop :=
  ∀ records, ∃ f, (x.run.run records).1 = .error f

theorem Stops.outcome_ne {x : Logged α} (h : Stops x) (a : α) : x.outcome.1 ≠ .ok a := by
  obtain ⟨f, hf⟩ := h []
  intro hok
  cases hf.symm.trans hok

theorem stops_lift (f : Fault) : Stops (lift (.error f) : Logged α) := fun _ => ⟨f, rfl⟩

theorem Stops.bind {x : Logged α} (h : Stops x) (g : α → Logged β) : Stops (x >>= g) := by
  intro records
  obtain ⟨f, hf⟩ := h records
  refine ⟨f, ?_⟩
  rw [ExceptT.run_bind, StateT.run_bind]
  cases hrun : x.run.run records with
  | mk result records' =>
    rw [hrun] at hf
    cases hf
    rfl

theorem Returns.bind_stops {x : Logged α} {a : α} {g : α → Logged β} (hx : Returns x a)
    (hg : Stops (g a)) : Stops (x >>= g) := by
  intro records
  have hx := hx records
  cases hrun : x.run.run records with
  | mk result records' =>
    rw [hrun] at hx
    cases hx
    rw [ExceptT.run_bind, StateT.run_bind, hrun]
    exact hg records'

/-- An outcome that an operation goes on with: it is stopped, or goes on with the result. -/
theorem outcome_lift_bind {r : Except Fault α} {g : α → Logged β} {b : β} :
    (lift r >>= g).outcome.1 = .ok b ↔ ∃ a, r = .ok a ∧ (g a).outcome.1 = .ok b := by
  cases r with
  | error f => simp [(stops_lift f).bind g |>.outcome_ne b]
  | ok a =>
    constructor
    · intro h
      exact ⟨a, rfl, h⟩
    · rintro ⟨_, ⟨⟩, h⟩
      exact h

theorem Returns.outcome_iff {x : Logged α} {a b : α} (h : Returns x a) :
    x.outcome.1 = .ok b ↔ b = a := by
  rw [h.outcome, Except.ok.injEq, eq_comm]

end Logged

/-! ## The analysis and the scans -/

/-- With the default settings no detector is stopped. -/
theorem Detector.exists_callSites (dec : Decoder) (d : Detector) (rs : List Reading) :
    ∃ es, d.callSites dec.config rs = .ok es := by
  unfold callSites
  split
  · exact ⟨_, rfl⟩
  · have hscan : CallSite.scan dec.config d.arch rs = .ok _ := CallSite.scan_eq_edges d.arch rs
    rw [hscan]
    exact ⟨_, rfl⟩

namespace Toolbox

variable {dec : Decoder} {r : Registry} {tag : String} {arch : Arch} {kind : DetectorKind}

theorem detectPrologues_eq_ok_iff (h : r.Stocked)
    (hentry : (r.table .prologues).lookup arch = some kind) (htag : Arch.parse? tag = some arch)
    (code : List UInt8) (base : Int) (ps : List Prologue) :
    (detectPrologues { config := dec.config, registry := r } code base tag).outcome.1 = .ok ps ↔
      ∃ a, kind.arch = some a ∧
        ps = Detector.prologues dec.config ⟨.prologues, a, a.calleeSaved, kind.own?⟩
          (Sweep.readings dec.config a code base) := by
  unfold detectPrologues
  rw [Logged.outcome_lift_bind]
  constructor
  · rintro ⟨d, hd, hfound⟩
    obtain ⟨a, harch, rfl⟩ := (Registry.create_alone_iff h hentry htag).mp hd
    exact ⟨a, harch, (Detector.returns_scanPrologues _ _ _ _).outcome_iff.mp hfound⟩
  · rintro ⟨a, harch, rfl⟩
    have hd := (Registry.create_alone_iff h hentry htag).mpr ⟨a, harch, rfl⟩
    exact ⟨_, hd, (Detector.returns_scanPrologues _ _ _ _).outcome⟩

theorem detectCallSites_eq_ok_iff (h : r.Stocked)
    (hentry : (r.table .callSites).lookup arch = some kind) (htag : Arch.parse? tag = some arch)
    (code : List UInt8) (base : Int) (es : List CallSite) :
    (detectCallSites { config := dec.config, registry := r } code base tag).outcome.1 = .ok es ↔
      ∃ a, kind.arch = some a ∧
        Detector.callSites dec.config ⟨.callSites, a, a.calleeSaved, kind.own?⟩
          (Sweep.readings dec.config a code base) = .ok es := by
  unfold detectCallSites
  rw [Logged.outcome_lift_bind]
  constructor
  · rintro ⟨d, hd, hfound⟩
    obtain ⟨a, harch, rfl⟩ := (Registry.create_alone_iff h hentry htag).mp hd
    refine ⟨a, harch, ?_⟩
    obtain ⟨es', hes'⟩ := Detector.exists_callSites dec
      ⟨.callSites, a, a.calleeSaved, kind.own?⟩ (Sweep.readings dec.config a code base)
    rw [(Detector.returns_scanCallSites hes').outcome_iff.mp hfound]
    exact hes'
  · rintro ⟨a, harch, hes⟩
    have hd := (Registry.create_alone_iff h hentry htag).mpr ⟨a, harch, rfl⟩
    exact ⟨_, hd, (Detector.returns_scanCallSites hes).outcome⟩

theorem analyze_stops {first second : DetectorKind} (h : r.Stocked)
    (hfirst : (r.table .prologues).lookup arch = some first)
    (hsecond : (r.table .callSites).lookup arch = some second)
    (htag : Arch.parse? tag = some arch)
    (hfits : ¬ (first.arch = some arch ∧ second.arch = some arch))
    (code : List UInt8) (base : Int) (region : Option Bool) :
    (analyze { config := dec.config, registry := r } code base tag region).Stops := by
  have hparse : Arch.parse tag = .ok arch := by rw [Arch.parse, htag]
  have hname := Arch.parse?_name arch
  unfold analyze
  rw [hparse]
  refine (Logged.returns_lift arch).bind_stops ?_
  rw [Registry.decoder_name h]
  refine (Logged.returns_lift arch).bind_stops ?_
  cases hprologues : r.create .prologues arch.name (some arch) with
  | error f => exact (Logged.stops_lift f).bind _
  | ok d =>
    refine (Logged.returns_lift d).bind_stops ?_
    refine (Detector.returns_scanPrologues _ _ _ _).bind_stops ?_
    cases hcallSites : r.create .callSites arch.name (some arch) with
    | error f => exact (Logged.stops_lift f).bind _
    | ok d' =>
      refine absurd ⟨?_, ?_⟩ hfits
      · exact ((Registry.create_given_iff h hfirst hname).mp hprologues).1
      · exact ((Registry.create_given_iff h hsecond hname).mp hcallSites).1

/-- **The analysis and the single scans agree exactly if the detectors fit.** After any
registrations that were not refused, of detectors with any patterns, two detectors are registered
for an architecture. The analysis for a tag of it ends with what the two scans for that tag end
with, all by the decoder of that architecture, exactly if both detectors are made for it. If one of
them is not, the analysis is stopped. A scan ends all the same, with what is found by the decoder of
the architecture that its detector is made for, unless it is made for none. -/
theorem entryPoints_agree_iff (dec : Decoder) (hr : r.Reached)
    (htag : Arch.parse? tag = some arch) (code : List UInt8) (base : Int)
    (region : Option Bool) :
    let t : Toolbox := { config := dec.config, registry := r }
    let rs (a : Arch) := Sweep.readings dec.config a code base
    let made (p : Pursuit) (kind : DetectorKind) (a : Arch) : Detector :=
      ⟨p, a, a.calleeSaved, kind.own?⟩
    ∃ first second, (r.table .prologues).lookup arch = some first ∧
      (r.table .callSites).lookup arch = some second ∧
      ((∃ x, (t.analyze code base tag region).outcome.1 = .ok x ∧
          (t.detectPrologues code base tag).outcome.1 = .ok x.prologues ∧
          (t.detectCallSites code base tag).outcome.1 = .ok x.callSites ∧
          x.prologues = (made .prologues first arch).prologues t.config (rs arch) ∧
          (made .callSites second arch).callSites t.config (rs arch) = .ok x.callSites) ↔
        first.arch = some arch ∧ second.arch = some arch) ∧
      (¬ (first.arch = some arch ∧ second.arch = some arch) →
        ∃ f, (t.analyze code base tag region).outcome.1 = .error f) ∧
      (∀ ps, (t.detectPrologues code base tag).outcome.1 = .ok ps ↔
        ∃ a, first.arch = some a ∧ ps = (made .prologues first a).prologues t.config (rs a)) ∧
      ∀ es, (t.detectCallSites code base tag).outcome.1 = .ok es ↔
        ∃ a, second.arch = some a ∧
          (made .callSites second a).callSites t.config (rs a) = .ok es := by
  intro t rs made
  have h := hr.stocked
  obtain ⟨first, hfirst, -⟩ := h.entry .prologues arch
  obtain ⟨second, hsecond, -⟩ := h.entry .callSites arch
  have hprologues (ps : List Prologue) :
      (t.detectPrologues code base tag).outcome.1 = .ok ps ↔ _ :=
    detectPrologues_eq_ok_iff h hfirst htag code base ps
  have hcallSites (es : List CallSite) :
      (t.detectCallSites code base tag).outcome.1 = .ok es ↔ _ :=
    detectCallSites_eq_ok_iff h hsecond htag code base es
  have hstops (hfits : ¬ (first.arch = some arch ∧ second.arch = some arch)) :
      (t.analyze code base tag region).Stops :=
    analyze_stops h hfirst hsecond htag hfits code base region
  refine ⟨first, second, hfirst, hsecond, ⟨?_, ?_⟩, fun hfits => hstops hfits [], hprologues,
    hcallSites⟩
  · rintro ⟨x, hx, -⟩
    by_contra hfits
    exact (hstops hfits).outcome_ne x hx
  · rintro ⟨hmade, hmade'⟩
    have hname := Arch.parse?_name arch
    obtain ⟨es, hes⟩ := Detector.exists_callSites dec (made .callSites second arch) (rs arch)
    have hanalyze := analyze_returns_of_create (t := t) htag (Registry.decoder_name h arch)
      ((Registry.create_given_iff h hfirst hname).mpr ⟨hmade, rfl⟩)
      ((Registry.create_given_iff h hsecond hname).mpr ⟨hmade', rfl⟩) hes region
    exact ⟨_, hanalyze.outcome, (hprologues _).mpr ⟨arch, hmade, rfl⟩,
      (hcallSites _).mpr ⟨arch, hmade', hes⟩, rfl, hes⟩

/-- The prologue detector of A64 registered for x86-64, and a derived one that reports returns put in
its place. In between the analysis for A64 agrees with its scans and the one for x86-64 is stopped;
after it both agree. -/
theorem entryPoints_agree_iff_replaced :
    let returns : Derived := ⟨"ReturnDetector", some .amd64, .prologues fun _ _ i found =>
      if i.operation == "RET" then found ++ [.anchored i.address .pushOnly i.text] else found⟩
    ∃ r r' : Registry,
      Registry.register {} "X64" (some (.detector .prologues (some .arm64))) none = .ok r ∧
      r.register "amd64" (some (.derived returns)) none = .ok r' ∧
      (∃ f, (analyze { registry := r } [0xc3] 0 "amd64" none).outcome.1 = .error f) ∧
      (∃ x, (analyze { registry := r } [0xc3] 0 "aarch64" none).outcome.1 = .ok x) ∧
      ∃ x, (analyze { registry := r' } [0xc3] 8 "amd64" none).outcome.1 = .ok x ∧
        x.prologues = [⟨8, .pushOnly, "ret"⟩] := by
  intro returns
  let r : Registry := { prologues :=
    [(.amd64, .detector .prologues (some .arm64)), (.arm64, .detector .prologues (some .arm64))] }
  let r' : Registry := { prologues :=
    [(.amd64, .derived returns), (.arm64, .detector .prologues (some .arm64))] }
  have hx64 : Arch.parse "X64" = .ok .amd64 := by decide
  have hname : Arch.parse "amd64" = .ok .amd64 := by decide
  have hr : Registry.register {} "X64" (some (.detector .prologues (some .arm64))) none = .ok r := by
    rw [Registry.register, hx64]
    rfl
  have hr' : r.register "amd64" (some (.derived returns)) none = .ok r' := by
    rw [Registry.register, hname]
    rfl
  have hreached : r.Reached := .register .initial hr
  have hreached' : r'.Reached := .register hreached hr'
  have hamd64 : Arch.parse? "amd64" = some .amd64 := by decide
  have harm64 : Arch.parse? "aarch64" = some .arm64 := by decide
  obtain ⟨_, _, ⟨⟩, ⟨⟩, -, hstops, -⟩ :=
    entryPoints_agree_iff .standard hreached hamd64 [0xc3] 0 none
  obtain ⟨_, _, ⟨⟩, ⟨⟩, hagree, -⟩ := entryPoints_agree_iff .standard hreached harm64 [0xc3] 0 none
  obtain ⟨_, _, ⟨⟩, ⟨⟩, hagree', -⟩ :=
    entryPoints_agree_iff .standard hreached' hamd64 [0xc3] 8 none
  obtain ⟨x, hx, -⟩ := hagree.mpr ⟨rfl, rfl⟩
  obtain ⟨y, hy, -, -, hfound, -⟩ := hagree'.mpr ⟨rfl, rfl⟩
  have hreadings : Sweep.readings {} .amd64 [0xc3] 8 = [.insn ⟨8, "RET", "ret", "", []⟩] := by
    decide +kernel
  refine ⟨r, r', hr, hr', hstops (by decide), ⟨x, hx⟩, y, hy, ?_⟩
  have hvisited : Detector.prologues {} ⟨.prologues, .amd64, Arch.calleeSaved .amd64, some returns⟩
      (Sweep.readings {} .amd64 [0xc3] 8) = [⟨8, .pushOnly, "ret"⟩] := by
    rw [hreadings]
    rfl
  exact hfound.trans hvisited

/-- The prologue detector of A64 is accepted for x86-64. After that the analysis of x86-64 code is
stopped, and the scan for its prologues finds a frame of A64. -/
theorem entryPoints_disagree :
    ∃ r : Registry,
      Registry.register {} "amd64" (some (.detector .prologues (some .arm64))) none = .ok r ∧
      (analyze { registry := r } [0xfd, 0x7b, 0xbf, 0xa9, 0xfd, 0x03, 0x00, 0x91] 0 "amd64"
        none).outcome.1 = .error (.wrongDecoder "ARM64PrologueDetector" "arm64" "amd64") ∧
      (detectPrologues { registry := r } [0xfd, 0x7b, 0xbf, 0xa9, 0xfd, 0x03, 0x00, 0x91] 0
        "amd64").outcome.1 =
          .ok [⟨0, .stpFramePair, "stp x29, x30, [sp, #-0x10]!; mov x29, sp"⟩] := by
  refine ⟨{ prologues :=
    [(.amd64, .detector .prologues (some .arm64)), (.arm64, .detector .prologues (some .arm64))] },
    ?_, ?_, ?_⟩
  · have hname : Arch.parse "amd64" = .ok .amd64 := by decide
    rw [Registry.register, hname]
    rfl
  · decide +kernel
  · decide +kernel

end Toolbox
end EntryScan
