import EntryScan.Proofs.RawAgreement

/-!
# EntryScan.Proofs.FileFaults

A run names up to three files: its input, the log file and the output file. It touches them one
after the other, and only the input is read under guard. `Course` has one rule for each way in which
a run can come to its end, in the order in which a run meets them, and `comes_course` says that every
run takes one of them. What a refused file leads to is then read off the rules.
-/

namespace EntryScan
namespace CommandLine

variable {desk : Desk} {o : Options} {path : String} {log : Option String}

/-! ## The parts that can be stopped -/

theorem comes_setUpLog_refused {f : Disk.Fault}
    (hlog : desk.disk.target ((given o.logFile).map Disk.plainPath) = .error f) :
    Comes (setUpLog o) desk fun r _ => r = .error (.file f) := by
  unfold setUpLog
  refine (ends_modify _ ?_).bind_comes
  refine .bind ?_
  cases hfile : given o.logFile with
  | none =>
    rw [hfile] at hlog
    cases hlog
  | some file =>
    rw [hfile] at hlog
    exact comes_withFile (Desk.run_write_error desk hlog _) rfl

theorem comes_setUpLog_open (hlevel : o.logLevel = none)
    (hlog : desk.disk.target ((given o.logFile).map Disk.plainPath) = .ok log) :
    Comes (setUpLog o) desk fun r _ => ∃ f, r = .error (.log f) := by
  unfold setUpLog
  refine (ends_modify _ ((ends_openLog hlog).mono ?_).bind_comes).bind_comes
  rintro _ _ rfl
  refine (ends_get fun ls => ?_).bind_comes
  have hmake : Log.Setup.make ls (.list []) none (given o.logFile).isSome true =
      .error (.neitherNumberNorName "[]") := rfl
  simp only [hlevel, Option.map_none, Option.getD_none, hmake]
  exact comes_throw ⟨_, rfl⟩

theorem comes_writeReport_refused {setup : Log.Setup} (hown : setup.IsOwn)
    (hlog : desk.disk.target ((given o.logFile).map Disk.plainPath) = .ok log) {f : Disk.Fault}
    (hout : desk.disk.target (given o.output) = .error f) (a : Analysis)
    (sectionName : Option String) :
    Comes (writeReport o setup a sectionName) desk fun r _ =>
      ∃ f', f'.isOfSystem = f.isOfSystem ∧ r = .error (.file f') := by
  unfold writeReport
  have hdoc := (Report.build_returns_document a o.mode sectionName o.callgraph).outcome
  cases houtcome : (Report.build a o.mode sectionName o.callgraph).outcome with
  | mk report records =>
    rw [houtcome] at hdoc
    cases hdoc
    refine ((ends_writeLog hown _ hlog _).mono fun _ d _ => ?_).bind_comes
    -- the log was written in between, which can change the fault but not its kind
    obtain ⟨f', hout', hkind⟩ := Disk.target_of_error hout d.disk
    cases hfile : given o.output with
    | none =>
      rw [hfile] at hout'
      cases hout'
    | some file =>
      rw [hfile] at hout'
      exact .bind (comes_withFile (Desk.run_write_error d hout' _) ⟨f', hkind, rfl⟩)

/-! ## The courses of a run -/

/-- A run of a request on a desk comes to a result, or to the fault that stops it. -/
inductive Course (o : Options) (path : String) (desk : Desk) : Except Fault Nat → Desk → Prop
  | logRefused {f : Disk.Fault} {d : Desk}
      (hlog : desk.disk.target ((given o.logFile).map Disk.plainPath) = .error f) :
      Course o path desk (.error (.file f)) d
  | levelOpen {log : Option String} {f : Log.Fault} {d : Desk}
      (hlog : desk.disk.target ((given o.logFile).map Disk.plainPath) = .ok log)
      (hlevel : o.logLevel = none) : Course o path desk (.error (.log f)) d
  | inputRefused {log : Option String} {f : Disk.Fault} {d : Desk} (hlogs : o.Logs desk log)
      (hread : (desk.touch log).disk.read path = .error f) (hzero : f ≠ .zeroCharacter)
      (htells : d.Tells ("cannot read " ++ path ++ ": " ++ f.message)) :
      Course o path desk (.ok 1) d
  | pathRefused {log : Option String} {d : Desk} (hlogs : o.Logs desk log)
      (hread : (desk.touch log).disk.read path = .error .zeroCharacter) :
      Course o path desk (.error (.file .zeroCharacter)) d
  | imageRefused {log : Option String} {bytes : List UInt8} {f : Elf.Fault} {code : Nat} {d : Desk}
      (hlogs : o.Logs desk log) (hread : (desk.touch log).disk.read path = .ok bytes)
      (hraw : o.raw = false)
      (hload : Elf.load {} { bytes := bytes, onDisk := true } (some o.sectionName) = .error f)
      (hcode : exitCode? (.container f) = some code) (htells : d.Tells (Fault.container f).message) :
      Course o path desk (.ok code) d
  | imageStops {log : Option String} {bytes : List UInt8} {f : Elf.Fault} {d : Desk}
      (hlogs : o.Logs desk log) (hread : (desk.touch log).disk.read path = .ok bytes)
      (hraw : o.raw = false)
      (hload : Elf.load {} { bytes := bytes, onDisk := true } (some o.sectionName) = .error f)
      (hcode : exitCode? (.container f) = none) : Course o path desk (.error (.container f)) d
  | outputRefused {log : Option String} {bytes : List UInt8} {m : Material} {f f' : Disk.Fault}
      {d : Desk} (hlogs : o.Logs desk log) (hread : (desk.touch log).disk.read path = .ok bytes)
      (htakes : o.Takes bytes m) (hout : desk.disk.target (given o.output) = .error f)
      (hkind : f'.isOfSystem = f.isOfSystem) : Course o path desk (.error (.file f')) d
  | reported {log out : Option String} {bytes : List UInt8} {m : Material} {d : Desk}
      (hlogs : o.Logs desk log) (hread : (desk.touch log).disk.read path = .ok bytes)
      (htakes : o.Takes bytes m) (hout : desk.disk.target (given o.output) = .ok out) :
      Course o path desk (.ok 0) d

section
variable (hlogs : o.Logs desk log)
include hlogs

theorem comes_pathRefused (hread : (desk.touch log).disk.read path = .error .zeroCharacter) :
    Comes (carryOut {} o path) desk (Course o path desk) := by
  unfold carryOut
  refine (hlogs.ends_setUpLog.mono ?_).bind_comes
  rintro setup _ ⟨hown, rfl⟩
  refine (ends_outside ?_).bind_comes
  rw [Desk.run_readFile, hread]
  exact comes_throw (.pathRefused hlogs hread)

theorem comes_takes {bytes : List UInt8} {m : Material}
    (hread : (desk.touch log).disk.read path = .ok bytes) (htakes : o.Takes bytes m) :
    Comes (carryOut {} o path) desk (Course o path desk) := by
  have hexamine := (examine_returns htakes).outcome
  refine comes_examined hlogs hread (fun f code hf => ?_) (fun f hf => ?_) ?_
  · cases hexamine.symm.trans hf
  · cases hexamine.symm.trans hf
  · intro a sectionName _ setup d hown _
    have hlog := Disk.target_of_ok hlogs.logFile d.disk
    cases hout : desk.disk.target (given o.output) with
    | ok out =>
      have hdoc := (Report.build_returns_document a o.mode sectionName o.callgraph).outcome
      have hwrite := ends_writeReport hown hlog (Disk.target_of_ok hout d.disk) hdoc
      exact (hwrite.mono fun _ _ _ => .reported hlogs hread htakes hout).comes
    | error f =>
      obtain ⟨f', hout', hkind⟩ := Disk.target_of_error hout d.disk
      refine (comes_writeReport_refused hown hlog hout' a sectionName).mono ?_
      rintro _ d' ⟨f'', hkind', rfl⟩
      exact .outputRefused hlogs hread htakes hout (hkind'.trans hkind)

theorem comes_fails {bytes : List UInt8} {f : Elf.Fault}
    (hread : (desk.touch log).disk.read path = .ok bytes) (hraw : o.raw = false)
    (hload : Elf.load {} { bytes := bytes, onDisk := true } (some o.sectionName) = .error f) :
    Comes (carryOut {} o path) desk (Course o path desk) := by
  have hexamine := examine_error hraw hload
  refine comes_examined hlogs hread (fun f' code hf hcode d _ => ?_) (fun f' hf hcode d => ?_) ?_
  · cases hexamine.symm.trans hf
    exact .imageRefused hlogs hread hraw hload hcode ⟨d.stderr, rfl⟩
  · cases hexamine.symm.trans hf
    exact .imageStops hlogs hread hraw hload hcode
  · intro a sectionName hfound
    cases hexamine.symm.trans hfound

end

theorem comes_course (hchosen : o.Chosen) (hcheck : o.check = .ok ()) :
    Comes (carryOut {} o path) desk (Course o path desk) := by
  cases hlog : desk.disk.target ((given o.logFile).map Disk.plainPath) with
  | error f =>
    unfold carryOut
    refine .bind ((comes_setUpLog_refused hlog).mono ?_)
    rintro _ d rfl
    exact .logRefused hlog
  | ok log =>
    by_cases hlevel : o.logLevel = none
    · unfold carryOut
      refine .bind ((comes_setUpLog_open hlevel hlog).mono ?_)
      rintro _ d ⟨f, rfl⟩
      exact .levelOpen hlog hlevel
    · have hlogs : o.Logs desk log := ⟨hchosen, Option.isSome_iff_ne_none.mpr hlevel, hlog⟩
      cases hread : (desk.touch log).disk.read path with
      | error f =>
        by_cases hzero : f = .zeroCharacter
        · exact comes_pathRefused hlogs (hzero ▸ hread)
        · refine ((ends_unreadable hlogs hread hzero).mono ?_).comes
          rintro _ d ⟨rfl, _, htells⟩
          exact .inputRefused hlogs hread hzero htells
      | ok bytes =>
        rcases o.takes_or_fails hchosen hcheck bytes with ⟨m, htakes⟩ | ⟨hraw, f, hload⟩
        · exact comes_takes hlogs hread htakes
        · exact comes_fails hlogs hread hraw hload

/-! ## Refused files -/

theorem exitCode?_container_eq_one_iff (f : Elf.Fault) : exitCode? (.container f) = some 1 ↔
    ∃ family ∈ inputFamilies, (Fault.container f).family? = some family := by
  cases f <;> simp [exitCode?, Fault.isA, Fault.family?, inputFamilies, FaultFamily.lineage]

theorem Options.Unusable.exitCode?_eq_one {bytes : List UInt8} {f : Elf.Fault}
    (hunusable : o.Unusable (.ok bytes))
    (hload : Elf.load {} { bytes := bytes, onDisk := true } (some o.sectionName) = .error f) :
    exitCode? (.container f) = some 1 := by
  rw [Options.unusable_ok_iff, hload] at hunusable
  obtain ⟨_, family, hmem, _, hf, hfamily⟩ := hunusable
  cases hf
  exact (exitCode?_container_eq_one_iff f).mpr ⟨family, hmem, hfamily⟩

/-- What is wrong with an input: why it cannot be read, or why no section can be taken from it. -/
def Options.Complaint (o : Options) (path : String) (input : Except Disk.Fault (List UInt8))
    (text : String) : Prop :=
  (∃ f, input = .error f ∧ text = "cannot read " ++ path ++ ": " ++ f.message) ∨
    ∃ bytes f, input = .ok bytes ∧ text = (Fault.container f).message ∧
      Elf.load {} { bytes := bytes, onDisk := true } (some o.sectionName) = .error f

section
variable {r : Except Fault Nat} {d : Desk} (h : Course o path desk r d)
include h

theorem Course.eq_one_iff :
    r = .ok 1 ↔ ∃ log, desk.disk.target ((given o.logFile).map Disk.plainPath) = .ok log ∧
      o.logLevel ≠ none ∧ o.Unusable ((desk.touch log).disk.read path) ∧
      (desk.touch log).disk.read path ≠ .error .zeroCharacter := by
  constructor
  · rintro rfl
    cases h with
    | inputRefused hlogs hread hzero _ =>
      refine ⟨_, hlogs.logFile, Option.isSome_iff_ne_none.mp hlogs.level, .inl ⟨_, hread⟩, ?_⟩
      rw [hread]
      exact fun heq => hzero (Except.error.inj heq)
    | imageRefused hlogs hread hraw hload hcode _ =>
      obtain ⟨family, hmem, hfamily⟩ := (exitCode?_container_eq_one_iff _).mp hcode
      refine ⟨_, hlogs.logFile, Option.isSome_iff_ne_none.mp hlogs.level,
        .inr ⟨hraw, _, hread, family, hmem, _, hload, hfamily⟩, ?_⟩
      rw [hread]
      exact nofun
  · rintro ⟨log, hlog, hlevel, hunusable, hzero⟩
    cases h with
    | logRefused hlog' => cases hlog.symm.trans hlog'
    | levelOpen _ hopen => exact absurd hopen hlevel
    | inputRefused => rfl
    | pathRefused hlogs hread =>
      cases hlog.symm.trans hlogs.logFile
      exact absurd hread hzero
    | imageRefused hlogs hread _ hload hcode _ =>
      cases hlog.symm.trans hlogs.logFile
      rw [hread] at hunusable
      rw [Option.some.inj (hcode.symm.trans (hunusable.exitCode?_eq_one hload))]
    | imageStops hlogs hread _ hload hcode =>
      cases hlog.symm.trans hlogs.logFile
      rw [hread] at hunusable
      cases hcode.symm.trans (hunusable.exitCode?_eq_one hload)
    | outputRefused hlogs hread htakes | reported hlogs hread htakes =>
      cases hlog.symm.trans hlogs.logFile
      rw [hread, Options.unusable_ok_iff] at hunusable
      obtain ⟨hraw, _, _, f, hf, _⟩ := hunusable
      exact absurd hf (htakes.load_ne_error hraw f)

theorem Course.complaint (hr : r = .ok 1) :
    ∃ log text, desk.disk.target ((given o.logFile).map Disk.plainPath) = .ok log ∧
      o.Complaint path ((desk.touch log).disk.read path) text ∧ d.Tells text := by
  subst hr
  cases h with
  | inputRefused hlogs hread _ htells =>
    exact ⟨_, _, hlogs.logFile, .inl ⟨_, hread, rfl⟩, htells⟩
  | imageRefused hlogs hread _ hload _ htells =>
    exact ⟨_, _, hlogs.logFile, .inr ⟨_, _, hread, rfl, hload⟩, htells⟩

theorem Course.escapes_iff :
    (∃ f, f.isOfSystem ∧ r = .error (.file f)) ↔
      (∃ f, f.isOfSystem ∧
        desk.disk.target ((given o.logFile).map Disk.plainPath) = .error f) ∨
      ∃ log bytes m f, desk.disk.target ((given o.logFile).map Disk.plainPath) = .ok log ∧
        o.logLevel ≠ none ∧ (desk.touch log).disk.read path = .ok bytes ∧ o.Takes bytes m ∧
        f.isOfSystem ∧ desk.disk.target (given o.output) = .error f := by
  constructor
  · rintro ⟨f, hsystem, rfl⟩
    cases h with
    | logRefused hlog => exact .inl ⟨f, hsystem, hlog⟩
    | pathRefused => cases hsystem
    | outputRefused hlogs hread htakes hout hkind =>
      exact .inr ⟨_, _, _, _, hlogs.logFile, Option.isSome_iff_ne_none.mp hlogs.level, hread,
        htakes, hkind ▸ hsystem, hout⟩
  · rintro (⟨f, hsystem, hlog⟩ | ⟨log, bytes, m, f, hlog, hlevel, hread, htakes, hsystem, hout⟩)
    · cases h with
      | logRefused hlog' =>
        cases hlog.symm.trans hlog'
        exact ⟨f, hsystem, rfl⟩
      | levelOpen hlog' => cases hlog.symm.trans hlog'
      | inputRefused hlogs | pathRefused hlogs | imageRefused hlogs | imageStops hlogs
      | outputRefused hlogs | reported hlogs => cases hlog.symm.trans hlogs.logFile
    · cases h with
      | logRefused hlog' => cases hlog.symm.trans hlog'
      | levelOpen _ hopen => exact absurd hopen hlevel
      | inputRefused hlogs hread' | pathRefused hlogs hread' =>
        cases hlog.symm.trans hlogs.logFile
        cases hread.symm.trans hread'
      | imageRefused hlogs hread' hraw hload | imageStops hlogs hread' hraw hload =>
        cases hlog.symm.trans hlogs.logFile
        cases hread.symm.trans hread'
        exact absurd hload (htakes.load_ne_error hraw _)
      | outputRefused _ _ _ hout' hkind =>
        cases hout.symm.trans hout'
        exact ⟨_, hkind.trans hsystem, rfl⟩
      | reported _ _ _ hout' => cases hout.symm.trans hout'

end

theorem runCommand_course {argv : List String} (loggers : Log.Loggers)
    (hparse : Options.parse {} argv = .ok o) (hhelp : o.help = false) (hcheck : o.check = .ok ())
    (hpath : o.path = some path) :
    ∃ r s d, Session.runCommand { loggers := loggers } argv desk = (r, s, d) ∧
      Course o path desk r d := by
  have hrun := run_eq_carryOut hparse hhelp hcheck hpath
  obtain ⟨r, loggers', d, heq, hcourse⟩ :=
    comes_course (Options.chosen_of_parse hparse) hcheck loggers
  rw [← hrun] at heq
  exact ⟨r, _, d, by rw [Session.runCommand, heq], hcourse⟩

/-- **Only a refused input becomes an exit code.** The arguments are accepted. The input is what the
path leads to once the log file is there. Then the exit code is 1 exactly if the log file can be
written, the log level is not left open, and the input is unusable other than by a zero character in
its path; the last message is then the complaint about the input. But a fault of the system escapes
exactly if the log file cannot be written, or if material is taken from the input and the output file
cannot be written. -/
theorem runCommand_file_faults {argv : List String} (loggers : Log.Loggers)
    (hparse : Options.parse {} argv = .ok o) (hhelp : o.help = false) (hcheck : o.check = .ok ())
    (hpath : o.path = some path) :
    let ran := Session.runCommand { loggers := loggers } argv desk
    let logFile := desk.disk.target ((given o.logFile).map Disk.plainPath)
    let output := desk.disk.target (given o.output)
    let input (log : Option String) := (desk.touch log).disk.read path
    (ran.1 = .ok 1 ↔ ∃ log, logFile = .ok log ∧ o.logLevel ≠ none ∧ o.Unusable (input log) ∧
      input log ≠ .error .zeroCharacter) ∧
    (ran.1 = .ok 1 → ∃ log text, logFile = .ok log ∧ o.Complaint path (input log) text ∧
      ran.2.2.Tells text) ∧
    ((∃ f, f.isOfSystem ∧ ran.1 = .error (.file f)) ↔
      (∃ f, f.isOfSystem ∧ logFile = .error f) ∨
      ∃ log bytes m f, logFile = .ok log ∧ o.logLevel ≠ none ∧ input log = .ok bytes ∧
        o.Takes bytes m ∧ f.isOfSystem ∧ output = .error f) := by
  intro ran logFile output input
  obtain ⟨r, s, d, hran, hcourse⟩ : ∃ r s d, ran = (r, s, d) ∧ Course o path desk r d :=
    runCommand_course loggers hparse hhelp hcheck hpath
  rw [hran]
  exact ⟨hcourse.eq_one_iff, hcourse.complaint, hcourse.escapes_iff⟩

/-- The input is missing and the output file could not be written: the run ends with 1 before it
gets as far as that. -/
theorem runCommand_file_faults_missing_input :
    let desk : Desk := { disk := ⟨[]⟩, time := "" }
    let ran := Session.runCommand {} ["p", "--log-file=l", "-o", "no/q"] desk
    ran.1 = .ok 1 ∧ (∃ text, ran.2.2.Tells text) ∧
      ¬ ∃ f, f.isOfSystem ∧ ran.1 = .error (.file f) := by
  intro desk
  let o : Options :=
    { Options.defaults {} with path := some "p", logFile := some "l", output := some "no/q" }
  have hparse : Options.parse {} ["p", "--log-file=l", "-o", "no/q"] = .ok o := by decide +kernel
  have hlog : desk.disk.target ((given o.logFile).map Disk.plainPath) = .ok (some "l") := by
    decide +kernel
  have hread : (desk.touch (some "l")).disk.read "p" = .error (.missing "p") := by decide +kernel
  have hzero : (desk.touch (some "l")).disk.read "p" ≠ .error .zeroCharacter := by
    rw [hread]
    exact nofun
  have hfaults := @runCommand_file_faults desk o "p" _ {} hparse rfl rfl rfl
  -- the run itself is not evaluated
  dsimp only at hfaults ⊢
  generalize Session.runCommand {} ["p", "--log-file=l", "-o", "no/q"] desk = ran at hfaults ⊢
  have hone := hfaults.1.mpr ⟨_, hlog, nofun, .inl ⟨_, hread⟩, hzero⟩
  obtain ⟨_, text, _, _, htells⟩ := hfaults.2.1 hone
  refine ⟨hone, ⟨text, htells⟩, ?_⟩
  rintro ⟨f, _, hf⟩
  cases hone.symm.trans hf

/-- Neither a log file nor an output file in a directory that is not there becomes an exit code. -/
theorem runCommand_file_faults_escape :
    let b : Elf.Blueprint := ⟨[0xc3], 62, 0, ".text", none⟩
    let desk : Desk := { disk := ⟨[("p", b.image)]⟩, time := "" }
    (∃ o, Options.parse {} ["p", "--log-file=/no/l"] = .ok o ∧ o.help = false ∧
      o.check = .ok () ∧ (Session.runCommand {} ["p", "--log-file=/no/l"] desk).1 =
        .error (.file (.missing "/no/l"))) ∧
    (∃ o, Options.parse {} ["p", "-o", "no/q"] = .ok o ∧ o.help = false ∧ o.check = .ok () ∧
      ∃ f, f.isOfSystem ∧ (Session.runCommand {} ["p", "-o", "no/q"] desk).1 =
        .error (.file f)) := by
  intro b desk
  constructor
  · have hparse : Options.parse {} ["p", "--log-file=/no/l"] =
        .ok { Options.defaults {} with path := some "p", logFile := some "/no/l" } := by
      decide +kernel
    exact ⟨_, hparse, rfl, rfl, by decide +kernel⟩
  · let o : Options := { Options.defaults {} with path := some "p", output := some "no/q" }
    have hparse : Options.parse {} ["p", "-o", "no/q"] = .ok o := by decide +kernel
    have hlength : b.image.length = 280 := by decide +kernel
    have hfits : b.Fits := ⟨by rw [hlength]; decide, by decide⟩
    have htakes : o.Takes b.image ⟨b.code, b.address.toNat, .amd64, some b.name⟩ :=
      takes_section hfits (by decide) (show ".text" ≠ "" by decide)
        (show ".text" ≠ ".shstrtab" by decide) rfl (.inl ⟨rfl, rfl⟩) "p" {}
    have hread : (desk.touch none).disk.read "p" = .ok b.image := by decide +kernel
    have hout : desk.disk.target (given o.output) = .error (.missing "no/q") := by decide +kernel
    obtain ⟨r, s, d, heq, hcourse⟩ : ∃ r s d, Session.runCommand {} ["p", "-o", "no/q"] desk =
        (r, s, d) ∧ Course o "p" desk r d := runCommand_course {} hparse rfl rfl rfl
    obtain ⟨f, hsystem, hr⟩ :=
      hcourse.escapes_iff.mpr (.inr ⟨none, _, _, _, rfl, nofun, hread, htakes, rfl, hout⟩)
    exact ⟨o, hparse, rfl, rfl, f, hsystem, (congrArg (·.1) heq).trans hr⟩

end CommandLine
end EntryScan
