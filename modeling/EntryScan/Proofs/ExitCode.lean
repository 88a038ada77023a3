import EntryScan.Session
import EntryScan.Proofs.Desk
import EntryScan.Proofs.Material

/-!
# EntryScan.Proofs.ExitCode

What a run of the command line ends with, and what it leaves behind: a result only if its exit code
is 0. A run is followed part by part (`ends_setUpLog`, `comes_examined`, `ends_writeReport`), and the
three ways in which it can end exclude each other (`carryOut_cases`).
-/

namespace EntryScan
namespace CommandLine

variable {desk : Desk} {o : Options} {path : String} {log out : Option String}

/-! ## The parts of a run -/

theorem ends_openLog {file : Option String}
    (hlog : desk.disk.target (file.map Disk.plainPath) = .ok log) :
    Ends (openLog file) desk fun _ d => d = desk.touch log := by
  cases file with
  | none =>
    cases hlog
    exact ends_pure rfl
  | some path =>
    have happend := Desk.run_write desk hlog fun d name => d.append name "".toUTF8.toList
    have hempty : "".toUTF8.toList = [] := by simp
    refine ends_withFile happend ?_
    rw [hempty]
    rfl

theorem ends_setUpLog {level : String} (hlevel : o.logLevel = some level)
    (hchosen : level ∈ ["DEBUG", "INFO", "WARNING", "ERROR"])
    (hlog : desk.disk.target ((given o.logFile).map Disk.plainPath) = .ok log) :
    Ends (setUpLog o) desk fun setup d => setup.IsOwn ∧ d = desk.touch log := by
  unfold setUpLog
  refine .bind (ends_modify _ (.bind ((ends_openLog hlog).mono ?_)))
  rintro _ _ rfl
  refine .bind (ends_get fun ls => ?_)
  obtain ⟨setup, loggers, hmake, hown⟩ := Log.Setup.make_ok hchosen ls (given o.logFile).isSome
  simp only [hlevel, Option.map_some, Option.getD_some, hmake]
  exact .bind (ends_set _ (ends_pure ⟨hown, rfl⟩))

/-- A text goes to the terminal, or to the output file if there is one. Beside it only the messages
and the log change. -/
structure Desk.Receives (o : Options) (log out : Option String) (text : String)
    (desk desk' : Desk) : Prop where
  stdout : desk'.stdout = desk.stdout ++ if (given o.output).isSome then "" else text ++ "\n"
  output : ∀ name, some name = out → desk'.disk.files.lookup name = some text.toUTF8.toList
  others : ∀ name, some name ≠ out → some name ≠ log →
    desk'.disk.files.lookup name = desk.disk.files.lookup name

theorem Desk.Keeps.receives {text : String} {desk' desk'' : Desk} (h : desk.Keeps log desk')
    (h' : desk'.Receives o log out text desk'') : desk.Receives o log out text desk'' :=
  ⟨h'.stdout.trans (congrArg (· ++ _) h.stdout), h'.output,
    fun name hname hother => (h'.others name hname hother).trans (h.files name hother)⟩

theorem ends_writeReport {setup : Log.Setup} (hown : setup.IsOwn)
    (hlog : desk.disk.target ((given o.logFile).map Disk.plainPath) = .ok log)
    (hout : desk.disk.target (given o.output) = .ok out) {a : Analysis}
    {sectionName : Option String} {doc : Value}
    (hdoc : (Report.build a o.mode sectionName o.callgraph).outcome.1 = .ok doc) :
    Ends (writeReport o setup a sectionName) desk fun _ d => log = none ∨ log ≠ out →
      desk.Receives o log out (doc.toJson o.pretty) d := by
  unfold writeReport
  cases houtcome : (Report.build a o.mode sectionName o.callgraph).outcome with
  | mk report records =>
    rw [houtcome] at hdoc
    cases hdoc
    refine .bind ((ends_writeLog hown _ hlog _).mono fun _ d hkeeps => ?_)
    have hlog := Disk.target_of_ok hlog d.disk
    have hout := Disk.target_of_ok hout d.disk
    cases hfile : given o.output with
    | none =>
      rw [hfile] at hout
      cases hout
      refine ends_outside fun _ => ⟨?_, nofun, fun name _ => hkeeps.files name⟩
      rw [hfile]
      exact congrArg (· ++ _) hkeeps.stdout
    | some file =>
      rw [hfile] at hout
      have hreplace := Desk.run_write d hout fun d name =>
        d.put name (doc.toJson o.pretty).toUTF8.toList
      refine .bind (ends_withFile hreplace ?_)
      refine (ends_writeLog hown _ (Disk.target_of_ok hlog _) _).mono fun _ d' hlast hapart => ?_
      refine ⟨?_, fun name hname => ?_, fun name hname hother => ?_⟩
      · rw [hlast.stdout, Desk.stdout_withFile, hkeeps.stdout, hfile]
        exact (String.append_empty ..).symm
      · have hother : some name ≠ log := by
          rintro rfl
          exact hapart.elim nofun fun h => h hname
        rw [hlast.files name hother, Desk.lookup_withFile_put, if_pos hname]
      · rw [hlast.files name hother, Desk.lookup_withFile_put, if_neg hname,
          hkeeps.files name hother]

/-! ## Whole runs -/

/-- The last message is about an error. -/
def Desk.Tells (desk : Desk) (text : String) : Prop :=
  ∃ before, desk.stderr = before ++ ("Error: " ++ text ++ "\n")

/-- A run gets as far as its input: the log level was not left open, and the log can be written. -/
structure Options.Logs (o : Options) (desk : Desk) (log : Option String) : Prop where
  chosen : o.Chosen
  level : o.logLevel.isSome
  logFile : desk.disk.target ((given o.logFile).map Disk.plainPath) = .ok log

/-- A run gets as far as its input, and the report can be written, to another file than the log. -/
structure Options.Ready (o : Options) (desk : Desk) (log out : Option String) : Prop where
  chosen : o.Chosen
  level : o.logLevel.isSome
  logFile : desk.disk.target ((given o.logFile).map Disk.plainPath) = .ok log
  output : desk.disk.target (given o.output) = .ok out
  apart : log = none ∨ log ≠ out

theorem Options.Ready.logs (hready : o.Ready desk log out) : o.Logs desk log :=
  ⟨hready.chosen, hready.level, hready.logFile⟩

section
variable (hlogs : o.Logs desk log)
include hlogs

theorem Options.Logs.ends_setUpLog :
    Ends (setUpLog o) desk fun setup d => setup.IsOwn ∧ d = desk.touch log := by
  obtain ⟨level, hlevel⟩ := Option.isSome_iff_exists.mp hlogs.level
  exact CommandLine.ends_setUpLog hlevel (hlogs.chosen.logLevel level hlevel) hlogs.logFile

theorem ends_unreadable {f : Disk.Fault} (hread : (desk.touch log).disk.read path = .error f)
    (hzero : f ≠ .zeroCharacter) :
    Ends (carryOut {} o path) desk fun code d => code = 1 ∧ desk.Keeps log d ∧
      d.Tells ("cannot read " ++ path ++ ": " ++ f.message) := by
  unfold carryOut
  refine .bind (hlogs.ends_setUpLog.mono ?_)
  rintro setup _ ⟨hown, rfl⟩
  refine .bind (ends_outside ?_)
  rw [Desk.run_readFile, hread]
  have hsystem : f.isOfSystem = true := decide_eq_true hzero
  simp only [hsystem, if_true]
  exact .bind (ends_outside (ends_pure
    ⟨rfl, (Desk.Keeps.refl.append []).message _, (desk.touch log).stderr, rfl⟩))

/-- Once the input is read, a fault that has an exit code ends the run with it and a message, any
other fault stops it, and an analysis is reported. -/
theorem comes_examined {bytes : List UInt8} (hread : (desk.touch log).disk.read path = .ok bytes)
    {Q : Except Fault Nat → Desk → Prop}
    (hcoded : ∀ f code, (examine {} o bytes).outcome.1 = .error f → exitCode? f = some code →
      ∀ d, desk.Keeps log d →
        Q (.ok code) { d with stderr := d.stderr ++ ("Error: " ++ f.message ++ "\n") })
    (huncoded : ∀ f, (examine {} o bytes).outcome.1 = .error f → exitCode? f = none →
      ∀ d, Q (.error f) d)
    (hfound : ∀ a sectionName, (examine {} o bytes).outcome.1 = .ok (a, sectionName) →
      ∀ setup d, setup.IsOwn → desk.Keeps log d →
        Comes (writeReport o setup a sectionName) d fun r d' => Q (r.map fun _ => 0) d') :
    Comes (carryOut {} o path) desk Q := by
  unfold carryOut
  refine (hlogs.ends_setUpLog.mono ?_).bind_comes
  rintro setup _ ⟨hown, rfl⟩
  refine (ends_outside ?_).bind_comes
  rw [Desk.run_readFile, hread]
  dsimp only
  cases houtcome : (examine {} o bytes).outcome with
  | mk result records =>
    rw [houtcome] at hcoded huncoded hfound
    have hlog := Disk.target_of_ok hlogs.logFile (desk.touch log).disk
    refine ((ends_writeLog hown _ hlog _).mono fun _ d hkeeps => ?_).bind_comes
    have hkeeps := (Desk.Keeps.refl.append []).trans hkeeps
    cases result with
    | error f =>
      cases hcode : exitCode? f with
      | none =>
        simp only [hcode]
        exact comes_throw (huncoded f rfl hcode d)
      | some code =>
        simp only [hcode]
        refine (ends_outside ?_).bind_comes
        exact comes_pure (hcoded f code rfl hcode d hkeeps)
    | ok found =>
      refine .bind ((hfound found.1 found.2 rfl setup d hown hkeeps).mono fun r d' hq => ?_)
      cases r with
      | error f => exact hq
      | ok _ => exact comes_pure hq

end

section
variable (hready : o.Ready desk log out)
include hready

/-- Once the input is read, a fault that has an exit code ends the run with it, and an analysis is
reported. -/
theorem ends_examined {bytes : List UInt8} (hread : (desk.touch log).disk.read path = .ok bytes)
    {Q : Nat → Desk → Prop}
    (hfault : ∀ f, (examine {} o bytes).outcome.1 = .error f →
      ∃ code, exitCode? f = some code ∧ ∀ d, desk.Keeps log d → Q code d)
    (hfound : ∀ a sectionName, (examine {} o bytes).outcome.1 = .ok (a, sectionName) →
      ∃ doc, (Report.build a o.mode sectionName o.callgraph).outcome.1 = .ok doc ∧
        ∀ d, desk.Receives o log out (doc.toJson o.pretty) d → Q 0 d) :
    Ends (carryOut {} o path) desk Q := by
  refine (comes_examined hready.logs hread (fun f code hf hcode d hkeeps => ?_)
    (fun f hf hcode => ?_) fun a sectionName hexamine setup d hown hkeeps => ?_).ends
  · obtain ⟨code', hcode', hend⟩ := hfault f hf
    cases hcode.symm.trans hcode'
    exact ⟨code, rfl, hend _ (hkeeps.message _)⟩
  · obtain ⟨code, hcode', _⟩ := hfault f hf
    cases hcode.symm.trans hcode'
  · obtain ⟨doc, hdoc, hend⟩ := hfound a sectionName hexamine
    have hlog := Disk.target_of_ok hready.logFile d.disk
    have hout := Disk.target_of_ok hready.output d.disk
    refine ((ends_writeReport hown hlog hout hdoc).mono fun _ d' hreceives => ?_).comes
    exact ⟨0, rfl, hend _ (hkeeps.receives (hreceives hready.apart))⟩

theorem ends_fault {bytes : List UInt8} (hread : (desk.touch log).disk.read path = .ok bytes)
    {f : Fault} (hexamine : (examine {} o bytes).outcome.1 = .error f) {code : Nat}
    (hcode : exitCode? f = some code) :
    Ends (carryOut {} o path) desk fun code' d => code' = code ∧ desk.Keeps log d := by
  refine ends_examined hready hread (fun f' hf => ?_) fun a sectionName hfound => ?_
  · cases hexamine.symm.trans hf
    exact ⟨code, hcode, fun d hkeeps => ⟨rfl, hkeeps⟩⟩
  · cases hexamine.symm.trans hfound

theorem ends_report {bytes : List UInt8} (hread : (desk.touch log).disk.read path = .ok bytes)
    {a : Analysis} {sectionName : Option String}
    (hexamine : (examine {} o bytes).outcome.1 = .ok (a, sectionName)) {doc : Value}
    (hdoc : (Report.build a o.mode sectionName o.callgraph).outcome.1 = .ok doc) :
    Ends (carryOut {} o path) desk fun code d =>
      code = 0 ∧ desk.Receives o log out (doc.toJson o.pretty) d := by
  refine ends_examined hready hread (fun f hf => ?_) fun a' sectionName' hfound => ?_
  · cases hexamine.symm.trans hf
  · cases hexamine.symm.trans hfound
    exact ⟨doc, hdoc, fun d hreceives => ⟨rfl, hreceives⟩⟩

end

/-! ## Exit codes -/

/-- The families of faults of an image, but for those of its machine. -/
def inputFamilies : List FaultFamily :=
  [.malformedContainer, .containerRead, .sectionNotFound, .sectionRead]

/-- The input cannot be read, or is an image that fails in another way: it is malformed or cannot be
read in full, the section is missing, or has no contents, or is cut off. -/
def Options.Unusable (o : Options) (input : Except Disk.Fault (List UInt8)) : Prop :=
  (∃ f, input = .error f) ∨ o.raw = false ∧ ∃ bytes, input = .ok bytes ∧
    ∃ family ∈ inputFamilies,
      Elf.Fails (Elf.load {} { bytes := bytes, onDisk := true } (some o.sectionName)) family

theorem Options.unusable_ok_iff {bytes : List UInt8} : o.Unusable (.ok bytes) ↔ o.raw = false ∧
    ∃ family ∈ inputFamilies,
      Elf.Fails (Elf.load {} { bytes := bytes, onDisk := true } (some o.sectionName)) family := by
  simp [Options.Unusable]

theorem run_eq_carryOut {argv : List String} (hparse : Options.parse {} argv = .ok o)
    (hhelp : o.help = false) (hcheck : o.check = .ok ()) (hpath : o.path = some path) :
    (run {} argv : Run (StateM Desk) Nat) = carryOut {} o path := by
  simp only [run, hparse, hhelp, hcheck, hpath]

theorem Ends.runCommand {argv : List String} {Q : Nat → Desk → Prop} (h : Ends (run {} argv) desk Q)
    (loggers : Log.Loggers) :
    ∃ code s desk', Session.runCommand { loggers := loggers } argv desk = (.ok code, s, desk') ∧
      Q code desk' := by
  obtain ⟨code, loggers', desk', hrun, hq⟩ := h loggers
  exact ⟨code, _, desk', by rw [Session.runCommand, hrun], hq⟩

theorem Options.exists_takes (hchosen : o.Chosen) (hcheck : o.check = .ok ()) (hraw : o.raw = true)
    (bytes : List UInt8) : ∃ m, o.Takes bytes m := by
  unfold Options.check at hcheck
  rw [if_pos hraw] at hcheck
  cases htag : o.arch with
  | none =>
    rw [htag] at hcheck
    cases hcheck
  | some tag =>
    obtain ⟨arch, harch⟩ := Arch.parse?_of_mem_tags (hchosen.arch tag htag)
    cases hbase : Address.parse o.baseAddress with
    | error f =>
      rw [htag, hbase] at hcheck
      cases hcheck
    | ok base =>
      refine ⟨⟨bytes, base, arch, none⟩, ?_⟩
      rw [Options.Takes, if_pos hraw, htag, Option.bind_some]
      exact ⟨rfl, hbase, harch, rfl⟩

theorem Options.takes_or_fails (hchosen : o.Chosen) (hcheck : o.check = .ok ())
    (bytes : List UInt8) : (∃ m, o.Takes bytes m) ∨ o.raw = false ∧ ∃ f,
      Elf.load {} { bytes := bytes, onDisk := true } (some o.sectionName) = .error f := by
  cases hraw : o.raw with
  | true => exact .inl (o.exists_takes hchosen hcheck hraw bytes)
  | false =>
    cases hload : Elf.load {} { bytes := bytes, onDisk := true } (some o.sectionName) with
    | error f => exact .inr ⟨rfl, f, rfl⟩
    | ok s =>
      refine .inl ⟨⟨s.data, s.address, s.arch, some s.name⟩, ?_⟩
      rw [Options.Takes, hraw]
      exact ⟨s.name, hload, rfl⟩

theorem Options.Takes.load_ne_error {bytes : List UInt8} {m : Material} (htakes : o.Takes bytes m)
    (hraw : o.raw = false) (f : Elf.Fault) :
    Elf.load {} { bytes := bytes, onDisk := true } (some o.sectionName) ≠ .error f := by
  rw [Options.Takes, hraw] at htakes
  obtain ⟨name, hload, _⟩ := htakes
  intro hfail
  cases hload.symm.trans hfail

end CommandLine
end EntryScan
