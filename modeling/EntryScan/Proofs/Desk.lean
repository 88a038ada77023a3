import EntryScan.CommandLine.Run
import EntryScan.Proofs.AddressMap
import EntryScan.Proofs.LogLines

/-!
# EntryScan.Proofs.Desk

What parts of a run leave on a desk.

* `Disk.writable_of_ok`: whether a file can be written does not depend on the files that are there.
* `CommandLine.Ends x desk Q`: on this desk `x` is not stopped, and `Q` holds of its result and of
  the desk it leaves. `CommandLine.Comes` says the same of a run that may be stopped.
* `CommandLine.ends_writeLog`: the log leaves everything as it is but for the log file and the
  messages.
-/

namespace EntryScan

/-! ## Files of a disk -/

namespace Disk

/-- Where a text for a path goes: to a file of the disk, or nowhere. -/
def target (d : Disk) : Option String → Except Fault (Option String)
  | some path => d.writable path
  | none => .ok none

/-- What a part leads to does not depend on the files, unless it is a name in the directory that a
run works in. -/
theorem entry_cases (dir : Directory) (part : String) :
    (∀ d d' : Disk, d.entry dir part = d'.entry dir part) ∨
      dir = .here ∧ ∀ d : Disk, d.entry dir part =
        if (d.files.lookup part).isSome then .file part else .nothing := by
  cases dir with
  | here =>
    by_cases hdot : part = "."
    · exact .inl fun d d' => by rw [hdot]; rfl
    · by_cases hup : part = ".."
      · exact .inl fun d d' => by rw [hup]; rfl
      · exact .inr ⟨rfl, fun d => by simp [entry]⟩
  | above | top | standard =>
    left
    intro d d'
    unfold entry
    split <;> simp_all

theorem entry_directory {d : Disk} {dir next : Directory} {part : String}
    (h : d.entry dir part = .directory next) (d' : Disk) : d'.entry dir part = .directory next := by
  rcases entry_cases dir part with hsame | ⟨_, hname⟩
  · rw [hsame d' d, h]
  · rw [hname] at h
    split at h <;> cases h

theorem follow_of_ok {d : Disk} {path : String} {ps : List String} {last : Directory} (d' : Disk) :
    ∀ {dir}, d.follow path dir ps = .ok last → d'.follow path dir ps = .ok last := by
  induction ps with
  | nil =>
    intro dir h
    exact h
  | cons part ps ih =>
    intro dir h
    simp only [follow] at h ⊢
    split at h
    · cases h
    · rename_i hshort
      rw [if_neg hshort]
      cases hentry : d.entry dir part with
      | directory next =>
        rw [hentry] at h
        rw [entry_directory hentry d']
        exact ih h
      | file name | drain | nothing =>
        rw [hentry] at h
        cases h

theorem locate_of_ok {d : Disk} {path : String} {place : Directory × String}
    (h : d.locate path = .ok place) (d' : Disk) : d'.locate path = .ok place := by
  simp only [locate] at h ⊢
  split at h
  · cases h
  · rename_i hzero
    rw [if_neg hzero]
    split at h
    · cases h
    · rename_i hempty
      rw [if_neg hempty]
      split at h
      · cases h
      · rename_i hlong
        rw [if_neg hlong]
        cases hfollow : d.follow path (if isAbsolute path then .top else .here)
            (parts path).dropLast with
        | error f =>
          rw [hfollow] at h
          cases h
        | ok dir =>
          rw [hfollow] at h
          rw [follow_of_ok d' hfollow]
          exact h

theorem follow_ne_zeroCharacter (d : Disk) (path : String) (ps : List String) :
    ∀ dir, d.follow path dir ps ≠ .error .zeroCharacter := by
  induction ps with
  | nil => exact fun dir => nofun
  | cons part ps ih =>
    intro dir
    simp only [follow]
    split
    · exact nofun
    · split
      · exact ih _
      · exact nofun
      · exact nofun

theorem locate_ne_zeroCharacter (d : Disk) {path : String} (hzero : Char.ofNat 0 ∉ path.toList) :
    d.locate path ≠ .error .zeroCharacter := by
  simp only [locate]
  rw [if_neg (by simpa using hzero)]
  split
  · exact nofun
  · split
    · exact nofun
    · cases hfollow : d.follow path (if isAbsolute path then .top else .here)
          (parts path).dropLast with
      | error f =>
        rintro ⟨⟩
        exact follow_ne_zeroCharacter _ _ _ _ hfollow
      | ok dir => exact nofun

theorem writable_zeroCharacter_iff (d : Disk) (path : String) :
    d.writable path = .error .zeroCharacter ↔ Char.ofNat 0 ∈ path.toList := by
  constructor
  · intro h
    by_contra hzero
    unfold writable at h
    cases hplace : d.locate path with
    | error f =>
      rw [hplace] at h
      cases h
      exact locate_ne_zeroCharacter d hzero hplace
    | ok place =>
      simp only [hplace, bind, Except.bind] at h
      split at h
      · cases h
      · split at h
        · cases h
        · split at h <;> cases h
  · intro hzero
    have hplace : d.locate path = .error .zeroCharacter := by simp [locate, hzero]
    simp [writable, hplace, bind, Except.bind]

/-- Whether a file can be written does not depend on the files that are there. -/
theorem writable_of_ok {d : Disk} {path : String} {name : Option String}
    (h : d.writable path = .ok name) (d' : Disk) : d'.writable path = .ok name := by
  unfold writable at h ⊢
  cases hlocate : d.locate path with
  | error f =>
    rw [hlocate] at h
    cases h
  | ok place =>
    obtain ⟨dir, last⟩ := place
    rw [hlocate] at h
    rw [locate_of_ok hlocate d']
    rcases entry_cases dir last with hsame | ⟨rfl, hname⟩
    · simp only [bind, Except.bind, hsame d' d] at h ⊢
      exact h
    · -- a name in this directory is written there, whether it is taken or not
      simp only [bind, Except.bind, hname] at h ⊢
      by_cases hold : (d.files.lookup last).isSome <;>
        by_cases hnew : (d'.files.lookup last).isSome <;>
          simpa [hold, hnew] using h

theorem target_of_ok {d : Disk} {path name : Option String} (h : d.target path = .ok name)
    (d' : Disk) : d'.target path = .ok name := by
  cases path with
  | none => exact h
  | some path => exact writable_of_ok h d'

/-- What refuses a file does not depend on the files that are there. -/
theorem target_of_error {d : Disk} {path : Option String} {f : Fault}
    (h : d.target path = .error f) (d' : Disk) :
    ∃ f', d'.target path = .error f' ∧ f'.isOfSystem = f.isOfSystem := by
  cases hother : d'.target path with
  | ok name =>
    rw [target_of_ok hother d] at h
    cases h
  | error f' =>
    refine ⟨f', rfl, ?_⟩
    cases path with
    | none => cases h
    | some path =>
      by_cases hzero : Char.ofNat 0 ∈ path.toList
      · cases h.symm.trans ((d.writable_zeroCharacter_iff path).mpr hzero)
        cases hother.symm.trans ((d'.writable_zeroCharacter_iff path).mpr hzero)
        rfl
      · have hf : f ≠ .zeroCharacter := by
          rintro rfl
          exact hzero ((d.writable_zeroCharacter_iff path).mp h)
        have hf' : f' ≠ .zeroCharacter := by
          rintro rfl
          exact hzero ((d'.writable_zeroCharacter_iff path).mp hother)
        simp [Fault.isOfSystem, hf, hf']

theorem lookup_put (d : Disk) (name : String) (bytes : List UInt8) (other : String) :
    (d.put name bytes).files.lookup other =
      if other = name then some bytes else d.files.lookup other := by
  unfold put
  rw [apply_ite Disk.files]
  exact lookup_replace (fun _ _ => rfl) d.files other

end Disk

namespace CommandLine

/-! ## Runs that are not stopped -/

/-- On the desk the run is not stopped, whatever is set for loggers, and `Q` holds of its result and
of the desk that it leaves. -/
def Ends {α : Type} (x : Run (StateM Desk) α) (desk : Desk) (Q : α → Desk → Prop) : Prop :=
  ∀ ls, ∃ a ls' desk', (x.run.run ls).run desk = ((.ok a, ls'), desk') ∧ Q a desk'

section
variable {α β : Type} {desk : Desk} {Q : α → Desk → Prop}

theorem Ends.mono {x : Run (StateM Desk) α} {R : α → Desk → Prop} (hx : Ends x desk Q)
    (h : ∀ a d, Q a d → R a d) : Ends x desk R := by
  intro ls
  obtain ⟨a, ls', desk', hrun, hq⟩ := hx ls
  exact ⟨a, ls', desk', hrun, h a desk' hq⟩

theorem ends_pure {a : α} (h : Q a desk) : Ends (pure a) desk Q :=
  fun ls => ⟨a, ls, desk, rfl, h⟩

/-- A run goes on with the result and the desk of the one before it. -/
theorem Ends.bind {x : Run (StateM Desk) α} {f : α → Run (StateM Desk) β} {R : β → Desk → Prop}
    (hx : Ends x desk fun a d => Ends (f a) d R) : Ends (x >>= f) desk R := by
  intro ls
  obtain ⟨a, ls', desk', hrun, hf⟩ := hx ls
  obtain ⟨b, ls'', desk'', hrest, hr⟩ := hf ls'
  refine ⟨b, ls'', desk'', ?_, hr⟩
  rw [ExceptT.run_bind, StateT.run_bind, StateT.run_bind, hrun]
  exact hrest

theorem ends_outside {x : StateM Desk α} (h : Q (x.run desk).1 (x.run desk).2) :
    Ends (outside x) desk Q :=
  fun ls => ⟨_, ls, _, rfl, h⟩

theorem ends_get {Q : Log.Loggers → Desk → Prop} (h : ∀ ls, Q ls desk) : Ends get desk Q :=
  fun ls => ⟨ls, ls, desk, rfl, h ls⟩

theorem ends_set {Q : Unit → Desk → Prop} (ls : Log.Loggers) (h : Q () desk) :
    Ends (set ls) desk Q :=
  fun _ => ⟨(), ls, desk, rfl, h⟩

theorem ends_modify {Q : Unit → Desk → Prop} (f : Log.Loggers → Log.Loggers) (h : Q () desk) :
    Ends (modify f) desk Q :=
  fun ls => ⟨(), f ls, desk, rfl, h⟩

theorem ends_withFile {x : StateM Desk (Except Disk.Fault α)} {a : α} {desk' : Desk}
    (hx : x.run desk = (.ok a, desk')) (h : Q a desk') : Ends (withFile x) desk Q := by
  refine .bind (ends_outside ?_)
  rw [hx]
  exact ends_pure h

theorem ends_liftExcept {r : Except Log.Fault α} {a : α} (hr : r = .ok a) (h : Q a desk) :
    Ends (writeLog.liftExcept r) desk Q := by
  rw [hr]
  exact ends_pure h

end

/-! ## Runs that may be stopped -/

/-- On the desk `Q` holds of what the run comes to, a result or the fault that stops it, and of the
desk that it leaves. -/
def Comes {α : Type} (x : Run (StateM Desk) α) (desk : Desk) (Q : Except Fault α → Desk → Prop) :
    Prop :=
  ∀ ls, ∃ r ls' desk', (x.run.run ls).run desk = ((r, ls'), desk') ∧ Q r desk'

section
variable {α β : Type} {desk : Desk} {x : Run (StateM Desk) α} {Q : Except Fault α → Desk → Prop}

theorem Ends.comes (hx : Ends x desk fun a d => Q (.ok a) d) : Comes x desk Q := by
  intro ls
  obtain ⟨a, ls', desk', hrun, hq⟩ := hx ls
  exact ⟨.ok a, ls', desk', hrun, hq⟩

theorem Comes.ends {Q : α → Desk → Prop} (hx : Comes x desk fun r d => ∃ a, r = .ok a ∧ Q a d) :
    Ends x desk Q := by
  intro ls
  obtain ⟨_, ls', desk', hrun, a, rfl, hq⟩ := hx ls
  exact ⟨a, ls', desk', hrun, hq⟩

theorem Comes.mono {R : Except Fault α → Desk → Prop} (hx : Comes x desk Q)
    (h : ∀ r d, Q r d → R r d) : Comes x desk R := by
  intro ls
  obtain ⟨r, ls', desk', hrun, hq⟩ := hx ls
  exact ⟨r, ls', desk', hrun, h r desk' hq⟩

theorem comes_pure {a : α} (h : Q (.ok a) desk) : Comes (pure a) desk Q :=
  fun ls => ⟨.ok a, ls, desk, rfl, h⟩

theorem comes_throw {f : Fault} (h : Q (.error f) desk) : Comes (throw f) desk Q :=
  fun ls => ⟨.error f, ls, desk, rfl, h⟩

/-- A result is gone on with, and a fault of the first run is the fault of both. -/
theorem Comes.bind {g : α → Run (StateM Desk) β} {R : Except Fault β → Desk → Prop}
    (hx : Comes x desk fun
      | .ok a, d => Comes (g a) d R
      | .error f, d => R (.error f) d) : Comes (x >>= g) desk R := by
  intro ls
  obtain ⟨r, ls', desk', hrun, hr⟩ := hx ls
  cases r with
  | ok a =>
    obtain ⟨r, ls'', desk'', hrest, hr⟩ := hr ls'
    refine ⟨r, ls'', desk'', ?_, hr⟩
    rw [ExceptT.run_bind, StateT.run_bind, StateT.run_bind, hrun]
    exact hrest
  | error f =>
    refine ⟨.error f, ls', desk', ?_, hr⟩
    rw [ExceptT.run_bind, StateT.run_bind, StateT.run_bind, hrun]
    rfl

theorem Ends.bind_comes {g : α → Run (StateM Desk) β} {R : Except Fault β → Desk → Prop}
    (hx : Ends x desk fun a d => Comes (g a) d R) : Comes (x >>= g) desk R :=
  Comes.bind hx.comes

theorem comes_withFile {y : StateM Desk (Except Disk.Fault α)} {f : Disk.Fault} {desk' : Desk}
    (hy : y.run desk = (.error f, desk')) (h : Q (.error (.file f)) desk') :
    Comes (withFile y) desk Q := by
  refine (ends_outside ?_).bind_comes
  rw [hy]
  exact comes_throw h

end

/-! ## What the log leaves -/

namespace Desk

/-- Everything is as it was, but for the messages and for one file. -/
structure Keeps (apart : Option String) (desk desk' : Desk) : Prop where
  stdout : desk'.stdout = desk.stdout
  files : ∀ name, some name ≠ apart → desk'.disk.files.lookup name = desk.disk.files.lookup name

theorem Keeps.refl {apart : Option String} {desk : Desk} : Keeps apart desk desk :=
  ⟨rfl, fun _ _ => rfl⟩

theorem Keeps.trans {apart : Option String} {desk desk' desk'' : Desk} (h : Keeps apart desk desk')
    (h' : Keeps apart desk' desk'') : Keeps apart desk desk'' :=
  ⟨h'.stdout.trans h.stdout, fun name hname => (h'.files name hname).trans (h.files name hname)⟩

/-- The desk with a file of its disk written. -/
def withFile (desk : Desk) (put : Disk → String → Disk) : Option String → Desk
  | some name => { desk with disk := put desk.disk name }
  | none => desk

/-- The desk with a file that is made, empty, if it was not there. -/
def touch (desk : Desk) (name : Option String) : Desk :=
  desk.withFile (fun d name => d.append name []) name

theorem run_write (desk : Desk) {path : String} {name : Option String}
    (h : desk.disk.writable path = .ok name) (put : Disk → String → Disk) :
    (write path put).run desk = (.ok (), desk.withFile put name) := by
  simp only [write, StateT.run_bind, StateT.run_get, h, pure_bind]
  cases name <;> rfl

theorem run_write_error (desk : Desk) {path : String} {f : Disk.Fault}
    (h : desk.disk.writable path = .error f) (put : Disk → String → Disk) :
    (write path put).run desk = (.error f, desk) := by
  simp only [write, StateT.run_bind, StateT.run_get, h, pure_bind]
  rfl

theorem Keeps.message {apart : Option String} {desk desk' : Desk} (h : Keeps apart desk desk')
    (text : String) : Keeps apart desk { desk' with stderr := desk'.stderr ++ text } :=
  ⟨h.stdout, h.files⟩

theorem run_readFile (path : String) (desk : Desk) :
    (Surroundings.readFile path : StateM Desk _).run desk = (desk.disk.read path, desk) := rfl

theorem stdout_withFile (desk : Desk) (put : Disk → String → Disk) (name : Option String) :
    (desk.withFile put name).stdout = desk.stdout := by
  cases name <;> rfl

theorem lookup_withFile_put (desk : Desk) (bytes : List UInt8) (name : Option String)
    (other : String) :
    (desk.withFile (fun d name => d.put name bytes) name).disk.files.lookup other =
      if some other = name then some bytes else desk.disk.files.lookup other := by
  cases name with
  | none => rfl
  | some name =>
    simp only [Option.some.injEq]
    exact Disk.lookup_put ..

theorem Keeps.append {name : Option String} {desk desk' : Desk} (h : Keeps name desk desk')
    (bytes : List UInt8) :
    Keeps name desk (desk'.withFile (fun d name => d.append name bytes) name) := by
  cases name with
  | none => exact h
  | some name =>
    refine h.trans ⟨rfl, fun other hother => ?_⟩
    exact (Disk.lookup_put ..).trans (if_neg fun h => hother (congrArg some h))

end Desk

theorem ends_writeLog {desk : Desk} {setup : Log.Setup} (hown : setup.IsOwn)
    (logFile : Option String) {name : Option String}
    (hlog : desk.disk.target (logFile.map Disk.plainPath) = .ok name) (rs : List Log.Record) :
    Ends (writeLog setup logFile rs) desk fun _ d => desk.Keeps name d := by
  unfold writeLog
  refine .bind (ends_outside (.bind (ends_get fun ls => ?_)))
  obtain ⟨shown, hshown⟩ := Log.Setup.consoleLines_ok hown ls _ rs
  obtain ⟨lines, hlines⟩ := Log.Setup.fileLines_ok hown ls _ rs
  refine .bind (ends_liftExcept hshown (.bind (ends_outside (.bind (ends_liftExcept hlines ?_)))))
  have hmessage : desk.Keeps name { desk with stderr := desk.stderr ++ shown } :=
    Desk.Keeps.refl.message shown
  cases lines with
  | none => exact .bind (ends_pure (ends_set _ hmessage))
  | some lines =>
    cases logFile with
    | none => exact .bind (ends_pure (ends_set _ hmessage))
    | some path =>
      dsimp only
      split
      · exact .bind (ends_pure (ends_set _ hmessage))
      · have happend := Desk.run_write { desk with stderr := desk.stderr ++ shown } hlog
          fun d name => d.append name lines.toUTF8.toList
        exact .bind (ends_withFile happend (ends_set _ (hmessage.append _)))

end CommandLine
end EntryScan
