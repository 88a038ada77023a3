import EntryScan.Log.Loggers
import EntryScan.Proofs.Address

/-!
# EntryScan.Proofs.LogLines

The program's own log never gets in the way: with the program's template every record becomes a
line, whatever is in it, and a level that can be asked for is taken.

* `Supply.fill_plain`: a template of plain fields is always filled in.
* `Setup.consoleLines_ok`, `Setup.fileLines_ok`: what is written of records.
* `Setup.make_ok`: the four levels of the command line.
-/

namespace EntryScan
namespace Log

/-! ## Templates of plain fields -/

/-- A character of the text, or a field that shows what one of the names stands for as it is. -/
def Piece.isPlain (names : List String) : Piece → Bool
  | .text _ => true
  | .field ⟨.named name, [], .absent, .absent, .mark 's' _⟩ => names.contains name
  | _ => false

namespace Supply

variable {names : List String} {fields : List (String × Value)}

theorem fillField_plain (hnames : fields.map (·.1) = names) {f : Field} (next : List Value)
    (hplain : (Piece.field f).isPlain names = true) :
    ∃ text, fillField ⟨some fields, next⟩ f = .ok (text, ⟨some fields, []⟩) := by
  unfold Piece.isPlain at hplain
  split at hplain
  · rename_i h
    cases h
  · rename_i name index h
    cases h
    have hfield : (fields.lookup name).isSome := by
      rw [List.lookup_isSome_iff]
      simpa [← hnames] using hplain
    obtain ⟨v, hv⟩ := Option.isSome_iff_exists.mp hfield
    refine ⟨"" ++ v.display, ?_⟩
    simp [fillField, select, hv, amount, take, Style.write, Style.text, Style.pad, memoryLimit,
      bind, Except.bind, pure, Except.pure]
  · cases hplain

theorem fill_plain (hnames : fields.map (·.1) = names) {ps : List Piece}
    (hplain : ps.all (·.isPlain names) = true) :
    ∀ next, ∃ text, fill ⟨some fields, next⟩ ps = .ok text := by
  induction ps with
  | nil =>
    intro next
    exact ⟨"", rfl⟩
  | cons p ps ih =>
    intro next
    rw [List.all_cons, Bool.and_eq_true] at hplain
    cases p with
    | text c =>
      obtain ⟨rest, hrest⟩ := ih hplain.2 next
      exact ⟨_, by rw [fill, hrest]; rfl⟩
    | field f =>
      obtain ⟨text, htext⟩ := fillField_plain hnames next hplain.1
      obtain ⟨rest, hrest⟩ := ih hplain.2 []
      exact ⟨text ++ rest, by simp only [fill, htext, hrest, bind, Except.bind]; rfl⟩

end Supply

/-! ## Lines of the program's template -/

/-- The names that a line can show. -/
def lineNames : List String := ["name", "levelname", "levelno", "message", "asctime"]

theorem pieces_projectTemplate :
    (pieces Layout.projectTemplate).all (·.isPlain lineNames) = true := by
  decide

theorem Supply.fill_projectTemplate {fields : List (String × Value)}
    {g : TemplateFault → TemplateFault} (hnames : fields.map (·.1) = lineNames) :
    ∃ text, ((byName fields).fill (pieces Layout.projectTemplate)).mapError g = .ok text := by
  obtain ⟨text, htext⟩ := fill_plain hnames pieces_projectTemplate [.object fields]
  exact ⟨text, by rw [byName, htext]; rfl⟩

/-- Texts are put together unless one of them is missing. -/
theorem join_ok {α ε : Type} {f : α → Except ε String} (h : ∀ a, ∃ text, f a = .ok text)
    (l : List α) :
    ∃ text, (do let lines ← l.mapM f; return String.join lines : Except ε String) = .ok text := by
  have hall : ∃ lines, l.mapM f = .ok lines := by
    induction l with
    | nil => exact ⟨[], rfl⟩
    | cons a l ih =>
      obtain ⟨text, htext⟩ := h a
      obtain ⟨lines, hlines⟩ := ih
      exact ⟨text :: lines, by rw [List.mapM_cons, htext, hlines]; rfl⟩
  obtain ⟨lines, hlines⟩ := hall
  exact ⟨String.join lines, by rw [hlines]; rfl⟩

theorem optional_ok {α β ε : Type} {o : Option α} {f : α → Except ε β}
    (h : ∀ a ∈ o, ∃ b, f a = .ok b) : ∃ b, o.mapM f = .ok b := by
  cases o with
  | none => exact ⟨none, rfl⟩
  | some a =>
    obtain ⟨b, hb⟩ := h a rfl
    exact ⟨some b, by rw [Option.mapM_some, hb]; rfl⟩

namespace Setup

theorem line_ok {l : Layout} (hown : l.template = Layout.projectTemplate) (time : String)
    (r : Record) : ∃ text, line l time r = .ok text := by
  have hline : ∃ text, l.line time (shown r) = .ok text := by
    rw [Layout.line, hown]
    exact Supply.fill_projectTemplate rfl
  obtain ⟨text, htext⟩ := hline
  exact ⟨text ++ "\n", by rw [line, htext]; rfl⟩

/-- A logging whose lines follow the program's template. -/
structure IsOwn (s : Setup) : Prop where
  console : s.console.template = Layout.projectTemplate
  file : ∀ l ∈ s.file, l.template = Layout.projectTemplate

theorem consoleLines_ok {s : Setup} (hown : s.IsOwn) (ls : Loggers) (time : String)
    (rs : List Record) : ∃ text, s.consoleLines ls time rs = .ok text := by
  refine join_ok ?_ _
  rintro ⟨r, fate⟩
  cases fate with
  | heldBack => exact ⟨_, rfl⟩
  | shown => exact line_ok hown.console time r
  | unattended => exact ⟨_, rfl⟩

theorem fileLines_ok {s : Setup} (hown : s.IsOwn) (ls : Loggers) (time : String)
    (rs : List Record) : ∃ text, s.fileLines ls time rs = .ok text := by
  refine optional_ok fun layout hfile => join_ok ?_ _
  rintro ⟨r, fate⟩
  cases fate with
  | heldBack => exact ⟨_, rfl⟩
  | shown => exact line_ok (hown.file layout hfile) time r
  | unattended => exact ⟨_, rfl⟩

/-- A level that the command line offers is taken. -/
theorem make_ok {name : String} (hname : name ∈ ["DEBUG", "INFO", "WARNING", "ERROR"])
    (ls : Loggers) (toFile : Bool) :
    ∃ s ls', make ls (.text name) none toFile true = .ok (s, ls') ∧ s.IsOwn := by
  obtain ⟨level, hlevel⟩ : ∃ level, Level.request (.text name) = .ok (.level level) := by
    simp only [List.mem_cons, List.not_mem_nil, or_false] at hname
    rcases hname with rfl | rfl | rfl | rfl <;> exact ⟨_, rfl⟩
  have hlayout (coloured : Bool) : Layout.make (some Layout.projectTemplate) coloured =
      .ok ⟨Layout.projectTemplate, coloured⟩ := by
    cases coloured <;> decide
  simp only [make, hlevel, Option.getD_none, hlayout, Except.mapError, Level.Named.asLevel, bind,
    Except.bind]
  refine ⟨_, _, rfl, rfl, ?_⟩
  intro l hl
  cases toFile
  · cases hl
  · cases hl
    rfl

end Setup
end Log
end EntryScan
