import EntryScan.Proofs.AddressText
import EntryScan.Proofs.JsonReader
import EntryScan.Proofs.ReportGraph
import EntryScan.Value.Json

/-!
# EntryScan.Proofs.JsonRoundTrip

Documents as they are written. In both layouts the text is ASCII, and it spells the tokens of the
document, so it is well-formed and read back as the document. Only a number of too many digits keeps
a document from being written.

* `spelling_jsonChar`, `decimal_toDigits`: characters and numbers are written as the grammar allows.
* `written`: so are documents. What follows a document never begins with a digit.
* `Value.dump_eq_ok_iff`: which documents can be written, and as what.
* `Value.dump_lossless`: the round trip, with all that follows from it.
* `Report.dump_build`: reports can be written, since their numbers are counts.
-/

namespace EntryScan

/-! ## Characters -/

namespace Text

theorem length_hexPadded (width n : Nat) : (hexPadded width n).length = width := by
  induction width generalizing n with
  | zero => rfl
  | succ width ih => simp [hexPadded, ih]

theorem exists_of_mem_hexPadded {width n : Nat} {c : Char} (hc : c ∈ hexPadded width n) :
    ∃ d < 16, c = hexDigit d := by
  induction width generalizing n with
  | zero => cases hc
  | succ width ih =>
    rw [hexPadded, List.mem_append, List.mem_singleton] at hc
    rcases hc with hc | rfl
    · exact ih hc
    · exact ⟨n % 16, Nat.mod_lt n (by decide), rfl⟩

theorem digitsValue_hexPadded (width n : Nat) :
    Number.digitsValue 16 (hexPadded width n) = n % 16 ^ width := by
  induction width generalizing n with
  | zero => simp [hexPadded, Number.digitsValue, Nat.mod_one]
  | succ width ih =>
    have hlast := Number.hexDigit_value (n % 16) (Nat.mod_lt n (by decide))
    have hsplit : n % 16 ^ (width + 1) = n % 16 + 16 * (n / 16 % 16 ^ width) := by
      rw [pow_succ', Nat.mod_mul]
    unfold Number.digitsValue at ih ⊢
    rw [hexPadded, List.foldl_append, ih, List.foldl_cons, List.foldl_nil, hlast, Option.getD_some]
    omega

theorem hexDigit_ascii : ∀ d < 16, (hexDigit d).toNat < 0x80 := by
  decide

end Text

namespace Json

theorem codeUnit_hexPadded {n : Nat} (h : n < 0x10000) : CodeUnit (Text.hexPadded 4 n) n where
  length := Text.length_hexPadded 4 n
  digits := by
    intro c hc
    obtain ⟨d, hd, rfl⟩ := Text.exists_of_mem_hexPadded hc
    simp [Number.isDigitOf, Number.hexDigit_value d hd, hd]
  value := by
    rw [Text.digitsValue_hexPadded]
    exact Nat.mod_eq_of_lt h

theorem spelling_jsonChar (c : Char) : Spelling (Value.jsonChar c) c := by
  have hvalid := toNat_valid c
  unfold Value.jsonChar
  dsimp only
  split_ifs with hquote hslash hb hf hn hr ht hplain hunit
  · subst hquote
    exact .short (by decide)
  · subst hslash
    exact .short (by decide)
  · obtain rfl : c = '\x08' := Char.toNat_inj.mp hb
    exact .short (by decide)
  · obtain rfl : c = '\x0c' := Char.toNat_inj.mp hf
    exact .short (by decide)
  · subst hn
    exact .short (by decide)
  · subst hr
    exact .short (by decide)
  · subst ht
    exact .short (by decide)
  · exact .plain hplain.1 hquote hslash
  · exact .unit (codeUnit_hexPadded hunit)
  · refine .pair (codeUnit_hexPadded ?_) (codeUnit_hexPadded ?_) ?_ ?_ ?_ <;> omega

theorem inside_flatMap (cs : List Char) : Inside (cs.flatMap Value.jsonChar) cs := by
  induction cs with
  | nil => exact .nil
  | cons c cs ih => exact .cons (spelling_jsonChar c) ih

theorem lexeme_jsonString (s : String) : Lexeme (Value.jsonString s).toList (.text s) := by
  have h := Lexeme.text (inside_flatMap s.toList)
  rw [String.ofList_toList] at h
  rw [Value.jsonString, String.toList_ofList]
  exact h

/-! ## Numbers -/

theorem head?_toDigits (n : Nat) (h : (Nat.toDigits 10 n).head? = some '0') : n = 0 := by
  induction n using Nat.strong_induction_on with
  | _ n ih =>
    by_cases hn : n < 10
    · rw [Nat.toDigits_of_lt_base hn] at h
      exact Nat.digitChar_eq_zero.mp (Option.some.inj h)
    · -- The first digit is that of the tenth part, which is not zero.
      rw [Nat.toDigits_of_base_le (by decide) (by omega),
        List.head?_append_of_ne_nil _ Nat.toDigits_ne_nil] at h
      have hzero := ih (n / 10) (by omega) h
      omega

theorem decimal_toDigits (n : Nat) : Decimal (Nat.toDigits 10 n) n where
  digits := fun c hc => Nat.isDigit_of_mem_toDigits (by decide) (by decide) hc
  nonempty := Nat.toDigits_ne_nil
  front := by
    intro h
    rw [head?_toDigits n h]
    rfl
  value := Nat.ofDigitChars_ten_toDigits

theorem lexeme_int (n : Int) : Lexeme (toString n).toList (.int n) := by
  rw [Int.toString_eq_repr, Int.repr_eq_if]
  by_cases hn : 0 ≤ n
  · have h := Lexeme.natural (decimal_toDigits n.toNat)
    rw [Int.toNat_of_nonneg hn] at h
    rw [if_pos hn, Nat.repr_eq_ofList_toDigits, String.toList_ofList]
    exact h
  · have h := Lexeme.negative (decimal_toDigits (-n).toNat)
    rw [Int.toNat_of_nonneg (by omega), Int.neg_neg] at h
    rw [if_neg hn, Nat.repr_eq_ofList_toDigits, String.toList_append]
    simpa using h

/-! ## Documents -/

section Documents

variable {rest : List Char} {ts : List Token} {t : Token} {l : Value.Layout}

theorem Spells.fixed {s : String} (h : (s.toList, t) ∈ fixedLexemes) (hrest : Spells rest ts) :
    Spells (s.toList ++ rest) (t :: ts) := by
  refine .token (.fixed h) ?_ hrest
  rintro n rfl
  simp [fixedLexemes] at h

theorem Spells.string (s : String) (hrest : Spells rest ts) :
    Spells ((Value.jsonString s).toList ++ rest) (.text s :: ts) :=
  .token (lexeme_jsonString s) nofun hrest

theorem Spells.blanks {bs : List Char} (hbs : ∀ c ∈ bs, isBlank c = true)
    (hrest : Spells rest ts) : Spells (bs ++ rest) ts := by
  induction bs with
  | nil => exact hrest
  | cons c bs ih =>
    rw [List.forall_mem_cons] at hbs
    exact .blank hbs.1 (ih hbs.2)

theorem Apart.blanks {bs : List Char} (hbs : ∀ c ∈ bs, isBlank c = true) (hrest : Apart rest) :
    Apart (bs ++ rest) := by
  cases bs with
  | nil => exact hrest
  | cons b bs =>
    intro c hc
    obtain rfl : b = c := by simpa using hc
    by_contra hdigit
    have hblank := hbs b List.mem_cons_self
    rw [isBlank_of_isDigit (by simpa using hdigit)] at hblank
    cases hblank

theorem isBlank_newline (l : Value.Layout) (level : Nat) :
    ∀ c ∈ (l.newline level).toList, isBlank c = true := by
  intro c hc
  unfold Value.Layout.newline at hc
  split at hc
  · rw [String.toList_ofList, List.mem_cons, List.mem_replicate] at hc
    rcases hc with rfl | ⟨-, rfl⟩ <;> rfl
  · simp at hc

/-- Both layouts set items apart by a comma and blanks. -/
theorem between_eq (l : Value.Layout) (level : Nat) :
    ∃ bs, (∀ c ∈ bs, isBlank c = true) ∧ (l.between level).toList = ",".toList ++ bs := by
  unfold Value.Layout.between
  split
  · exact ⟨_, isBlank_newline l level, String.toList_append⟩
  · exact ⟨[' '], by simp [isBlank], by simp⟩

theorem Spells.between (level : Nat) (hrest : Spells rest ts) :
    Spells ((l.between level).toList ++ rest) (.comma :: ts) := by
  obtain ⟨bs, hbs, heq⟩ := between_eq l level
  rw [heq, List.append_assoc]
  exact .fixed (by simp [fixedLexemes]) (.blanks hbs hrest)

theorem Spells.colon (hrest : Spells rest ts) : Spells (": ".toList ++ rest) (.colon :: ts) :=
  .fixed (s := ":") (by simp [fixedLexemes]) (.blank (c := ' ') rfl hrest)

theorem Apart.between (level : Nat) (rest : List Char) :
    Apart ((l.between level).toList ++ rest) := by
  obtain ⟨bs, -, heq⟩ := between_eq l level
  rw [heq]
  simp [Apart]

theorem Apart.items (level : Nat) (vs : List Value) (hrest : Apart rest) :
    Apart ((Value.jsonItems l level vs).toList ++ rest) := by
  cases vs with
  | nil => simpa [Value.jsonItems] using hrest
  | cons v vs =>
    simp only [Value.jsonItems, String.toList_append, List.append_assoc]
    exact .between level _

theorem Apart.fields (level : Nat) (fs : List (String × Value)) (hrest : Apart rest) :
    Apart ((Value.jsonFields l level fs).toList ++ rest) := by
  cases fs with
  | nil => simpa [Value.jsonFields] using hrest
  | cons f fs =>
    simp only [Value.jsonFields, String.toList_append, List.append_assoc]
    exact .between level _

/-- At every level the document is written as its tokens, in front of anything that does not begin
with a digit. -/
def Written (l : Value.Layout) (v : Value) : Prop :=
  ∀ level rest ts, Apart rest → Spells rest ts →
    Spells ((Value.jsonAt l level v).toList ++ rest) (tokens v ++ ts)

theorem Spells.items {vs : List Value} (h : ∀ v ∈ vs, Written l v) (level : Nat)
    (hapart : Apart rest) (hrest : Spells rest ts) :
    Spells ((Value.jsonItems l level vs).toList ++ rest) (itemTokens vs ++ ts) := by
  induction vs with
  | nil => simpa [Value.jsonItems, itemTokens] using hrest
  | cons v vs ih =>
    rw [List.forall_mem_cons] at h
    simp only [Value.jsonItems, itemTokens, String.toList_append, List.append_assoc,
      List.cons_append]
    exact .between level (h.1 level _ _ (hapart.items level vs) (ih h.2))

theorem Spells.fields {fs : List (String × Value)} (h : ∀ f ∈ fs, Written l f.2) (level : Nat)
    (hapart : Apart rest) (hrest : Spells rest ts) :
    Spells ((Value.jsonFields l level fs).toList ++ rest) (fieldTokens fs ++ ts) := by
  induction fs with
  | nil => simpa [Value.jsonFields, fieldTokens] using hrest
  | cons f fs ih =>
    rw [List.forall_mem_cons] at h
    simp only [Value.jsonFields, fieldTokens, String.toList_append, List.append_assoc,
      List.cons_append]
    exact .between level (.string f.1 (.colon
      (h.1 level _ _ (hapart.fields level fs) (ih h.2))))

theorem written (l : Value.Layout) (v : Value) : Written l v := by
  induction v using Value.induction with
  | null =>
    intro level rest ts _ hrest
    simp only [Value.jsonAt, tokens, List.cons_append, List.nil_append]
    exact .fixed (by simp [fixedLexemes]) hrest
  | bool b =>
    intro level rest ts _ hrest
    cases b <;> simp only [Value.jsonAt, tokens, List.cons_append, List.nil_append] <;>
      exact .fixed (by simp [fixedLexemes]) hrest
  | int n =>
    intro level rest ts hapart hrest
    exact .token (lexeme_int n) (fun _ _ => hapart) hrest
  | text s =>
    intro level rest ts _ hrest
    exact .string s hrest
  | list vs ih =>
    intro level rest ts _ hrest
    cases vs with
    | nil =>
      have h : Spells ("[".toList ++ ("]".toList ++ rest)) (.openList :: .closeList :: ts) :=
        .fixed (by simp [fixedLexemes]) (.fixed (by simp [fixedLexemes]) hrest)
      simpa [Value.jsonAt, tokens] using h
    | cons v vs =>
      rw [List.forall_mem_cons] at ih
      have hclose : Spells ((l.newline level).toList ++ ("]".toList ++ rest)) (.closeList :: ts) :=
        .blanks (isBlank_newline l level) (.fixed (by simp [fixedLexemes]) hrest)
      have hapart : Apart ((l.newline level).toList ++ ("]".toList ++ rest)) :=
        .blanks (isBlank_newline l level) (by simp [Apart])
      simp only [Value.jsonAt, tokens, String.toList_append, List.append_assoc, List.cons_append,
        List.nil_append]
      exact .fixed (by simp [fixedLexemes]) (.blanks (isBlank_newline l (level + 1))
        (ih.1 _ _ _ (hapart.items _ vs) (.items ih.2 _ hapart hclose)))
  | object fs ih =>
    intro level rest ts _ hrest
    cases fs with
    | nil =>
      have h : Spells ("\x7b".toList ++ ("\x7d".toList ++ rest))
          (.openObject :: .closeObject :: ts) :=
        .fixed (by simp [fixedLexemes]) (.fixed (by simp [fixedLexemes]) hrest)
      simpa [Value.jsonAt, tokens] using h
    | cons f fs =>
      rw [List.forall_mem_cons] at ih
      have hclose : Spells ((l.newline level).toList ++ ("\x7d".toList ++ rest))
          (.closeObject :: ts) :=
        .blanks (isBlank_newline l level) (.fixed (by simp [fixedLexemes]) hrest)
      have hapart : Apart ((l.newline level).toList ++ ("\x7d".toList ++ rest)) :=
        .blanks (isBlank_newline l level) (by simp [Apart])
      simp only [Value.jsonAt, tokens, String.toList_append, List.append_assoc, List.cons_append,
        List.nil_append]
      exact .fixed (by simp [fixedLexemes]) (.blanks (isBlank_newline l (level + 1))
        (.string f.1 (.colon (ih.1 _ _ _ (hapart.fields _ fs) (.fields ih.2 _ hapart hclose)))))

end Documents

/-! ## ASCII -/

/-- Every character of the text is ASCII. -/
def Ascii (s : String) : Prop := ∀ c ∈ s.toList, c.toNat < 0x80

theorem ascii_append {s t : String} : Ascii (s ++ t) ↔ Ascii s ∧ Ascii t := by
  simp only [Ascii, String.toList_append, List.forall_mem_append]

theorem ascii_escapeUnit (n : Nat) : ∀ c ∈ Value.escapeUnit n, c.toNat < 0x80 := by
  intro c hc
  simp only [Value.escapeUnit, List.mem_cons] at hc
  rcases hc with rfl | rfl | hc
  · decide
  · decide
  · obtain ⟨d, hd, rfl⟩ := Text.exists_of_mem_hexPadded hc
    exact Text.hexDigit_ascii d hd

theorem ascii_jsonChar (c : Char) : ∀ d ∈ Value.jsonChar c, d.toNat < 0x80 := by
  unfold Value.jsonChar
  dsimp only
  split_ifs with hquote hslash hb hf hn hr ht hplain hunit
  iterate 7 · simp
  · intro d hd
    rw [List.mem_singleton.mp hd]
    omega
  · exact ascii_escapeUnit c.toNat
  · exact List.forall_mem_append.mpr ⟨ascii_escapeUnit _, ascii_escapeUnit _⟩

theorem ascii_jsonString (s : String) : Ascii (Value.jsonString s) := by
  intro c hc
  simp only [Value.jsonString, String.toList_ofList, List.mem_cons, List.mem_append,
    List.mem_flatMap, List.not_mem_nil, or_false] at hc
  rcases hc with (rfl | ⟨d, -, hc⟩) | rfl
  · decide
  · exact ascii_jsonChar d c hc
  · decide

theorem ascii_int (n : Int) : Ascii (toString n) := by
  have hdigits : ∀ m : Nat, Ascii m.repr := by
    intro m c hc
    rw [Nat.repr_eq_ofList_toDigits, String.toList_ofList] at hc
    have hdigit := Nat.isDigit_of_mem_toDigits (by decide) (by decide) hc
    simp only [Char.isDigit_iff_toNat, Char.reduceToNat] at hdigit
    omega
  rw [Int.toString_eq_repr, Int.repr_eq_if]
  split
  · exact hdigits _
  · exact ascii_append.mpr ⟨by simp [Ascii], hdigits _⟩

theorem ascii_newline (l : Value.Layout) (level : Nat) : Ascii (l.newline level) := by
  intro c hc
  have hblank := isBlank_newline l level c hc
  simp only [isBlank, Bool.or_eq_true, decide_eq_true_eq] at hblank
  rcases hblank with ((rfl | rfl) | rfl) | rfl <;> decide

theorem ascii_between (l : Value.Layout) (level : Nat) : Ascii (l.between level) := by
  unfold Value.Layout.between
  split
  · exact ascii_append.mpr ⟨by simp [Ascii], ascii_newline l level⟩
  · simp [Ascii]

theorem ascii_items {l : Value.Layout} {vs : List Value}
    (h : ∀ v ∈ vs, ∀ level, Ascii (Value.jsonAt l level v)) (level : Nat) :
    Ascii (Value.jsonItems l level vs) := by
  induction vs with
  | nil => simp [Value.jsonItems, Ascii]
  | cons v vs ih =>
    rw [List.forall_mem_cons] at h
    simp only [Value.jsonItems, ascii_append]
    exact ⟨⟨ascii_between l level, h.1 level⟩, ih h.2⟩

theorem ascii_fields {l : Value.Layout} {fs : List (String × Value)}
    (h : ∀ f ∈ fs, ∀ level, Ascii (Value.jsonAt l level f.2)) (level : Nat) :
    Ascii (Value.jsonFields l level fs) := by
  induction fs with
  | nil => simp [Value.jsonFields, Ascii]
  | cons f fs ih =>
    rw [List.forall_mem_cons] at h
    simp only [Value.jsonFields, ascii_append]
    exact ⟨⟨⟨⟨ascii_between l level, ascii_jsonString f.1⟩, by simp [Ascii]⟩, h.1 level⟩, ih h.2⟩

theorem ascii_jsonAt (l : Value.Layout) (v : Value) (level : Nat) :
    Ascii (Value.jsonAt l level v) := by
  induction v using Value.induction generalizing level with
  | null => simp [Value.jsonAt, Ascii]
  | bool b => cases b <;> simp [Value.jsonAt, Ascii]
  | int n =>
    rw [Value.jsonAt]
    exact ascii_int n
  | text s =>
    rw [Value.jsonAt]
    exact ascii_jsonString s
  | list vs ih =>
    cases vs with
    | nil => simp [Value.jsonAt, Ascii]
    | cons v vs =>
      rw [List.forall_mem_cons] at ih
      simp only [Value.jsonAt, ascii_append]
      exact ⟨⟨⟨⟨⟨by simp [Ascii], ascii_newline l _⟩, ih.1 _⟩, ascii_items ih.2 _⟩,
        ascii_newline l _⟩, by simp [Ascii]⟩
  | object fs ih =>
    cases fs with
    | nil => simp [Value.jsonAt, Ascii]
    | cons f fs =>
      rw [List.forall_mem_cons] at ih
      simp only [Value.jsonAt, ascii_append]
      exact ⟨⟨⟨⟨⟨⟨⟨by simp [Ascii], ascii_newline l _⟩, ascii_jsonString f.1⟩, by simp [Ascii]⟩,
        ih.1 _⟩, ascii_fields ih.2 _⟩, ascii_newline l _⟩, by simp [Ascii]⟩

/-! ## The round trip -/

theorem denotes_toJson (v : Value) (pretty : Bool) : Denotes (v.toJson pretty) v := by
  have h := written ⟨pretty⟩ v 0 [] [] (by simp [Apart]) .nil
  rw [List.append_nil, List.append_nil] at h
  exact h

theorem read_toJson (v : Value) (pretty : Bool) : read (v.toJson pretty) = some v :=
  read_eq_some_iff.mpr (denotes_toJson v pretty)

end Json

/-! ## Documents that can be written -/

namespace Value

/-- No number in the document has more digits than are written. -/
def Writable (v : Value) : Prop :=
  ∀ n ∈ v.numbers, n.natAbs < 10 ^ Number.maxDecimalDigits

theorem mem_itemNumbers {vs : List Value} {n : Int} :
    n ∈ itemNumbers vs ↔ ∃ v ∈ vs, n ∈ v.numbers := by
  induction vs with
  | nil => simp [itemNumbers]
  | cons v vs ih => simp [itemNumbers, ih]

theorem mem_fieldNumbers {fs : List (String × Value)} {n : Int} :
    n ∈ fieldNumbers fs ↔ ∃ f ∈ fs, n ∈ f.2.numbers := by
  induction fs with
  | nil => simp [fieldNumbers]
  | cons f fs ih => simp [fieldNumbers, ih]

@[simp] theorem writable_null : null.Writable := by simp [Writable, numbers]

@[simp] theorem writable_bool (b : Bool) : (bool b).Writable := by simp [Writable, numbers]

@[simp] theorem writable_text (s : String) : (text s).Writable := by simp [Writable, numbers]

@[simp] theorem writable_int {n : Int} :
    (int n).Writable ↔ n.natAbs < 10 ^ Number.maxDecimalDigits := by
  simp [Writable, numbers]

@[simp] theorem writable_list {vs : List Value} :
    (list vs).Writable ↔ ∀ v ∈ vs, v.Writable := by
  simp only [Writable, numbers, mem_itemNumbers]
  constructor
  · intro h v hv n hn
    exact h n ⟨v, hv, hn⟩
  · rintro h n ⟨v, hv, hn⟩
    exact h v hv n hn

@[simp] theorem writable_object {fs : List (String × Value)} :
    (object fs).Writable ↔ ∀ f ∈ fs, f.2.Writable := by
  simp only [Writable, numbers, mem_fieldNumbers]
  constructor
  · intro h f hf n hn
    exact h n ⟨f, hf, hn⟩
  · rintro h n ⟨f, hf, hn⟩
    exact h f hf n hn

@[simp] theorem writable_ofText? (s : Option String) : (ofText? s).Writable := by
  cases s <;> simp [ofText?]

@[simp] theorem writable_texts (items : List String) : (texts items).Writable := by
  simp [texts]

theorem all_isWritable_iff {v : Value} : v.numbers.all Number.isWritable ↔ v.Writable := by
  simp only [List.all_eq_true, Number.isWritable, Nat.pow_eq, decide_eq_true_eq, Writable]

theorem dump_eq_ok_iff {v : Value} {pretty : Bool} {text : String} :
    v.dump pretty = .ok text ↔ v.Writable ∧ v.toJson pretty = text := by
  rw [dump, ← all_isWritable_iff]
  split
  · rename_i hall
    rw [Except.ok.injEq, and_iff_right hall]
  · rename_i hall
    simp [hall]

theorem dump_of_not_writable {v : Value} (h : ¬ v.Writable) (pretty : Bool) :
    v.dump pretty = .error .unwritable := by
  rw [dump, if_neg (mt all_isWritable_iff.mp h)]

/-- Written documents are read back. Reading takes the well-formed texts only and each as the document
it stands for. In both layouts a document is written as such a text, in ASCII, unless some number in
it has too many digits; then neither layout has a text. So different documents are written
differently, and the layouts carry the same document. -/
theorem dump_lossless :
    (∀ text v, Json.read text = some v ↔ Json.Denotes text v) ∧
      (∀ (v : Value) pretty, v.Writable →
        ∃ text, v.dump pretty = .ok text ∧ Json.Ascii text ∧ Json.Denotes text v ∧
          Json.read text = some v) ∧
      (∀ (v : Value) pretty, ¬ v.Writable → v.dump pretty = .error .unwritable) ∧
      (∀ (v w : Value) pretty text, v.dump pretty = .ok text → w.dump pretty = .ok text → v = w) ∧
      ∀ (v : Value) shown line, v.dump true = .ok shown → v.dump false = .ok line →
        Json.read shown = Json.read line := by
  refine ⟨fun text v => Json.read_eq_some_iff, ?_, fun v pretty h => dump_of_not_writable h pretty,
    ?_, ?_⟩
  · intro v pretty hv
    exact ⟨v.toJson pretty, dump_eq_ok_iff.mpr ⟨hv, rfl⟩, Json.ascii_jsonAt ⟨pretty⟩ v 0,
      Json.denotes_toJson v pretty, Json.read_toJson v pretty⟩
  · intro v w pretty text hv hw
    obtain ⟨_, hv⟩ := dump_eq_ok_iff.mp hv
    obtain ⟨_, hw⟩ := dump_eq_ok_iff.mp hw
    have hread := congrArg Json.read (hv.trans hw.symm)
    rw [Json.read_toJson, Json.read_toJson] at hread
    exact Option.some.inj hread
  · intro v shown line hshown hline
    obtain ⟨_, rfl⟩ := dump_eq_ok_iff.mp hshown
    obtain ⟨_, rfl⟩ := dump_eq_ok_iff.mp hline
    rw [Json.read_toJson, Json.read_toJson]

example : (object [("\"😀", .list [.int (-10), .text "\x7f\n", .list []])]).toJson false =
    "\x7b\"\\\"\\ud83d\\ude00\": [-10, \"\\u007f\\n\", []]\x7d" := by
  cbv

theorem natAbs_pow_sub_one_lt (count : Nat) : ((10 : Int) ^ count - 1).natAbs < 10 ^ count := by
  have hpos : 0 < 10 ^ count := Nat.pow_pos (by decide)
  have hcast : ((10 ^ count : Nat) : Int) = 10 ^ count := by norm_cast
  rw [← hcast]
  omega

theorem not_writable_pow {count : Nat} (h : Number.maxDecimalDigits ≤ count) :
    ¬ (int (10 ^ count)).Writable := by
  rw [writable_int, Int.natAbs_pow, Nat.not_lt]
  exact Nat.pow_le_pow_right (by decide) h

/-- The largest number that is written is read back from either layout. -/
theorem dump_lossless_longest :
    ∃ shown line,
      (list [int (10 ^ Number.maxDecimalDigits - 1), text "😀"]).dump true = .ok shown ∧
      (list [int (10 ^ Number.maxDecimalDigits - 1), text "😀"]).dump false = .ok line ∧
      Json.read shown = some (list [int (10 ^ Number.maxDecimalDigits - 1), text "😀"]) ∧
      Json.read shown = Json.read line ∧
      (∀ w : Value, w.dump false = .ok line →
        w = list [int (10 ^ Number.maxDecimalDigits - 1), text "😀"]) ∧
      (int (10 ^ Number.maxDecimalDigits)).dump true = .error .unwritable := by
  obtain ⟨_, hwritten, hrefused, hinj, hsame⟩ := dump_lossless
  have hlongest : (list [int (10 ^ Number.maxDecimalDigits - 1), text "😀"]).Writable := by
    simp only [writable_list, List.forall_mem_cons, writable_int, writable_text]
    exact ⟨natAbs_pow_sub_one_lt _, trivial, List.forall_mem_nil _⟩
  obtain ⟨shown, hshown, _, _, hread⟩ := hwritten _ true hlongest
  obtain ⟨line, hline, _⟩ := hwritten _ false hlongest
  exact ⟨shown, line, hshown, hline, hread, hsame _ shown line hshown hline,
    fun w hw => hinj w _ false line hw hline, hrefused _ true (not_writable_pow (Nat.le_refl _))⟩

/-- The least number of too many digits has no text in either layout. -/
theorem dump_long_number :
    (∀ pretty, (int (10 ^ 4300)).dump pretty = .error .unwritable) ∧
      Number.Fault.unwritable.message =
        "Exceeds the limit (4300 digits) for integer string conversion; " ++
          "use sys.set_int_max_str_digits() to increase the limit" := by
  constructor
  · exact dump_of_not_writable (not_writable_pow (by decide))
  · rfl

end Value

/-! ## Reports -/

theorem Prologue.writable_toValue (p : Prologue) : p.toValue.Writable := by
  simp [Prologue.toValue]

theorem CallSite.writable_toValue (e : CallSite) : e.toValue.Writable := by
  simp [CallSite.toValue]

theorem Candidate.writable_toValue (c : Candidate) : c.toValue.Writable := by
  simp [Candidate.toValue]

/-- A link counts call sites, so it counts no further than there are any. -/
theorem CallGraph.writable_toValue_build (cs : List Candidate) {es : List CallSite}
    (includeJumps : Bool) (hes : es.length < 10 ^ Number.maxDecimalDigits) :
    (build cs es includeJumps).toValue.Writable := by
  have hcount : ∀ a t l, (a, t, l) ∈ (build cs es includeJumps).linkList →
      l.count < 10 ^ Number.maxDecimalDigits := by
    intro a t l hl
    have hlink := mem_linkList.mp hl
    calc l.count = ((build cs es includeJumps).link? a t).elim 0 (·.count) := by rw [hlink]; rfl
      _ = es.countP (Lifts cs includeJumps · a t) := count_link?_build
      _ ≤ es.length := List.countP_le_length
      _ < 10 ^ Number.maxDecimalDigits := hes
  simp only [toValue, Value.writable_object, Value.writable_list, List.forall_mem_cons,
    List.forall_mem_map]
  simpa using hcount

theorem Report.writable_document {a : Analysis} {graph : Option CallGraph}
    (hcounts : ∀ n ∈ [a.codeSize, a.prologues.length, a.callSites.length, a.candidates.length],
      n < 10 ^ Number.maxDecimalDigits)
    (hgraph : ∀ g ∈ graph, g.toValue.Writable) (mode : String) (sectionName : Option String) :
    (document a mode sectionName graph).Writable := by
  -- a part that may be missing is fine if it is fine when present
  have hoptional (present : Bool) (key : String) {v : Value} (hv : v.Writable) :
      ∀ f ∈ (if present then [(key, v)] else []), f.2.Writable := by
    cases present <;> simp [hv]
  simp only [List.forall_mem_cons] at hcounts
  obtain ⟨hsize, hprologues, hcalls, hcandidates, _⟩ := hcounts
  simp only [document, Value.writable_object, List.forall_mem_append]
  refine ⟨⟨⟨⟨⟨⟨?_, hoptional _ _ (Value.writable_text _)⟩, hoptional _ _ ?_⟩, hoptional _ _ ?_⟩,
    hoptional _ _ ?_⟩, ?_⟩, ?_⟩
  · simpa using hsize
  · simp [Prologue.writable_toValue]
  · simp [CallSite.writable_toValue]
  · simp [Candidate.writable_toValue]
  · cases graph with
    | none => simp
    | some g => simpa using hgraph g rfl
  · simp [hprologues, hcalls, hcandidates]

/-- The numbers in a report are counts, so that a report can be written in either layout as long as
there is no need to count to the least number of too many digits. -/
theorem Report.dump_build (a : Analysis) (mode : String) (sectionName : Option String)
    (withGraph pretty : Bool)
    (hcounts : ∀ n ∈ [a.codeSize, a.prologues.length, a.callSites.length, a.candidates.length],
      n < 10 ^ Number.maxDecimalDigits) :
    ∃ doc, (build a mode sectionName withGraph).Returns doc ∧
      doc.dump pretty = .ok (doc.toJson pretty) := by
  refine ⟨_, build_returns_document a mode sectionName withGraph, Value.dump_eq_ok_iff.mpr ⟨?_, rfl⟩⟩
  refine writable_document hcounts ?_ mode sectionName
  intro g hg
  cases withGraph with
  | false => cases hg
  | true =>
    cases hg
    exact CallGraph.writable_toValue_build _ _ (hcounts _ (by simp))

end EntryScan
