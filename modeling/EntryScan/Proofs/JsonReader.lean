import EntryScan.Proofs.JsonGrammar

/-!
# EntryScan.Proofs.JsonReader

A reader of JSON texts. Characters are gathered to tokens from the front on, and the tokens drive a
machine that keeps what is still open.

* `lex_eq_some_iff`: the tokens that are gathered are those of the grammar. Each part of a token has
  a statement of this form.
* `State.trace`: the tokens that lead to a state of the machine. A step adds its token to them
  (`trace_step`), so a run that ends with a document has taken the tokens of that document.
* `read_eq_some_iff`: the reader reads what the grammar has, and nothing else.
-/

namespace EntryScan
namespace Json

/-! ## Numbers -/

section Numbers

variable {cs rest : List Char} {n : Nat}

/-- The number at the front, of all the digits there. -/
def natural? (cs : List Char) : Option (Nat × List Char) :=
  let ds := cs.takeWhile Char.isDigit
  if ds = [] ∨ ds.head? = some '0' ∧ ds ≠ ['0'] then none
  else some (Nat.ofDigitChars 10 ds 0, cs.dropWhile Char.isDigit)

theorem apart_dropWhile (cs : List Char) : Apart (cs.dropWhile Char.isDigit) := by
  intro c hc
  have hnot := List.head?_dropWhile_not Char.isDigit cs
  rw [Option.mem_def.mp hc] at hnot
  exact hnot

theorem Apart.takeWhile (h : Apart rest) : rest.takeWhile Char.isDigit = [] := by
  cases rest with
  | nil => rfl
  | cons c cs => simp [h c rfl]

theorem Apart.dropWhile (h : Apart rest) : rest.dropWhile Char.isDigit = rest := by
  cases rest with
  | nil => rfl
  | cons c cs => simp [h c rfl]

theorem natural?_eq_some_iff :
    natural? cs = some (n, rest) ↔ ∃ ds, cs = ds ++ rest ∧ Decimal ds n ∧ Apart rest := by
  constructor
  · intro h
    simp only [natural?] at h
    split at h
    · cases h
    · rename_i hds
      cases h
      simp only [not_or, not_and, not_not] at hds
      refine ⟨_, List.takeWhile_append_dropWhile.symm, ⟨?_, hds.1, hds.2, rfl⟩, apart_dropWhile cs⟩
      intro c hc
      exact List.mem_takeWhile_imp hc
  · rintro ⟨ds, rfl, hds, hrest⟩
    have htake : (ds ++ rest).takeWhile Char.isDigit = ds := by
      rw [List.takeWhile_append_of_pos hds.digits, hrest.takeWhile, List.append_nil]
    have hdrop : (ds ++ rest).dropWhile Char.isDigit = rest := by
      rw [List.dropWhile_append_of_pos hds.digits, hrest.dropWhile]
    rw [natural?, htake, hdrop, hds.value, if_neg]
    simpa [hds.nonempty] using hds.front

theorem Decimal.exists_cons {ds : List Char} (h : Decimal ds n) :
    ∃ c cs, ds = c :: cs ∧ c.isDigit = true := by
  cases ds with
  | nil => exact absurd rfl h.nonempty
  | cons c cs => exact ⟨c, cs, rfl, h.digits c (by simp)⟩

end Numbers

/-! ## Strings -/

section Strings

variable {cs rest : List Char} {c : Char} {n : Nat}

/-- The escape of a unit at the front. -/
def codeUnit? : List Char → Option (Nat × List Char)
  | '\\' :: 'u' :: cs =>
    if (cs.take 4).length = 4 ∧ (cs.take 4).all (Number.isDigitOf 16) then
      some (Number.digitsValue 16 (cs.take 4), cs.drop 4)
    else none
  | _ => none

theorem codeUnit?_eq_some_iff :
    codeUnit? cs = some (n, rest) ↔ ∃ ds, cs = '\\' :: 'u' :: (ds ++ rest) ∧ CodeUnit ds n := by
  constructor
  · intro h
    unfold codeUnit? at h
    split at h
    · rename_i cs
      split at h
      · rename_i hds
        cases h
        refine ⟨cs.take 4, by rw [List.take_append_drop], hds.1, ?_, rfl⟩
        simpa using hds.2
      · cases h
    · cases h
  · rintro ⟨ds, rfl, hds⟩
    have htake : (ds ++ rest).take 4 = ds := by
      rw [← hds.length, List.take_left]
    have hdrop : (ds ++ rest).drop 4 = rest := by
      rw [← hds.length, List.drop_left]
    have hall : ds.all (Number.isDigitOf 16) = true := by simpa using hds.digits
    simp [codeUnit?, htake, hdrop, hds.length, hall, hds.value]

theorem codeUnit?_eq_none (h : ∀ ds, cs ≠ '\\' :: 'u' :: ds) : codeUnit? cs = none := by
  unfold codeUnit?
  split
  · exact absurd rfl (h _)
  · rfl

/-- A character at the front that is written as itself or with a backslash and a letter. -/
def shortChar? : List Char → Option (Char × List Char)
  | '\\' :: m :: rest => (escapes.lookup m).map fun c => (c, rest)
  | c :: rest => if 0x20 ≤ c.toNat ∧ c ≠ '"' ∧ c ≠ '\\' then some (c, rest) else none
  | [] => none

/-- The character at the front of what is left of a string. -/
def char? (cs : List Char) : Option (Char × List Char) :=
  match codeUnit? cs with
  | none => shortChar? cs
  | some (high, rest) =>
    if high < 0xd800 ∨ 0xe000 ≤ high then some (Char.ofNat high, rest)
    else
      match codeUnit? rest with
      | none => none
      | some (low, rest) =>
        if high < 0xdc00 ∧ 0xdc00 ≤ low ∧ low < 0xe000 then
          some (Char.ofNat (0x10000 + 0x400 * (high - 0xd800) + (low - 0xdc00)), rest)
        else none

theorem mem_escapes_iff {m c : Char} : escapes.lookup m = some c ↔ (m, c) ∈ escapes := by
  constructor
  · intro h
    obtain ⟨before, after, heq, _⟩ := List.lookup_eq_some_iff.mp h
    simp [heq]
  · intro h
    have hall : ∀ e ∈ escapes, escapes.lookup e.1 = some e.2 := by decide
    exact hall (m, c) h

theorem shortChar?_sound (h : shortChar? cs = some (c, rest)) :
    ∃ ds, cs = ds ++ rest ∧ Spelling ds c := by
  unfold shortChar? at h
  split at h
  · rename_i m rest'
    obtain ⟨c', hc, hout⟩ := Option.map_eq_some_iff.mp h
    cases hout
    exact ⟨['\\', m], rfl, .short (mem_escapes_iff.mp hc)⟩
  · rename_i c' rest' _
    split at h
    · rename_i hc
      cases h
      exact ⟨[c], rfl, .plain hc.1 hc.2.1 hc.2.2⟩
    · cases h
  · cases h

theorem CodeUnit.lt {ds : List Char} (h : CodeUnit ds n) : n < 0x10000 := by
  obtain ⟨hlength, hdigits, rfl⟩ := h
  have hvalue : ∀ c ∈ ds, (Number.digitValue? c).getD 0 < 16 := by
    intro c hc
    have hdigit := hdigits c hc
    unfold Number.isDigitOf at hdigit
    split at hdigit
    · rename_i d hd
      simpa [hd] using hdigit
    · cases hdigit
  obtain ⟨a, b, c, d, rfl⟩ := List.length_eq_four.mp hlength
  have ha := hvalue a (by simp)
  have hb := hvalue b (by simp)
  have hc := hvalue c (by simp)
  have hd := hvalue d (by simp)
  simp only [Number.digitsValue, List.foldl_cons, List.foldl_nil]
  omega

theorem toNat_ofNat {n : Nat} (h : n < 0xd800 ∨ 0xe000 ≤ n) (hlt : n < 0x110000) :
    (Char.ofNat n).toNat = n := by
  rw [Char.toNat_ofNat, if_pos]
  unfold Nat.isValidChar
  omega

theorem toNat_valid (c : Char) :
    c.toNat < 0xd800 ∨ 0xe000 ≤ c.toNat ∧ c.toNat < 0x110000 := by
  have hvalid : c.toNat.isValidChar := c.valid
  unfold Nat.isValidChar at hvalid
  omega

theorem char?_sound (h : char? cs = some (c, rest)) : ∃ ds, cs = ds ++ rest ∧ Spelling ds c := by
  unfold char? at h
  split at h
  · exact shortChar?_sound h
  · rename_i high rest' hhigh
    obtain ⟨ds, rfl, hds⟩ := codeUnit?_eq_some_iff.mp hhigh
    have hlt := hds.lt
    split at h
    · rename_i hsingle
      cases h
      refine ⟨'\\' :: 'u' :: ds, rfl, .unit ?_⟩
      rw [toNat_ofNat hsingle (by omega)]
      exact hds
    · rename_i hsurrogate
      split at h
      · cases h
      · rename_i low rest'' hlow
        obtain ⟨es, rfl, hes⟩ := codeUnit?_eq_some_iff.mp hlow
        split at h
        · rename_i hpair
          obtain ⟨rfl, rfl⟩ := Prod.mk.inj (Option.some.inj h)
          refine ⟨'\\' :: 'u' :: ds ++ '\\' :: 'u' :: es, by simp, ?_⟩
          exact .pair hds hes (by omega) (by omega) (toNat_ofNat (by omega) (by omega))
        · cases h

theorem char?_complete {ds : List Char} (h : Spelling ds c) (rest : List Char) :
    char? (ds ++ rest) = some (c, rest) := by
  cases h with
  | plain hlow hquote hslash =>
    have hnone : codeUnit? (c :: rest) = none := codeUnit?_eq_none (by simp [hslash])
    simp [char?, hnone, shortChar?, hlow, hquote, hslash]
  | @short m _ h =>
    have hu : m ≠ 'u' := by
      have hall : ∀ e ∈ escapes, e.1 ≠ 'u' := by decide
      exact hall (m, c) h
    have hnone : codeUnit? ('\\' :: m :: rest) = none := codeUnit?_eq_none (by simp [hu])
    simp [char?, hnone, shortChar?, mem_escapes_iff.mpr h]
  | @unit ds _ h =>
    have hunit : codeUnit? ('\\' :: 'u' :: (ds ++ rest)) = some (c.toNat, rest) :=
      codeUnit?_eq_some_iff.mpr ⟨ds, rfl, h⟩
    have hvalid := (toNat_valid c).imp_right And.left
    simp only [char?, List.cons_append, hunit, hvalid, if_true, Char.ofNat_toNat]
  | @pair ds es high low _ hhigh hlow hhigh' hlow' hc =>
    have hfirst : codeUnit? ('\\' :: 'u' :: (ds ++ '\\' :: 'u' :: (es ++ rest))) =
        some (high, '\\' :: 'u' :: (es ++ rest)) := codeUnit?_eq_some_iff.mpr ⟨ds, rfl, hhigh⟩
    have hsecond : codeUnit? ('\\' :: 'u' :: (es ++ rest)) = some (low, rest) :=
      codeUnit?_eq_some_iff.mpr ⟨es, rfl, hlow⟩
    have hsurrogate : ¬(high < 0xd800 ∨ 0xe000 ≤ high) := by omega
    simp only [char?, List.cons_append, List.append_assoc, hfirst, hsecond, hsurrogate, if_false,
      ← hc, Char.ofNat_toNat, hhigh'.2, hlow', and_self, if_true]

theorem Spelling.exists_cons {ds : List Char} (h : Spelling ds c) :
    ∃ d es, ds = d :: es ∧ d ≠ '"' := by
  cases h with
  | plain _ hquote _ => exact ⟨c, [], rfl, hquote⟩
  | short _ => exact ⟨_, _, rfl, by decide⟩
  | unit _ => exact ⟨_, _, rfl, by decide⟩
  | pair _ _ _ _ _ => exact ⟨_, _, rfl, by decide⟩

theorem length_lt_of_char? (h : char? cs = some (c, rest)) : rest.length < cs.length := by
  obtain ⟨ds, rfl, hds⟩ := char?_sound h
  obtain ⟨d, es, rfl, _⟩ := hds.exists_cons
  simp

/-- The characters up to the closing quote. -/
def inside? (cs : List Char) : Option (List Char × List Char) :=
  if cs.head? = some '"' then some ([], cs.tail)
  else
    match _hc : char? cs with
    | none => none
    | some (c, rest) => (inside? rest).map fun out => (c :: out.1, out.2)
termination_by cs.length
decreasing_by exact length_lt_of_char? _hc

theorem inside?_eq_some_iff {s : List Char} :
    inside? cs = some (s, rest) ↔ ∃ ds, cs = ds ++ '"' :: rest ∧ Inside ds s := by
  constructor
  · intro h
    fun_induction inside? cs generalizing s with
    | case1 cs hquote =>
      cases h
      obtain ⟨tail, rfl⟩ := List.head?_eq_some_iff.mp hquote
      exact ⟨[], rfl, .nil⟩
    | case2 cs _ hnone => cases h
    | case3 cs _ c left hc ih =>
      obtain ⟨out, hout, heq⟩ := Option.map_eq_some_iff.mp h
      cases heq
      obtain ⟨ds, rfl, hds⟩ := ih hout
      obtain ⟨es, rfl, hes⟩ := char?_sound hc
      exact ⟨es ++ ds, (List.append_assoc ..).symm, .cons hes hds⟩
  · rintro ⟨ds, rfl, hds⟩
    induction hds with
    | nil =>
      rw [inside?]
      simp
    | @cons es c ds s hes _ ih =>
      obtain ⟨d, fs, rfl, hd⟩ := hes.exists_cons
      have hchar := char?_complete hes (ds ++ '"' :: rest)
      rw [inside?, List.append_assoc, if_neg (by simpa using hd)]
      split
      · rename_i hnone
        rw [hchar] at hnone
        cases hnone
      · rename_i c' left hsome
        rw [hchar] at hsome
        cases hsome
        rw [ih, Option.map_some]

end Strings

/-! ## Tokens -/

section Tokens

variable {cs rest : List Char} {t : Token}

/-- A token at the front that is written in one way only. -/
def fixed? (cs : List Char) : Option (Token × List Char) :=
  fixedLexemes.findSome? fun p => if p.1 <+: cs then some (p.2, cs.drop p.1.length) else none

/-- The first character tells these tokens from each other. -/
theorem fixedLexemes_unique : (fixedLexemes.map fun p => p.1.head?).Nodup := by
  decide

/-- The first character tells these tokens from all else. -/
theorem fixedLexemes_first : ∀ p ∈ fixedLexemes, p.1 ≠ [] ∧
    ∀ c ∈ p.1.head?, isBlank c = false ∧ c ≠ '"' ∧ c ≠ '-' ∧ c.isDigit = false := by
  simp [fixedLexemes, isBlank, Char.isDigit]

theorem fixed?_eq_some_iff :
    fixed? cs = some (t, rest) ↔ ∃ w, (w, t) ∈ fixedLexemes ∧ cs = w ++ rest := by
  constructor
  · intro h
    obtain ⟨p, hp, hout⟩ := List.exists_of_findSome?_eq_some h
    split at hout
    · rename_i hfront
      obtain ⟨more, rfl⟩ := hfront
      cases hout
      exact ⟨p.1, hp, by rw [List.drop_left]⟩
    · cases hout
  · rintro ⟨w, hw, rfl⟩
    have hfound : (fixed? (w ++ rest)).isSome = true :=
      List.findSome?_isSome_iff.mpr ⟨(w, t), hw, by simp⟩
    obtain ⟨out, hout⟩ := Option.isSome_iff_exists.mp hfound
    obtain ⟨p, hp, heq⟩ := List.exists_of_findSome?_eq_some hout
    split at heq
    · rename_i hfront
      obtain ⟨more, hmore⟩ := hfront
      have hhead := congrArg List.head? hmore
      rw [List.head?_append_of_ne_nil _ (fixedLexemes_first p hp).1,
        List.head?_append_of_ne_nil _ (fixedLexemes_first (w, t) hw).1] at hhead
      cases List.inj_on_of_nodup_map fixedLexemes_unique hp hw hhead
      rw [hout, ← heq, List.drop_left]
    · cases heq

/-- The token at the front. -/
def token? : List Char → Option (Token × List Char)
  | [] => none
  | c :: cs =>
    if c = '"' then (inside? cs).map fun out => (.text (String.ofList out.1), out.2)
    else if c = '-' then (natural? cs).map fun out => (.int (-out.1), out.2)
    else if c.isDigit then (natural? (c :: cs)).map fun out => (.int out.1, out.2)
    else fixed? (c :: cs)

theorem token?_sound (h : token? cs = some (t, rest)) :
    ∃ ds, cs = ds ++ rest ∧ Lexeme ds t ∧ ∀ n, t = .int n → Apart rest := by
  unfold token? at h
  split at h
  · cases h
  · rename_i c cs
    split_ifs at h with hquote hminus hdigit
    · obtain ⟨out, hout, heq⟩ := Option.map_eq_some_iff.mp h
      cases heq
      obtain ⟨ds, rfl, hds⟩ := inside?_eq_some_iff.mp hout
      exact ⟨'"' :: ds ++ ['"'], by simp [hquote], .text hds, by simp⟩
    · obtain ⟨out, hout, heq⟩ := Option.map_eq_some_iff.mp h
      cases heq
      obtain ⟨ds, rfl, hds, hrest⟩ := natural?_eq_some_iff.mp hout
      exact ⟨'-' :: ds, by simp [hminus], .negative hds, fun _ _ => hrest⟩
    · obtain ⟨out, hout, heq⟩ := Option.map_eq_some_iff.mp h
      cases heq
      obtain ⟨ds, hcs, hds, hrest⟩ := natural?_eq_some_iff.mp hout
      exact ⟨ds, hcs, .natural hds, fun _ _ => hrest⟩
    · obtain ⟨w, hw, hcs⟩ := fixed?_eq_some_iff.mp h
      refine ⟨w, hcs, .fixed hw, ?_⟩
      rintro n rfl
      simp [fixedLexemes] at hw

theorem token?_complete {ds : List Char} (h : Lexeme ds t) (hend : ∀ n, t = .int n → Apart rest) :
    token? (ds ++ rest) = some (t, rest) := by
  cases h with
  | @natural ds n hds =>
    have hnatural := natural?_eq_some_iff.mpr ⟨ds, rfl, hds, hend _ rfl⟩
    obtain ⟨c, cs, rfl, hc⟩ := hds.exists_cons
    have hquote : c ≠ '"' := by
      rintro rfl
      cases hc
    have hminus : c ≠ '-' := by
      rintro rfl
      cases hc
    rw [List.cons_append] at hnatural ⊢
    simp [token?, hquote, hminus, hc, hnatural]
  | @negative ds n hds =>
    have hnatural := natural?_eq_some_iff.mpr ⟨ds, rfl, hds, hend _ rfl⟩
    simp [token?, hnatural]
  | @text cs s hs =>
    have hinside : inside? (cs ++ '"' :: rest) = some (s, rest) :=
      inside?_eq_some_iff.mpr ⟨cs, rfl, hs⟩
    simp [token?, hinside]
  | fixed hw =>
    have hfixed : fixed? (ds ++ rest) = some (t, rest) := fixed?_eq_some_iff.mpr ⟨ds, hw, rfl⟩
    obtain ⟨hne, hfirst⟩ := fixedLexemes_first (ds, t) hw
    obtain ⟨c, cs, rfl⟩ := List.exists_cons_of_ne_nil hne
    obtain ⟨_, hquote, hminus, hdigit⟩ := hfirst c rfl
    rw [List.cons_append] at hfixed ⊢
    simp [token?, hquote, hminus, hdigit, hfixed]

theorem isBlank_of_isDigit {c : Char} (hc : c.isDigit = true) : isBlank c = false := by
  cases hblank : isBlank c with
  | false => rfl
  | true =>
    simp only [isBlank, Bool.or_eq_true, decide_eq_true_eq] at hblank
    rcases hblank with ((rfl | rfl) | rfl) | rfl <;> cases hc

theorem Lexeme.exists_cons {ds : List Char} (h : Lexeme ds t) :
    ∃ c cs, ds = c :: cs ∧ isBlank c = false := by
  cases h with
  | natural hds =>
    obtain ⟨c, cs, rfl, hc⟩ := hds.exists_cons
    exact ⟨c, cs, rfl, isBlank_of_isDigit hc⟩
  | negative _ => exact ⟨_, _, rfl, by decide⟩
  | text _ => exact ⟨_, _, rfl, by decide⟩
  | fixed hw =>
    obtain ⟨hne, hfirst⟩ := fixedLexemes_first (ds, t) hw
    obtain ⟨c, cs, rfl⟩ := List.exists_cons_of_ne_nil hne
    exact ⟨c, cs, rfl, (hfirst c rfl).1⟩

theorem length_lt_of_token? (h : token? cs = some (t, rest)) : rest.length < cs.length := by
  obtain ⟨ds, rfl, hds, _⟩ := token?_sound h
  obtain ⟨c, es, rfl, _⟩ := hds.exists_cons
  simp

/-- The tokens of a text. -/
def lex : List Char → Option (List Token)
  | [] => some []
  | c :: cs =>
    if isBlank c then lex cs
    else
      match _ht : token? (c :: cs) with
      | none => none
      | some (t, rest) => (lex rest).map (t :: ·)
termination_by cs => cs.length
decreasing_by
  · simp
  · exact length_lt_of_token? _ht

theorem lex_eq_some_iff {ts : List Token} : lex cs = some ts ↔ Spells cs ts := by
  constructor
  · intro h
    fun_induction lex cs generalizing ts with
    | case1 =>
      cases h
      exact .nil
    | case2 c cs hblank ih => exact .blank hblank (ih h)
    | case3 c cs _ hnone => cases h
    | case4 c cs _ t rest ht ih =>
      obtain ⟨ts', hts, rfl⟩ := Option.map_eq_some_iff.mp h
      obtain ⟨ds, heq, hds, hend⟩ := token?_sound ht
      rw [heq]
      exact .token hds hend (ih hts)
  · intro h
    induction h with
    | nil => rw [lex]
    | blank hc _ ih => rw [lex, if_pos hc, ih]
    | @token ds t rest ts hds hend _ ih =>
      have htoken := token?_complete hds hend
      obtain ⟨c, es, rfl, hblank⟩ := hds.exists_cons
      rw [List.cons_append] at htoken ⊢
      rw [lex, if_neg (by simp [hblank])]
      split
      · rename_i hnone
        rw [htoken] at hnone
        cases hnone
      · rename_i t' rest' hsome
        rw [htoken] at hsome
        cases hsome
        rw [ih, Option.map_some]

end Tokens

/-! ## Documents -/

/-- What is open around a document: a list with its items so far, or an object with its fields so far
and the key of the next one. -/
inductive Frame where
  | list (items : List Value)
  | object (fields : List (String × Value)) (key : String)

/-- Where the machine stands: before a document, before a key, behind a key or behind a document. -/
inductive State where
  | value (frames : List Frame)
  | key (frames : List Frame) (fields : List (String × Value))
  | colon (frames : List Frame) (fields : List (String × Value)) (key : String)
  | behind (frames : List Frame) (v : Value)

/-- One step of the machine. A list or object may be closed before its first part, but not behind a
comma: then there are parts already. -/
def step (s : State) (t : Token) : Option State :=
  match t, s with
  | .null, .value frames => some (.behind frames .null)
  | .bool b, .value frames => some (.behind frames (.bool b))
  | .int n, .value frames => some (.behind frames (.int n))
  | .text s, .value frames => some (.behind frames (.text s))
  | .text k, .key frames fields => some (.colon frames fields k)
  | .colon, .colon frames fields k => some (.value (.object fields k :: frames))
  | .openList, .value frames => some (.value (.list [] :: frames))
  | .openObject, .value frames => some (.key frames [])
  | .comma, .behind (.list vs :: frames) v => some (.value (.list (vs ++ [v]) :: frames))
  | .comma, .behind (.object fields k :: frames) v => some (.key frames (fields ++ [(k, v)]))
  | .closeList, .value (.list [] :: frames) => some (.behind frames (.list []))
  | .closeList, .behind (.list vs :: frames) v => some (.behind frames (.list (vs ++ [v])))
  | .closeObject, .key frames [] => some (.behind frames (.object []))
  | .closeObject, .behind (.object fields k :: frames) v =>
    some (.behind frames (.object (fields ++ [(k, v)])))
  | _, _ => none

/-- The run of the machine over tokens. -/
def run (s : State) (ts : List Token) : Option State := ts.foldlM step s

/-- The document that tokens stand for. -/
def parse (ts : List Token) : Option Value :=
  match run (.value []) ts with
  | some (.behind [] v) => some v
  | _ => none

/-! ### What a run has taken -/

/-- A list up to the comma behind its items so far. -/
def listFront (vs : List Value) : List Token :=
  .openList :: vs.flatMap fun v => tokens v ++ [.comma]

/-- An object up to the comma behind its fields so far. -/
def objectFront (fs : List (String × Value)) : List Token :=
  .openObject :: fs.flatMap fun f => .text f.1 :: .colon :: (tokens f.2 ++ [.comma])

@[simp] theorem listFront_nil : listFront [] = [.openList] := rfl

@[simp] theorem listFront_concat (vs : List Value) (v : Value) :
    listFront (vs ++ [v]) = listFront vs ++ (tokens v ++ [.comma]) := by
  simp [listFront]

@[simp] theorem objectFront_nil : objectFront [] = [.openObject] := rfl

@[simp] theorem objectFront_concat (fs : List (String × Value)) (f : String × Value) :
    objectFront (fs ++ [f]) = objectFront fs ++ .text f.1 :: .colon :: (tokens f.2 ++ [.comma]) := by
  simp [objectFront]

/-- The tokens of all that is open, the innermost last. -/
def framesTrace : List Frame → List Token
  | [] => []
  | .list vs :: frames => framesTrace frames ++ listFront vs
  | .object fs k :: frames => framesTrace frames ++ (objectFront fs ++ [.text k, .colon])

/-- The tokens that lead to a state. -/
def State.trace : State → List Token
  | .value frames => framesTrace frames
  | .key frames fs => framesTrace frames ++ objectFront fs
  | .colon frames fs k => framesTrace frames ++ (objectFront fs ++ [.text k])
  | .behind frames v => framesTrace frames ++ tokens v

theorem itemTokens_concat (vs : List Value) (v : Value) :
    itemTokens (vs ++ [v]) =
      .comma :: ((vs.flatMap fun u => tokens u ++ [.comma]) ++ tokens v) := by
  induction vs with
  | nil => simp [itemTokens]
  | cons u vs ih => simp [itemTokens, ih]

theorem fieldTokens_concat (fs : List (String × Value)) (k : String) (v : Value) :
    fieldTokens (fs ++ [(k, v)]) =
      .comma :: ((fs.flatMap fun f => .text f.1 :: .colon :: (tokens f.2 ++ [.comma])) ++
        .text k :: .colon :: tokens v) := by
  induction fs with
  | nil => simp [fieldTokens]
  | cons f fs ih => simp [fieldTokens, ih]

theorem tokens_list_concat (vs : List Value) (v : Value) :
    tokens (.list (vs ++ [v])) = listFront vs ++ (tokens v ++ [.closeList]) := by
  cases vs with
  | nil => simp [tokens, itemTokens, listFront]
  | cons u vs => simp [tokens, itemTokens_concat, listFront]

theorem tokens_object_concat (fs : List (String × Value)) (k : String) (v : Value) :
    tokens (.object (fs ++ [(k, v)])) =
      objectFront fs ++ .text k :: .colon :: (tokens v ++ [.closeObject]) := by
  cases fs with
  | nil => simp [tokens, fieldTokens, objectFront]
  | cons f fs => simp [tokens, fieldTokens_concat, objectFront]

/-- A step adds its token to those that led to the state. -/
theorem trace_step {s s' : State} {t : Token} (h : step s t = some s') :
    s'.trace = s.trace ++ [t] := by
  unfold step at h
  split at h <;> cases h <;>
    simp [State.trace, framesTrace, tokens, tokens_list_concat, tokens_object_concat]

theorem trace_run {ts : List Token} {s s' : State} (h : run s ts = some s') :
    s'.trace = s.trace ++ ts := by
  induction ts generalizing s with
  | nil =>
    cases h
    simp
  | cons t ts ih =>
    obtain ⟨s₁, hstep, hrun⟩ := Option.bind_eq_some_iff.mp h
    rw [ih hrun, trace_step hstep, List.append_assoc, List.singleton_append]

/-! ### What a run comes to -/

theorem run_cons {s s' : State} {t : Token} (h : step s t = some s') (ts : List Token) :
    run s (t :: ts) = run s' ts := by
  simp [run, h]

theorem run_append {s s' : State} {ts : List Token} (h : run s ts = some s') (us : List Token) :
    run s (ts ++ us) = run s' us := by
  unfold run at h ⊢
  rw [List.foldlM_append, h]
  rfl

/-- The machine takes the document wherever one may stand. -/
def Taken (v : Value) : Prop :=
  ∀ frames, run (.value frames) (tokens v) = some (.behind frames v)

theorem run_items {vs : List Value} (h : ∀ v ∈ vs, Taken v) (us : List Value) (u : Value)
    (frames : List Frame) :
    run (.behind (.list us :: frames) u) (itemTokens vs ++ [.closeList]) =
      some (.behind frames (.list (us ++ u :: vs))) := by
  induction vs generalizing us u with
  | nil => rfl
  | cons v vs ih =>
    rw [List.forall_mem_cons] at h
    rw [itemTokens, List.cons_append, run_cons rfl, List.append_assoc, run_append (h.1 _), ih h.2]
    simp

theorem run_fields {fs : List (String × Value)} (h : ∀ f ∈ fs, Taken f.2)
    (gs : List (String × Value)) (k : String) (v : Value) (frames : List Frame) :
    run (.behind (.object gs k :: frames) v) (fieldTokens fs ++ [.closeObject]) =
      some (.behind frames (.object (gs ++ (k, v) :: fs))) := by
  induction fs generalizing gs k v with
  | nil => rfl
  | cons f fs ih =>
    rw [List.forall_mem_cons] at h
    rw [fieldTokens, List.cons_append, run_cons rfl, List.cons_append, run_cons rfl,
      List.cons_append, run_cons rfl, List.append_assoc, run_append (h.1 _), ih h.2]
    simp

theorem taken (v : Value) : Taken v := by
  induction v using Value.induction with
  | null => exact fun frames => rfl
  | bool b => exact fun frames => rfl
  | int n => exact fun frames => rfl
  | text s => exact fun frames => rfl
  | list vs ih =>
    intro frames
    cases vs with
    | nil => rfl
    | cons v vs =>
      rw [List.forall_mem_cons] at ih
      rw [tokens, run_cons rfl, run_append (ih.1 _), run_items ih.2, List.nil_append]
  | object fs ih =>
    intro frames
    cases fs with
    | nil => rfl
    | cons f fs =>
      rw [List.forall_mem_cons] at ih
      rw [tokens, run_cons rfl, run_cons rfl, run_cons rfl, run_append (ih.1 _), run_fields ih.2,
        List.nil_append]

theorem parse_eq_some_iff {ts : List Token} {v : Value} : parse ts = some v ↔ ts = tokens v := by
  constructor
  · intro h
    unfold parse at h
    split at h
    · rename_i hrun
      cases h
      exact (trace_run hrun).symm
    · cases h
  · rintro rfl
    rw [parse, taken v []]

/-- The document that a text stands for, if it is well-formed. -/
def read (text : String) : Option Value := (lex text.toList).bind parse

/-- The reader reads what the grammar has, and nothing else. -/
theorem read_eq_some_iff {text : String} {v : Value} : read text = some v ↔ Denotes text v := by
  simp only [read, Option.bind_eq_some_iff, lex_eq_some_iff, parse_eq_some_iff, exists_eq_right,
    Denotes]

end Json
end EntryScan
