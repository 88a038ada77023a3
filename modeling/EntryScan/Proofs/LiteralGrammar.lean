import EntryScan.Proofs.Address

/-!
# EntryScan.Proofs.LiteralGrammar

The grammar of integer literals, told without a reader: which characters are digits, how digits and
underscores follow each other, and which numbers have a mark. A reader takes from the front what
belongs to a number and looks at the rest afterwards; both come to the same.

* `Number.Denotes cs v`: the characters are a literal, and it denotes `v`.
* `Number.run_cons_iff`: how a run of digits, as a reader takes it, goes on behind its first digit.
* `Number.reads_iff_magnitude`: numbers without a sign are read as the grammar has them.
* `Number.parseLiteral_eq_ok_iff`: so the literals, with blanks around, are what is read.
-/

namespace EntryScan
namespace Number

/-! ## The grammar -/

/-- The letters that are digits, and their values. -/
def letterDigits : List (Char × Nat) :=
  [('a', 10), ('b', 11), ('c', 12), ('d', 13), ('e', 14), ('f', 15),
    ('A', 10), ('B', 11), ('C', 12), ('D', 13), ('E', 14), ('F', 15)]

/-- The marks behind a leading zero, and their bases. -/
def baseMarks : List (Char × Nat) :=
  [('x', 16), ('X', 16), ('o', 8), ('O', 8), ('b', 2), ('B', 2)]

/-- The character is the digit `d` of the base, in whatever script. -/
def IsDigit (base : Nat) (c : Char) (d : Nat) : Prop :=
  d < base ∧ (Text.decimalDigit? c = some d ∨ (c, d) ∈ letterDigits)

/-- Digits of the base, with single underscores between them, and their values. -/
inductive Digits (base : Nat) : List Char → List Nat → Prop where
  | last {c d} (hc : IsDigit base c d) : Digits base [c] [d]
  | next {c d cs ds} (hc : IsDigit base c d) (hcs : Digits base cs ds) :
      Digits base (c :: cs) (d :: ds)
  | apart {c d cs ds} (hc : IsDigit base c d) (hcs : Digits base cs ds) :
      Digits base (c :: '_' :: cs) (d :: ds)

/-- A number without a sign. The digit of the highest value stands first. -/
inductive Magnitude : List Char → Nat → Prop where
  | decimal {cs ds} (hcs : Digits 10 cs ds) (hlength : ds.length ≤ 4300)
      (hzero : ds.head? = some 0 → Nat.ofDigits 10 ds.reverse = 0) :
      Magnitude cs (Nat.ofDigits 10 ds.reverse)
  | marked {zero mark base cs ds} (hzero : Text.decimalDigit? zero = some 0)
      (hmark : (mark, base) ∈ baseMarks) (hcs : Digits base cs ds) :
      Magnitude (zero :: mark :: cs) (Nat.ofDigits base ds.reverse)
  | markedApart {zero mark base cs ds} (hzero : Text.decimalDigit? zero = some 0)
      (hmark : (mark, base) ∈ baseMarks) (hcs : Digits base cs ds) :
      Magnitude (zero :: mark :: '_' :: cs) (Nat.ofDigits base ds.reverse)

/-- The characters are an integer literal, and it denotes the number. -/
inductive Denotes : List Char → Int → Prop where
  | unsigned {cs n} (hcs : Magnitude cs n) : Denotes cs n
  | plus {cs n} (hcs : Magnitude cs n) : Denotes ('+' :: cs) n
  | minus {cs n} (hcs : Magnitude cs n) : Denotes ('-' :: cs) (-n)

/-! ## Characters -/

section Characters

variable {c x : Char} {d base : Nat}

theorem exists_zero_of_decimalDigit? (h : Text.decimalDigit? c = some d) :
    d < 10 ∧ ∃ z ∈ Text.digitZeros, c = Char.ofNat (z + d) := by
  obtain ⟨z, hz, rfl⟩ := Option.map_eq_some_iff.mp h
  have hbounds := List.find?_some hz
  simp only [Bool.and_eq_true, decide_eq_true_eq] at hbounds
  refine ⟨by omega, z, List.mem_of_find?_eq_some hz, ?_⟩
  rw [Nat.add_sub_cancel' hbounds.1, Char.ofNat_toNat]

theorem decimalDigit?_ascii : ∀ d < 10, Text.decimalDigit? (Char.ofNat (0x30 + d)) = some d := by
  decide

theorem digitValue?_ascii : ∀ d < 10, digitValue? (Char.ofNat (0x30 + d)) = some d := by
  decide

theorem letterDigits_spec :
    ∀ p ∈ letterDigits, Text.decimalDigit? p.1 = none ∧ digitValue? p.1 = some p.2 := by
  decide

theorem mem_letterDigits_lower :
    ∀ d < 6, (Char.ofNat (0x61 + d), 0x61 + d - 0x57) ∈ letterDigits := by
  decide

theorem mem_letterDigits_upper :
    ∀ d < 6, (Char.ofNat (0x41 + d), 0x41 + d - 0x37) ∈ letterDigits := by
  decide

theorem plainDigit_of_some (h : Text.decimalDigit? c = some d) :
    plainDigit c = Char.ofNat (0x30 + d) := by
  simp [plainDigit, h]

theorem plainDigit_of_none (h : Text.decimalDigit? c = none) : plainDigit c = c := by
  simp [plainDigit, h]

theorem eq_ofNat_add {z : Nat} (h : z ≤ c.toNat) : c = Char.ofNat (z + (c.toNat - z)) := by
  rw [Nat.add_sub_cancel' h, Char.ofNat_toNat]

theorem digitValue?_of_none (h : Text.decimalDigit? c = none) :
    digitValue? c = some d ↔ (c, d) ∈ letterDigits := by
  constructor
  · intro hd
    simp only [digitValue?, Bool.and_eq_true, decide_eq_true_eq] at hd
    split_ifs at hd with hdigit hlower hupper
    · rw [eq_ofNat_add hdigit.1, decimalDigit?_ascii _ (by omega)] at h
      cases h
    · have hmem := mem_letterDigits_lower (c.toNat - 0x61) (by omega)
      rw [← eq_ofNat_add hlower.1, Nat.add_sub_cancel' hlower.1] at hmem
      exact Option.some.inj hd ▸ hmem
    · have hmem := mem_letterDigits_upper (c.toNat - 0x41) (by omega)
      rw [← eq_ofNat_add hupper.1, Nat.add_sub_cancel' hupper.1] at hmem
      exact Option.some.inj hd ▸ hmem
  · intro hmem
    exact (letterDigits_spec _ hmem).2

theorem isDigit_iff : IsDigit base c d ↔ digitValue? (plainDigit c) = some d ∧ d < base := by
  rw [IsDigit, and_comm]
  apply and_congr_left
  intro _
  cases h : Text.decimalDigit? c with
  | some e =>
    have hletter : (c, d) ∉ letterDigits := by
      intro hmem
      simpa [h] using (letterDigits_spec _ hmem).1
    have hten := (exists_zero_of_decimalDigit? h).1
    simp [plainDigit_of_some h, digitValue?_ascii e hten, hletter]
  | none => simp [plainDigit_of_none h, digitValue?_of_none h]

theorem isDigitOf_plainDigit : isDigitOf base (plainDigit c) = true ↔ ∃ d, IsDigit base c d := by
  simp only [isDigit_iff, isDigitOf]
  cases digitValue? (plainDigit c) <;> simp

theorem decimalDigit?_plainDigit (c : Char) :
    Text.decimalDigit? (plainDigit c) = Text.decimalDigit? c := by
  cases h : Text.decimalDigit? c with
  | some d => rw [plainDigit_of_some h, decimalDigit?_ascii d (exists_zero_of_decimalDigit? h).1]
  | none => rw [plainDigit_of_none h, h]

/-- What is no digit of any script stands for itself alone. -/
theorem plainDigit_eq_iff (hx : Text.decimalDigit? x = none) : plainDigit c = x ↔ c = x := by
  constructor
  · rintro rfl
    rw [decimalDigit?_plainDigit] at hx
    exact (plainDigit_of_none hx).symm
  · rintro rfl
    exact plainDigit_of_none hx

theorem plainDigit_eq_zero_iff : plainDigit c = '0' ↔ Text.decimalDigit? c = some 0 := by
  constructor
  · intro hc
    rw [← decimalDigit?_plainDigit, hc]
    decide
  · exact plainDigit_of_some

theorem plainDigit_eq_underscore_iff : plainDigit c = '_' ↔ c = '_' :=
  plainDigit_eq_iff (by decide)

theorem digits_not_blank : ∀ z ∈ Text.digitZeros, ∀ d < 10,
    Text.isNumberBlank (Char.ofNat (z + d)) = false := by
  decide +kernel

theorem letters_not_blank : ∀ p ∈ letterDigits, Text.isNumberBlank p.1 = false := by
  decide

theorem IsDigit.not_blank (h : IsDigit base c d) : Text.isNumberBlank c = false := by
  rcases h.2 with h | h
  · obtain ⟨hd, z, hz, rfl⟩ := exists_zero_of_decimalDigit? h
    exact digits_not_blank z hz d hd
  · exact letters_not_blank (c, d) h

theorem isNumberBlank_plainDigit (c : Char) :
    Text.isNumberBlank (plainDigit c) = Text.isNumberBlank c := by
  cases h : Text.decimalDigit? c with
  | some d =>
    obtain ⟨hd, z, hz, rfl⟩ := exists_zero_of_decimalDigit? h
    rw [plainDigit_of_some h, digits_not_blank z hz d hd]
    exact digits_not_blank 0x30 (by decide) d hd
  | none => rw [plainDigit_of_none h]

end Characters

/-! ## Runs of digits -/

/-- What a reader takes for digits: characters of the class, a digit in front, and underscores that
stand singly between digits. -/
@[mk_iff]
structure Run (base : Nat) (cs : List Char) : Prop where
  within : ∀ c ∈ cs, (isDigitOf base c || c == '_') = true
  nonempty : cs ≠ []
  front : cs.head? ≠ some '_'
  placed : underscoresPlaced cs = true

/-- The values of the digits among the characters. -/
def values (cs : List Char) : List Nat :=
  (cs.filter (· != '_')).map fun c => (digitValue? c).getD 0

section Runs

variable {base : Nat} {c d : Char} {cs : List Char} {ds : List Nat}

theorem underscoresPlaced_cons (hc : c ≠ '_') (cs : List Char) :
    underscoresPlaced (c :: cs) = underscoresPlaced cs := by
  cases cs <;> simp [underscoresPlaced, hc]

theorem underscoresPlaced_underscore (cs : List Char) :
    underscoresPlaced ('_' :: cs) = true ↔
      cs ≠ [] ∧ cs.head? ≠ some '_' ∧ underscoresPlaced cs = true := by
  cases cs with
  | nil => simp [underscoresPlaced]
  | cons c cs => by_cases hc : c = '_' <;> simp [underscoresPlaced, hc]

theorem values_underscore (cs : List Char) : values ('_' :: cs) = values cs := by
  simp [values]

theorem IsDigit.plain_ne {n : Nat} (h : IsDigit base c n) (hd : digitValue? d = none) :
    plainDigit c ≠ d := by
  rintro rfl
  rw [(isDigit_iff.mp h).1] at hd
  cases hd

theorem IsDigit.values_cons {n : Nat} (h : IsDigit base c n) (cs : List Char) :
    values (plainDigit c :: cs) = n :: values cs := by
  have hvalue := (isDigit_iff.mp h).1
  have hne : plainDigit c ≠ '_' := h.plain_ne rfl
  simp [values, hne, hvalue]

theorem isDigitOf_underscore (base : Nat) : isDigitOf base '_' = false := rfl

/-- A digit in front of a run, with or without an underscore, makes a run, and no run comes about
otherwise. -/
theorem run_cons_iff : Run base (c :: cs) ↔ isDigitOf base c = true ∧
    (cs = [] ∨ Run base cs ∨ ∃ rest, cs = '_' :: rest ∧ Run base rest) := by
  by_cases hc : c = '_'
  · subst hc
    simp [run_iff, isDigitOf_underscore]
  have hclass : (isDigitOf base c || c == '_') = isDigitOf base c := by simp [hc]
  cases cs with
  | nil => simp [run_iff, underscoresPlaced_cons hc, underscoresPlaced, hc]
  | cons d ds =>
    rw [run_iff, underscoresPlaced_cons hc, List.forall_mem_cons, hclass]
    by_cases hd : d = '_'
    · subst hd
      simp [run_iff, underscoresPlaced_underscore, hc, isDigitOf_underscore, and_assoc]
    · simp [run_iff, hc, hd, and_assoc]

theorem Digits.run (h : Digits base cs ds) : Run base (cs.map plainDigit) := by
  induction h with
  | last hc => exact run_cons_iff.mpr ⟨isDigitOf_plainDigit.mpr ⟨_, hc⟩, .inl rfl⟩
  | next hc _ ih => exact run_cons_iff.mpr ⟨isDigitOf_plainDigit.mpr ⟨_, hc⟩, .inr (.inl ih)⟩
  | apart hc _ ih =>
    refine run_cons_iff.mpr ⟨isDigitOf_plainDigit.mpr ⟨_, hc⟩, .inr (.inr ⟨_, ?_, ih⟩)⟩
    rw [List.map_cons, plainDigit_eq_underscore_iff.mpr rfl]

/-- By induction on the characters, two at a time because an underscore goes with the digit before
it. -/
theorem Run.exists_digits (h : Run base (cs.map plainDigit)) : ∃ ds, Digits base cs ds := by
  induction cs using List.twoStepInduction with
  | nil => exact absurd rfl h.nonempty
  | singleton c =>
    obtain ⟨n, hn⟩ := isDigitOf_plainDigit.mp (run_cons_iff.mp h).1
    exact ⟨[n], .last hn⟩
  | cons_cons c d cs ih ih' =>
    obtain ⟨hc, hrest⟩ := run_cons_iff.mp h
    obtain ⟨n, hn⟩ := isDigitOf_plainDigit.mp hc
    rcases hrest with hnil | hnext | ⟨rest, heq, hapart⟩
    · cases hnil
    · obtain ⟨ds, hds⟩ := ih' d hnext
      exact ⟨n :: ds, .next hn hds⟩
    · rw [List.map_cons, List.cons.injEq, plainDigit_eq_underscore_iff] at heq
      obtain ⟨rfl, rfl⟩ := heq
      obtain ⟨ds, hds⟩ := ih hapart
      exact ⟨n :: ds, .apart hn hds⟩

theorem Digits.values (h : Digits base cs ds) : values (cs.map plainDigit) = ds := by
  induction h with
  | last hc => exact hc.values_cons []
  | next hc _ ih => rw [List.map_cons, hc.values_cons, ih]
  | apart hc _ ih =>
    rw [List.map_cons, hc.values_cons, List.map_cons, plainDigit_eq_underscore_iff.mpr rfl,
      values_underscore, ih]

theorem digitsValue_filter (base : Nat) (cs : List Char) :
    digitsValue base (cs.filter (· != '_')) = Nat.ofDigits base (values cs).reverse := by
  rw [digitsValue, values, Nat.ofDigits_eq_foldr, List.foldr_reverse, List.foldl_map]
  simp only [Nat.cast_id, Nat.mul_comm, Nat.add_comm]

theorem digitValue?_eq_zero_iff : digitValue? c = some 0 ↔ c = '0' := by
  constructor
  · intro h
    simp only [digitValue?, Bool.and_eq_true, decide_eq_true_eq] at h
    split_ifs at h with hdigit hlower hupper <;> rw [Option.some.injEq] at h
    · exact Char.toNat_inj.mp (show c.toNat = 0x30 by omega)
    · omega
    · omega
  · rintro rfl
    rfl

theorem not_blank_of_class (h : (isDigitOf base c || c == '_') = true) :
    Text.isNumberBlank c = false := by
  rcases Bool.or_eq_true_iff.mp h with h | h
  · simp only [isDigitOf, digitValue?, Bool.and_eq_true, decide_eq_true_eq] at h
    simp only [Text.isNumberBlank, Bool.or_eq_false_iff, Bool.and_eq_false_iff, beq_eq_false_iff_ne,
      decide_eq_false_iff_not]
    split at h
    · split_ifs at * <;> omega
    · cases h
  · rw [beq_iff_eq.mp h]
    decide

/-- A run ends where blanks begin. -/
theorem Run.takeWhile_append (h : Run base cs) {rest : List Char}
    (hrest : ∀ c ∈ rest, Text.isNumberBlank c = true) :
    (cs ++ rest).takeWhile (fun c => isDigitOf base c || c == '_') = cs := by
  rw [List.takeWhile_append_of_pos h.within]
  cases rest with
  | nil => rw [List.takeWhile_nil, List.append_nil]
  | cons c rest =>
    have hblank := hrest c List.mem_cons_self
    rw [List.takeWhile_cons_of_neg, List.append_nil]
    intro hclass
    simp [not_blank_of_class hclass] at hblank

theorem Run.dropWhile_append (h : Run base cs) {rest : List Char}
    (hrest : ∀ c ∈ rest, Text.isNumberBlank c = true) :
    (cs ++ rest).dropWhile (fun c => isDigitOf base c || c == '_') = rest := by
  have hsplit := List.takeWhile_append_dropWhile
    (p := fun c => isDigitOf base c || c == '_') (l := cs ++ rest)
  rw [h.takeWhile_append hrest] at hsplit
  exact List.append_cancel_left hsplit

theorem length_values (cs : List Char) :
    (values cs).length = (cs.filter (· != '_')).length := by
  rw [values, List.length_map]

theorem Run.exists_front (h : Run base cs) :
    ∃ c rest n, cs = c :: rest ∧ c ≠ '_' ∧ digitValue? c = some n := by
  cases cs with
  | nil => exact absurd rfl h.nonempty
  | cons c cs =>
    have hdigit := (run_cons_iff.mp h).1
    cases hc : digitValue? c with
    | none => simp [isDigitOf, hc] at hdigit
    | some n =>
      refine ⟨c, cs, n, rfl, ?_, hc⟩
      rintro rfl
      simp [isDigitOf_underscore] at hdigit

theorem Run.filter_ne_nil (h : Run base cs) : cs.filter (· != '_') ≠ [] := by
  obtain ⟨c, rest, n, rfl, hc, -⟩ := h.exists_front
  simp [hc]

theorem Run.leading_zero_iff (h : Run base cs) :
    (cs.filter (· != '_')).head? = some '0' ↔ (values cs).head? = some 0 := by
  obtain ⟨c, rest, n, rfl, hc, hn⟩ := h.exists_front
  have hzero := @digitValue?_eq_zero_iff c
  rw [hn, Option.some.injEq] at hzero
  simp [values, hc, hn, hzero]

end Runs

/-! ## Reading -/

/-- What is read of a number without a sign: a run of digits, and blanks behind it. -/
def Reads (body : List Char) (n : Nat) : Prop :=
  ∃ base run rest, splitBase body = (base, run ++ rest) ∧ Run base run ∧
    (∀ c ∈ rest, Text.isNumberBlank c = true) ∧
    (base = 10 → (values run).length ≤ 4300 ∧
      ((values run).head? = some 0 → Nat.ofDigits 10 (values run).reverse = 0)) ∧
    n = Nat.ofDigits base (values run).reverse

section Reading

variable {text : List Char} {v : Int}

theorem ite_error_eq_ok_iff {p : Prop} [Decidable p] {fault : LiteralFault}
    {x : Except LiteralFault Int} : (if p then .error fault else x) = .ok v ↔ ¬p ∧ x = .ok v := by
  split <;> simp [*]

theorem parseLiteral_eq_ok_iff_reads {negative : Bool} {body : List Char}
    (hsign : splitSign ((text.map plainDigit).dropWhile Text.isNumberBlank) = (negative, body)) :
    parseLiteral text = .ok v ↔
      ∃ n : Nat, Reads body n ∧ v = if negative then -(n : Int) else n := by
  unfold parseLiteral
  rcases hbase : splitBase body with ⟨base, cs⟩
  simp only [hsign, hbase, digitsValue_filter, ite_error_eq_ok_iff, Bool.or_eq_true, beq_iff_eq,
    Bool.not_eq_true', not_or, Bool.not_eq_false, List.isEmpty_iff, List.all_eq_true,
    Except.ok.injEq]
  constructor
  · rintro ⟨⟨hfront, hplaced⟩, hlength, hzero, ⟨hnonempty, hrest⟩, rfl⟩
    have hsplit := List.takeWhile_append_dropWhile
      (p := fun c => isDigitOf base c || c == '_') (l := cs)
    have hrun : Run base (cs.takeWhile fun c => isDigitOf base c || c == '_') := by
      refine ⟨List.all_eq_true.mp List.all_takeWhile, ?_, hfront, hplaced⟩
      intro hnil
      rw [hnil] at hnonempty
      exact hnonempty rfl
    refine ⟨_, ⟨base, _, _, hbase.trans (by rw [hsplit]), hrun, hrest, ?_, rfl⟩, rfl⟩
    rintro rfl
    rw [← length_values, not_and, not_lt] at hlength
    rw [hrun.leading_zero_iff, not_and, not_and, not_not] at hzero
    exact ⟨hlength rfl, hzero rfl⟩
  · rintro ⟨n, ⟨base', run, rest, hsplit, hrun, hrest, hten, rfl⟩, rfl⟩
    obtain ⟨rfl, rfl⟩ := Prod.mk.inj (hbase.symm.trans hsplit)
    rw [hrun.takeWhile_append hrest, hrun.dropWhile_append hrest]
    refine ⟨⟨hrun.front, hrun.placed⟩, ?_, ?_, ⟨hrun.filter_ne_nil, hrest⟩, rfl⟩
    · rintro ⟨rfl, hlong⟩
      rw [← length_values] at hlong
      exact absurd (hten rfl).1 (not_le.mpr hlong)
    · rintro ⟨rfl, hhead, hvalue⟩
      exact hvalue ((hten rfl).2 (hrun.leading_zero_iff.mp hhead))

/-! ### The base -/

variable {base : Nat} {mark : Char} {cs run rest : List Char}

theorem baseOfMark?_eq_some_iff : baseOfMark? mark = some base ↔ (mark, base) ∈ baseMarks := by
  simp only [baseOfMark?, baseMarks, Bool.or_eq_true, decide_eq_true_eq, List.mem_cons,
    Prod.mk.injEq, List.not_mem_nil, or_false]
  split_ifs <;> grind

theorem baseMarks_spec : ∀ p ∈ baseMarks, Text.decimalDigit? p.1 = none ∧
    (isDigitOf 10 p.1 || p.1 == '_') = false ∧ Text.isNumberBlank p.1 = false ∧ p.2 ≠ 10 := by
  decide

theorem splitBase_cases (body : List Char) : splitBase body = (10, body) ∨
    ∃ mark base cs, (mark, base) ∈ baseMarks ∧ splitBase body = (base, cs) ∧
      (body = '0' :: mark :: cs ∨ body = '0' :: mark :: '_' :: cs) := by
  fun_cases splitBase body with
  | case1 c base rest h => exact .inr ⟨c, base, rest, baseOfMark?_eq_some_iff.mp h, rfl, .inr rfl⟩
  | case2 c base cs _ h => exact .inr ⟨c, base, cs, baseOfMark?_eq_some_iff.mp h, rfl, .inl rfl⟩
  | case3 => exact .inl rfl
  | case4 => exact .inl rfl

theorem Run.splitBase_marked (h : Run base run) (hmark : (mark, base) ∈ baseMarks)
    (rest : List Char) : splitBase ('0' :: mark :: (run ++ rest)) = (base, run ++ rest) := by
  obtain ⟨c, run, -, rfl, hc, -⟩ := h.exists_front
  simp [splitBase, baseOfMark?_eq_some_iff.mpr hmark, hc]

theorem splitBase_markedApart (hmark : (mark, base) ∈ baseMarks) (cs : List Char) :
    splitBase ('0' :: mark :: '_' :: cs) = (base, cs) := by
  simp [splitBase, baseOfMark?_eq_some_iff.mpr hmark]

/-- A mark is neither a decimal digit nor a blank. -/
theorem Run.splitBase_decimal (h : Run 10 run) (hrest : ∀ c ∈ rest, Text.isNumberBlank c = true) :
    splitBase (run ++ rest) = (10, run ++ rest) := by
  rcases splitBase_cases (run ++ rest) with hten | ⟨mark, base, cs, hmark, -, hbody⟩
  · exact hten
  · exfalso
    obtain ⟨-, hclass, hblank, -⟩ := baseMarks_spec _ hmark
    have hmem : mark ∈ run ++ rest := by
      rcases hbody with hbody | hbody <;> simp [hbody]
    rcases List.mem_append.mp hmem with hmem | hmem
    · simp [h.within mark hmem] at hclass
    · simp [hrest mark hmem] at hblank

/-! ### Reading and grammar -/

theorem blank_map_plainDigit (h : ∀ c ∈ cs, Text.isNumberBlank c = true) :
    ∀ c ∈ cs.map plainDigit, Text.isNumberBlank c = true := by
  intro c hc
  obtain ⟨c', hc', rfl⟩ := List.mem_map.mp hc
  rw [isNumberBlank_plainDigit]
  exact h c' hc'

theorem Run.exists_core (h : Run base run) (hrest : ∀ c ∈ rest, Text.isNumberBlank c = true)
    (hcs : cs.map plainDigit = run ++ rest) :
    ∃ core tail, cs = core ++ tail ∧ (∀ c ∈ tail, Text.isNumberBlank c = true) ∧
      Digits base core (values run) := by
  obtain ⟨core, tail, rfl, rfl, rfl⟩ := List.map_eq_append_iff.mp hcs
  obtain ⟨ds, hds⟩ := h.exists_digits
  refine ⟨core, tail, rfl, ?_, hds.values ▸ hds⟩
  intro c hc
  rw [← isNumberBlank_plainDigit]
  exact hrest _ (List.mem_map_of_mem hc)

theorem map_plainDigit_marked_iff (hmark : (mark, base) ∈ baseMarks) {body : List Char} :
    cs.map plainDigit = '0' :: mark :: body ↔
      ∃ zero rest, cs = zero :: mark :: rest ∧ Text.decimalDigit? zero = some 0 ∧
        rest.map plainDigit = body := by
  have hplain := (baseMarks_spec _ hmark).1
  simp only [List.map_eq_cons_iff, plainDigit_eq_zero_iff, plainDigit_eq_iff hplain]
  grind

theorem reads_iff_magnitude {n : Nat} : Reads (cs.map plainDigit) n ↔
    ∃ core tail, cs = core ++ tail ∧ (∀ c ∈ tail, Text.isNumberBlank c = true) ∧
      Magnitude core n := by
  constructor
  · rintro ⟨base, run, rest, hsplit, hrun, hrest, hten, rfl⟩
    rcases splitBase_cases (cs.map plainDigit) with hbody | ⟨mark, base', body, hmark, hbody, heq⟩
    · obtain ⟨rfl, hcs⟩ := Prod.mk.inj (hbody.symm.trans hsplit)
      obtain ⟨core, tail, rfl, htail, hcore⟩ := hrun.exists_core hrest hcs
      exact ⟨core, tail, rfl, htail, .decimal hcore (hten rfl).1 (hten rfl).2⟩
    · obtain ⟨rfl, rfl⟩ := Prod.mk.inj (hbody.symm.trans hsplit)
      rw [map_plainDigit_marked_iff hmark, map_plainDigit_marked_iff hmark] at heq
      rcases heq with ⟨zero, cs, rfl, hzero, hcs⟩ | ⟨zero, _, rfl, hzero, hcs⟩
      · obtain ⟨core, tail, rfl, htail, hcore⟩ := hrun.exists_core hrest hcs
        exact ⟨_, tail, rfl, htail, .marked hzero hmark hcore⟩
      · obtain ⟨c, cs, rfl, hc, hbehind⟩ := List.map_eq_cons_iff.mp hcs
        obtain rfl := plainDigit_eq_underscore_iff.mp hc
        obtain ⟨core, tail, rfl, htail, hcore⟩ := hrun.exists_core hrest hbehind
        exact ⟨_, tail, rfl, htail, .markedApart hzero hmark hcore⟩
  · rintro ⟨core, tail, rfl, htail, hcore⟩
    have hrest := blank_map_plainDigit htail
    cases hcore with
    | decimal hcs hlength hzero =>
      rw [List.map_append]
      refine ⟨10, _, _, hcs.run.splitBase_decimal hrest, hcs.run, hrest, ?_, by rw [hcs.values]⟩
      rw [hcs.values]
      exact fun _ => ⟨hlength, hzero⟩
    | @marked _ _ _ cs _ hzero hmark hcs =>
      have hbody := (map_plainDigit_marked_iff hmark).mpr
        ⟨_, cs ++ tail, rfl, hzero, List.map_append⟩
      refine ⟨_, _, _, ?_, hcs.run, hrest, ?_, by rw [hcs.values]⟩
      · exact (congrArg splitBase hbody).trans (hcs.run.splitBase_marked hmark _)
      · exact fun hten => absurd hten (baseMarks_spec _ hmark).2.2.2
    | @markedApart _ _ _ cs _ hzero hmark hcs =>
      have hapart : ('_' :: cs ++ tail).map plainDigit =
          '_' :: (cs.map plainDigit ++ tail.map plainDigit) := by
        rw [List.cons_append, List.map_cons, plainDigit_eq_underscore_iff.mpr rfl, List.map_append]
      have hbody := (map_plainDigit_marked_iff hmark).mpr ⟨_, _, rfl, hzero, hapart⟩
      refine ⟨_, _, _, ?_, hcs.run, hrest, ?_, by rw [hcs.values]⟩
      · exact (congrArg splitBase hbody).trans (splitBase_markedApart hmark _)
      · exact fun hten => absurd hten (baseMarks_spec _ hmark).2.2.2

/-! ### The sign -/

theorem splitSign_cases (cs : List Char) :
    (∃ rest, cs = '+' :: rest ∧ splitSign cs = (false, rest)) ∨
      (∃ rest, cs = '-' :: rest ∧ splitSign cs = (true, rest)) ∨ splitSign cs = (false, cs) := by
  fun_cases splitSign cs with
  | case1 rest => exact .inl ⟨rest, rfl, rfl⟩
  | case2 rest => exact .inr (.inl ⟨rest, rfl, rfl⟩)
  | case3 => exact .inr (.inr rfl)

theorem IsDigit.splitSign {c : Char} {d : Nat} (h : IsDigit base c d) (cs : List Char) :
    splitSign (plainDigit c :: cs) = (false, plainDigit c :: cs) := by
  have hplus : plainDigit c ≠ '+' := h.plain_ne rfl
  have hminus : plainDigit c ≠ '-' := h.plain_ne rfl
  simp [Number.splitSign, hplus, hminus]

theorem Magnitude.front_digit {n : Nat} (h : Magnitude cs n) :
    ∃ c rest d, cs = c :: rest ∧ IsDigit 10 c d := by
  cases h with
  | decimal hcs => cases hcs with
    | last hc => exact ⟨_, _, _, rfl, hc⟩
    | next hc => exact ⟨_, _, _, rfl, hc⟩
    | apart hc => exact ⟨_, _, _, rfl, hc⟩
  | marked hzero => exact ⟨_, _, 0, rfl, by decide, .inl hzero⟩
  | markedApart hzero => exact ⟨_, _, 0, rfl, by decide, .inl hzero⟩

theorem Reads.exists_behind {sign : Char} (hsign : Text.decimalDigit? sign = none) {n : Nat}
    (hcs : cs.map plainDigit = sign :: rest) (h : Reads rest n) :
    ∃ core tail, cs = sign :: core ++ tail ∧ (∀ c ∈ tail, Text.isNumberBlank c = true) ∧
      Magnitude core n := by
  obtain ⟨c, cs, rfl, hc, rfl⟩ := List.map_eq_cons_iff.mp hcs
  obtain rfl := (plainDigit_eq_iff hsign).mp hc
  obtain ⟨core, tail, rfl, htail, hcore⟩ := reads_iff_magnitude.mp h
  exact ⟨core, tail, rfl, htail, hcore⟩

theorem parseLiteral_eq_ok_iff_core : parseLiteral text = .ok v ↔
    ∃ core tail, text.dropWhile Text.isNumberBlank = core ++ tail ∧
      (∀ c ∈ tail, Text.isNumberBlank c = true) ∧ Denotes core v := by
  have hblanks : (text.map plainDigit).dropWhile Text.isNumberBlank =
      (text.dropWhile Text.isNumberBlank).map plainDigit := by
    rw [List.dropWhile_map]
    congr 2
    funext c
    exact isNumberBlank_plainDigit c
  have hreads := @parseLiteral_eq_ok_iff_reads text v
  rw [hblanks] at hreads
  generalize text.dropWhile Text.isNumberBlank = cs at hreads ⊢
  constructor
  · intro h
    rcases splitSign_cases (cs.map plainDigit) with ⟨_, heq, hsign⟩ | ⟨_, heq, hsign⟩ | hsign
    · obtain ⟨n, hn, rfl⟩ := (hreads hsign).mp h
      obtain ⟨core, tail, rfl, htail, hcore⟩ := hn.exists_behind (by decide) heq
      exact ⟨_, tail, rfl, htail, .plus hcore⟩
    · obtain ⟨n, hn, rfl⟩ := (hreads hsign).mp h
      obtain ⟨core, tail, rfl, htail, hcore⟩ := hn.exists_behind (by decide) heq
      exact ⟨_, tail, rfl, htail, .minus hcore⟩
    · obtain ⟨n, hn, rfl⟩ := (hreads hsign).mp h
      obtain ⟨core, tail, rfl, htail, hcore⟩ := reads_iff_magnitude.mp hn
      exact ⟨core, tail, rfl, htail, .unsigned hcore⟩
  · rintro ⟨core, tail, rfl, htail, hdenotes⟩
    cases hdenotes with
    | unsigned hcs =>
      obtain ⟨c, rest, d, rfl, hc⟩ := hcs.front_digit
      exact (hreads (hc.splitSign _)).mpr
        ⟨_, reads_iff_magnitude.mpr ⟨_, tail, rfl, htail, hcs⟩, rfl⟩
    | plus hcs =>
      exact (hreads rfl).mpr ⟨_, reads_iff_magnitude.mpr ⟨_, tail, rfl, htail, hcs⟩, rfl⟩
    | minus hcs =>
      exact (hreads rfl).mpr ⟨_, reads_iff_magnitude.mpr ⟨_, tail, rfl, htail, hcs⟩, rfl⟩

end Reading

/-! ## Blanks at the end -/

theorem Digits.last_not_blank {base : Nat} {cs : List Char} {ds : List Nat}
    (h : Digits base cs ds) : ∃ c, cs.getLast? = some c ∧ Text.isNumberBlank c = false := by
  induction h with
  | last hc => exact ⟨_, rfl, hc.not_blank⟩
  | next _ _ ih =>
    obtain ⟨c, hc, hblank⟩ := ih
    exact ⟨c, by simp [List.getLast?_cons, hc], hblank⟩
  | apart _ _ ih =>
    obtain ⟨c, hc, hblank⟩ := ih
    exact ⟨c, by simp [List.getLast?_cons, hc], hblank⟩

theorem Magnitude.last_not_blank {cs : List Char} {n : Nat} (h : Magnitude cs n) :
    ∃ c, cs.getLast? = some c ∧ Text.isNumberBlank c = false := by
  cases h with
  | decimal hcs => exact hcs.last_not_blank
  | marked _ _ hcs | markedApart _ _ hcs =>
    obtain ⟨c, hc, hblank⟩ := hcs.last_not_blank
    exact ⟨c, by simp [List.getLast?_cons, hc], hblank⟩

theorem Denotes.last_not_blank {cs : List Char} {v : Int} (h : Denotes cs v) :
    ∃ c, cs.getLast? = some c ∧ Text.isNumberBlank c = false := by
  cases h with
  | unsigned hcs => exact hcs.last_not_blank
  | plus hcs | minus hcs =>
    obtain ⟨c, hc, hblank⟩ := hcs.last_not_blank
    exact ⟨c, by simp [List.getLast?_cons, hc], hblank⟩

end Number

theorem Text.dropEndWhile_append {p : Char → Bool} {c : Char} {cs tail : List Char}
    (hlast : cs.getLast? = some c) (hc : p c = false) (htail : ∀ d ∈ tail, p d = true) :
    dropEndWhile p (cs ++ tail) = cs := by
  have hend : ∀ d ∈ tail.reverse, p d = true := fun d hd => htail d (List.mem_reverse.mp hd)
  obtain ⟨init, hinit⟩ : ∃ init, cs.reverse = c :: init := by
    rw [← List.head?_reverse, List.head?_eq_some_iff] at hlast
    exact hlast
  rw [dropEndWhile, List.reverse_append, List.dropWhile_append_of_pos hend, hinit,
    List.dropWhile_cons_of_neg (by simp [hc]), ← hinit, List.reverse_reverse]

/-- The literals are what is read, once the blanks around are gone. -/
theorem Number.parseLiteral_eq_ok_iff {text : List Char} {v : Int} :
    parseLiteral text = .ok v ↔ Denotes (Text.trim Text.isNumberBlank text) v := by
  rw [parseLiteral_eq_ok_iff_core, Text.trim]
  generalize text.dropWhile Text.isNumberBlank = cs
  constructor
  · rintro ⟨core, tail, rfl, htail, hcore⟩
    obtain ⟨c, hlast, hc⟩ := hcore.last_not_blank
    rwa [Text.dropEndWhile_append hlast hc htail]
  · intro h
    exact ⟨_, cs.rtakeWhile Text.isNumberBlank, List.rdropWhile_append_rtakeWhile.symm,
      fun c hc => List.mem_rtakeWhile_imp hc, h⟩

/-- **The texts of addresses.** A text is read as the address `v` exactly if it is, without the
blanks around it, a literal that denotes `v`, and `v` has 64 bits. Every other text is refused: a
literal because it is out of range, and all else because it is no literal. -/
theorem Address.parse_exact (text : String) :
    let literal := Text.trim Text.isNumberBlank text.toList
    (∀ v, parse text = .ok v ↔ Number.Denotes literal v ∧ 0 ≤ v ∧ v < 2 ^ 64) ∧
    ((∃ fault, parse text = .error fault) ↔
      ¬ ∃ v, Number.Denotes literal v ∧ 0 ≤ v ∧ v < 2 ^ 64) ∧
    (parse text = .error (.outOfRange text) ↔
      ∃ v, Number.Denotes literal v ∧ ¬ (0 ≤ v ∧ v < 2 ^ 64)) ∧
    ((∃ cause, parse text = .error (.literal text cause)) ↔ ¬ ∃ v, Number.Denotes literal v) := by
  intro literal
  have hliteral (v : Int) :
      Number.parseLiteral text.toList = .ok v ↔ Number.Denotes literal v :=
    Number.parseLiteral_eq_ok_iff
  simp only [← hliteral, parse, space_eq]
  cases Number.parseLiteral text.toList with
  | error cause => simp
  | ok n =>
    simp only [Except.ok.injEq]
    split
    · have hout : ¬ (0 ≤ n ∧ n < 2 ^ 64) := by omega
      grind
    · have hin : 0 ≤ n ∧ n < 2 ^ 64 := by omega
      grind

-- an Arabic zero before the mark, and a decimal number with a leading zero
example : Address.parse "\u2003+\u0660X_7f_fF\t" = .ok 0x7fff ∧
    Address.parse "-0_0" = .ok 0 ∧
    Address.parse "007" = .error (.literal "007" .malformed) := by
  decide +kernel

end EntryScan
