import EntryScan.Proofs.LiteralGrammar

/-!
# EntryScan.Proofs.AddressText

An address as a report shows it can be given back: `Address.parse` reads what `Address.hexify`
writes, and gives the address modulo `2 ^ 64`. So two addresses have one text exactly if they are the
same modulo `2 ^ 64`.
-/

namespace EntryScan

/-! ## Digits -/

namespace Number

theorem hexDigit_plain : ∀ d < 16, plainDigit (Text.hexDigit d) = Text.hexDigit d := by
  decide

theorem hexDigit_value : ∀ d < 16, digitValue? (Text.hexDigit d) = some d := by
  decide

theorem hexDigit_ne_underscore : ∀ d < 16, Text.hexDigit d ≠ '_' := by
  decide

theorem exists_of_mem_hexDigits {n : Nat} {c : Char} (hc : c ∈ hexDigits n) :
    ∃ d < 16, c = Text.hexDigit d := by
  fun_induction hexDigits n with
  | case1 n hn => exact ⟨n, hn, List.mem_singleton.mp hc⟩
  | case2 n hn ih =>
    rcases List.mem_append.mp hc with hc | hc
    · exact ih hc
    · exact ⟨n % 16, Nat.mod_lt n (by decide), List.mem_singleton.mp hc⟩

theorem hexDigits_ne_nil (n : Nat) : hexDigits n ≠ [] := by
  fun_cases hexDigits n <;> simp

theorem digitsValue_hexDigits (n : Nat) : digitsValue 16 (hexDigits n) = n := by
  fun_induction hexDigits n with
  | case1 n hn => simp [digitsValue, hexDigit_value n hn]
  | case2 n hn ih =>
    have hlast := hexDigit_value (n % 16) (Nat.mod_lt n (by decide))
    unfold digitsValue at ih ⊢
    rw [List.foldl_append, ih, List.foldl_cons, List.foldl_nil, hlast, Option.getD_some]
    omega

theorem underscoresPlaced_of_not_mem {cs : List Char} (h : '_' ∉ cs) :
    underscoresPlaced cs = true := by
  fun_induction underscoresPlaced cs with
  | case1 => rfl
  | case2 | case3 => simp at h
  | case4 c cs _ _ ih => exact ih fun hmem => h (List.mem_cons_of_mem c hmem)

theorem underscore_not_mem_hexDigits (n : Nat) : '_' ∉ hexDigits n := by
  intro hmem
  obtain ⟨d, hd, heq⟩ := exists_of_mem_hexDigits hmem
  exact hexDigit_ne_underscore d hd heq.symm

theorem run_hexDigits (n : Nat) : Run 16 (hexDigits n) where
  within := by
    intro c hc
    obtain ⟨d, hd, rfl⟩ := exists_of_mem_hexDigits hc
    simp [isDigitOf, hexDigit_value d hd, hd]
  nonempty := hexDigits_ne_nil n
  front := fun h => underscore_not_mem_hexDigits n (List.mem_of_head? h)
  placed := underscoresPlaced_of_not_mem (underscore_not_mem_hexDigits n)

theorem ofDigits_values_hexDigits (n : Nat) :
    Nat.ofDigits 16 (values (hexDigits n)).reverse = n := by
  have hkept : (hexDigits n).filter (· != '_') = hexDigits n := by
    apply List.filter_eq_self.mpr
    intro c hc
    exact bne_iff_ne.mpr (ne_of_mem_of_not_mem hc (underscore_not_mem_hexDigits n))
  rw [← digitsValue_filter, hkept, digitsValue_hexDigits]

/-- A number in base sixteen is read back. -/
theorem parseLiteral_hexNat (n : Nat) : parseLiteral (hexNat n).toList = .ok (n : Int) := by
  have hplain : (hexDigits n).map plainDigit = hexDigits n := by
    have hsame (c : Char) (hc : c ∈ hexDigits n) : plainDigit c = id c := by
      obtain ⟨d, hd, rfl⟩ := exists_of_mem_hexDigits hc
      exact hexDigit_plain d hd
    rw [List.map_congr_left hsame, List.map_id]
  have hsign : splitSign (((hexNat n).toList.map plainDigit).dropWhile Text.isNumberBlank) =
      (false, '0' :: 'x' :: hexDigits n) := by
    rw [hexNat, String.toList_ofList, List.map_cons, List.map_cons, hplain]
    rfl
  have hsplit := (run_hexDigits n).splitBase_marked (show ('x', 16) ∈ baseMarks by decide) []
  rw [List.append_nil] at hsplit
  refine (parseLiteral_eq_ok_iff_reads hsign).mpr ⟨n, ?_, rfl⟩
  exact ⟨16, hexDigits n, [], by rw [hsplit, List.append_nil], run_hexDigits n, by simp, by simp,
    (ofDigits_values_hexDigits n).symm⟩

end Number

namespace Address

theorem parse_hexify (n : Int) : parse (hexify n) = .ok (wrap n) := by
  have hlow : 0 ≤ wrap n := Int.emod_nonneg n (by decide)
  have hhigh : wrap n < space := Int.emod_lt_of_pos n (by decide)
  rw [parse, hexify, Number.parseLiteral_hexNat, Int.toNat_of_nonneg hlow]
  exact if_neg (by omega)

@[simp] theorem hexify_wrap (n : Int) : hexify (wrap n) = hexify n := by
  rw [hexify, wrap_wrap, hexify]

theorem hexify_eq_iff {m n : Int} : hexify m = hexify n ↔ wrap m = wrap n := by
  constructor
  · intro h
    have hread := congrArg parse h
    rw [parse_hexify, parse_hexify] at hread
    exact Except.ok.inj hread
  · intro h
    rw [← hexify_wrap, h, hexify_wrap]

/-- Whatever is read has 64 bits. -/
theorem wrap_of_parse {text : String} {v : Int} (h : parse text = .ok v) : wrap v = v := by
  unfold parse at h
  split at h
  · cases h
  · split at h
    · cases h
    · obtain rfl := Except.ok.inj h
      exact Int.emod_eq_of_lt (by omega) (by omega)

end Address
end EntryScan
