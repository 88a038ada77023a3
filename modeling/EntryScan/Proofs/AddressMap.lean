import EntryScan.AddressMap

/-!
# EntryScan.Proofs.AddressMap

Maps of addresses stay in ascending order, and are known by what they hold.

* `insertAddress` adds one member (`mem_insertAddress`) and keeps the order.
* `alter` changes the entry at one address only (`get?_alter`).
* `get?_tallies`: a map that many items are added to, each at its own address, holds at an address
  what the items with that address add up to.

Tables with other keys keep the order in which their entries came in; `lookup_replace` says what
they hold after an entry is set.
-/

namespace EntryScan

/-! ## Tables -/

section
variable {κ ν : Type} [BEq κ] [LawfulBEq κ] [DecidableEq κ] {key : κ} {value : ν}
  {replace : κ × ν → κ × ν}

theorem lookup_map_replace
    (hreplace : ∀ k v, replace (k, v) = if k = key then (k, value) else (k, v))
    (table : List (κ × ν)) (other : κ) :
    (table.map replace).lookup other =
      if other = key then (table.lookup key).map fun _ => value else table.lookup other := by
  induction table with
  | nil => simp
  | cons entry table ih =>
    obtain ⟨k, v⟩ := entry
    rw [List.map_cons, hreplace]
    by_cases hk : k = key
    · rw [if_pos hk, List.lookup_cons, ih, hk]
      by_cases hother : other = key
      · simp [hother]
      · have hne : (other == key) = false := by simp [hother]
        simp [hother, List.lookup_cons, hne]
    · rw [if_neg hk, List.lookup_cons, ih]
      by_cases hother : other = key
      · have hne : (key == k) = false := by simp [Ne.symm hk]
        simp [hother, List.lookup_cons, hne]
      · simp [hother, List.lookup_cons]

/-- An entry that is there is replaced in its place, and a new one comes last. -/
theorem lookup_replace
    (hreplace : ∀ k v, replace (k, v) = if k = key then (k, value) else (k, v))
    (table : List (κ × ν)) (other : κ) :
    (if (table.lookup key).isSome then table.map replace else table ++ [(key, value)]).lookup other =
      if other = key then some value else table.lookup other := by
  by_cases hthere : (table.lookup key).isSome
  · rw [if_pos hthere, lookup_map_replace hreplace]
    obtain ⟨old, hold⟩ := Option.isSome_iff_exists.mp hthere
    rw [hold]
    rfl
  · rw [if_neg hthere, List.lookup_append]
    by_cases hother : other = key
    · subst hother
      rw [if_pos rfl, Option.not_isSome_iff_eq_none.mp hthere]
      simp
    · have hne : (other == key) = false := by simp [hother]
      rw [if_neg hother]
      simp [List.lookup_cons, hne]

end

/-! ## Sets -/

@[simp] theorem mem_insertAddress {a b : Int} {as : List Int} :
    b ∈ insertAddress a as ↔ b = a ∨ b ∈ as := by
  induction as with
  | nil => simp [insertAddress]
  | cons x xs ih =>
    simp only [insertAddress]
    split
    · simp
    · split
      · rename_i hax
        subst hax
        simp
      · simp only [List.mem_cons, ih]
        exact or_left_comm

theorem insertAddress_ascending {as : List Int} (h : as.Pairwise (· < ·)) (a : Int) :
    (insertAddress a as).Pairwise (· < ·) := by
  induction as with
  | nil => exact List.pairwise_singleton _ _
  | cons b bs ih =>
    obtain ⟨hb, hbs⟩ := List.pairwise_cons.mp h
    simp only [insertAddress]
    split
    · rename_i hab
      refine List.pairwise_cons.mpr ⟨?_, h⟩
      intro x hx
      cases hx with
      | head => exact hab
      | tail _ hx => exact Int.lt_trans hab (hb x hx)
    · split
      · exact h
      · refine List.pairwise_cons.mpr ⟨?_, ih hbs⟩
        intro x hx
        rcases mem_insertAddress.mp hx with rfl | hx
        · omega
        · exact hb x hx

/-! ## Maps -/

namespace AddressMap

variable {α β : Type}

/-- The entries stand in ascending order of their addresses, one at each. -/
def Ascending (m : AddressMap α) : Prop := m.Pairwise fun x y => x.1 < y.1

theorem mem_keys_alter {a b : Int} {f : Option α → α} {m : AddressMap α} :
    b ∈ (m.alter a f).keys ↔ b = a ∨ b ∈ m.keys := by
  induction m with
  | nil => simp [alter, keys]
  | cons entry rest ih =>
    obtain ⟨x, v⟩ := entry
    simp only [alter]
    split
    · simp [keys]
    · split
      · rename_i hax
        subst hax
        simp [keys]
      · simp only [keys, List.map_cons, List.mem_cons] at ih ⊢
        rw [ih]
        exact or_left_comm

theorem Ascending.lt_of_mem {x : Int} {v : α} {rest : AddressMap α}
    (h : Ascending ((x, v) :: rest)) {b : Int} (hb : b ∈ rest.keys) : x < b := by
  obtain ⟨entry, hentry, rfl⟩ := List.mem_map.mp hb
  exact (List.pairwise_cons.mp h).1 entry hentry

theorem Ascending.tail {entry : Int × α} {rest : AddressMap α} (h : Ascending (entry :: rest)) :
    Ascending rest :=
  (List.pairwise_cons.mp h).2

theorem ascending_cons {x : Int} {v : α} {rest : AddressMap α} (hlt : ∀ b ∈ rest.keys, x < b)
    (h : Ascending rest) : Ascending ((x, v) :: rest) := by
  refine List.pairwise_cons.mpr ⟨?_, h⟩
  intro entry hentry
  exact hlt entry.1 (List.mem_map_of_mem hentry)

theorem Ascending.alter {m : AddressMap α} (h : Ascending m) (a : Int) (f : Option α → α) :
    Ascending (m.alter a f) := by
  induction m with
  | nil => exact List.pairwise_singleton _ _
  | cons entry rest ih =>
    obtain ⟨x, v⟩ := entry
    simp only [AddressMap.alter]
    split
    · rename_i hax
      refine ascending_cons ?_ h
      intro b hb
      cases hb with
      | head => exact hax
      | tail _ hb => exact Int.lt_trans hax (h.lt_of_mem hb)
    · split
      · exact ascending_cons (fun b hb => h.lt_of_mem hb) h.tail
      · refine ascending_cons ?_ (ih h.tail)
        intro b hb
        rcases mem_keys_alter.mp hb with rfl | hb
        · omega
        · exact h.lt_of_mem hb

theorem get?_cons (x a : Int) (v : α) (rest : AddressMap α) :
    get? ((x, v) :: rest) a = if a = x then some v else rest.get? a := by
  simp only [get?, List.lookup_cons]
  by_cases hax : a = x
  · simp [hax]
  · rw [if_neg hax, beq_false_of_ne hax]

theorem get?_eq_none {m : AddressMap α} {a : Int} (h : a ∉ m.keys) : m.get? a = none := by
  induction m with
  | nil => rfl
  | cons entry rest ih =>
    obtain ⟨x, v⟩ := entry
    simp only [keys, List.map_cons, List.mem_cons, not_or] at h
    rw [get?_cons, if_neg h.1]
    exact ih h.2

theorem isSome_get?_iff {m : AddressMap α} {a : Int} : (m.get? a).isSome ↔ a ∈ m.keys := by
  induction m with
  | nil => simp [get?, keys]
  | cons entry rest ih =>
    obtain ⟨x, v⟩ := entry
    rw [get?_cons, keys, List.map_cons, List.mem_cons, ← keys, ← ih]
    by_cases hax : a = x
    · simp [hax]
    · simp [hax]

/-- Altering an entry shows at its address and nowhere else. -/
theorem get?_alter {m : AddressMap α} (h : Ascending m) (a b : Int) (f : Option α → α) :
    (m.alter a f).get? b = if b = a then some (f (m.get? a)) else m.get? b := by
  induction m with
  | nil => rw [AddressMap.alter, get?_cons]; rfl
  | cons entry rest ih =>
    obtain ⟨x, v⟩ := entry
    simp only [AddressMap.alter]
    split
    · rename_i hax
      -- the address stands before all others, so nothing was there
      have hnone : get? ((x, v) :: rest) a = none := by
        refine get?_eq_none ?_
        intro ha
        cases ha with
        | head => exact Int.lt_irrefl _ hax
        | tail _ ha => exact Int.lt_asymm hax (h.lt_of_mem ha)
      rw [get?_cons a b, hnone]
    · split
      · rename_i hax
        subst hax
        simp only [get?_cons, if_true]
        split <;> rfl
      · rename_i hax
        rw [get?_cons x b, ih h.tail, get?_cons x a, if_neg hax, get?_cons x b]
        by_cases hbx : b = x
        · rw [if_pos hbx, if_neg (by omega), if_pos hbx]
        · rw [if_neg hbx, if_neg hbx]

theorem mem_iff_get? {m : AddressMap α} (h : Ascending m) {a : Int} {v : α} :
    (a, v) ∈ m ↔ m.get? a = some v := by
  induction m with
  | nil => simp [get?]
  | cons entry rest ih =>
    obtain ⟨x, w⟩ := entry
    rw [get?_cons, List.mem_cons, ih h.tail]
    split
    · rename_i hax
      subst hax
      have hnone : get? rest a = none :=
        get?_eq_none fun ha => Int.lt_irrefl a (h.lt_of_mem ha)
      simp [hnone, eq_comm]
    · rename_i hax
      simp [hax]

/-! ## Many items -/

/-- The map after an item was added to what it holds at the item's address, if it has one. Where
nothing was held, the item is added to `init`. -/
def tally (key : β → Option Int) (init : α) (f : α → β → α) (m : AddressMap α) (item : β) :
    AddressMap α :=
  match key item with
  | some a => m.alter a fun v => f (v.getD init) item
  | none => m

variable {key : β → Option Int} {init : α} {f : α → β → α}

theorem Ascending.tally {m : AddressMap α} (h : Ascending m) (item : β) :
    Ascending (m.tally key init f item) := by
  unfold AddressMap.tally
  split
  · exact h.alter _ _
  · exact h

theorem Ascending.tallies {m : AddressMap α} (h : Ascending m) (items : List β) :
    Ascending (items.foldl (AddressMap.tally key init f) m) := by
  induction items generalizing m with
  | nil => exact h
  | cons item items ih => exact ih (h.tally item)

theorem get?_tally_of_eq {m : AddressMap α} (h : Ascending m) {item : β} {a : Int}
    (hkey : key item = some a) :
    (m.tally key init f item).get? a = some (f ((m.get? a).getD init) item) := by
  rw [AddressMap.tally, hkey]
  dsimp only
  rw [get?_alter h, if_pos rfl]

theorem get?_tally_of_ne {m : AddressMap α} (h : Ascending m) {item : β} {a : Int}
    (hkey : key item ≠ some a) : (m.tally key init f item).get? a = m.get? a := by
  unfold AddressMap.tally
  split
  · rename_i b hb
    have hab : a ≠ b := by
      rintro rfl
      exact hkey hb
    rw [get?_alter h, if_neg hab]
  · rfl

/-- What many items leave at an address depends on those that have this address. -/
theorem get?_tallies {m : AddressMap α} (h : Ascending m) (items : List β) (a : Int) :
    (items.foldl (tally key init f) m).get? a =
      if items.filter (key · = some a) = [] then m.get? a
      else some ((items.filter (key · = some a)).foldl f ((m.get? a).getD init)) := by
  induction items generalizing m with
  | nil => rfl
  | cons item items ih =>
    rw [List.foldl_cons, ih (h.tally item)]
    by_cases hkey : key item = some a
    · rw [get?_tally_of_eq h hkey, List.filter_cons_of_pos (by simpa using hkey)]
      simp only [Option.getD_some, List.foldl_cons, List.cons_ne_nil, if_false]
      split
      · rename_i hnil
        rw [hnil, List.foldl_nil]
      · rfl
    · rw [get?_tally_of_ne h hkey, List.filter_cons_of_neg (by simpa using hkey)]

theorem get?_tallies_nil (items : List β) (a : Int) :
    (items.foldl (tally key init f) ([] : AddressMap α)).get? a =
      if items.filter (key · = some a) = [] then none
      else some ((items.filter (key · = some a)).foldl f init) :=
  get?_tallies List.Pairwise.nil items a

end AddressMap
end EntryScan
