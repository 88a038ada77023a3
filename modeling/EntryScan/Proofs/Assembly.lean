import EntryScan.Proofs.Analysis

/-!
# EntryScan.Proofs.Assembly

Programs of branches, written as code one after another and swept again.

* `Bytes.littleEndian_toLittleEndian`, `Bytes.signExtend_toNat`: numbers and signed fields survive
  being written.
* `BranchCode arch β`: a way to write branches, each of which is read back wherever it stands and
  whatever follows it.
* `BranchCode.edges_step`, `BranchCode.edges_flatMap`: a branch is one step of the sweep and gives
  one edge; by induction a program gives its `Listing`.
-/

namespace EntryScan

/-! ## Numbers as bytes -/

namespace Bytes

theorem length_toLittleEndian (width n : Nat) : (toLittleEndian width n).length = width := by
  induction width generalizing n with
  | zero => rfl
  | succ width ih => rw [toLittleEndian, List.length_cons, ih]

theorem littleEndian_toLittleEndian (width : Nat) :
    ∀ n, n < 256 ^ width → littleEndian (toLittleEndian width n) = n := by
  induction width with
  | zero =>
    intro n hn
    simp only [toLittleEndian, littleEndian]
    omega
  | succ width ih =>
    intro n hn
    have hdiv : n / 256 < 256 ^ width := by
      rw [Nat.div_lt_iff_lt_mul (by decide), ← Nat.pow_succ]
      exact hn
    simp only [toLittleEndian, littleEndian, ih (n / 256) hdiv, UInt8.toNat_ofNat']
    omega

theorem signExtend_toNat {bits : Nat} (x : BitVec bits) (hbits : 0 < bits) :
    signExtend bits x.toNat = x.toInt := by
  obtain ⟨n, rfl⟩ : ∃ n, bits = n + 1 := ⟨bits - 1, by omega⟩
  rw [signExtend, BitVec.toInt_eq_toNat_cond]
  simp only [Nat.add_sub_cancel, Nat.shiftLeft_eq, Nat.one_mul]
  have hpow : 2 ^ (n + 1) = 2 * 2 ^ n := Nat.pow_succ'
  by_cases hlow : x.toNat < 2 ^ n
  · rw [if_pos hlow, if_pos (by omega)]
  · rw [if_neg hlow, if_neg (by omega)]

end Bytes

theorem Reader.signed_toLittleEndian {width : Nat} (hwidth : 0 < width) (d : BitVec (8 * width))
    (tail : List UInt8) :
    signed width (Bytes.toLittleEndian width d.toNat ++ tail) = some (d.toInt, tail) := by
  have hlength := Bytes.length_toLittleEndian width d.toNat
  have hlt : d.toNat < 256 ^ width := by
    have h := d.isLt
    rwa [Nat.pow_mul] at h
  have hread : unsigned width (Bytes.toLittleEndian width d.toNat ++ tail) =
      some (d.toNat, tail) := by
    rw [unsigned, if_neg (by rw [List.length_append]; omega), List.take_left' hlength,
      List.drop_left' hlength, Bytes.littleEndian_toLittleEndian width _ hlt]
  rw [signed, ← Bytes.signExtend_toNat d (by omega)]
  simp only [bind, StateT.bind, hread]
  rfl

/-! ## Programs -/

/-- The sweep reads an encoding at the front and goes on behind it. -/
theorem Sweep.stepsFrom_append {c : Config} {arch : Arch} {base : Int} {offset : Nat}
    {code rest : List UInt8} {r : Reading} (hc : 0 < c.arm64Window)
    (hroom : needed c arch ≤ code.length)
    (hread : readFront c arch (code ++ rest) (Address.wrap (base + offset)) = (r, code.length)) :
    stepsFrom c arch base offset (code ++ rest) =
      ⟨offset, Address.wrap (base + offset), code.length, r⟩ ::
        stepsFrom c arch base (offset + code.length) rest := by
  have hpos := needed_pos arch hc
  cases code with
  | nil =>
    rw [List.length_nil] at hroom
    omega
  | cons b bs =>
    have hfew : ¬ Bytes.fewerThan (needed c arch) (b :: (bs ++ rest)) = true := by
      rw [Bytes.fewerThan_iff, ← List.cons_append, List.length_append]
      omega
    rw [List.cons_append] at hread ⊢
    rw [stepsFrom, if_neg hfew]
    simp only [hread, List.length_cons, Nat.add_sub_cancel, List.drop_left]

/-- The sweep reads what a window decodes as, unless it stands at a marker. -/
theorem Sweep.readFront_of_decode? {c : Config} {arch : Arch} {address : Int}
    {code rest : List UInt8} {i : Instruction} {size : Nat} (hc : 0 < c.arm64Window)
    (hroom : needed c arch ≤ code.length) (hmarker : atMarker c arch (code ++ rest) = false)
    (hdecode : c.decoder.decode? arch ((code ++ rest).take (windowSize c arch)) address =
      some ⟨i, size⟩) :
    readFront c arch (code ++ rest) address = (.insn i, size) := by
  have hpos := needed_pos arch hc
  have hne : code ++ rest ≠ [] :=
    List.append_ne_nil_of_left_ne_nil (List.ne_nil_of_length_pos (by omega)) rest
  have hneeded : needed c arch ≤ (code ++ rest).length := by
    rw [List.length_append]
    omega
  have hfront := decodeFront?_eq_some_iff.mpr ⟨hne, hneeded, hdecode⟩
  rw [readFront, hmarker, hfront]
  rfl

/-- A way to write branches to known distances as code. Each is read back as what it is, wherever it
stands and whatever follows it. -/
structure BranchCode (arch : Arch) (β : Type) where
  encode : β → List UInt8
  role : β → Branch
  /-- From the address of the branch to its target. -/
  distance : β → Int
  room : ∀ b, Sweep.needed {} arch ≤ (encode b).length
  reads : ∀ b rest address, ∃ i,
    Sweep.readFront {} arch (encode b ++ rest) address = (.insn i, (encode b).length) ∧
    i.address = Address.wrap address ∧ Branch.of? arch i = some (role b) ∧
    i.target? = some (Address.wrap (address + distance b)) ∧
    CallSite.modeOf arch i = .pcRelative

namespace BranchCode

variable {arch : Arch} {β : Type} (m : BranchCode arch β)

/-- The edge of a branch at an address. -/
structure IsEdge (b : β) (address : Int) (e : CallSite) : Prop where
  source : e.source = address % 2 ^ 64
  target : e.target = some ((e.source + m.distance b) % 2 ^ 64)
  mode : e.mode = .pcRelative
  kind : e.kind = (m.role b).kind
  confidence : e.confidence = (m.role b).confidence
  conditional : e.conditional = decide (m.role b = .conditional)

/-- The edges of a program that begins at an address: one a branch, in order. -/
inductive Listing : Int → List β → List CallSite → Prop where
  | nil {address : Int} : Listing address [] []
  | cons {address : Int} {b : β} {e : CallSite} {prog : List β} {es : List CallSite} :
    m.IsEdge b address e → Listing (address + (m.encode b).length) prog es →
    Listing address (b :: prog) (e :: es)

/-- The first branch gives the first edge, and the sweep goes on behind it. -/
theorem edges_step (b : β) (rest : List UInt8) (base : Int) (offset : Nat) :
    ∃ e, m.IsEdge b (base + offset) e ∧
      CallSite.edges arch
          ((Sweep.stepsFrom {} arch base offset (m.encode b ++ rest)).map (·.reading)) =
        e :: CallSite.edges arch
          ((Sweep.stepsFrom {} arch base (offset + (m.encode b).length) rest).map (·.reading)) := by
  obtain ⟨i, hread, haddress, hrole, htarget, hmode⟩ :=
    m.reads b rest (Address.wrap (base + offset))
  rw [Address.wrap_wrap] at haddress
  rw [← haddress, Address.wrap_eq_emod] at htarget
  rw [Address.wrap_eq_emod] at haddress
  refine ⟨CallSite.edge arch i (m.role b), ?_, ?_⟩
  · unfold CallSite.edge
    rw [htarget]
    exact ⟨haddress, rfl, hmode, rfl, rfl, rfl⟩
  · rw [Sweep.stepsFrom_append (by decide) (m.room b) hread, List.map_cons,
      CallSite.edges_insn_cons, hrole]
    rfl

theorem edges_flatMap (base : Int) (prog : List β) :
    ∀ offset : Nat, m.Listing (base + offset) prog
      (CallSite.edges arch
        ((Sweep.stepsFrom {} arch base offset (prog.flatMap m.encode)).map (·.reading))) := by
  induction prog with
  | nil =>
    intro offset
    rw [List.flatMap_nil, Sweep.stepsFrom]
    exact .nil
  | cons b prog ih =>
    intro offset
    obtain ⟨e, he, hedges⟩ := m.edges_step b (prog.flatMap m.encode) base offset
    rw [List.flatMap_cons, hedges]
    refine .cons he ?_
    have hrest := ih (offset + (m.encode b).length)
    rwa [Nat.cast_add, ← add_assoc] at hrest

variable {m} {address : Int} {prog : List β} {es : List CallSite}

theorem Listing.length_eq (h : m.Listing address prog es) : es.length = prog.length := by
  induction h with
  | nil => rfl
  | cons _ _ ih => rw [List.length_cons, List.length_cons, ih]

theorem Listing.getElem? (h : m.Listing address prog es) :
    ∀ before b after, prog = before ++ b :: after → ∃ e, es[before.length]? = some e ∧
      m.IsEdge b (address + (before.flatMap m.encode).length) e := by
  induction h with
  | nil =>
    intro before b after hprog
    simp at hprog
  | @cons address c e prog es he _ ih =>
    intro before b after hprog
    cases before with
    | nil =>
      cases hprog
      exact ⟨e, rfl, by simpa using he⟩
    | cons c' before =>
      cases hprog
      obtain ⟨f, hf, hedge⟩ := ih before b after rfl
      refine ⟨f, hf, ?_⟩
      rwa [List.flatMap_cons, List.length_append, Nat.cast_add, ← add_assoc]

/-- A sweep over the encodings finds each branch once, in order. -/
theorem detectCallSites_flatMap (m : BranchCode arch β) {tag : String}
    (htag : Arch.parse? tag = some arch) (prog : List β) (base : Int) :
    ∃ es, (Toolbox.detectCallSites {} (prog.flatMap m.encode) base tag).outcome.1 = .ok es ∧
      m.Listing base prog es := by
  refine ⟨_, (Toolbox.detectCallSites_returns htag _ _).outcome, ?_⟩
  have h := m.edges_flatMap base prog 0
  rwa [Nat.cast_zero, add_zero] at h

end BranchCode
end EntryScan
