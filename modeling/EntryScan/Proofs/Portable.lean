import EntryScan.Proofs.Decoding
import EntryScan.Proofs.Edges

/-!
# EntryScan.Proofs.Portable

What of an instruction depends on where it stands. A decoder yields a body without a place, and a
body is `Portable` if it is one of three things:

* registers and memory alone, under any operation;
* a branch whose last argument is a distance;
* no branch, and the same everywhere unless its operation is one of the few that name places.

`Amd64.portable_decodeBody?` and `Arm64.portable_decodeWord?` say that the decoders yield nothing
else. Both follow the decoders: `Reader.Yields P r` and `PortableIfAny o` say of a reader and of an
option that whatever comes out of it has the property.
-/

namespace EntryScan

namespace Branch

/-- The operation makes an edge. -/
def isBranch (arch : Arch) (operation : String) : Bool :=
  (operations arch .call ++ operations arch .jump).contains operation

/-- The operation may have an argument that depends on where it stands. -/
def isSited (arch : Arch) (operation : String) : Bool :=
  isBranch arch operation || (arch = .arm64 && ["BC", "ADR", "ADRP"].contains operation)

theorem isBranch_iff {arch : Arch} {operation : String} :
    isBranch arch operation = true ↔ ∃ kind, operation ∈ operations arch kind := by
  rw [isBranch, List.contains_iff_mem, List.mem_append]
  constructor
  · rintro (h | h)
    · exact ⟨.call, h⟩
    · exact ⟨.jump, h⟩
  · rintro ⟨kind, h⟩
    cases kind with
    | call => exact Or.inl h
    | jump => exact Or.inr h

end Branch

namespace Reader

/-- Whatever the reader yields has the property. -/
def Yields {α : Type} (P : α → Prop) (r : Reader α) : Prop :=
  ∀ (bs : List UInt8) (a : α) (left : List UInt8), r bs = some (a, left) → P a

variable {α β : Type} {P : α → Prop} {Q : β → Prop}

@[simp] theorem yields_pure {a : α} : Yields P (pure a : Reader α) ↔ P a := by
  constructor
  · intro h
    exact h [] a [] rfl
  · intro h bs b left heq
    cases heq
    exact h

@[simp] theorem yields_fail : Yields P (fail : Reader α) := by
  intro bs a left h
  cases h

theorem yields_bind {r : Reader α} {f : α → Reader β} (hr : Yields P r)
    (hf : ∀ a, P a → Yields Q (f a)) : Yields Q (r >>= f) := by
  intro bs b left h
  obtain ⟨a, mid, h₁, h₂⟩ := bind_eq_some h
  exact hf a (hr bs a mid h₁) mid b left h₂

/-- What was read first may be anything. -/
theorem yields_then {r : Reader α} {f : α → Reader β} (hf : ∀ a, Yields Q (f a)) :
    Yields Q (r >>= f) := by
  have hr : Yields (fun _ => True) r := fun _ _ _ _ => trivial
  exact yields_bind hr fun a _ => hf a

theorem yields_map {r : Reader α} {f : α → β} (hr : Yields P r) (hf : ∀ a, P a → Q (f a)) :
    Yields Q (f <$> r) := by
  rw [map_eq_pure_bind]
  exact yields_bind hr fun a ha => yields_pure.mpr (hf a ha)

@[simp] theorem yields_map_signed {f : Int → β} (width : Nat) (h : ∀ v, Q (f v)) :
    Yields Q (f <$> signed width) := by
  rw [map_eq_pure_bind]
  exact yields_then fun v => yields_pure.mpr (h v)

@[simp] theorem yields_map_unsigned {f : Nat → β} (width : Nat) (h : ∀ v, Q (f v)) :
    Yields Q (f <$> unsigned width) := by
  rw [map_eq_pure_bind]
  exact yields_then fun v => yields_pure.mpr (h v)

end Reader

/-! ## x86-64 -/

namespace Amd64

open Reader

namespace Arg

/-- A register or memory. -/
def isPlace : Arg → Bool
  | .reg _ | .mem _ _ => true
  | .imm _ | .rel _ => false

/-- The same wherever the instruction stands. -/
def isFixed : Arg → Bool
  | .rel _ => false
  | .reg _ | .mem _ _ | .imm _ => true

@[simp] theorem isPlace_reg (name : String) : (reg name).isPlace = true := rfl
@[simp] theorem isPlace_mem (words : String) (ref : MemRef) : (mem words ref).isPlace = true := rfl
@[simp] theorem isPlace_imm (v : Int) : (imm v).isPlace = false := rfl
@[simp] theorem isFixed_reg (name : String) : (reg name).isFixed = true := rfl
@[simp] theorem isFixed_mem (words : String) (ref : MemRef) : (mem words ref).isFixed = true := rfl
@[simp] theorem isFixed_imm (v : Int) : (imm v).isFixed = true := rfl

theorem isFixed_of_isPlace {a : Arg} (h : a.isPlace = true) : a.isFixed = true := by
  cases a with
  | reg name => rfl
  | mem words ref => rfl
  | imm v => rfl
  | rel n => cases h

end Arg

/-- Nothing in the body depends on its place but the distance of a branch. -/
abbrev Body.Portable (b : Body) : Prop :=
  (∀ a ∈ b.args, a.isPlace) ∨
    if Branch.isBranch .amd64 b.operation then ∃ n, b.args = [.rel n]
    else ∀ a ∈ b.args, a.isFixed

theorem target?_of_rel {b : Body} {address n : Int} (h : b.args = [.rel n]) (size : Nat) :
    (b.place address size).target? = some (Address.wrap (address + size + n)) := by
  have hoperands : (b.place address size).operands =
      [] ++ [.imm (Address.wrap (address + size + n))] := by
    simp [Body.place, h, Arg.operand]
  rw [Instruction.target?_of_last hoperands, Address.wrap_wrap]

@[simp] theorem isPlace_register (p : Prefixes) (width : Width) (n : Nat) :
    (p.register width n).isPlace = true := rfl

@[simp] theorem isFixed_register (p : Prefixes) (width : Width) (n : Nat) :
    (p.register width n).isFixed = true := rfl

@[simp] theorem isPlace_arg (p : Prefixes) (width : Width) (place : Place) :
    (place.arg p width).isPlace = true := by
  cases place <;> rfl

@[simp] theorem isFixed_arg (p : Prefixes) (width : Width) (place : Place) :
    (place.arg p width).isFixed = true :=
  Arg.isFixed_of_isPlace (isPlace_arg p width place)

/-! Operations with an immediate are no branches. -/

theorem getD_not_branch {names : List String}
    (h : ∀ op ∈ "" :: names, Branch.isBranch .amd64 op = false) (n : Nat) :
    Branch.isBranch .amd64 (names[n]?.getD "") = false := by
  refine h _ ?_
  cases hn : names[n]? with
  | none => exact List.mem_cons_self
  | some op => exact List.mem_cons_of_mem _ (List.mem_of_getElem? hn)

@[simp] theorem arithmetic_not_branch (n : Nat) :
    Branch.isBranch .amd64 (arithmetic[n]?.getD "") = false :=
  getD_not_branch (by decide) n

@[simp] theorem shifts_not_branch (n : Nat) :
    Branch.isBranch .amd64 (shifts[n]?.getD "") = false :=
  getD_not_branch (by decide) n

@[simp] theorem farReturn_not_branch (p : Prefixes) :
    Branch.isBranch .amd64 p.farReturn = false := by
  unfold Prefixes.farReturn
  split <;> decide

theorem condition_mem (op : Nat) : condition op ∈ conditions := by
  have hlt : op % 16 < conditions.length := Nat.mod_lt _ (by decide)
  rw [condition, List.getD_eq_getElem _ _ hlt]
  exact List.getElem_mem hlt

theorem jumps_are_branches : ∀ c ∈ conditions, Branch.isBranch .amd64 ("J" ++ c) = true := by
  decide

/-! The readers, one by one. -/

theorem imm_readImmFor (operation : String) (width : Width) :
    Yields (fun a => ∃ v, a = .imm v) (readImmFor operation width) :=
  yields_then fun _ => yields_pure.mpr ⟨_, rfl⟩

theorem imm_readByteImmFor (operation : String) (width : Width) :
    Yields (fun a => ∃ v, a = .imm v) (readByteImmFor operation width) :=
  yields_then fun _ => yields_pure.mpr ⟨_, rfl⟩

@[simp] theorem fixed_readImmFor (operation : String) (width : Width) :
    Yields (fun a => a.isFixed = true) (readImmFor operation width) :=
  yields_then fun _ => yields_pure.mpr rfl

section Readers

variable {β : Type} {Q : β → Prop} {f : Arg → β}

@[simp] theorem yields_map_readImmFor (operation : String) (width : Width)
    (h : ∀ v, Q (f (.imm v))) : Yields Q (f <$> readImmFor operation width) := by
  refine yields_map (imm_readImmFor operation width) ?_
  rintro _ ⟨v, rfl⟩
  exact h v

@[simp] theorem yields_map_readByteImmFor (operation : String) (width : Width)
    (h : ∀ v, Q (f (.imm v))) : Yields Q (f <$> readByteImmFor operation width) := by
  refine yields_map (imm_readByteImmFor operation width) ?_
  rintro _ ⟨v, rfl⟩
  exact h v

end Readers

attribute [local simp] Body.Portable Body.plain

@[simp] theorem portable_placeReg (p : Prefixes) (operation : String) (width : Width) :
    Yields Body.Portable (placeReg p operation width) := by
  refine yields_then fun x => ?_
  simp

@[simp] theorem portable_regPlace (p : Prefixes) (operation : String)
    (width placeWidth : Width) :
    Yields Body.Portable (regPlace p operation width placeWidth) := by
  refine yields_then fun x => ?_
  simp

@[simp] theorem portable_relative (p : Prefixes) {operation : String} (size : Nat)
    (h : Branch.isBranch .amd64 operation = true) :
    Yields Body.Portable (relative p operation size) := by
  refine yields_then fun n => yields_pure.mpr (Or.inr ?_)
  rw [if_pos h]
  exact ⟨n, rfl⟩

@[simp] theorem portable_conditional (p : Prefixes) (op size : Nat) :
    Yields Body.Portable (relative p ("J" ++ condition op) size) :=
  portable_relative p size (jumps_are_branches _ (condition_mem op))

@[simp] theorem portable_arithmeticForm (p : Prefixes) {operation : String} (form : Nat)
    (h : Branch.isBranch .amd64 operation = false) :
    Yields Body.Portable (arithmeticForm p operation form) := by
  unfold arithmeticForm
  split <;> simp [h]

@[simp] theorem portable_arithmeticImm (p : Prefixes) (width : Width) (byteImm : Bool) :
    Yields Body.Portable (arithmeticImm p width byteImm) := by
  refine yields_then fun x => ?_
  cases byteImm <;> simp

@[simp] theorem portable_multiplyImm (p : Prefixes) (byteImm : Bool) :
    Yields Body.Portable (multiplyImm p byteImm) := by
  refine yields_then fun x => ?_
  cases byteImm <;> simp +decide

@[simp] theorem portable_shift (p : Prefixes) (width : Width) {amount : Reader Arg}
    (h : Yields (fun a => a.isFixed = true) amount) :
    Yields Body.Portable (shift p width amount) := by
  refine yields_then fun x => yields_bind h fun count hcount => ?_
  simp [hcount]

@[simp] theorem portable_moveImm (p : Prefixes) (width : Width) :
    Yields Body.Portable (moveImm p width) := by
  refine yields_then fun x => ?_
  dsimp only
  split <;> simp +decide

@[simp] theorem portable_unaryGroup (p : Prefixes) (width : Width) :
    Yields Body.Portable (unaryGroup p width) := by
  refine yields_then fun x => ?_
  dsimp only
  split
  · simp +decide
  · split <;> simp

@[simp] theorem portable_farBranch (p : Prefixes) (near far : String) (place : Place) :
    Yields Body.Portable (farBranch p near far place) := by
  cases place with
  | reg n => exact yields_fail
  | mem ref =>
    simp only [farBranch]
    split <;> simp

@[simp] theorem portable_branchGroup (p : Prefixes) :
    Yields Body.Portable (branchGroup p) := by
  refine yields_then fun x => ?_
  dsimp only
  split <;> simp

@[simp] theorem portable_loadAddress (p : Prefixes) :
    Yields Body.Portable (loadAddress p) := by
  refine yields_then ?_
  rintro ⟨reg, place⟩
  cases place <;> simp

@[simp] theorem portable_onePlace (p : Prefixes) (operation : String) (width : Width) :
    Yields Body.Portable (onePlace p operation width) := by
  refine yields_then fun x => ?_
  dsimp only
  split <;> simp

@[simp] theorem portable_byteStep (p : Prefixes) : Yields Body.Portable (byteStep p) := by
  refine yields_then fun x => ?_
  dsimp only
  split
  · simp
  · split <;> simp

@[simp] theorem portable_entryMarker (p : Prefixes) : Yields Body.Portable (entryMarker p) := by
  refine yields_then fun x => ?_
  split
  · simp
  · split <;> simp

@[simp] theorem portable_pushImm (p : Prefixes) : Yields Body.Portable (pushImm p) := by
  refine yields_then fun value => ?_
  simp +decide

theorem portable_oneByte (p : Prefixes) (op : Nat) : Yields Body.Portable (oneByte p op) := by
  unfold oneByte
  repeat' split
  all_goals simp +decide [returning, byWidth]

theorem portable_twoByte (p : Prefixes) (op : Nat) : Yields Body.Portable (twoByte p op) := by
  unfold twoByte
  repeat' split
  · simp
  · simp
  · exact yields_then fun x => by simp
  all_goals simp

theorem portable_readBody (p : Prefixes) : Yields Body.Portable (readBody p) := by
  refine yields_then fun op => ?_
  split
  · exact yields_then fun second => portable_twoByte p second
  · exact portable_oneByte p op

theorem portable_decodeBody? {window : List UInt8} {body : Body} {size : Nat}
    (h : decodeBody? window = some (body, size)) : body.Portable := by
  simp only [decodeBody?] at h
  split at h
  · rename_i body' left hread
    cases h
    exact portable_readBody _ _ _ _ hread
  · cases h

end Amd64

/-! ## A64 -/

namespace Arm64

namespace Arg

/-- A register or memory. -/
def isPlace : Arg → Bool
  | .reg _ | .extended _ _ | .mem _ _ _ => true
  | .imm _ | .shifted _ _ | .label _ | .page _ => false

/-- The same wherever the instruction stands. -/
def isFixed : Arg → Bool
  | .label _ | .page _ => false
  | .reg _ | .extended _ _ | .mem _ _ _ | .imm _ | .shifted _ _ => true

theorem isFixed_of_isPlace {a : Arg} (h : a.isPlace = true) : a.isFixed = true := by
  cases a with
  | reg name => rfl
  | extended name suffix => rfl
  | mem base disp preIndexed => rfl
  | imm v => rfl
  | shifted v amount => rfl
  | label n => cases h
  | page n => cases h

end Arg

/-- Nothing in the body depends on its place but the label of a branch, and what `BC`, `ADR` and
`ADRP` refer to. -/
abbrev Body.Portable (b : Body) : Prop :=
  (∀ a ∈ b.args, a.isPlace) ∨
    if Branch.isBranch .arm64 b.operation then ∃ first n, b.args = first ++ [.label n]
    else Branch.isSited .arm64 b.operation ∨ ∀ a ∈ b.args, a.isFixed

theorem target?_of_label {b : Body} {address n : Int} {first : List Arg}
    (h : b.args = first ++ [.label n]) :
    (b.place address).target? = some (Address.wrap (address + n)) := by
  have hoperands : (b.place address).operands =
      first.map (Arg.operand address) ++ [.imm (Address.wrap (address + n))] := by
    simp [Body.place, h, Arg.operand]
  rw [Instruction.target?_of_last hoperands, Address.wrap_wrap]

/-- A body, if there is one, is portable. -/
def PortableIfAny (o : Option Body) : Prop := ∀ b, o = some b → b.Portable

@[simp] theorem portableIfAny_none : PortableIfAny none := by
  intro b h
  cases h

@[simp] theorem portableIfAny_some {b : Body} : PortableIfAny (some b) ↔ b.Portable := by
  constructor
  · intro h
    exact h b rfl
  · intro h b' heq
    cases heq
    exact h

@[simp] theorem portableIfAny_ite {p : Prop} [Decidable p] {o o' : Option Body} :
    PortableIfAny (if p then o else o') ↔ (p → PortableIfAny o) ∧ (¬ p → PortableIfAny o') := by
  split <;> simp [*]

theorem PortableIfAny.orElse {o o' : Option Body} (h : PortableIfAny o) (h' : PortableIfAny o') :
    PortableIfAny (o <|> o') := by
  intro b hb
  cases o with
  | none => exact h' b hb
  | some c => exact h b hb

theorem portable_label {operation mnemonic : String} (first : List Arg) (n : Int)
    (h : Branch.isSited .arm64 operation = true) :
    Body.Portable ⟨operation, mnemonic, first ++ [.label n]⟩ := by
  refine Or.inr ?_
  split
  · exact ⟨first, n, rfl⟩
  · exact Or.inl h

theorem portable_branch? (w : Nat) : PortableIfAny (branch? w) := by
  unfold branch?
  split
  · exact portableIfAny_some.mpr (portable_label [] _ (by decide))
  · split
    · exact portableIfAny_some.mpr (portable_label [] _ (by decide))
    · split
      · dsimp only
        split
        · exact portableIfAny_some.mpr (portable_label [] _ (by decide))
        · exact portableIfAny_some.mpr (portable_label [] _ (by decide))
      · split
        · refine portableIfAny_some.mpr (portable_label [_] _ ?_)
          split <;> decide
        · split
          · refine portableIfAny_some.mpr (portable_label [_, _] _ ?_)
            split <;> decide
          · exact portableIfAny_none

attribute [local simp] Body.Portable Body.plain Arg.isPlace Arg.isFixed reg xReg stackReg

theorem portable_registerBranch? (w : Nat) : PortableIfAny (registerBranch? w) := by
  simp [registerBranch?]

theorem places_fixedWords : ∀ entry ∈ fixedWords, ∀ a ∈ entry.2.args, a.isPlace := by
  decide

theorem portable_fixed? (w : Nat) : PortableIfAny (fixed? w) := by
  intro b hb
  obtain ⟨l₁, l₂, hsplit, _⟩ := List.lookup_eq_some_iff.mp hb
  have hmem : (w, b) ∈ fixedWords := by
    rw [hsplit]
    simp
  exact Or.inl (places_fixedWords _ hmem)

theorem portable_exception? (w : Nat) : PortableIfAny (exception? w) := by
  simp +decide [exception?]

theorem portable_pair? (w : Nat) : PortableIfAny (pair? w) := by
  unfold pair?
  dsimp only
  repeat' split
  all_goals simp +decide

theorem portable_single? (w : Nat) : PortableIfAny (single? w) := by
  unfold single?
  dsimp only
  repeat' split
  all_goals simp +decide

theorem portable_immediate? (w : Nat) : PortableIfAny (immediate? w) := by
  unfold immediate?
  dsimp only
  repeat' split
  all_goals simp +decide

theorem isPlace_extendedReg (kind amount m : Nat) : (extendedReg kind amount m).isPlace = true := by
  unfold extendedReg
  dsimp only
  repeat' split
  all_goals rfl

theorem portable_extended? (w : Nat) : PortableIfAny (extended? w) := by
  unfold extended?
  dsimp only
  split
  · exact portableIfAny_none
  · split
    · exact portableIfAny_none
    · refine portableIfAny_some.mpr (Or.inl ?_)
      intro a ha
      simp only [Body.plain, List.mem_cons, List.not_mem_nil, or_false] at ha
      rcases ha with rfl | rfl | rfl
      · rfl
      · rfl
      · exact isPlace_extendedReg _ _ _

theorem portable_register? (w : Nat) : PortableIfAny (register? w) := by
  simp [register?]

theorem portable_wideMove? (w : Nat) : PortableIfAny (wideMove? w) := by
  simp +decide [wideMove?]

theorem portable_relative? (w : Nat) : PortableIfAny (relative? w) := by
  simp +decide [relative?]

theorem portable_decodeWord? {w : Nat} {body : Body} (h : decodeWord? w = some body) :
    body.Portable := by
  refine PortableIfAny.orElse (portable_branch? w) ?_ body h
  refine (portable_registerBranch? w).orElse ?_
  refine (portable_fixed? w).orElse ?_
  refine (portable_exception? w).orElse ?_
  refine (portable_pair? w).orElse ?_
  refine (portable_single? w).orElse ?_
  refine (portable_immediate? w).orElse ?_
  refine (portable_extended? w).orElse ?_
  refine (portable_register? w).orElse ?_
  exact (portable_wideMove? w).orElse (portable_relative? w)

end Arm64
end EntryScan
