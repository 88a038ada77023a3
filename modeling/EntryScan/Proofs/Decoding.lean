import EntryScan.Amd64.Decode
import EntryScan.Arm64.Decode

/-!
# EntryScan.Proofs.Decoding

What the decoders of both architectures promise: an instruction takes at least one byte and no more
than the window holds, and it stands at the address that it was decoded at.

* `Reader.Trims`: a reader takes a front of what it was given and hands back the rest unseen. It is
  closed under the ways in which readers are put together, so that it holds of the x86-64 decoder as
  a whole.
* `Amd64.Encodes`: bytes that are an encoding as a whole, of whatever length. A window decodes exactly
  if it begins with one that fits in (`Amd64.decodeBody?_eq_some_iff`).
* `Amd64.decode?_size`, `Arm64.decode?_size`: the sizes.
-/

namespace EntryScan

namespace Reader

/-- The reader uses a front of what it was given and hands back the rest, of which it saw nothing:
behind the bytes that it used there may be any others. -/
def Trims {α : Type} (r : Reader α) : Prop :=
  ∀ (bs : List UInt8) (a : α) (left : List UInt8), r bs = some (a, left) →
    ∃ used, bs = used ++ left ∧ ∀ more, r (used ++ more) = some (a, more)

theorem bind_of_eq_some {α β : Type} {r : Reader α} {bs mid : List UInt8} {a : α}
    (h : r bs = some (a, mid)) (f : α → Reader β) : (r >>= f) bs = f a mid := by
  simp [bind, StateT.bind, h]

theorem bind_eq_some {α β : Type} {r : Reader α} {f : α → Reader β} {bs left : List UInt8} {b : β}
    (h : (r >>= f) bs = some (b, left)) :
    ∃ a mid, r bs = some (a, mid) ∧ f a mid = some (b, left) := by
  cases hr : r bs with
  | none => simp [bind, StateT.bind, hr] at h
  | some out =>
    obtain ⟨a, mid⟩ := out
    exact ⟨a, mid, rfl, by simpa [bind, StateT.bind, hr] using h⟩

@[simp] theorem trims_pure {α : Type} (a : α) : Trims (pure a : Reader α) := by
  intro bs b left h
  cases h
  exact ⟨[], rfl, fun more => rfl⟩

@[simp] theorem trims_bind {α β : Type} {r : Reader α} {f : α → Reader β} (hr : Trims r)
    (hf : ∀ a, Trims (f a)) : Trims (r >>= f) := by
  intro bs b left h
  obtain ⟨a, mid, h₁, h₂⟩ := bind_eq_some h
  obtain ⟨used₁, rfl, hsame₁⟩ := hr bs a mid h₁
  obtain ⟨used₂, rfl, hsame₂⟩ := hf a mid b left h₂
  refine ⟨used₁ ++ used₂, (List.append_assoc ..).symm, ?_⟩
  intro more
  rw [List.append_assoc, bind_of_eq_some (hsame₁ (used₂ ++ more)), hsame₂ more]

@[simp] theorem trims_map {α β : Type} {r : Reader α} (f : α → β) (hr : Trims r) :
    Trims (f <$> r) := by
  rw [map_eq_pure_bind]
  exact trims_bind hr fun a => trims_pure (f a)

@[simp] theorem trims_fail {α : Type} : Trims (fail : Reader α) := by
  intro bs a left h
  cases h

@[simp] theorem trims_ite {α : Type} {p : Prop} [Decidable p] {r s : Reader α} (hr : Trims r)
    (hs : Trims s) : Trims (if p then r else s) := by
  split
  · exact hr
  · exact hs

theorem byte_eq_some {bs left : List UInt8} {n : Nat} (h : byte bs = some (n, left)) :
    ∃ b, bs = b :: left := by
  cases bs with
  | nil => cases h
  | cons b bs => cases h; exact ⟨b, rfl⟩

@[simp] theorem trims_byte : Trims byte := by
  intro bs n left h
  obtain ⟨b, rfl⟩ := byte_eq_some h
  cases h
  exact ⟨[b], rfl, fun more => rfl⟩

theorem unsigned_append (bs more : List UInt8) :
    unsigned bs.length (bs ++ more) = some (Bytes.littleEndian bs, more) := by
  simp [unsigned]

@[simp] theorem trims_unsigned (width : Nat) : Trims (unsigned width) := by
  intro bs n left h
  simp only [unsigned] at h
  split at h
  · cases h
  · rename_i hlength
    cases h
    refine ⟨bs.take width, (List.take_append_drop width bs).symm, ?_⟩
    intro more
    have hread := unsigned_append (bs.take width) more
    rw [List.length_take_of_le (Nat.le_of_not_lt hlength)] at hread
    exact hread

@[simp] theorem trims_signed (width : Nat) : Trims (signed width) := by
  simp [signed]

/-- A reading is a reading of the bytes used, to their end. -/
theorem Trims.eq_some_iff {α : Type} {r : Reader α} (hr : Trims r) {bs left : List UInt8} {a : α} :
    r bs = some (a, left) ↔ ∃ used, bs = used ++ left ∧ r used = some (a, []) := by
  constructor
  · intro h
    obtain ⟨used, hbs, hsame⟩ := hr bs a left h
    have hused := hsame []
    rw [List.append_nil] at hused
    exact ⟨used, hbs, hused⟩
  · rintro ⟨used, rfl, hused⟩
    obtain ⟨used', huse, hsame⟩ := hr used a [] hused
    rw [huse, List.append_nil]
    exact hsame left

/-- Bytes that are read to their end are never a front of others that are. -/
theorem Trims.eq_of_isPrefix {α : Type} {r : Reader α} (hr : Trims r) {bs bs' : List UInt8} {a b : α}
    (h : r bs = some (a, [])) (h' : r bs' = some (b, [])) (hfront : bs <+: bs') : bs = bs' := by
  obtain ⟨more, rfl⟩ := hfront
  have hmore : r (bs ++ more) = some (a, more) := hr.eq_some_iff.mpr ⟨bs, rfl, h⟩
  rw [h'] at hmore
  cases hmore
  exact (List.append_nil bs).symm

end Reader

namespace Amd64

open Reader

@[simp] theorem trims_readDisp (mode : Nat) : Trims (readDisp mode) := by
  simp [readDisp]

@[simp] theorem trims_readScaled (p : Prefixes) (mode : Nat) : Trims (readScaled p mode) := by
  refine trims_bind trims_byte fun sib => ?_
  dsimp only
  split
  · exact trims_bind (trims_signed 4) fun disp => trims_pure _
  · exact trims_bind (trims_readDisp mode) fun disp => trims_pure _

@[simp] theorem trims_readPlace (p : Prefixes) (mode field : Nat) :
    Trims (readPlace p mode field) := by
  unfold readPlace
  split
  · exact trims_pure _
  · split
    · exact trims_bind (trims_readScaled p mode) fun ref => trims_pure _
    · split
      · exact trims_bind (trims_signed 4) fun disp => trims_pure _
      · exact trims_bind (trims_readDisp mode) fun disp => trims_pure _

@[simp] theorem trims_readModRm (p : Prefixes) : Trims (readModRm p) := by
  simp [readModRm]

@[simp] theorem trims_readImm (width : Width) : Trims (readImm width) := by
  cases width <;> simp [readImm]

@[simp] theorem trims_readImmFor (operation : String) (width : Width) :
    Trims (readImmFor operation width) := by
  simp [readImmFor]

@[simp] theorem trims_readByteImmFor (operation : String) (width : Width) :
    Trims (readByteImmFor operation width) := by
  simp [readByteImmFor]

@[simp] theorem trims_placeReg (p : Prefixes) (operation : String) (width : Width) :
    Trims (placeReg p operation width) := by
  simp [placeReg]

@[simp] theorem trims_regPlace (p : Prefixes) (operation : String) (width placeWidth : Width) :
    Trims (regPlace p operation width placeWidth) := by
  simp [regPlace]

@[simp] theorem trims_relative (p : Prefixes) (operation : String) (size : Nat) :
    Trims (relative p operation size) := by
  simp [relative]

@[simp] theorem trims_arithmeticForm (p : Prefixes) (operation : String) (form : Nat) :
    Trims (arithmeticForm p operation form) := by
  unfold arithmeticForm
  split <;> simp

@[simp] theorem trims_arithmeticImm (p : Prefixes) (width : Width) (byteImm : Bool) :
    Trims (arithmeticImm p width byteImm) := by
  refine trims_bind (trims_readModRm p) fun x => ?_
  cases byteImm <;> simp

@[simp] theorem trims_multiplyImm (p : Prefixes) (byteImm : Bool) :
    Trims (multiplyImm p byteImm) := by
  refine trims_bind (trims_readModRm p) fun x => ?_
  cases byteImm <;> simp

@[simp] theorem trims_shift (p : Prefixes) (width : Width) {amount : Reader Arg}
    (h : Trims amount) : Trims (shift p width amount) := by
  simp [shift, h]

@[simp] theorem trims_moveImm (p : Prefixes) (width : Width) : Trims (moveImm p width) := by
  refine trims_bind (trims_readModRm p) fun x => ?_
  dsimp only
  split <;> simp

@[simp] theorem trims_unaryGroup (p : Prefixes) (width : Width) : Trims (unaryGroup p width) := by
  refine trims_bind (trims_readModRm p) fun x => ?_
  dsimp only
  split
  · simp
  · split <;> simp

@[simp] theorem trims_farBranch (p : Prefixes) (near far : String) (place : Place) :
    Trims (farBranch p near far place) := by
  cases place <;> simp [farBranch]

@[simp] theorem trims_branchGroup (p : Prefixes) : Trims (branchGroup p) := by
  refine trims_bind (trims_readModRm p) fun x => ?_
  dsimp only
  split <;> simp

@[simp] theorem trims_loadAddress (p : Prefixes) : Trims (loadAddress p) := by
  refine trims_bind (trims_readModRm p) ?_
  rintro ⟨reg, place⟩
  cases place <;> simp

@[simp] theorem trims_onePlace (p : Prefixes) (operation : String) (width : Width) :
    Trims (onePlace p operation width) := by
  simp [onePlace]

@[simp] theorem trims_byteStep (p : Prefixes) : Trims (byteStep p) := by
  refine trims_bind (trims_readModRm p) fun x => ?_
  dsimp only
  split
  · simp
  · split <;> simp

@[simp] theorem trims_pushImm (p : Prefixes) : Trims (pushImm p) := by
  simp [pushImm]

@[simp] theorem trims_oneByte (p : Prefixes) (op : Nat) : Trims (oneByte p op) := by
  unfold oneByte
  repeat' split
  all_goals simp

@[simp] theorem trims_entryMarker (p : Prefixes) : Trims (entryMarker p) := by
  refine trims_bind trims_byte fun b => ?_
  split
  · simp
  · split <;> simp

@[simp] theorem trims_twoByte (p : Prefixes) (op : Nat) : Trims (twoByte p op) := by
  unfold twoByte
  repeat' split
  all_goals simp

@[simp] theorem trims_readBody (p : Prefixes) : Trims (readBody p) := by
  refine trims_bind trims_byte fun op => ?_
  split
  · exact trims_bind trims_byte fun second => trims_twoByte p second
  · exact trims_oneByte p op

/-- Prefixes are read up to the opcode, whatever stands behind it. -/
theorem Prefixes.scan_eq_cons {p q : Prefixes} {bs rest : List UInt8} {op : UInt8}
    (h : p.scan bs = (q, op :: rest)) :
    ∃ front, bs = front ++ op :: rest ∧
      ∀ more, p.scan (front ++ op :: more) = (q, op :: more) := by
  induction bs generalizing p with
  | nil => simp [Prefixes.scan] at h
  | cons b bs ih =>
    simp only [Prefixes.scan] at h
    split at h
    · rename_i p' hadd
      obtain ⟨front, rfl, hsame⟩ := ih h
      refine ⟨b :: front, rfl, ?_⟩
      intro more
      simp only [List.cons_append, Prefixes.scan, hadd]
      exact hsame more
    · rename_i hadd
      cases h
      refine ⟨[], rfl, ?_⟩
      intro more
      simp only [List.nil_append, Prefixes.scan, hadd]

/-- Reads an instruction of whatever length, from its first prefix on. -/
def readWhole : Reader Body := fun bs =>
  readBody (Prefixes.scan {} bs).1 (Prefixes.scan {} bs).2

theorem trims_readWhole : Trims readWhole := by
  intro bs body left h
  obtain ⟨used, hrest, hsame⟩ := trims_readBody _ _ _ _ h
  -- the opcode is among the bytes that the body uses, so the prefixes end where they did
  cases used with
  | nil => cases hsame []
  | cons op used =>
    have hopcode : Prefixes.scan {} bs = ((Prefixes.scan {} bs).1, op :: (used ++ left)) :=
      Prod.ext rfl hrest
    obtain ⟨front, hbs, hscan⟩ := Prefixes.scan_eq_cons hopcode
    refine ⟨front ++ op :: used, by simpa using hbs, ?_⟩
    intro more
    simp only [readWhole, List.append_assoc, List.cons_append, hscan]
    exact hsame more

/-- The bytes, from the first to the last, are an encoding of the instruction. -/
def Encodes (bytes : List UInt8) (body : Body) : Prop :=
  readWhole bytes = some (body, [])

theorem Encodes.ne_nil {bytes : List UInt8} {body : Body} (h : Encodes bytes body) : bytes ≠ [] := by
  rintro rfl
  cases h

/-- A window decodes exactly if it begins with an encoding that is not too long. -/
theorem decodeBody?_eq_some_iff {window : List UInt8} {body : Body} {size : Nat} :
    decodeBody? window = some (body, size) ↔
      size ≤ maxLength ∧ size ≤ window.length ∧ Encodes (window.take size) body := by
  have heq : decodeBody? window = (readWhole (window.take maxLength)).map fun out =>
      (out.1, (window.take maxLength).length - out.2.length) := by
    simp only [decodeBody?, readWhole, StateT.run]
    cases readBody _ _ <;> rfl
  rw [heq, Option.map_eq_some_iff]
  constructor
  · rintro ⟨⟨body', left⟩, hread, hout⟩
    cases hout
    obtain ⟨used, hused, henc⟩ := trims_readWhole.eq_some_iff.mp hread
    have hlength := congrArg List.length hused
    rw [List.length_append, List.length_take] at hlength
    have hmax : used.length ≤ maxLength := by omega
    have htake : window.take used.length = used := by
      rw [← Nat.min_eq_left hmax, ← List.take_take, hused, List.take_left]
    rw [hused, List.length_append, Nat.add_sub_cancel, htake]
    exact ⟨hmax, by omega, henc⟩
  · rintro ⟨hmax, hlength, henc⟩
    have htake : (window.take maxLength).take size = window.take size := by
      rw [List.take_take, Nat.min_eq_left hmax]
    have hle : size ≤ (window.take maxLength).length := by
      rw [List.length_take]
      omega
    refine ⟨(body, (window.take maxLength).drop size), trims_readWhole.eq_some_iff.mpr ?_, ?_⟩
    · exact ⟨window.take size, by rw [← htake, List.take_append_drop], henc⟩
    · rw [List.length_drop, Nat.sub_sub_self hle]

theorem decode?_size {window : List UInt8} {address : Int} {d : Decoded}
    (h : decode? window address = some d) :
    0 < d.size ∧ d.size ≤ window.length ∧ d.size ≤ maxLength := by
  obtain ⟨⟨body, size⟩, hbody, rfl⟩ := Option.map_eq_some_iff.mp h
  obtain ⟨hmax, hlength, henc⟩ := decodeBody?_eq_some_iff.mp hbody
  have hpos := List.length_pos_iff.mpr henc.ne_nil
  rw [List.length_take] at hpos
  refine ⟨?_, hlength, hmax⟩
  dsimp only
  omega

theorem decode?_address {window : List UInt8} {address : Int} {d : Decoded}
    (h : decode? window address = some d) : d.insn.address = Address.wrap address := by
  obtain ⟨⟨body, size⟩, _, rfl⟩ := Option.map_eq_some_iff.mp h
  rfl

end Amd64

namespace Arm64

theorem decode?_size {window : List UInt8} {address : Int} {d : Decoded}
    (h : decode? window address = some d) : d.size = wordSize ∧ wordSize ≤ window.length := by
  simp only [decode?] at h
  split at h
  · cases h
  · rename_i hlength
    obtain ⟨body, _, rfl⟩ := Option.map_eq_some_iff.mp h
    exact ⟨rfl, Nat.le_of_not_lt hlength⟩

theorem decode?_address {window : List UInt8} {address : Int} {d : Decoded}
    (h : decode? window address = some d) : d.insn.address = Address.wrap address := by
  simp only [decode?] at h
  split at h
  · cases h
  · obtain ⟨body, _, rfl⟩ := Option.map_eq_some_iff.mp h
    rfl

end Arm64

end EntryScan
