import EntryScan.Bytes
import EntryScan.Deflate.Code

/-!
# EntryScan.Deflate.Block

The blocks of a compressed stream: stored bytes, or bytes and references to earlier bytes in a
code, which is the fixed one or stands at the head of the block.

A stream that runs out, and one that would expand to more than the limit, ends there without a
fault.
-/

namespace EntryScan
namespace Deflate

/-- Why reading ends early. -/
inductive Stop where
  | short
  | fault (f : Fault)
deriving DecidableEq, Repr

abbrev Parse := StateT Bits (Except Stop)

namespace Parse

def number (width : Nat) : Parse Nat := fun s =>
  match s.number? width with
  | none => .error .short
  | some r => .ok r

def numbers (width : Nat) : (count : Nat) → Parse (List Nat)
  | 0 => pure []
  | count + 1 => do
    let n ← number width
    return n :: (← numbers width count)

/-- A symbol of a code; `f` is what is wrong with a word outside the code. -/
def symbol (c : Code) (f : Fault) : Parse Nat := fun s =>
  match c.decode? s with
  | none => .error .short
  | some (none, _) => .error (.fault f)
  | some (some n, s) => .ok (n, s)

/-- A number in the span of a symbol: the first of the span and the bits that say how far beyond
it. -/
def span (spans : List (Nat × Nat)) (symbol : Nat) (f : Fault) : Parse Nat :=
  match spans[symbol]? with
  | none => throw (.fault f)
  | some (first, width) => return first + (← number width)

def orFault (code : Option Code) (f : Fault) : Parse Code :=
  match code with
  | none => throw (.fault f)
  | some c => pure c

def refuseIf (p : Prop) [Decidable p] (f : Fault) : Parse Unit :=
  if p then throw (.fault f) else pure ()

end Parse

def lengthSpans : List (Nat × Nat) :=
  [(3, 0), (4, 0), (5, 0), (6, 0), (7, 0), (8, 0), (9, 0), (10, 0), (11, 1), (13, 1), (15, 1),
    (17, 1), (19, 2), (23, 2), (27, 2), (31, 2), (35, 3), (43, 3), (51, 3), (59, 3), (67, 4),
    (83, 4), (99, 4), (115, 4), (131, 5), (163, 5), (195, 5), (227, 5), (258, 0)]

def distanceSpans : List (Nat × Nat) :=
  [(1, 0), (2, 0), (3, 0), (4, 0), (5, 1), (7, 1), (9, 2), (13, 2), (17, 3), (25, 3), (33, 4),
    (49, 4), (65, 5), (97, 5), (129, 6), (193, 6), (257, 7), (385, 7), (513, 8), (769, 8),
    (1025, 9), (1537, 9), (2049, 10), (3073, 10), (4097, 11), (6145, 11), (8193, 12),
    (12289, 12), (16385, 13), (24577, 13)]

/-- The codes of a block: for bytes and lengths, and for distances. -/
structure Codes where
  literals : Code
  distances : Code
deriving DecidableEq, Repr

inductive Item where
  | literal (b : UInt8)
  | copy (length distance : Nat)
deriving DecidableEq, Repr

namespace Codes

def fixed : Codes where
  literals := .ofLengths (.replicate 144 8 ++ .replicate 112 9 ++ .replicate 24 7 ++ .replicate 8 8)
  distances := .ofLengths (.replicate 32 5)

/-- The next item, or none at the end of the block. -/
def item (c : Codes) : Parse (Option Item) := do
  let n ← Parse.symbol c.literals .literal
  if n < 256 then return some (.literal n.toUInt8)
  else if n = 256 then return none
  else
    let length ← Parse.span lengthSpans (n - 257) .literal
    let m ← Parse.symbol c.distances .distance
    let distance ← Parse.span distanceSpans m .distance
    return some (.copy length distance)

/-- What the symbols above 15 repeat, and how often beyond three times: the length before, or
zero. -/
def repeated (symbol : Nat) (seen : List Nat) : Parse (Nat × Nat) := do
  if symbol = 16 then
    let more ← Parse.number 2
    match seen with
    | [] => throw (.fault .lengthRepeat)
    | length :: _ => return (length, more)
  else if symbol = 17 then return (0, ← Parse.number 3)
  else return (0, 8 + (← Parse.number 7))

/-- Reads lengths until none is missing; `seen` holds those before, the last first. -/
def lengths (c : Code) : (missing : Nat) → (seen : List Nat) → Parse (List Nat)
  | 0, seen => return seen.reverse
  | missing + 1, seen => do
    let symbol ← Parse.symbol c .lengthCode
    if symbol < 16 then lengths c missing (symbol :: seen)
    else
      let (length, more) ← repeated symbol seen
      Parse.refuseIf (missing + 1 < more + 3) .lengthRepeat
      lengths c (missing - (more + 2)) (List.replicate (more + 3) length ++ seen)
termination_by missing => missing

/-- The symbols of the code for lengths in the order in which their own lengths are given. -/
def lengthOrder : List Nat :=
  [16, 17, 18, 0, 8, 7, 9, 6, 10, 5, 11, 4, 12, 3, 13, 2, 14, 1, 15]

def read : Parse Codes := do
  let literalCount := 257 + (← Parse.number 5)
  let distanceCount := 1 + (← Parse.number 5)
  let lengthCount := 4 + (← Parse.number 4)
  Parse.refuseIf (286 < literalCount ∨ 30 < distanceCount) .tooManySymbols
  let given ← Parse.numbers 3 lengthCount
  let own := (List.range lengthOrder.length).map fun n => given.getD (lengthOrder.idxOf n) 0
  let code ← Parse.orFault (Code.forLengths? own) .lengthCode
  let all ← lengths code (literalCount + distanceCount) []
  Parse.refuseIf (all.getD 256 0 = 0) .noEndOfBlock
  let literals ← Parse.orFault (Code.ofLengths? (all.take literalCount)) .literalCode
  let distances ← Parse.orFault (Code.ofLengths? (all.drop literalCount)) .distanceCode
  return ⟨literals, distances⟩

end Codes

/-- Where expansion stands: the bytes so far, and the stream from here unless it ends here. -/
structure Progress where
  out : Array UInt8
  rest : Option Bits
deriving Repr

/-- How many of `n` more bytes are within the limit. -/
def fitting (limit : Option Nat) (out : Array UInt8) (n : Nat) : Nat :=
  match limit with
  | none => n
  | some limit => min n (limit - out.size)

/-- Appends bytes that stand `distance` back; they may overlap with what is appended. -/
def copyBack (distance : Nat) : (count : Nat) → Array UInt8 → Array UInt8
  | 0, out => out
  | count + 1, out => copyBack distance count (out.push (out.getD (out.size - distance) 0))

/-- The bytes after one item and whether they are within the limit; otherwise those that are. -/
def Item.append (limit : Option Nat) (out : Array UInt8) :
    Item → Except Fault (Array UInt8 × Bool)
  | .literal b => .ok (if fitting limit out 1 = 1 then (out.push b, true) else (out, false))
  | .copy length distance =>
    let count := fitting limit out length
    if 0 < count ∧ out.size < distance then .error .tooFarBack
    else .ok (copyBack distance count out, count = length)

namespace Parse

/-- A reader that gives no bits back. -/
def Forward {α : Type} (m : Parse α) : Prop :=
  ∀ ⦃s : Bits⦄ ⦃a : α⦄ ⦃t : Bits⦄, m s = .ok (a, t) → t.size ≤ s.size

variable {α β : Type}

theorem bind_eq_ok_iff {m : Parse α} {k : α → Parse β} {s u : Bits} {b : β} :
    (m >>= k) s = .ok (b, u) ↔ ∃ a t, m s = .ok (a, t) ∧ k a t = .ok (b, u) := by
  change (m s >>= fun r => k r.1 r.2) = _ ↔ _
  cases hm : m s with
  | error e => simp [bind, Except.bind]
  | ok r =>
    obtain ⟨a, t⟩ := r
    constructor
    · exact fun h => ⟨a, t, rfl, h⟩
    · rintro ⟨_, _, ⟨⟩, h⟩
      exact h

theorem Forward.pure (a : α) : Forward (pure a) := by
  intro s b t h
  cases h
  exact Nat.le_refl _

theorem Forward.throw (e : Stop) : Forward (throw e : Parse α) := by
  intro s b t h
  cases h

theorem Forward.bind {m : Parse α} {k : α → Parse β} (hm : m.Forward)
    (hk : ∀ a, (k a).Forward) : (m >>= k).Forward := by
  intro s b u h
  obtain ⟨a, t, ha, hb⟩ := bind_eq_ok_iff.1 h
  exact Nat.le_trans (hk a hb) (hm ha)

theorem Forward.ite {p : Prop} [Decidable p] {m n : Parse α} (hm : p → m.Forward)
    (hn : ¬p → n.Forward) : (if p then m else n).Forward := by
  by_cases h : p
  · simpa [h] using hm h
  · simpa [h] using hn h

theorem forward_number (width : Nat) : (number width).Forward := by
  intro s n t h
  rw [number] at h
  split at h
  · cases h
  · rename_i r hr
    cases h
    have := Bits.size_number? hr
    omega

theorem size_symbol {c : Code} {f : Fault} {s t : Bits} {n : Nat}
    (h : symbol c f s = .ok (n, t)) : t.size < s.size := by
  rw [symbol] at h
  split at h
  · cases h
  · cases h
  · rename_i hdecode
    cases h
    exact Code.size_decode? hdecode

theorem forward_symbol (c : Code) (f : Fault) : (symbol c f).Forward :=
  fun _ _ _ h => Nat.le_of_lt (size_symbol h)

theorem forward_span (spans : List (Nat × Nat)) (n : Nat) (f : Fault) :
    (span spans n f).Forward := by
  rw [span]
  split
  · exact .throw _
  · exact .bind (forward_number _) fun _ => .pure _

theorem forward_orFault (code : Option Code) (f : Fault) : (orFault code f).Forward := by
  cases code with
  | none => exact .throw _
  | some c => exact .pure c

theorem forward_refuseIf (p : Prop) [Decidable p] (f : Fault) : (refuseIf p f).Forward :=
  .ite (fun _ => .throw _) fun _ => .pure _

theorem forward_numbers (width count : Nat) : (numbers width count).Forward := by
  induction count with
  | zero => exact .pure _
  | succ count ih => exact .bind (forward_number width) fun _ => .bind ih fun _ => .pure _

end Parse

namespace Codes

theorem size_item {c : Codes} {s t : Bits} {i : Option Item} (h : c.item s = .ok (i, t)) :
    t.size < s.size := by
  obtain ⟨n, u, hn, hrest⟩ := Parse.bind_eq_ok_iff.1 h
  refine Nat.lt_of_le_of_lt ?_ (Parse.size_symbol hn)
  refine Parse.Forward.ite (fun _ => .pure _) (fun _ => ?_) hrest
  refine .ite (fun _ => .pure _) fun _ => .bind (Parse.forward_span _ _ _) fun _ => ?_
  exact .bind (Parse.forward_symbol _ _) fun _ => .bind (Parse.forward_span _ _ _) fun _ => .pure _

theorem forward_repeated (symbol : Nat) (seen : List Nat) : (repeated symbol seen).Forward := by
  refine .ite (fun _ => .bind (Parse.forward_number 2) fun more => ?_) fun _ =>
    .ite (fun _ => .bind (Parse.forward_number 3) fun _ => .pure _) fun _ =>
      .bind (Parse.forward_number 7) fun _ => .pure _
  cases seen with
  | nil => exact .throw _
  | cons length seen => exact .pure _

theorem forward_lengths (c : Code) (missing : Nat) (seen : List Nat) :
    (lengths c missing seen).Forward := by
  induction missing using Nat.strongRecOn generalizing seen with
  | ind missing ih =>
    cases missing with
    | zero =>
      rw [lengths]
      exact .pure _
    | succ missing =>
      rw [lengths]
      refine .bind (Parse.forward_symbol _ _) fun symbol =>
        .ite (fun _ => ih missing (Nat.lt_succ_self _) _) fun _ => ?_
      exact .bind (forward_repeated _ _) fun r =>
        .bind (Parse.forward_refuseIf _ _) fun _ => ih _ (by omega) _

theorem forward_read : read.Forward := by
  refine .bind (Parse.forward_number 5) fun _ => .bind (Parse.forward_number 5) fun _ =>
    .bind (Parse.forward_number 4) fun _ => .bind (Parse.forward_refuseIf _ _) fun _ => ?_
  refine .bind (Parse.forward_numbers _ _) fun _ => .bind (Parse.forward_orFault _ _) fun _ =>
    .bind (forward_lengths _ _ _) fun _ => .bind (Parse.forward_refuseIf _ _) fun _ => ?_
  exact .bind (Parse.forward_orFault _ _) fun _ => .bind (Parse.forward_orFault _ _) fun _ =>
    .pure _

end Codes

def expandItems (limit : Option Nat) (c : Codes) (out : Array UInt8) (s : Bits) :
    Except Fault Progress :=
  match _hitem : c.item s with
  | .error .short => .ok ⟨out, none⟩
  | .error (.fault f) => .error f
  | .ok (none, rest) => .ok ⟨out, some rest⟩
  | .ok (some item, rest) =>
    match item.append limit out with
    | .error f => .error f
    | .ok (out, false) => .ok ⟨out, none⟩
    | .ok (out, true) => expandItems limit c out rest
termination_by s.size
decreasing_by exact Codes.size_item _hitem

/-- Expands stored bytes, which begin at a byte of the stream. -/
def expandStored (limit : Option Nat) (out : Array UInt8) : List UInt8 → Except Fault Progress
  | a :: b :: c :: d :: body =>
    let size := Bytes.littleEndian [a, b]
    if size + Bytes.littleEndian [c, d] ≠ 65535 then .error .storedLengths
    else
      let data := body.take (fitting limit out size)
      .ok ⟨out ++ data, if data.length < size then none else some ⟨[], body.drop size⟩⟩
  | _ => .ok ⟨out, none⟩

/-- Expands what follows the head of a block of a type. -/
def expandBlock (limit : Option Nat) (type : Nat) (out : Array UInt8) (s : Bits) :
    Except Fault Progress :=
  match type with
  | 0 => expandStored limit out s.bytes
  | 1 => expandItems limit .fixed out s
  | 2 =>
    match Codes.read s with
    | .error .short => .ok ⟨out, none⟩
    | .error (.fault f) => .error f
    | .ok (codes, s) => expandItems limit codes out s
  | _ => .error .blockType

theorem size_expandItems {limit : Option Nat} {c : Codes} {out out' : Array UInt8} {s t : Bits}
    (h : expandItems limit c out s = .ok ⟨out', some t⟩) : t.size ≤ s.size := by
  fun_induction expandItems limit c out s with
  | case1 | case2 => cases h
  | case3 out s rest hitem =>
    cases h
    exact Nat.le_of_lt (Codes.size_item hitem)
  | case4 | case5 => cases h
  | case6 out s item rest hitem out₁ _ ih =>
    exact Nat.le_trans (ih h) (Nat.le_of_lt (Codes.size_item hitem))

theorem size_expandStored {limit : Option Nat} {out out' : Array UInt8} {bs : List UInt8}
    {t : Bits} (h : expandStored limit out bs = .ok ⟨out', some t⟩) :
    t.size ≤ 8 * bs.length := by
  rw [expandStored.eq_def] at h
  split at h
  · rename_i a b c d body
    dsimp only at h
    split at h
    · cases h
    · have hrest := congrArg Progress.rest (Except.ok.inj h)
      dsimp only at hrest
      split at hrest
      · cases hrest
      · cases hrest
        simp only [Bits.size, List.length_nil, List.length_drop, List.length_cons]
        omega
  · cases h

theorem size_expandBlock {limit : Option Nat} {type : Nat} {out out' : Array UInt8} {s t : Bits}
    (h : expandBlock limit type out s = .ok ⟨out', some t⟩) : t.size ≤ s.size := by
  rw [expandBlock.eq_def] at h
  split at h
  · exact Nat.le_trans (size_expandStored h) (Nat.le_add_left _ _)
  · exact size_expandItems h
  · split at h
    · cases h
    · cases h
    · rename_i codes u hread
      exact Nat.le_trans (size_expandItems h) (Codes.forward_read hread)
  · cases h

def expandBlocks (limit : Option Nat) (out : Array UInt8) (s : Bits) : Except Fault Progress :=
  match _hhead : s.number? 3 with
  | none => .ok ⟨out, none⟩
  | some (head, rest) =>
    match _hblock : expandBlock limit (head / 2) out rest with
    | .error f => .error f
    | .ok ⟨out, none⟩ => .ok ⟨out, none⟩
    | .ok ⟨out, some rest⟩ =>
      if head % 2 = 1 then .ok ⟨out, some rest⟩ else expandBlocks limit out rest
termination_by s.size
decreasing_by
  have := Bits.size_number? _hhead
  have := size_expandBlock _hblock
  omega

end Deflate
end EntryScan
