/-!
# EntryScan.Deflate.Code

The bits of a compressed stream and the codes that they spell.

A code is given by the length of each symbol's word: of two words the shorter comes first, of two
of one length the one of the smaller symbol. `Code.ofLengths?` refuses lengths that no code has.
-/

namespace EntryScan
namespace Deflate

inductive Fault where
  | headCheck
  | method
  | windowSize
  | dictionary
  | blockType
  | storedLengths
  | tooManySymbols
  | lengthCode
  | lengthRepeat
  | noEndOfBlock
  | literalCode
  | distanceCode
  | literal
  | distance
  | tooFarBack
  | dataCheck
deriving DecidableEq, Repr

namespace Fault

def cause : Fault → String
  | .headCheck => "incorrect header check"
  | .method => "unknown compression method"
  | .windowSize => "invalid window size"
  | .dictionary => "need dictionary"
  | .blockType => "invalid block type"
  | .storedLengths => "invalid stored block lengths"
  | .tooManySymbols => "too many length or distance symbols"
  | .lengthCode => "invalid code lengths set"
  | .lengthRepeat => "invalid bit length repeat"
  | .noEndOfBlock => "invalid code -- missing end-of-block"
  | .literalCode => "invalid literal/lengths set"
  | .distanceCode => "invalid distances set"
  | .literal => "invalid literal/length code"
  | .distance => "invalid distance code"
  | .tooFarBack => "invalid distance too far back"
  | .dataCheck => "incorrect data check"

/-- The wording of a fault. A stream that asks for a dictionary is not wrong in itself, and is
reported by a number alone. -/
def message : Fault → String
  | .dictionary => "Error 2 while decompressing data"
  | f => "Error -3 while decompressing data: " ++ f.cause

end Fault

/-- What is left of a stream: the bits of the byte being read, the lowest first, and the bytes
behind it. -/
structure Bits where
  pending : List Bool
  bytes : List UInt8
deriving DecidableEq, Repr

namespace Bits

def size (s : Bits) : Nat := s.pending.length + 8 * s.bytes.length

def ofByte (b : UInt8) : List Bool := (List.range 8).map b.toNat.testBit

def next? : Bits → Option (Bool × Bits)
  | ⟨b :: pending, bytes⟩ => some (b, ⟨pending, bytes⟩)
  | ⟨[], []⟩ => none
  | ⟨[], byte :: bytes⟩ => some (byte.toNat.testBit 0, ⟨(ofByte byte).tail, bytes⟩)

/-- A number of `width` bits, the lowest first. -/
def number? : (width : Nat) → Bits → Option (Nat × Bits)
  | 0, s => some (0, s)
  | width + 1, s =>
    match s.next? with
    | none => none
    | some (b, s) =>
      match number? width s with
      | none => none
      | some (n, s) => some (b.toNat + 2 * n, s)

theorem size_next? {s t : Bits} {b : Bool} (h : s.next? = some (b, t)) : t.size < s.size := by
  obtain ⟨pending, bytes⟩ := s
  cases pending with
  | cons p pending =>
    cases h
    simp [size]
  | nil =>
    cases bytes with
    | nil => cases h
    | cons byte bytes =>
      cases h
      simp only [size, ofByte, List.length_tail, List.length_map, List.length_range,
        List.length_nil, List.length_cons]
      omega

theorem size_number? {width n : Nat} {s t : Bits} (h : s.number? width = some (n, t)) :
    t.size + width ≤ s.size := by
  induction width generalizing s n with
  | zero =>
    cases h
    simp
  | succ width ih =>
    rw [number?] at h
    split at h
    · cases h
    · rename_i b u hnext
      split at h
      · cases h
      · rename_i m v hnumber
        cases h
        have hnext := size_next? hnext
        have hnumber := ih hnumber
        omega

end Bits

/-- A tree of words: a bit chooses a branch, and `dead` stands where no word leads. -/
inductive Tree where
  | leaf (symbol : Nat)
  | node (zero one : Tree)
  | dead
deriving DecidableEq, Repr

namespace Tree

/-- Follows bits down to a symbol, or to no symbol where the tree is dead. The bits may run out
first. -/
def decode? : Tree → Bits → Option (Option Nat × Bits)
  | .leaf symbol, s => some (some symbol, s)
  | .dead, s => some (none, s)
  | .node zero one, s =>
    match s.next? with
    | none => none
    | some (false, s) => zero.decode? s
    | some (true, s) => one.decode? s

theorem size_decode? {t : Tree} {s u : Bits} {r : Option Nat} (h : t.decode? s = some (r, u)) :
    u.size ≤ s.size := by
  induction t generalizing s with
  | leaf symbol =>
    cases h
    exact Nat.le_refl _
  | dead =>
    cases h
    exact Nat.le_refl _
  | node zero one ihzero ihone =>
    rw [decode?] at h
    split at h
    · cases h
    · rename_i v hnext
      exact Nat.le_trans (ihzero h) (Nat.le_of_lt (Bits.size_next? hnext))
    · rename_i v hnext
      exact Nat.le_trans (ihone h) (Nat.le_of_lt (Bits.size_next? hnext))

/-- Joins neighbours; the last may have none. -/
def pairs : List Tree → List Tree
  | a :: b :: rest => .node a b :: pairs rest
  | [a] => [.node a .dead]
  | [] => []

end Tree

/-- A code: what its words lead to after their first bit. No word is empty. -/
structure Code where
  zero : Tree
  one : Tree
deriving DecidableEq, Repr

namespace Code

def decode? (c : Code) : Bits → Option (Option Nat × Bits) := (Tree.node c.zero c.one).decode?

/-- Reading a word takes a bit at least. -/
theorem size_decode? {c : Code} {s u : Bits} {r : Option Nat} (h : c.decode? s = some (r, u)) :
    u.size < s.size := by
  rw [decode?, Tree.decode?] at h
  split at h
  · cases h
  · rename_i v hnext
    exact Nat.lt_of_le_of_lt (Tree.size_decode? h) (Bits.size_next? hnext)
  · rename_i v hnext
    exact Nat.lt_of_le_of_lt (Tree.size_decode? h) (Bits.size_next? hnext)

def longestWord : Nat := 15

/-- How many words of the longest length are left over by words of these lengths, if there are
enough for them. -/
def free? (lengths : List Nat) : Option Nat :=
  (List.range longestWord).foldlM (fun free i =>
    let used := lengths.count (i + 1)
    if 2 * free < used then none else some (2 * free - used)) 1

/-- The trees that hang side by side at a depth, given by its distance from below the longest
word: the words that end there, and then the pairs of what hangs one deeper. -/
def level (lengths : List Nat) : Nat → List Tree
  | 0 => []
  | n + 1 =>
    lengths.zipIdx.filterMap (fun (length, symbol) =>
      if length = longestWord - n then some (.leaf symbol) else none) ++
    Tree.pairs (level lengths n)

def ofLengths (lengths : List Nat) : Code :=
  match level lengths longestWord with
  | [] => ⟨.dead, .dead⟩
  | [a] => ⟨a, .dead⟩
  | a :: b :: _ => ⟨a, b⟩

/-- The code of given lengths. Words may be left over only where none is longer than a bit. -/
def ofLengths? (lengths : List Nat) : Option Code :=
  match free? lengths with
  | none => none
  | some free => if free = 0 ∨ lengths.all (· ≤ 1) then some (ofLengths lengths) else none

/-- The code for lengths themselves. No word may be left over, but with no words at all every bit
spells a zero. -/
def forLengths? (lengths : List Nat) : Option Code :=
  if lengths.all (· = 0) then some ⟨.leaf 0, .leaf 0⟩
  else if free? lengths = some 0 then some (ofLengths lengths)
  else none

end Code
end Deflate
end EntryScan
