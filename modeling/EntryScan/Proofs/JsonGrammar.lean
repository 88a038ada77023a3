import EntryScan.Number.Literal
import EntryScan.Value.Basic
import Mathlib

/-!
# EntryScan.Proofs.JsonGrammar

The grammar of JSON texts, told without a reader and without a writer. A text is a sequence of tokens
with blanks between them, and a document has one sequence of tokens.

* `Json.Spelling`, `Json.Inside`: the ways to write a character of a string, and all of a string.
* `Json.Lexeme`: the ways to write a token.
* `Json.Spells cs ts`: the characters are the tokens, with any blanks between them.
* `Json.tokens v`: the tokens of a document.
* `Json.Denotes text v`: the text is well-formed, and it stands for the document.

Numbers are whole, as they are in documents. Fields are listed in the order of the text.
-/

namespace EntryScan

/-- What holds of every document if it passes from the parts of a list or object to the whole. -/
@[elab_as_elim]
theorem Value.induction {motive : Value → Prop} (null : motive .null)
    (bool : ∀ b, motive (.bool b)) (int : ∀ n, motive (.int n)) (text : ∀ s, motive (.text s))
    (list : ∀ vs, (∀ v ∈ vs, motive v) → motive (.list vs))
    (object : ∀ fs : List (String × Value), (∀ f ∈ fs, motive f.2) → motive (.object fs))
    (v : Value) : motive v := by
  refine @Value.rec motive (fun vs => ∀ v ∈ vs, motive v) (fun fs => ∀ f ∈ fs, motive f.2)
    (fun f => motive f.2) null bool int text list object ?_ ?_ ?_ ?_ ?_ v
  · simp
  · intro v vs hv hvs
    exact List.forall_mem_cons.mpr ⟨hv, hvs⟩
  · simp
  · intro f fs hf hfs
    exact List.forall_mem_cons.mpr ⟨hf, hfs⟩
  · intro k v hv
    exact hv

namespace Json

/-! ## Strings -/

/-- The characters that a backslash and a letter stand for, by the letter. -/
def escapes : List (Char × Char) :=
  [('"', '"'), ('\\', '\\'), ('/', '/'), ('b', '\x08'), ('f', '\x0c'), ('n', '\n'), ('r', '\r'),
    ('t', '\t')]

/-- Four digits of base sixteen, which stand for a UTF-16 unit. -/
structure CodeUnit (ds : List Char) (n : Nat) : Prop where
  length : ds.length = 4
  digits : ∀ c ∈ ds, Number.isDigitOf 16 c = true
  value : Number.digitsValue 16 ds = n

/-- The ways to write one character of a string. One above `U+FFFF` has no unit of its own; it is
written as itself or as a pair of surrogates. -/
inductive Spelling : List Char → Char → Prop where
  | plain {c} (hlow : 0x20 ≤ c.toNat) (hquote : c ≠ '"') (hslash : c ≠ '\\') : Spelling [c] c
  | short {m c} (h : (m, c) ∈ escapes) : Spelling ['\\', m] c
  | unit {ds c} (h : CodeUnit ds c.toNat) : Spelling ('\\' :: 'u' :: ds) c
  | pair {ds es high low c} (hhigh : CodeUnit ds high) (hlow : CodeUnit es low)
      (hhigh' : 0xd800 ≤ high ∧ high < 0xdc00) (hlow' : 0xdc00 ≤ low ∧ low < 0xe000)
      (hc : c.toNat = 0x10000 + 0x400 * (high - 0xd800) + (low - 0xdc00)) :
      Spelling ('\\' :: 'u' :: ds ++ '\\' :: 'u' :: es) c

/-- What stands between the quotes of a string, and its characters. -/
inductive Inside : List Char → List Char → Prop where
  | nil : Inside [] []
  | cons {cs c ds s} (hc : Spelling cs c) (hs : Inside ds s) : Inside (cs ++ ds) (c :: s)

/-! ## Tokens -/

/-- The tokens of JSON texts. -/
inductive Token where
  | openList
  | closeList
  | openObject
  | closeObject
  | comma
  | colon
  | null
  | bool (b : Bool)
  | int (n : Int)
  | text (s : String)
deriving DecidableEq, Repr

/-- The tokens that are written in one way only. -/
def fixedLexemes : List (List Char × Token) :=
  [(['['], .openList), ([']'], .closeList), (['\x7b'], .openObject), (['\x7d'], .closeObject),
    ([','], .comma), ([':'], .colon), (['n', 'u', 'l', 'l'], .null),
    (['t', 'r', 'u', 'e'], .bool true), (['f', 'a', 'l', 's', 'e'], .bool false)]

/-- Digits of base ten, with no zero in front of others. -/
structure Decimal (ds : List Char) (n : Nat) : Prop where
  digits : ∀ c ∈ ds, c.isDigit = true
  nonempty : ds ≠ []
  front : ds.head? = some '0' → ds = ['0']
  value : Nat.ofDigitChars 10 ds 0 = n

/-- The ways to write a token. -/
inductive Lexeme : List Char → Token → Prop where
  | fixed {cs t} (h : (cs, t) ∈ fixedLexemes) : Lexeme cs t
  | natural {ds n} (h : Decimal ds n) : Lexeme ds (.int n)
  | negative {ds n} (h : Decimal ds n) : Lexeme ('-' :: ds) (.int (-n))
  | text {cs s} (h : Inside cs s) : Lexeme ('"' :: cs ++ ['"']) (.text (String.ofList s))

/-- The characters do not begin with a digit. -/
def Apart (rest : List Char) : Prop := ∀ c ∈ rest.head?, c.isDigit = false

/-- The blanks that may stand between tokens. -/
def isBlank (c : Char) : Bool := c = ' ' || c = '\t' || c = '\n' || c = '\r'

/-- The characters are the tokens, with any blanks between them. A number goes on as long as there
are digits. -/
inductive Spells : List Char → List Token → Prop where
  | nil : Spells [] []
  | blank {c cs ts} (hc : isBlank c = true) (hcs : Spells cs ts) : Spells (c :: cs) ts
  | token {cs t rest ts} (hcs : Lexeme cs t) (hend : ∀ n, t = .int n → Apart rest)
      (hrest : Spells rest ts) : Spells (cs ++ rest) (t :: ts)

/-! ## Documents -/

mutual

/-- The tokens of a document. -/
def tokens : Value → List Token
  | .null => [.null]
  | .bool b => [.bool b]
  | .int n => [.int n]
  | .text s => [.text s]
  | .list [] => [.openList, .closeList]
  | .list (v :: vs) => .openList :: (tokens v ++ (itemTokens vs ++ [.closeList]))
  | .object [] => [.openObject, .closeObject]
  | .object ((k, v) :: fs) =>
    .openObject :: .text k :: .colon :: (tokens v ++ (fieldTokens fs ++ [.closeObject]))

/-- The tokens of the items after the first. -/
def itemTokens : List Value → List Token
  | [] => []
  | v :: vs => .comma :: (tokens v ++ itemTokens vs)

/-- The tokens of the fields after the first. -/
def fieldTokens : List (String × Value) → List Token
  | [] => []
  | (k, v) :: fs => .comma :: .text k :: .colon :: (tokens v ++ fieldTokens fs)

end

/-- The text is well-formed, and it stands for the document. -/
def Denotes (text : String) (v : Value) : Prop := Spells text.toList (tokens v)

end Json
end EntryScan
