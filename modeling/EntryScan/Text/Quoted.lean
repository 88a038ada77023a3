import EntryScan.Text.Printable

/-!
# EntryScan.Text.Quoted

Quoted text, as messages show names and bytes. The quote is `'`, unless the text holds a `'` and
no `"`. The quote in use, the backslash and characters that cannot be shown are escaped.
-/

namespace EntryScan
namespace Text

def hexDigit (n : Nat) : Char :=
  if n < 10 then Char.ofNat (0x30 + n) else Char.ofNat (0x57 + n)

/-- The lowest `width` digits of `n` in base sixteen. -/
def hexPadded : Nat → Nat → List Char
  | 0, _ => []
  | width + 1, n => hexPadded width (n / 16) ++ [hexDigit (n % 16)]

/-- The quote that surrounds a text. -/
def quoteFor (cs : List Char) : Char :=
  if cs.contains '\'' && !cs.contains '"' then '"' else '\''

/-- The escape of a character that is not shown, as short as its code point allows. -/
def escapeHidden (c : Char) : List Char :=
  let n := c.toNat
  if n < 0x100 then '\\' :: 'x' :: hexPadded 2 n
  else if n < 0x10000 then '\\' :: 'u' :: hexPadded 4 n
  else '\\' :: 'U' :: hexPadded 8 n

/-- A character between the quotes `q`; `shown` says which are written as they are. -/
def quoteChar (shown : Char → Bool) (q c : Char) : List Char :=
  if c = q || c = '\\' then ['\\', c]
  else if c = '\n' then ['\\', 'n']
  else if c = '\r' then ['\\', 'r']
  else if c = '\t' then ['\\', 't']
  else if shown c then [c]
  else escapeHidden c

def quotedChars (shown : Char → Bool) (cs : List Char) : List Char :=
  let q := quoteFor cs
  q :: cs.flatMap (quoteChar shown q) ++ [q]

def quoted (s : String) : String :=
  String.ofList (quotedChars isPrintable s.toList)

/-- A text with escapes for all that is not ASCII. -/
def asciiOnly (s : String) : String :=
  String.ofList (s.toList.flatMap fun c => if c.toNat < 0x80 then [c] else escapeHidden c)

/-- Bytes in quotes, marked by a leading `b`. Bytes from space to `~` are shown as they are. -/
def quotedBytes (bs : List UInt8) : String :=
  let shown (c : Char) : Bool := 0x20 ≤ c.toNat && c.toNat < 0x7f
  String.ofList ('b' :: quotedChars shown (bs.map fun b => Char.ofNat b.toNat))

end Text
end EntryScan
