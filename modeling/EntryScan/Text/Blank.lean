/-!
# EntryScan.Text.Blank

Blank characters, in the two senses the program uses. Architecture tags are stripped of every
blank; around a number the four information separators `U+001C` to `U+001F` do not count as
blank.
-/

namespace EntryScan
namespace Text

/-- The information separators, which are blank in a tag and not around a number. -/
def isSeparator (c : Char) : Bool :=
  0x1c ≤ c.toNat && c.toNat ≤ 0x1f

/-- Blank around a number. -/
def isNumberBlank (c : Char) : Bool :=
  let n := c.toNat
  (0x9 ≤ n && n ≤ 0xd) || n == 0x20 || n == 0x85 || n == 0xa0 || n == 0x1680 ||
    (0x2000 ≤ n && n ≤ 0x200a) || n == 0x2028 || n == 0x2029 || n == 0x202f || n == 0x205f ||
    n == 0x3000

def isBlank (c : Char) : Bool :=
  isNumberBlank c || isSeparator c

/-- Drops the characters of a class at the end of a list. -/
def dropEndWhile (p : Char → Bool) (cs : List Char) : List Char :=
  (cs.reverse.dropWhile p).reverse

def trim (p : Char → Bool) (cs : List Char) : List Char :=
  dropEndWhile p (cs.dropWhile p)

/-- Letters `A` to `Z` in lower case, all else kept. Names that are looked up without regard to
case hold ASCII letters only, and no letter outside ASCII has one of theirs as its lower case. -/
def lowerAscii (s : String) : String :=
  String.ofList (s.toList.map Char.toLower)

end Text
end EntryScan
