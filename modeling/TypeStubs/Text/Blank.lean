/-! Blank characters, and the text left when the blanks around it are removed.
Blank means white space of the Unicode standard, so a no-break space and an
ideographic space count and a zero-width space does not. -/
namespace TypeStubs

/-- White space of the Unicode standard, all twenty-five characters of it. -/
def isBlank (c : Char) : Bool :=
  let n := c.toNat
  n == 32 || (9 ≤ n && n ≤ 13) || n == 0x85 || n == 0xA0 || n == 0x1680 ||
    (0x2000 ≤ n && n ≤ 0x200A) || n == 0x2028 || n == 0x2029 || n == 0x202F || n == 0x205F ||
    n == 0x3000

namespace Chars

/-- Removes the longest run at the end of which every character satisfies `p`. -/
def dropEndWhile (p : Char → Bool) (s : List Char) : List Char :=
  (s.reverse.dropWhile p).reverse

/-- The text without its leading blanks. -/
def trimStart (s : List Char) : List Char := s.dropWhile isBlank

/-- The text without its trailing blanks. -/
def trimEnd (s : List Char) : List Char := dropEndWhile isBlank s

/-- The text without the blanks around it. -/
def trim (s : List Char) : List Char := trimEnd (trimStart s)

/-- The first run of characters that are not blank; empty when there is none. -/
def firstToken (s : List Char) : List Char :=
  (trimStart s).takeWhile fun c => !isBlank c

end Chars

namespace Text

/-- The text without the blanks around it. -/
def trim (s : String) : String := String.ofList (Chars.trim s.toList)

end Text

end TypeStubs
