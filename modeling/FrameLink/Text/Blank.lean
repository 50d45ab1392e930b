/-!
Blank characters: the Unicode `White_Space` property. They are the characters that may stand
anywhere in hexadecimal text, and a line made of them alone is an empty line.
-/

namespace FrameLink.Blank

/-- The characters of the Unicode `White_Space` property; the information separators `U+001C` to
`U+001F` are not among them. -/
def isBlank (c : Char) : Bool :=
  let n := c.toNat
  (0x09 ≤ n && n ≤ 0x0d) || n == 0x20 || n == 0x85 || n == 0xa0 || n == 0x1680 ||
    (0x2000 ≤ n && n ≤ 0x200a) || n == 0x2028 || n == 0x2029 || n == 0x202f || n == 0x205f ||
    n == 0x3000

/-- Whether a text holds blanks only; the empty text does. -/
def isBlankText (s : String) : Bool := s.toList.all isBlank

example : isBlank '\x1c' = false := by decide
example : isBlank '　' = true := by decide
example : isBlank '​' = false := by decide

end FrameLink.Blank
