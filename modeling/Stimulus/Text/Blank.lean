/-!
White space in identifiers and resource paths: the characters of the Unicode property
`White_Space`.  `trim` takes them off both ends of a text, and `isBlankText` tells a text that
holds nothing else.
-/

namespace Stimulus.Text

/-- A character of the property `White_Space`. -/
def isBlank (c : Char) : Bool :=
  let n := c.toNat
  (0x09 ≤ n && n ≤ 0x0D) || n == 0x20 || n == 0x85 || n == 0xA0 || n == 0x1680 ||
    (0x2000 ≤ n && n ≤ 0x200A) || n == 0x2028 || n == 0x2029 || n == 0x202F || n == 0x205F ||
    n == 0x3000

/-- `s` without the characters of `p` at either end. -/
def trimBy (p : Char → Bool) (s : List Char) : List Char :=
  ((s.dropWhile p).reverse.dropWhile p).reverse

/-- `s` without the white space at either end. -/
def trim (s : String) : String :=
  String.ofList (trimBy isBlank s.toList)

/-- A text that has no character but white space. -/
def isBlankText (s : String) : Bool :=
  s.toList.all isBlank

end Stimulus.Text
