set_option autoImplicit false

/-! White space as text processing sees it: the ASCII blanks, the information separators and the
Unicode space separators, line and paragraph separators. Numbers are trimmed of it, words are
split at it, and lines lose it at their ends; line breaks of every kind read as line feeds. -/
namespace Quill.Text

/-- White space: tab to carriage return, the information separators, the space, the next-line
mark, the no-break space and the other Unicode spaces. -/
def isSpace (c : Char) : Bool :=
  let n := c.toNat
  (0x09 ≤ n && n ≤ 0x0D) ||
    (0x1C ≤ n && n ≤ 0x20) || n == 0x85 || n == 0xA0 || n == 0x1680 ||
    (0x2000 ≤ n && n ≤ 0x200A) || n == 0x2028 || n == 0x2029 || n == 0x202F || n == 0x205F ||
    n == 0x3000

/-- Dropping a leading run never makes a list longer. -/
theorem length_dropWhile_le (p : Char → Bool)
    (l : List Char) : (l.dropWhile p).length ≤ l.length :=
  (List.dropWhile_sublist p).length_le

/-- The characters without their trailing white space. -/
def dropTrailingSpace (cs : List Char) : List Char :=
  (cs.reverse.dropWhile isSpace).reverse

/-- The characters without their surrounding white space. -/
def trimSpace (cs : List Char) : List Char :=
  dropTrailingSpace (cs.dropWhile isSpace)

/-- Line breaks read as line feeds: a carriage return, alone or before a line feed, becomes one
line feed. -/
def unifyBreaks : List Char → List Char
  | '\r' :: '\n' :: rest => '\n' :: unifyBreaks rest
  | '\r' :: rest => '\n' :: unifyBreaks rest
  | c :: rest => c :: unifyBreaks rest
  | [] => []

end Quill.Text
