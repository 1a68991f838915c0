import Quill.Text.Printable
import Quill.Text.Surrogate

set_option autoImplicit false

/-! Quoted display of text: the delimiter is a single quote unless the text holds a single
quote and no double quote; the backslash, the delimiter, tab, line feed and carriage return
are escaped by name, other characters that are not printable by their code point in
lower-case hexadecimal, and everything else stands as itself. -/
namespace Quill.Text

/-- The digits of `n` in base 16, lower case, most significant first. -/
def hexDigitsOf (n : Nat) : List Char :=
  if n < 16 then [Nat.digitChar n] else hexDigitsOf (n / 16) ++ [Nat.digitChar (n % 16)]
termination_by n
decreasing_by omega

/-- `n` in lower-case hexadecimal, padded on the left with zeros to at least `width` digits. -/
def hexPadded (width n : Nat) : String :=
  let digits := hexDigitsOf n
  String.ofList (List.replicate (width - digits.length) '0' ++ digits)

/-- The escape of a character that is not printable: two, four or eight hexadecimal digits,
the fewest of those that hold the code point it stands for (a carrier shows its surrogate). -/
def codeEscape (c : Char) : String :=
  let n := codeOf c
  if n < 0x100 then "\\x" ++ hexPadded 2 n
  else if n < 0x10000 then "\\u" ++ hexPadded 4 n
  else "\\U" ++ hexPadded 8 n

/-- How one character is written between delimiters `q`. -/
def quotedChar (q c : Char) : String :=
  if c = q ∨ c = '\\' then String.ofList ['\\', c]
  else if c = '\t' then "\\t"
  else if c = '\n' then "\\n"
  else if c = '\r' then "\\r"
  else if printable c then c.toString
  else codeEscape c

/-- The delimiter chosen for `s`. -/
def delimiterFor (s : String) : Char :=
  if s.contains '\'' && !s.contains '"' then '"' else '\''

/-- The quoted display of `s`. -/
def quoted (s : String) : String :=
  let q := delimiterFor s
  q.toString ++ String.join (s.toList.map (quotedChar q)) ++ q.toString

end Quill.Text
