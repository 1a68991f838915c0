import Quill.Text.Space

set_option autoImplicit false

/-! The decimal digits of every script (Unicode 14.0, general category Nd). They come in runs of
ten consecutive code points, zero to nine, so a digit is known by the start of its run. Number
reading takes each of them for the ASCII digit of the same value. -/
namespace Quill.Text

/-- The code points of the digit zero of every script, ascending; nine more digits follow each. -/
def digitZeros : List Nat :=
  [0x30, 0x660, 0x6F0, 0x7C0, 0x966, 0x9E6, 0xA66, 0xAE6, 0xB66, 0xBE6, 0xC66, 0xCE6, 0xD66,
  0xDE6, 0xE50, 0xED0, 0xF20, 0x1040, 0x1090, 0x17E0, 0x1810, 0x1946, 0x19D0, 0x1A80, 0x1A90,
  0x1B50, 0x1BB0, 0x1C40, 0x1C50, 0xA620, 0xA8D0, 0xA900, 0xA9D0, 0xA9F0, 0xAA50, 0xABF0, 0xFF10,
  0x104A0, 0x10D30, 0x11066, 0x110F0, 0x11136, 0x111D0, 0x112F0, 0x11450, 0x114D0, 0x11650,
  0x116C0, 0x11730, 0x118E0, 0x11950, 0x11C50, 0x11D50, 0x11DA0, 0x16A60, 0x16AC0, 0x16B50,
  0x1D7CE, 0x1D7D8, 0x1D7E2, 0x1D7EC, 0x1D7F6, 0x1E140, 0x1E2F0, 0x1E950, 0x1FBF0]

/-- The value of a decimal digit of any script. -/
def decimalValue? (c : Char) : Option Nat :=
  (digitZeros.find? fun z => z ≤ c.toNat && c.toNat < z + 10).map fun z => c.toNat - z

/-- The six ASCII white space characters: space, tab, line feed, vertical tab, form feed and
carriage return. -/
def isAsciiSpace (c : Char) : Bool :=
  c == ' ' || c == '\t' || c == '\n' || c == '\x0b' || c == '\x0c' || c == '\r'

/-- The ASCII form in which a number text is read: ASCII characters stay, any other white space
becomes a space and any other decimal digit its ASCII digit; at the first other character the
form ends with a `?`, which no number contains. -/
def asciiForm : List Char → List Char
  | [] => []
  | c :: cs =>
    if c.toNat < 127 then c :: asciiForm cs
    else if isSpace c then ' ' :: asciiForm cs
    else match decimalValue? c with
      | some d => Char.ofNat (48 + d) :: asciiForm cs
      | none => ['?']

/-- A text without its leading and trailing ASCII white space. -/
def trimAsciiSpace (cs : List Char) : List Char :=
  ((cs.dropWhile isAsciiSpace).reverse.dropWhile isAsciiSpace).reverse

end Quill.Text
