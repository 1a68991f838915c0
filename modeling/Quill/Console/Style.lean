import Quill.Text.Lower
import Quill.Decimal.Read

set_option autoImplicit false

/-! Style definitions, as the tags of console markup name them: words separated by white
space. A word is a style attribute (or its short form), `not` and an attribute, `on` and a
background colour, `link` and an address, or else a colour: `default`, one of the named colours,
`#` and six hexadecimal digits, `color(n)` for n up to 255, or `rgb(r,g,b)` with components up
to 255. Words are matched in lower case, except the word after `not`, `on` or `link`. A style
that reads is written in a normal form: its attributes in a fixed order (`not` before those
turned off), then the colour, `on` and the background, and `link` and the address; the empty
style is `none`. Tags are matched by that normal form, or, for a definition that does not read,
by its text trimmed and in lower case. -/
namespace Quill.Console

/-- The named colours. -/
def colorNames : List String :=
  ["black", "red", "green", "yellow", "blue", "magenta", "cyan", "white", "bright_black",
  "bright_red", "bright_green", "bright_yellow", "bright_blue", "bright_magenta", "bright_cyan",
  "bright_white", "grey0", "gray0", "navy_blue", "dark_blue", "blue3", "blue1", "dark_green",
  "deep_sky_blue4", "dodger_blue3", "dodger_blue2", "green4", "spring_green4", "turquoise4",
  "deep_sky_blue3", "dodger_blue1", "green3", "spring_green3", "dark_cyan", "light_sea_green",
  "deep_sky_blue2", "deep_sky_blue1", "spring_green2", "cyan3", "dark_turquoise", "turquoise2",
  "green1", "spring_green1", "medium_spring_green", "cyan2", "cyan1", "dark_red", "deep_pink4",
  "purple4", "purple3", "blue_violet", "orange4", "grey37", "gray37", "medium_purple4",
  "slate_blue3", "royal_blue1", "chartreuse4", "dark_sea_green4", "pale_turquoise4",
  "steel_blue", "steel_blue3", "cornflower_blue", "chartreuse3", "cadet_blue", "sky_blue3",
  "steel_blue1", "pale_green3", "sea_green3", "aquamarine3", "medium_turquoise", "chartreuse2",
  "sea_green2", "sea_green1", "aquamarine1", "dark_slate_gray2", "dark_magenta", "dark_violet",
  "purple", "light_pink4", "plum4", "medium_purple3", "slate_blue1", "yellow4", "wheat4",
  "grey53", "gray53", "light_slate_grey", "light_slate_gray", "medium_purple",
  "light_slate_blue", "dark_olive_green3", "dark_sea_green", "light_sky_blue3", "sky_blue2",
  "dark_sea_green3", "dark_slate_gray3", "sky_blue1", "chartreuse1", "light_green",
  "pale_green1", "dark_slate_gray1", "red3", "medium_violet_red", "magenta3", "dark_orange3",
  "indian_red", "hot_pink3", "medium_orchid3", "medium_orchid", "medium_purple2",
  "dark_goldenrod", "light_salmon3", "rosy_brown", "grey63", "gray63", "medium_purple1", "gold3",
  "dark_khaki", "navajo_white3", "grey69", "gray69", "light_steel_blue3", "light_steel_blue",
  "yellow3", "dark_sea_green2", "light_cyan3", "light_sky_blue1", "green_yellow",
  "dark_olive_green2", "dark_sea_green1", "pale_turquoise1", "deep_pink3", "magenta2",
  "hot_pink2", "orchid", "medium_orchid1", "orange3", "light_pink3", "pink3", "plum3", "violet",
  "light_goldenrod3", "tan", "misty_rose3", "thistle3", "plum2", "khaki3", "light_goldenrod2",
  "light_yellow3", "grey84", "gray84", "light_steel_blue1", "yellow2", "dark_olive_green1",
  "honeydew2", "light_cyan1", "red1", "deep_pink2", "deep_pink1", "magenta1", "orange_red1",
  "indian_red1", "hot_pink", "dark_orange", "salmon1", "light_coral", "pale_violet_red1",
  "orchid2", "orchid1", "orange1", "sandy_brown", "light_salmon1", "light_pink1", "pink1",
  "plum1", "gold1", "navajo_white1", "misty_rose1", "thistle1", "yellow1", "light_goldenrod1",
  "khaki1", "wheat1", "cornsilk1", "grey100", "gray100", "grey3", "gray3", "grey7", "gray7",
  "grey11", "gray11", "grey15", "gray15", "grey19", "gray19", "grey23", "gray23", "grey27",
  "gray27", "grey30", "gray30", "grey35", "gray35", "grey39", "gray39", "grey42", "gray42",
  "grey46", "gray46", "grey50", "gray50", "grey54", "gray54", "grey58", "gray58", "grey62",
  "gray62", "grey66", "gray66", "grey70", "gray70", "grey74", "gray74", "grey78", "gray78",
  "grey82", "gray82", "grey85", "gray85", "grey89", "gray89", "grey93", "gray93"]

/-- Why a colour or style does not read. -/
inductive StyleFault where
  /-- The words are no style. -/
  | notStyle
  /-- An `rgb` component that is not a number at all. -/
  | badComponent
deriving DecidableEq, Repr

/-- Whether a character may stand inside `rgb(...)`: a decimal digit of any script, white space
or a comma. -/
def isComponentChar (c : Char) : Bool :=
  (Text.decimalValue? c).isSome || Text.isSpace c || c == ','

/-- The value of an `rgb` component, read as an integer is read. -/
def componentValue (cs : List Char) : Except StyleFault Int :=
  match Decimal.readInteger (String.ofList cs) with
  | .ok n => .ok n
  | .error _ => .error .badComponent

/-- The name of the colour a word gives: the word in lower case and trimmed. -/
def colorName (word : String) : Except StyleFault String := do
  let c := String.ofList (Text.trimSpace (Text.lower word).toList)
  if c == "default" || colorNames.contains c then return c
  let isHex (d : Char) : Bool := ('0' ≤ d && d ≤ '9') || ('a' ≤ d && d ≤ 'f')
  let isDigit (d : Char) : Bool := '0' ≤ d && d ≤ '9'
  match c.toList with
  | '#' :: ds => if ds.length == 6 && ds.all isHex then return c else throw .notStyle
  | 'c' :: 'o' :: 'l' :: 'o' :: 'r' :: '(' :: rest =>
    match rest.reverse with
    | ')' :: ds =>
      let ds := ds.reverse
      if 1 ≤ ds.length && ds.length ≤ 3 && ds.all isDigit && Decimal.digitsValue ds ≤ 255 then
        return c
      else throw .notStyle
    | _ => throw .notStyle
  | 'r' :: 'g' :: 'b' :: '(' :: rest =>
    match rest.reverse with
    | ')' :: inner =>
      let inner := inner.reverse
      if inner.isEmpty || !inner.all isComponentChar then throw .notStyle
      match inner.splitOn ',' with
      | [r, g, b] =>
        let r ← componentValue r
        let g ← componentValue g
        let b ← componentValue b
        if r ≤ 255 && g ≤ 255 && b ≤ 255 then return c else throw .notStyle
      | _ => throw .notStyle
    | _ => throw .notStyle
  | _ => throw .notStyle

/-- The style attributes in their fixed order. -/
def attributeNames : List String :=
  ["bold", "dim", "italic", "underline", "blink", "blink2", "reverse", "conceal", "strike",
    "underline2", "frame", "encircle", "overline"]

/-- The attribute a word names, in full or short. -/
def attributeOf? (word : String) : Option String :=
  if attributeNames.contains word then some word
  else
    [("d", "dim"), ("b", "bold"), ("i", "italic"), ("u", "underline"), ("r", "reverse"),
      ("c", "conceal"), ("s", "strike"), ("uu", "underline2"), ("o", "overline")].lookup word

/-- A style read from its definition. -/
structure Style where
  /-- Attributes set on (`true`) or off (`false`); a later setting of one replaces it. -/
  attributes : List (String × Bool) := []
  color : Option String := none
  background : Option String := none
  link : Option String := none

/-- The style with attribute `a` set to `on`. -/
def Style.set (s : Style) (a : String) (on : Bool) : Style :=
  { s with attributes := (a, on) :: s.attributes.filter (·.1 != a) }

/-- The words of a definition: its runs of characters other than white space. -/
def styleWords (s : String) : List String :=
  ((s.toList.splitBy fun a b => Text.isSpace a == Text.isSpace b).filter
    fun run => !run.all Text.isSpace).map String.ofList

/-- The style named by the words, read into `s`. -/
def readWords (s : Style) : List String → Except StyleFault Style
  | [] => .ok s
  | w :: rest =>
    let word := Text.lower w
    if word == "on" then
      match rest with
      | next :: more => do
        let _ ← colorName next
        readWords { s with background := some next } more
      | [] => .error .notStyle
    else if word == "not" then
      match rest with
      | next :: more =>
        match attributeOf? next with
        | some a => readWords (s.set a false) more
        | none => .error .notStyle
      | [] => .error .notStyle
    else if word == "link" then
      match rest with
      | next :: more => readWords { s with link := some next } more
      | [] => .error .notStyle
    else
      match attributeOf? word with
      | some a => readWords (s.set a true) rest
      | none => do
        let _ ← colorName word
        readWords { s with color := some word } rest
termination_by ws => ws.length

/-- The style a definition names. -/
def Style.read (definition : String) : Except StyleFault Style :=
  if String.ofList (Text.trimSpace definition.toList) == "none" || definition.isEmpty then
    .ok {}
  else readWords {} (styleWords definition)

/-- The normal form of a style. -/
def Style.text (s : Style) : Except StyleFault String := do
  let flags := attributeNames.filterMap fun a =>
    (s.attributes.lookup a).map fun on => if on then a else "not " ++ a
  let color ← match s.color with
    | some c => (fun n => [n]) <$> colorName c
    | none => pure []
  let background ← match s.background with
    | some c => (fun n => ["on", n]) <$> colorName c
    | none => pure []
  let link := match s.link with
    | some l => if l.isEmpty then [] else ["link", l]
    | none => []
  let words := flags ++ color ++ background ++ link
  return if words.isEmpty then "none" else " ".intercalate words

/-- The name by which a tag is matched: the normal form of its style, or for a definition that
does not read, the definition trimmed and in lower case. A colour component that is not a
number stops the matching. -/
def normalStyle (definition : String) : Except StyleFault String :=
  match Style.read definition >>= Style.text with
  | .ok t => .ok t
  | .error .notStyle => .ok (Text.lower (String.ofList (Text.trimSpace definition.toList)))
  | .error .badComponent => .error .badComponent

end Quill.Console
