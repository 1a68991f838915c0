import Quill.Text.Space
import Quill.Text.Word
import Quill.Text.Lower
import Quill.Console.Emoji
import Quill.Console.Fit
import Quill.Console.Style
import Quill.Console.Literal

set_option autoImplicit false

/-! Console markup: text with style tags in square brackets. A tag is a `[`, a lower-case ASCII
letter or one of `# / @`, then characters other than `[` up to the first `]`. Tags are removed
from the text shown; a tag whose name starts with `/` closes the latest open tag of that name
(or, with no name, the latest open tag), and closing a tag that is not open is an error. An odd
number of backslashes before a tag makes the tag plain text, and each pair of them stands for
one backslash; elsewhere a backslash before `[` is dropped. In the text between tags, a code
`:name:` (no white space in the name, which may end in `-emoji` or `-text`) shows the emoji of
that name, if there is one. The bell, backspace, vertical tab, form feed and carriage return are
never shown.

Tags are matched by the normal form of the style they name (see `normalStyle`). A tag whose name
starts with `@` names an action; when it closes, the parameters after its `=` must name a handler
(letters, digits, underscores and dots) followed by nothing or by arguments in parentheses on one
line, in which case the arguments must be a literal, or else be a literal as a whole. -/
namespace Quill.Console

/-- Why markup cannot be shown. -/
inductive MarkupError where
  /-- A closing tag names no open tag; `offset` is where it starts. -/
  | unmatched (tag : String) (offset : Nat)
  /-- A closing tag without a name when no tag is open. -/
  | nothingOpen (offset : Nat)
  /-- An action tag closing at `offset` whose parameters are no literal. -/
  | badAction (parameters : String) (offset : Nat)
  /-- A tag naming an `rgb` colour with a component that is not a number. -/
  | badComponent (tag : String)
deriving DecidableEq, Repr

/-- The text of a markup error. -/
def MarkupError.message : MarkupError → String
  | .unmatched tag n =>
    "closing tag '" ++ tag ++ "' at position " ++ toString n ++ " doesn't match any open tag"
  | .nothingOpen n => "closing tag '[/]' at position " ++ toString n ++ " has nothing to close"
  | .badAction p n => "error parsing '" ++ p ++ "' at position " ++ toString n
  | .badComponent tag => "colour component that is not a number in '" ++ tag ++ "'"

/-- The kind of fault a markup error is: a colour component that is not a number is a fault of
value, every other one a fault of markup. -/
def MarkupError.kind : MarkupError → String
  | .badComponent _ => "ValueError"
  | _ => "MarkupError"

namespace Markup

/-- Characters that can follow the `[` of a tag. -/
def opensTag (c : Char) : Bool := ('a' ≤ c && c ≤ 'z') || c == '#' || c == '/' || c == '@'

/-- A tag at the head of the input after a run of backslashes: the number of backslashes and
the text between the brackets. The tag then takes that many backslashes, the text and its two
brackets. -/
def tagAt (cs : List Char) : Option (Nat × List Char) :=
  let slashes := cs.takeWhile (· == '\\')
  match cs.dropWhile (· == '\\') with
  | '[' :: c :: rest =>
    if opensTag c then
      let body := rest.takeWhile (fun d => d != '[' && d != ']')
      match rest.dropWhile (fun d => d != '[' && d != ']') with
      | ']' :: _ => some (slashes.length, c :: body)
      | _ => none
    else none
  | _ => none

/-- One part of parsed markup. -/
inductive Part where
  /-- Text to show. -/
  | plain (cs : List Char)
  /-- A tag with the text between its brackets and where it starts. -/
  | tag (body : List Char) (offset : Nat)
deriving DecidableEq, Repr

/-- The parts of markup from offset `pos`, with the plain characters met since the last part in
`acc`, latest first. -/
def parts (pos : Nat) (acc : List Char) (cs : List Char) : List Part :=
  let flush := if acc.isEmpty then [] else [Part.plain acc.reverse]
  match cs with
  | [] => flush
  | c :: rest =>
    match (if c == '\\' || c == '[' then tagAt (c :: rest) else none) with
    | some (slashes, body) =>
      let kept := slashes / 2
      let literal := if kept = 0 then [] else [Part.plain (List.replicate kept '\\')]
      let shown :=
        if slashes % 2 = 1 then [Part.plain ('[' :: body ++ [']'])]
        else [Part.tag body (pos + 2 * kept)]
      let taken := slashes + body.length + 2
      flush ++ literal ++ shown ++ parts (pos + taken) [] ((c :: rest).drop taken)
    | none => parts (pos + 1) (c :: acc) rest
termination_by cs.length
decreasing_by all_goals simp only [List.length_drop, List.length_cons]; omega

/-- A plain part as shown: a backslash before `[` is dropped. -/
def unescapeBrackets : List Char → List Char
  | '\\' :: '[' :: rest => '[' :: unescapeBrackets rest
  | c :: rest => c :: unescapeBrackets rest
  | [] => []

/-- The code after a `:`: its name, its variant if it names one, and how many characters it
takes up to and including the closing `:`; nothing when white space or the end comes first. -/
def emojiCode (name : List Char) : List Char → Option (List Char × Option String × Nat)
  | [] => none
  | c :: rest =>
    let cs := c :: rest
    let taken := name.length
    if cs.take 7 = "-emoji:".toList then some (name.reverse, some "emoji", taken + 7)
    else if cs.take 6 = "-text:".toList then some (name.reverse, some "text", taken + 6)
    else if c = ':' then some (name.reverse, none, taken + 1)
    else if Text.isSpace c then none
    else emojiCode (c :: name) rest

/-- The mark that asks for the text or the emoji form of an emoji. -/
def variantMark : Option String → List Char
  | some "emoji" => ['\uFE0F']
  | some "text" => ['\uFE0E']
  | _ => []

/-- Text with every emoji code that names an emoji replaced by it, left to right. -/
def replaceEmoji : List Char → List Char
  | [] => []
  | c :: rest =>
    if c = ':' then
      match emojiCode [] rest with
      | some (name, variant, used) =>
        let shown := match emoji? (Text.lower (String.ofList name)) with
          | some e => e.toList ++ variantMark variant
          | none => ':' :: rest.take used
        shown ++ replaceEmoji (rest.drop used)
      | none => ':' :: replaceEmoji rest
    else c :: replaceEmoji rest
termination_by cs => cs.length
decreasing_by all_goals simp only [List.length_drop, List.length_cons]; omega

/-- A tag that is open: the name it is matched by, and its parameters if it has an `=`. -/
structure OpenTag where
  /-- The normal form of the tag's name. -/
  name : String
  /-- The text after the first `=`, if there is one. -/
  parameters : Option String
deriving DecidableEq, Repr

/-- The name under which a tag is matched with its closing tag. -/
def tagKey (name : List Char) : Except MarkupError String :=
  match normalStyle (String.ofList name) with
  | .ok key => .ok key
  | .error _ => .error (.badComponent (String.ofList name))

/-- The latest open tag of a name, and the others. -/
def takeLatest (key : String) : List OpenTag → Option (OpenTag × List OpenTag)
  | [] => none
  | t :: ts =>
    if t.name == key then some (t, ts) else (takeLatest key ts).map fun (u, us) => (u, t :: us)

/-- The text that must be a literal for the parameters of an action tag: the arguments after a
handler name, `()` for a handler name alone, or else all of the parameters. -/
def actionArguments (parameters : String) : List Char :=
  let ps := Text.trimSpace parameters.toList
  let handler := ps.takeWhile fun c => Text.isWordChar c || c == '.'
  let rest := ps.drop handler.length
  if rest.isEmpty then "()".toList
  else if rest.head? == some '(' && rest.getLast? == some ')' && !rest.contains '\n' then rest
  else ps

/-- Checks a tag as it closes at `offset`: the parameters of an action must be a literal. -/
def closeTag (t : OpenTag) (offset : Nat) : Except MarkupError Unit :=
  match t.parameters with
  | some p =>
    if t.name.startsWith "@" && !p.isEmpty && !Literal.accepts (actionArguments p) then
      .error (.badAction p offset)
    else .ok ()
  | none => .ok ()

/-- Shows parts with the given open tags, latest first. -/
def showParts (open? : List OpenTag) : List Part → Except MarkupError (List Char)
  | [] => .ok []
  | .plain cs :: rest => (replaceEmoji (unescapeBrackets cs) ++ ·) <$> showParts open? rest
  | .tag body n :: rest =>
    let name := body.takeWhile (· != '=')
    let parameters :=
      if name.length < body.length then some (String.ofList (body.drop (name.length + 1)))
      else none
    match name with
    | '/' :: closed =>
      let closed := Text.trimSpace closed
      if closed.isEmpty then
        match open? with
        | t :: others => do closeTag t n; showParts others rest
        | [] => .error (.nothingOpen n)
      else do
        let key ← tagKey closed
        match takeLatest key open? with
        | some (t, others) => do closeTag t n; showParts others rest
        | none => .error (.unmatched ("[" ++ String.ofList body ++ "]") n)
    | _ => do
      let key ← tagKey name
      showParts (⟨key, parameters⟩ :: open?) rest

end Markup

/-- The text that markup shows, or why it cannot be shown. -/
def Markup.render (markup : String) : Except MarkupError String :=
  (fun cs => String.ofList (cs.filter fun c => !neverShown c)) <$>
    Markup.showParts [] (Markup.parts 0 [] markup.toList)

/-- The characters of markup that shows `cs` as they are: every tag gets an escaping backslash
after its own backslashes are doubled. -/
def Markup.escapeTags : List Char → List Char
  | [] => []
  | c :: rest =>
    match (if c == '\\' || c == '[' then Markup.tagAt (c :: rest) else none) with
    | some (slashes, body) =>
      let taken := slashes + body.length + 2
      List.replicate (2 * slashes) '\\' ++ '\\' :: '[' :: body ++ [']'] ++
        Markup.escapeTags ((c :: rest).drop taken)
    | none => c :: Markup.escapeTags rest
termination_by cs => cs.length
decreasing_by all_goals simp only [List.length_drop, List.length_cons]; omega

/-- Markup that shows `s` as it is: tags escaped, and a single trailing backslash doubled. -/
def Markup.escape (s : String) : String :=
  let out := Markup.escapeTags s.toList
  if out.getLast? == some '\\' && !(out.dropLast.getLast? == some '\\') then
    String.ofList (out ++ ['\\'])
  else String.ofList out

end Quill.Console
