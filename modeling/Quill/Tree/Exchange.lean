import Quill.Tree.Loaded
import Quill.Data.Json
import Quill.Data.Yaml.Write
import Quill.Data.Yaml.Read

set_option autoImplicit false

/-! Trees through data texts: a program written as JSON or YAML, and a tree read back from such
a text. The data form is written and read by calls at a given depth of the call stack. -/
namespace Quill

/-- Whether the encoder called at depth `depth` stays below the limit of the call stack while
writing `d`: on one line the encoder's own call stands three levels up and each list and record
takes one more; with an indentation width its generators start two levels up. -/
def Json.encoderFits (depth : Nat) (width : Option Int) (d : Data) : Bool :=
  match width with
  | none => Json.lineReach d + 3 + depth ≤ Parse.stackLimit
  | some _ => max 1 (Json.indentReach d) + 2 + depth ≤ Parse.stackLimit

/-- The JSON text of data written by an encoder called at depth `depth`, with the given
indentation width or on one line, or the recursion error of an encoder that does not fit: the
one-line encoder names itself, the indenting one fails in a builtin call. -/
def Data.toJsonAt (depth : Nat) (width : Option Int) (d : Data) : Except Overflow String :=
  if Json.encoderFits depth width d then .ok (d.toJson width)
  else .error (if width.isNone then .encoding else .objectCall)

/-- The JSON text of a tree's data form, written at depth `depth`, with the given indentation
width or on one line. -/
def Node.toJsonText (depth : Nat) (width : Option Int) (n : Node) : Except Overflow String :=
  n.dictAt depth >>= Data.toJsonAt depth width

/-- The JSON text of a program's data form. -/
def Program.toJsonText (depth : Nat) (width : Option Int) (p : Program) : Except Overflow String :=
  p.toNode.toJsonText depth width

/-- The YAML text of a program's data form, written at depth `depth`. -/
def Program.toYamlText (depth : Nat) (p : Program) : Except Overflow String :=
  Data.toYaml <$> p.toNode.dictAt depth

/-- Why a JSON text gives no tree. -/
inductive ReadTreeError where
  | json (e : Json.ReadError)
  | load (e : LoadError)

/-- The tree written in a JSON text, read at depth `depth`. -/
def Node.ofJsonText (depth : Nat) (text : String) : Except ReadTreeError Node := do
  let d ← (Data.ofJson text).mapError .json
  (Node.ofDataAt depth d).mapError .load

/-- A program written as YAML and read back at depth `depth`: the tree read, and whether it equals
the program, positions included; `none` when the text does not read back as data. -/
def Program.yamlRoundTrip (depth : Nat) (p : Program) :
    Except LoadError (Option (Node × Bool)) := do
  match Data.ofYaml (← (p.toYamlText depth).mapError .tooDeep) with
  | some d =>
    let n ← Node.ofDataAt depth d
    return some (n, Data.same n.toData p.toData)
  | none => return none

end Quill
