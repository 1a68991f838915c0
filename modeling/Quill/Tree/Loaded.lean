import Quill.Tree.Codec
import Quill.Tree.FormatStack
import Quill.Tree.Parse

set_option autoImplicit false

/-! Trees read back from their data form, and written to it. Reading checks only what it needs:
each node's kind and position, then the fields of its kind, in a fixed order, so the first
missing or malformed field decides the error. Values are kept as given: positions, names and
literal values may be any data, and a node of any kind may stand anywhere. Reading and writing
each recurse once per level of nesting, twice through a list, and stop as runaway recursion
does when their calls would nest past the limit of the call stack. -/
namespace Quill

/-- A position as given: three values of any kind. -/
structure Place where
  line : Data
  col : Data
  offset : Data
deriving Inhabited

/-- A tree read back from data. -/
inductive Node where
  | block (body : List Node) (place : Place)
  | assign (target value : Node) (place : Place)
  | exprStmt (e : Node) (place : Place)
  | literal (value raw : Data) (place : Place)
  | var (name : Data) (place : Place)
  | identifier (name : Data) (place : Place)
  | member (object property : Node) (computed : Bool) (place : Place)
  | call (callee : Node) (args : List Node) (place : Place)
  | array (items : List Node) (place : Place)
  | map (entries : List (Node × Node)) (place : Place)
  | binary (op : BinaryOp) (lhs rhs : Node) (place : Place)
  | unary (op : UnaryOp) (arg : Node) (place : Place)
  | update (op : UpdateOp) (arg : Node) (before : Bool) (place : Place)
deriving Inhabited

/-- Why data does not read as a tree. -/
inductive LoadError where
  /-- A field, or an operator name, that is not there. -/
  | missingKey (key : Data)
  /-- A kind that no node has. -/
  | unknownKind (kind : Data)
  /-- A field asked of a value that has no fields. -/
  | notRecord (d : Data)
  /-- Items asked of a value that has none. -/
  | notIterable (d : Data)
  /-- An operator name that is a list or record. -/
  | unhashable (d : Data)
  /-- Nesting deeper than the call stack allows. -/
  | tooDeep (o : Overflow)

/-- The message of a load error. -/
def LoadError.message : LoadError → String
  | .missingKey k => k.display
  | .unknownKind k => "Unknown node kind: " ++ k.display
  | .notRecord (.list _) => "list indices must be integers or slices, not str"
  | .notRecord (.text _) => "string indices must be integers, not " ++ Text.quoted "str"
  | .notRecord d => Text.quoted d.typeName ++ " object is not subscriptable"
  | .notIterable d => Text.quoted d.typeName ++ " object is not iterable"
  | .unhashable d => "unhashable type: " ++ Text.quoted d.typeName
  | .tooDeep o => o.message

namespace Load

/-- Field `k` of `d`. -/
def field (d : Data) (k : String) : Except LoadError Data :=
  match d with
  | .record fields =>
    match fields.find? (·.1 == k) with
    | some (_, v) => .ok v
    | none => .error (.missingKey (.text k))
  | d => .error (.notRecord d)

/-- Field `k` of the record `d`, or the empty list when it is not there. -/
def fieldOrEmpty (d : Data) (k : String) : Data :=
  (d.get? k).getD (.list [])

/-- The items of a value taken as a sequence: a list's items, a record's names, a text's
characters. -/
def items (d : Data) : Except LoadError (List Data) :=
  match d with
  | .list xs => .ok xs
  | .record fields => .ok (fields.map fun f => .text f.1)
  | .text s => .ok (s.toList.map fun c => .text c.toString)
  | d => .error (.notIterable d)

/-- The place written by a position record, read by a call `room` levels below the limit of the
call stack: that call reads the record's fields one level up, and builds the position with a
constructor whose own calls reach three levels up. -/
def placeIn (room : Nat) (p : Data) : Except LoadError Place := do
  if room = 0 then throw (.tooDeep .direct)
  let line ← field p "line"
  let col ← field p "col"
  let offset ← field p "offset"
  match room with
  | 1 | 3 => throw (.tooDeep .objectCall)
  | 2 => throw (.tooDeep .direct)
  | _ => return ⟨line, col, offset⟩

/-- An operator looked up by its name. -/
def operator {α : Type} (lookup : String → Option α) (d : Data) : Except LoadError α := do
  let name ← field d "operator"
  match name with
  | .list _ | .record _ => throw (.unhashable name)
  | .text s => match lookup s with
    | some op => pure op
    | none => throw (.missingKey name)
  | other => throw (.missingKey other)

mutual

/-- The node written by `d`, read by a call `room` levels below the limit of the call stack: a
field's node is read one level up, and each node of a list two levels up, from the list's own
loop. -/
def node (room : Nat) (d : Data) : Except LoadError Node := do
  let kind ← field d "kind"
  let at_ ← placeIn room (← field d "position")
  match room with
  | r + 2 =>
    match kind with
    | .text "Block" => return .block (← nodes r (← items (fieldOrEmpty d "body"))) at_
    | .text "Assign" =>
      let target ← node (r + 1) (← field d "target")
      let value ← node (r + 1) (← field d "value")
      return .assign target value at_
    | .text "ExpressionStatement" =>
      return .exprStmt (← node (r + 1) (← field d "expression")) at_
    | .text "Literal" =>
      let value ← field d "value"
      let raw ← field d "raw"
      return .literal value raw at_
    | .text "Variable" => return .var (← field d "name") at_
    | .text "Identifier" => return .identifier (← field d "name") at_
    | .text "Member" =>
      let obj ← node (r + 1) (← field d "object")
      let prop ← node (r + 1) (← field d "property")
      let computed ← field d "computed"
      return .member obj prop computed.truthy at_
    | .text "Call" =>
      let callee ← node (r + 1) (← field d "callee")
      let args ← nodes r (← items (fieldOrEmpty d "arguments"))
      return .call callee args at_
    | .text "Array" => return .array (← nodes r (← items (fieldOrEmpty d "elements"))) at_
    | .text "Map" => return .map (← entries r (← items (fieldOrEmpty d "entries"))) at_
    | .text "Binary" =>
      let op ← operator BinaryOp.ofName? d
      let lhs ← node (r + 1) (← field d "left")
      let rhs ← node (r + 1) (← field d "right")
      return .binary op lhs rhs at_
    | .text "Unary" =>
      let op ← operator UnaryOp.ofName? d
      let arg ← node (r + 1) (← field d "argument")
      return .unary op arg at_
    | .text "Update" =>
      let op ← operator UpdateOp.ofName? d
      let arg ← node (r + 1) (← field d "argument")
      let before ← field d "prefix"
      return .update op arg before.truthy at_
    | other => throw (.unknownKind other)
  | _ => throw (.tooDeep .direct)
termination_by (room, 0)

/-- The nodes written by a list of values, in order, each read `room` levels below the limit. -/
def nodes (room : Nat) : List Data → Except LoadError (List Node)
  | [] => .ok []
  | d :: rest => do
    let x ← node room d
    let xs ← nodes room rest
    return x :: xs
termination_by ds => (room, ds.length + 1)

/-- The entries of a map: each a record of a key node and a value node. -/
def entries (room : Nat) : List Data → Except LoadError (List (Node × Node))
  | [] => .ok []
  | d :: rest => do
    let k ← node room (← field d "key")
    let v ← node room (← field d "value")
    let xs ← entries room rest
    return (k, v) :: xs
termination_by ds => (room, ds.length + 1)

end

end Load

/-- The tree written by `d`, read by a call at depth `depth`. -/
def Node.ofDataAt (depth : Nat) (d : Data) : Except LoadError Node :=
  Load.node (Parse.stackLimit - depth) d

namespace Node

/-- The kind name of a node. -/
def kindName : Node → String
  | block .. => "Block" | assign .. => "Assign" | exprStmt .. => "ExpressionStatement"
  | literal .. => "Literal" | var .. => "Variable" | identifier .. => "Identifier"
  | member .. => "Member" | call .. => "Call" | array .. => "Array" | map .. => "Map"
  | binary .. => "Binary" | unary .. => "Unary" | update .. => "Update"

/-- The place of a node. -/
def place : Node → Place
  | block _ p | assign _ _ p | exprStmt _ p | literal _ _ p | var _ p | identifier _ p
  | member _ _ _ p | call _ _ p | array _ p | map _ p | binary _ _ _ p | unary _ _ p
  | update _ _ _ p => p

end Node

/-- The display of a place: its line and column, each shown plainly. -/
def Place.display (p : Place) : String := "Position(" ++ p.line.plain ++ ":" ++ p.col.plain ++ ")"

/-- The display of a node of kind `kind` from its fields' displays, its place last. -/
def placedDisplay (kind : String) (fields : List (String × String)) (p : Place) : String :=
  kind ++ "(" ++ ", ".intercalate ((fields ++ [("position", p.display)]).map fun f =>
    f.1 ++ "=" ++ f.2) ++ ")"

/-- The display of a tuple from its items' displays; a single item keeps a trailing comma. -/
def tupleDisplay : List String → String
  | [s] => "(" ++ s ++ ",)"
  | ss => "(" ++ ", ".intercalate ss ++ ")"

/-- The display of an operator, as its enumeration `family` shows its members. -/
def operatorDisplay (family name symbol : String) : String :=
  "<" ++ family ++ "." ++ name ++ ": " ++ Text.quoted symbol ++ ">"

/-- The display of a flag. -/
def flagDisplay (b : Bool) : String := if b then "True" else "False"

mutual

/-- The display of a loaded tree, which is also its plain text: each node shows its kind and
its fields in order, a list of nodes shows as a tuple, and map entries as pairs. -/
def Node.display : Node → String
  | .block body p => placedDisplay "Block" [("body", tupleDisplay (Node.listDisplay body))] p
  | .assign t v p => placedDisplay "Assign" [("target", t.display), ("value", v.display)] p
  | .exprStmt e p => placedDisplay "ExpressionStatement" [("expression", e.display)] p
  | .literal v raw p => placedDisplay "Literal" [("value", v.display), ("raw", raw.display)] p
  | .var name p => placedDisplay "Variable" [("name", name.display)] p
  | .identifier name p => placedDisplay "Identifier" [("name", name.display)] p
  | .member o prop c p => placedDisplay "Member"
    [("object", o.display), ("property", prop.display), ("computed", flagDisplay c)] p
  | .call callee args p => placedDisplay "Call"
    [("callee", callee.display), ("arguments", tupleDisplay (Node.listDisplay args))] p
  | .array items p => placedDisplay "Array" [("elements", tupleDisplay (Node.listDisplay items))] p
  | .map entries p =>
    placedDisplay "Map" [("entries", tupleDisplay (Node.entriesDisplay entries))] p
  | .binary op l r p => placedDisplay "Binary"
    [("operator", operatorDisplay "BinOp" op.name op.symbol), ("left", l.display),
      ("right", r.display)] p
  | .unary op a p => placedDisplay "Unary"
    [("operator", operatorDisplay "UnaryOp" op.name op.symbol), ("argument", a.display)] p
  | .update op a b p => placedDisplay "Update"
    [("operator", operatorDisplay "UpdateOp" op.name op.symbol), ("argument", a.display),
      ("prefix", flagDisplay b)] p

/-- The displays of a list of nodes. -/
def Node.listDisplay : List Node → List String
  | [] => []
  | n :: rest => n.display :: Node.listDisplay rest

/-- The displays of map entries, each a pair of key and value. -/
def Node.entriesDisplay : List (Node × Node) → List String
  | [] => []
  | (k, v) :: rest => tupleDisplay [k.display, v.display] :: Node.entriesDisplay rest

end

/-- A place as a position record. -/
def Place.toData (p : Place) : Data :=
  .record [("line", p.line), ("col", p.col), ("offset", p.offset)]

/-- A loaded node of kind `kind` with the given fields. -/
def placedData (kind : String) (fields : List (String × Data)) (p : Place) : Data :=
  .record ((("kind", .text kind) :: fields) ++ [("position", p.toData)])

mutual

/-- The data form of a loaded tree. -/
def Node.toData : Node → Data
  | .block body p => placedData "Block" [("body", .list (Node.listData body))] p
  | .assign t v p => placedData "Assign" [("target", t.toData), ("value", v.toData)] p
  | .exprStmt e p => placedData "ExpressionStatement" [("expression", e.toData)] p
  | .literal v raw p => placedData "Literal" [("value", v), ("raw", raw)] p
  | .var name p => placedData "Variable" [("name", name)] p
  | .identifier name p => placedData "Identifier" [("name", name)] p
  | .member o prop c p =>
    placedData "Member" [("object", o.toData), ("property", prop.toData), ("computed", .bool c)] p
  | .call callee args p =>
    placedData "Call" [("callee", callee.toData), ("arguments", .list (Node.listData args))] p
  | .array items p => placedData "Array" [("elements", .list (Node.listData items))] p
  | .map entries p => placedData "Map" [("entries", .list (Node.entriesData entries))] p
  | .binary op l r p =>
    placedData "Binary" [("operator", .text op.name), ("left", l.toData), ("right", r.toData)] p
  | .unary op a p => placedData "Unary" [("operator", .text op.name), ("argument", a.toData)] p
  | .update op a b p =>
    placedData "Update" [("operator", .text op.name), ("argument", a.toData), ("prefix", .bool b)] p

/-- The data forms of a list of loaded nodes. -/
def Node.listData : List Node → List Data
  | [] => []
  | n :: rest => n.toData :: Node.listData rest

/-- The data forms of loaded map entries. -/
def Node.entriesData : List (Node × Node) → List Data
  | [] => []
  | (k, v) :: rest => .record [("key", k.toData), ("value", v.toData)] :: Node.entriesData rest

end

mutual

/-- The data form of a loaded tree as the serializer writes it, from a call `room` levels below
the limit of the call stack: a node tests its kind one level up and an operator gives its name
two levels up; a field's node is written one level up, and each node of a list two levels up,
from the list's own loop. -/
def Node.dictIn : Nat → Node → Except Overflow Data
  | 0, _ => .error .objectCall
  | r + 1, .block body p => do
    return placedData "Block" [("body", .list (← Node.listDictIn r body))] p
  | r + 1, .assign t v p => do
    let target ← t.dictIn r
    let value ← v.dictIn r
    return placedData "Assign" [("target", target), ("value", value)] p
  | r + 1, .exprStmt e p => do
    return placedData "ExpressionStatement" [("expression", ← e.dictIn r)] p
  | _ + 1, .literal v raw p => .ok (placedData "Literal" [("value", v), ("raw", raw)] p)
  | _ + 1, .var name p => .ok (placedData "Variable" [("name", name)] p)
  | _ + 1, .identifier name p => .ok (placedData "Identifier" [("name", name)] p)
  | r + 1, .member o prop c p => do
    let object ← o.dictIn r
    let property ← prop.dictIn r
    return placedData "Member" [("object", object), ("property", property), ("computed", .bool c)] p
  | r + 1, .call callee args p => do
    let head ← callee.dictIn r
    let rest ← Node.listDictIn r args
    return placedData "Call" [("callee", head), ("arguments", .list rest)] p
  | r + 1, .array items p => do
    return placedData "Array" [("elements", .list (← Node.listDictIn r items))] p
  | r + 1, .map entries p => do
    return placedData "Map" [("entries", .list (← Node.entriesDictIn r entries))] p
  | 1, .binary .. | 1, .unary .. | 1, .update .. => .error .direct
  | r + 2, .binary op l rhs p => do
    let left ← l.dictIn (r + 1)
    let right ← rhs.dictIn (r + 1)
    return placedData "Binary" [("operator", .text op.name), ("left", left), ("right", right)] p
  | r + 2, .unary op a p => do
    return placedData "Unary" [("operator", .text op.name), ("argument", ← a.dictIn (r + 1))] p
  | r + 2, .update op a b p => do
    let arg ← a.dictIn (r + 1)
    return placedData "Update"
      [("operator", .text op.name), ("argument", arg), ("prefix", .bool b)] p

/-- The data forms of a list of loaded nodes, from the list's loop `room` levels below the
limit. -/
def Node.listDictIn : Nat → List Node → Except Overflow (List Data)
  | _, [] => .ok []
  | 0, _ :: _ => .error .direct
  | q + 1, n :: rest => do
    let x ← n.dictIn q
    let xs ← Node.listDictIn (q + 1) rest
    return x :: xs

/-- The data forms of loaded map entries, from the list's loop `room` levels below the limit. -/
def Node.entriesDictIn : Nat → List (Node × Node) → Except Overflow (List Data)
  | _, [] => .ok []
  | 0, _ :: _ => .error .direct
  | q + 1, (k, v) :: rest => do
    let key ← k.dictIn q
    let value ← v.dictIn q
    let xs ← Node.entriesDictIn (q + 1) rest
    return .record [("key", key), ("value", value)] :: xs

end

/-- The data form of a loaded tree, written by a call at depth `depth`. -/
def Node.dictAt (depth : Nat) (n : Node) : Except Overflow Data :=
  n.dictIn (Parse.stackLimit - depth)

/-- A position as a loaded tree keeps it: three integers. -/
def Position.toPlace (p : Position) : Place := ⟨.int p.line, .int p.col, .int p.offset⟩

mutual

/-- The loaded tree of an expression: a member by name holds its name as an identifier node and
a map key is a literal whose value and raw text are the key text. -/
def Expr.toNode : Expr → Node
  | .literal v raw p => .literal v (.text raw) p.toPlace
  | .var name p => .var (.text name) p.toPlace
  | .field obj name namePos p =>
    .member obj.toNode (.identifier (.text name) namePos.toPlace) false p.toPlace
  | .index obj key p => .member obj.toNode key.toNode true p.toPlace
  | .call callee args p => .call callee.toNode (Expr.listNode args) p.toPlace
  | .array items p => .array (Expr.listNode items) p.toPlace
  | .map entries p => .map (Expr.entriesNode entries) p.toPlace
  | .binary op l r p => .binary op l.toNode r.toNode p.toPlace
  | .unary op a p => .unary op a.toNode p.toPlace
  | .update op a b p => .update op a.toNode b p.toPlace

/-- The loaded trees of a list of expressions. -/
def Expr.listNode : List Expr → List Node
  | [] => []
  | e :: rest => e.toNode :: Expr.listNode rest

/-- The loaded trees of map entries. -/
def Expr.entriesNode : List (MapKey × Expr) → List (Node × Node)
  | [] => []
  | (k, v) :: rest =>
    (.literal (.text k.text) (.text k.text) k.pos.toPlace, v.toNode) :: Expr.entriesNode rest

end

mutual

/-- The loaded tree of a statement: an assignment's target is an identifier at the assignment's
own position. -/
def Stmt.toNode : Stmt → Node
  | .assign name value p => .assign (.identifier (.text name) p.toPlace) value.toNode p.toPlace
  | .expr e p => .exprStmt e.toNode p.toPlace
  | .block body p => .block (Stmt.listNode body) p.toPlace

/-- The loaded trees of a list of statements. -/
def Stmt.listNode : List Stmt → List Node
  | [] => []
  | s :: rest => s.toNode :: Stmt.listNode rest

end

/-- The loaded tree of a program: a block of its statements. -/
def Program.toNode (prog : Program) : Node := .block (Stmt.listNode prog.body) prog.pos.toPlace

/-- Why a loaded tree cannot be formatted. -/
inductive ShapeError where
  /-- A node that is no statement where a statement must stand. -/
  | notStatement (kind : String)
  /-- A node that is no expression where an expression must stand. -/
  | notExpression (kind : String)
  /-- A node, or a formatted value, without a part the formatter reads. -/
  | missing (m : MissingPart)
  /-- A number literal whose written text is not text. -/
  | rawNotText (raw : Data)
  /-- Item `index` of a comma-separated list formatted to a value that is not text. -/
  | notTextItem (index : Nat) (found : Data)

/-- The message of a shape error. -/
def ShapeError.message : ShapeError → String
  | .notStatement k =>
    "Unknown statement type: <class " ++ Text.quoted ("quill.ast.nodes." ++ k) ++ ">"
  | .notExpression k =>
    "Unknown expression type: <class " ++ Text.quoted ("quill.ast.nodes." ++ k) ++ ">"
  | .missing m => m.message
  | .rawNotText d => "expected string or bytes-like object, got " ++ Text.quoted d.typeName
  | .notTextItem i d =>
    "sequence item " ++ toString i ++ ": expected str instance, " ++ d.typeName ++ " found"

/-- The name held by a node that has one. -/
def Node.name? : Node → Option Data
  | .var name _ | .identifier name _ => some name
  | _ => none

namespace Node

/-- Whether calls, accesses and postfix updates apply to the node without parentheses. -/
def standsAlone : Node → Bool
  | literal .. | var .. | member .. | call .. | array .. | map .. => true
  | update _ _ before _ => !before
  | _ => false

/-- The binding strength of a node when it is a binary operation. -/
def binaryPrecedence? : Node → Option Nat
  | binary op _ _ _ => some op.precedence
  | _ => none

end Node

/-- The texts of formatted items joined by `, `; every item must be text. -/
def joinTexts (items : List Data) : Except ShapeError String :=
  let rec go (i : Nat) : List Data → Except ShapeError (List String)
    | [] => .ok []
    | .text s :: rest => (s :: ·) <$> go (i + 1) rest
    | d :: _ => .error (.notTextItem i d)
  (", ".intercalate ·) <$> go 0 items

/-- The text of a literal node: that of its value, with the written text of a plain number,
which must then be text. -/
def loadedLiteralText (value raw : Data) : Except ShapeError String :=
  match value, raw with
  | .null, _ | .bool _, _ | .text _, _ => .ok (literalText value "")
  | _, .text r => .ok (literalText value r)
  | _, r => .error (.rawNotText r)

mutual

/-- The formatted value of a loaded expression: its text, except that a variable gives its
name as it is, whatever value that is. Where a formatted value meets text it is shown
plainly, a list joins only texts, and a sign looks at its operand's text. -/
def Node.formatValue : Node → Except ShapeError Data
  | .literal v raw _ => .text <$> loadedLiteralText v raw
  | .var name _ => .ok name
  | .member o prop computed _ => do
    let obj := operandText o.standsAlone (← o.formatValue).plain
    if computed then
      let key ← prop.formatValue
      return .text (obj ++ "[" ++ key.plain ++ "]")
    else
      match prop.name? with
      | some name => return .text (obj ++ "." ++ name.plain)
      | none => throw (.missing ⟨prop.kindName, "name"⟩)
  | .call callee args _ => do
    let args ← joinTexts (← Node.formatValues args)
    let c := operandText callee.standsAlone (← callee.formatValue).plain
    return .text (c ++ "(" ++ args ++ ")")
  | .array items _ => do
    let items ← joinTexts (← Node.formatValues items)
    return .text ("[" ++ items ++ "]")
  | .map entries _ => do
    let entries ← Node.formatEntries entries
    return .text ("\x7b" ++ ", ".intercalate entries ++ "\x7d")
  | .binary op l r _ => do
    let lt ← l.formatValue
    let rt ← r.formatValue
    return .text (binaryText op l.binaryPrecedence? r.binaryPrecedence? lt.plain rt.plain)
  | .unary op a _ => do
    let t ← a.formatValue
    if a.binaryPrecedence?.isSome || !op.isSign then
      return .text (unaryWith op a.binaryPrecedence?.isSome t.plain)
    else
      match t with
      | .text s => return .text (unaryText op false s)
      | other => throw (.missing ⟨other.typeName, "startswith"⟩)
  | .update op a before _ => do
    let t := (← a.formatValue).plain
    return .text (if before then op.symbol ++ t else t ++ op.symbol)
  | n => .error (.notExpression n.kindName)

/-- The formatted values of a list of loaded expressions, in order. -/
def Node.formatValues : List Node → Except ShapeError (List Data)
  | [] => .ok []
  | n :: rest => do
    let d ← n.formatValue
    let ds ← Node.formatValues rest
    return d :: ds

/-- The texts of map entries: each key must have a value, a literal's value or an assignment's,
which shown plainly gives the quoted key text. -/
def Node.formatEntries : List (Node × Node) → Except ShapeError (List String)
  | [] => .ok []
  | (k, v) :: rest => do
    let key ← match k with
      | .literal value _ _ => pure value.plain
      | .assign _ value _ => pure value.display
      | other => throw (.missing ⟨other.kindName, "value"⟩)
    let value ← v.formatValue
    let es ← Node.formatEntries rest
    return (quoteString key ++ ": " ++ value.plain) :: es

end

mutual

/-- The lines of a loaded statement at nesting depth `depth`, with indentation unit `unit`. -/
def Node.statementLines (unit : String) (depth : Nat) : Node → Except ShapeError (List String)
  | .assign t v _ => do
    let name ← match t.name? with
      | some name => pure name.plain
      | none => throw (.missing ⟨t.kindName, "name"⟩)
    let value ← v.formatValue
    return [String.join (List.replicate depth unit) ++ name ++ " = " ++ value.plain ++ ";"]
  | .exprStmt e _ => do
    let value ← e.formatValue
    return [String.join (List.replicate depth unit) ++ value.plain ++ ";"]
  | .block body _ => do
    let pad := String.join (List.replicate depth unit)
    if body.isEmpty then return [pad ++ "\x7b\x7d;"]
    else return [pad ++ "\x7b"] ++ (← Node.statementsLines unit (depth + 1) body) ++
      [pad ++ "\x7d;"]
  | n => .error (.notStatement n.kindName)

/-- The lines of a list of loaded statements at nesting depth `depth`. -/
def Node.statementsLines (unit : String) (depth : Nat) :
    List Node → Except ShapeError (List String)
  | [] => .ok []
  | n :: rest => do
    let ls ← n.statementLines unit depth
    let more ← Node.statementsLines unit depth rest
    return ls ++ more

end

/-- The formatted value of a loaded tree: a block as a program, an assignment or expression
statement as a program of that one statement, anything else as an expression. -/
def Node.format (width : Int) : Node → Except ShapeError Data
  | .block body _ => do
    return .text ("\n".intercalate (← Node.statementsLines (indentUnit width) 0 body) ++ "\n")
  | n@(.assign ..) | n@(.exprStmt ..) => do
    return .text ("\n".intercalate (← n.statementLines (indentUnit width) 0) ++ "\n")
  | n => n.formatValue

/-- Whether a map key's value is text already (`some true`), is turned into text first
(`some false`), or is missing (`none`). -/
def Node.keyIsText? : Node → Option Bool
  | .literal (.text _) _ _ => some true
  | .literal .. | .assign .. => some false
  | _ => none

/-- The first call past the limit that quoting a map key makes, `room` levels below the entry:
a key that is not text is first turned into text on the program's behalf. -/
def keyOverflow (room : Nat) (isText : Bool) : Option Overflow :=
  if room = 0 ∧ isText = false then some .strOf else if room < 3 then some .direct else none

/-- The first call past the limit of an expression the formatter has no case for: its kind is
tested against every kind, and the message of the type error it raises names the node's class. -/
def strangeOverflow (room : Nat) : Option Overflow := if room = 0 then some .strOf else none

mutual

/-- The first call past the limit that formatting a loaded expression makes, when its call has
`room` levels left; `none` when every call fits or the formatting fails for its shape before any
call is past the limit. -/
def Node.formatOverflow : Nat → Node → Option Overflow
  | 0, _ => some .direct
  | 1, _ => some .objectCall
  | r + 2, .literal v raw _ => literalOverflow r v raw
  | _ + 2, .var .. => none
  | r + 2, .member o prop computed _ =>
    o.formatOverflow r <|>
      if computed && o.formatValue.toBool then prop.formatOverflow (r + 1) else none
  | r + 2, .call callee args _ =>
    (if r = 0 then some .direct else Node.listFormatOverflow (r - 1) args) <|>
      if (Node.formatValues args >>= joinTexts).toBool then callee.formatOverflow r else none
  | r + 2, .array items _ => if r = 0 then some .direct else Node.listFormatOverflow (r - 1) items
  | r + 2, .map entries _ =>
    if r = 0 then some .direct else Node.entriesFormatOverflow (r - 1) entries
  | r + 2, .binary _ lhs rhs _ =>
    if r < 3 then some .direct
    else lhs.formatOverflow r <|> if lhs.formatValue.toBool then rhs.formatOverflow r else none
  | r + 2, .unary _ arg _ => if r = 0 then some .direct else arg.formatOverflow (r + 1)
  | r + 2, .update _ arg _ _ =>
    arg.formatOverflow (r + 1) <|>
      if arg.formatValue.toBool && r = 0 then some .direct else none
  | r + 2, _ => strangeOverflow r

/-- The first call past the limit in formatting loaded items one after another, up to the first
that fails. -/
def Node.listFormatOverflow (room : Nat) : List Node → Option Overflow
  | [] => none
  | n :: rest =>
    n.formatOverflow room <|>
      if n.formatValue.toBool then Node.listFormatOverflow room rest else none

/-- The first call past the limit in formatting loaded map entries, up to the first that fails. -/
def Node.entriesFormatOverflow (room : Nat) : List (Node × Node) → Option Overflow
  | [] => none
  | (k, v) :: rest =>
    match k.keyIsText? with
    | some isText =>
      keyOverflow room isText <|> v.formatOverflow room <|>
        if v.formatValue.toBool then Node.entriesFormatOverflow room rest else none
    | none => none

end


mutual

/-- The first call past the limit that formatting a loaded statement at nesting depth `depth`
makes, when its call has `room` levels left; `none` when every call fits or the statement fails
for its shape first. -/
def Node.statementOverflow (unit : String) (depth : Nat) : Nat → Node → Option Overflow
  | 0, _ => some .direct
  | 1, _ => some .objectCall
  | r + 2, .assign t v _ => if t.name?.isSome then v.formatOverflow (r + 1) else none
  | r + 2, .exprStmt e _ => e.formatOverflow (r + 1)
  | r + 2, .block body _ => Node.statementsOverflow unit (depth + 1) (r + 1) body
  | r + 2, _ => strangeOverflow r

/-- The first call past the limit in formatting loaded statements one after another, up to the
first that fails. -/
def Node.statementsOverflow (unit : String) (depth : Nat) (room : Nat) :
    List Node → Option Overflow
  | [] => none
  | n :: rest =>
    n.statementOverflow unit depth room <|>
      if (n.statementLines unit depth).toBool then Node.statementsOverflow unit depth room rest
      else none

end

/-- The first call past the limit in building a formatter with indentation unit `unit` and
formatting a loaded tree with it the way `Node.format` does. -/
def Node.formatterOverflow (unit : String) : Nat → Node → Option Overflow
  | 0, _ => some .objectCall
  | 1, _ => some .direct
  | r + 2, .block body _ => Node.statementsOverflow unit 0 (r + 1) body
  | r + 2, n@(.assign ..) | r + 2, n@(.exprStmt ..) => n.statementOverflow unit 0 (r + 1)
  | r + 2, n => n.formatOverflow (r + 2)

/-- Why a loaded tree has no text: a shape the formatter cannot write, or the stack. -/
inductive FormatFault where
  | shape (e : ShapeError)
  | overflow (o : Overflow)

/-- The formatted value of a loaded tree by a formatter built at level `depth` of the stack, or
what stops it first. -/
def Node.formatAt (depth : Nat) (width : Int) (n : Node) : Except FormatFault Data :=
  match n.formatterOverflow (indentUnit width) (Parse.stackLimit - depth) with
  | some o => .error (.overflow o)
  | none => (n.format width).mapError .shape

end Quill
