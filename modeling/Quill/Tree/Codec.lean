import Quill.Tree.Basic

set_option autoImplicit false

/-! The data form of a tree: each node is a record with its kind, its fields in a fixed order,
and its position last. A member by name holds its name as an `Identifier` node, a map entry
is a record of a key `Literal` and a value, and an assignment's target is an `Identifier` at the
assignment's own position. -/
namespace Quill

/-- A position as a record of line, column and offset. -/
def Position.toData (p : Position) : Data :=
  .record [("line", .int p.line), ("col", .int p.col), ("offset", .int p.offset)]

/-- A node of kind `kind` with the given fields, positioned at `p`. -/
def nodeData (kind : String) (fields : List (String × Data)) (p : Position) : Data :=
  .record ((("kind", .text kind) :: fields) ++ [("position", p.toData)])

/-- A name node of kind `Identifier`. -/
def identifierData (name : String) (p : Position) : Data :=
  nodeData "Identifier" [("name", .text name)] p

/-- The literal node of a map key: the key text is both its value and its raw text. -/
def MapKey.toData (k : MapKey) : Data :=
  nodeData "Literal" [("value", .text k.text), ("raw", .text k.text)] k.pos

mutual

/-- The data form of an expression. -/
def Expr.toData : Expr → Data
  | .literal v raw p => nodeData "Literal" [("value", v), ("raw", .text raw)] p
  | .var name p => nodeData "Variable" [("name", .text name)] p
  | .field obj name namePos p =>
    nodeData "Member"
      [("object", obj.toData), ("property", identifierData name namePos),
        ("computed", .bool false)] p
  | .index obj key p =>
    nodeData "Member" [("object", obj.toData), ("property", key.toData), ("computed", .bool true)] p
  | .call callee args p =>
    nodeData "Call" [("callee", callee.toData), ("arguments", .list (Expr.listData args))] p
  | .array items p => nodeData "Array" [("elements", .list (Expr.listData items))] p
  | .map entries p => nodeData "Map" [("entries", .list (Expr.entriesData entries))] p
  | .binary op lhs rhs p =>
    nodeData "Binary" [("operator", .text op.name), ("left", lhs.toData), ("right", rhs.toData)] p
  | .unary op arg p => nodeData "Unary" [("operator", .text op.name), ("argument", arg.toData)] p
  | .update op arg before p =>
    nodeData "Update"
      [("operator", .text op.name), ("argument", arg.toData), ("prefix", .bool before)] p

/-- The data forms of a list of expressions. -/
def Expr.listData : List Expr → List Data
  | [] => []
  | e :: rest => e.toData :: Expr.listData rest

/-- The data forms of map entries. -/
def Expr.entriesData : List (MapKey × Expr) → List Data
  | [] => []
  | (k, v) :: rest => .record [("key", k.toData), ("value", v.toData)] :: Expr.entriesData rest

end

mutual

/-- The data form of a statement. -/
def Stmt.toData : Stmt → Data
  | .assign name value p =>
    nodeData "Assign" [("target", identifierData name p), ("value", value.toData)] p
  | .expr e p => nodeData "ExpressionStatement" [("expression", e.toData)] p
  | .block body p => nodeData "Block" [("body", .list (Stmt.listData body))] p

/-- The data forms of a list of statements. -/
def Stmt.listData : List Stmt → List Data
  | [] => []
  | s :: rest => s.toData :: Stmt.listData rest

end

/-- The kind name of an expression, as its data form gives it. -/
def Expr.kindName : Expr → String
  | .literal .. => "Literal" | .var .. => "Variable" | .field .. => "Member" | .index .. => "Member"
  | .call .. => "Call" | .array .. => "Array" | .map .. => "Map" | .binary .. => "Binary"
  | .unary .. => "Unary" | .update .. => "Update"

/-- A request for a part that a node of some kind does not have. -/
structure MissingPart where
  kind : String
  part : String
deriving DecidableEq, Repr

/-- `'Kind' object has no attribute 'part'`. -/
def MissingPart.message (m : MissingPart) : String :=
  Text.quoted m.kind ++ " object has no attribute " ++ Text.quoted m.part

/-- The key texts of a map, in source order with repeats kept; other expressions have none. -/
def Expr.keys : Expr → Except MissingPart (List String)
  | .map entries _ => .ok (entries.map (·.1.text))
  | e => .error ⟨e.kindName, "keys"⟩

/-- The data form of a program: a `Block` of its statements. -/
def Program.toData (prog : Program) : Data :=
  nodeData "Block" [("body", .list (Stmt.listData prog.body))] prog.pos

end Quill
