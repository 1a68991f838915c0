import Quill.Tree.Format

set_option autoImplicit false

/- Trees compared as the text writes them: `erase` forgets positions and the case of keyword
constants, which the canonical text does not depend on. -/
namespace Quill

/-- The written text of a literal, with the case of a keyword's letters forgotten. -/
def literalRaw (v : Data) (raw : String) : String :=
  match v with
  | .null | .bool _ => raw.toLower
  | _ => raw

mutual

/-- An expression without its positions, its keyword constants written in lower case. -/
def Expr.erase : Expr → Expr
  | .literal v raw _ => .literal v (literalRaw v raw) .unknown
  | .var name _ => .var name .unknown
  | .field obj name _ _ => .field obj.erase name .unknown .unknown
  | .index obj key _ => .index obj.erase key.erase .unknown
  | .call callee args _ => .call callee.erase (Expr.eraseList args) .unknown
  | .array items _ => .array (Expr.eraseList items) .unknown
  | .map entries _ => .map (Expr.eraseEntries entries) .unknown
  | .binary op lhs rhs _ => .binary op lhs.erase rhs.erase .unknown
  | .unary op arg _ => .unary op arg.erase .unknown
  | .update op arg before _ => .update op arg.erase before .unknown

/-- Expressions without their positions. -/
def Expr.eraseList : List Expr → List Expr
  | [] => []
  | e :: rest => e.erase :: Expr.eraseList rest

/-- Map entries without their positions. -/
def Expr.eraseEntries : List (MapKey × Expr) → List (MapKey × Expr)
  | [] => []
  | (k, v) :: rest => (⟨k.text, .unknown⟩, v.erase) :: Expr.eraseEntries rest

end

mutual

/-- A statement without its positions. -/
def Stmt.erase : Stmt → Stmt
  | .assign name value _ => .assign name value.erase .unknown
  | .expr e _ => .expr e.erase .unknown
  | .block body _ => .block (Stmt.eraseList body) .unknown

/-- Statements without their positions. -/
def Stmt.eraseList : List Stmt → List Stmt
  | [] => []
  | s :: rest => s.erase :: Stmt.eraseList rest

end

/-- A program without its positions. -/
def Program.erase (p : Program) : Program := ⟨Stmt.eraseList p.body, .unknown⟩

mutual

/-- How deeply an expression nests. -/
def Expr.height : Expr → Nat
  | .literal .. | .var .. => 0
  | .field obj .. => obj.height + 1
  | .index obj key _ => max obj.height key.height + 1
  | .call callee args _ => max callee.height (Expr.listHeight args) + 1
  | .array items _ => Expr.listHeight items + 1
  | .map entries _ => Expr.entriesHeight entries + 1
  | .binary _ lhs rhs _ => max lhs.height rhs.height + 1
  | .unary _ arg _ => arg.height + 1
  | .update _ arg _ _ => arg.height + 1

/-- The greatest height of the expressions. -/
def Expr.listHeight : List Expr → Nat
  | [] => 0
  | e :: rest => max e.height (Expr.listHeight rest)

/-- The greatest height of the entries' values. -/
def Expr.entriesHeight : List (MapKey × Expr) → Nat
  | [] => 0
  | (_, v) :: rest => max v.height (Expr.entriesHeight rest)

end

mutual

/-- How deeply a statement nests: a block one level deeper than its statements. -/
def Stmt.height : Stmt → Nat
  | .assign _ value _ => value.height
  | .expr e _ => e.height
  | .block body _ => Stmt.listHeight body + 1

/-- The greatest height of the statements. -/
def Stmt.listHeight : List Stmt → Nat
  | [] => 0
  | s :: rest => max s.height (Stmt.listHeight rest)

end

/-- How deeply a program nests: its deepest statement. -/
def Program.height (p : Program) : Nat := Stmt.listHeight p.body

theorem Expr.eraseList_eq_map (es : List Expr) : Expr.eraseList es = es.map Expr.erase := by
  induction es with
  | nil => rfl
  | cons e rest ih => rw [Expr.eraseList, ih, List.map_cons]

theorem Expr.eraseEntries_eq_map (es : List (MapKey × Expr)) :
    Expr.eraseEntries es = es.map fun (k, v) => (⟨k.text, .unknown⟩, v.erase) := by
  induction es with
  | nil => rfl
  | cons kv rest ih => rw [Expr.eraseEntries, ih, List.map_cons]

theorem Stmt.eraseList_eq_map (ss : List Stmt) : Stmt.eraseList ss = ss.map Stmt.erase := by
  induction ss with
  | nil => rfl
  | cons s rest ih => rw [Stmt.eraseList, ih, List.map_cons]

@[simp] theorem Expr.assignable_erase (e : Expr) : e.erase.assignable = e.assignable := by
  cases e <;> rfl

@[simp] theorem Expr.standsAlone_erase (e : Expr) : e.erase.standsAlone = e.standsAlone := by
  cases e <;> rfl

@[simp] theorem Expr.binaryPrecedence?_erase (e : Expr) :
    e.erase.binaryPrecedence? = e.binaryPrecedence? := by
  cases e <;> rfl

theorem literalText_literalRaw (v : Data) (raw : String) :
    literalText v (literalRaw v raw) = literalText v raw := by
  cases v <;> rfl

mutual

theorem Expr.format_erase : (e : Expr) → e.erase.format = e.format
  | .literal v raw _ => by rw [Expr.erase, Expr.format, Expr.format, literalText_literalRaw]
  | .var .. => rfl
  | .field obj .. => by simp only [Expr.erase, Expr.format, obj.format_erase, obj.standsAlone_erase]
  | .index obj key _ => by
    simp only [Expr.erase, Expr.format, obj.format_erase, key.format_erase, obj.standsAlone_erase]
  | .call callee args _ => by
    simp only [Expr.erase, Expr.format, callee.format_erase, Expr.formatList_erase args,
      callee.standsAlone_erase]
  | .array items _ => by simp only [Expr.erase, Expr.format, Expr.formatList_erase items]
  | .map entries _ => by simp only [Expr.erase, Expr.format, Expr.formatEntries_erase entries]
  | .binary op lhs rhs _ => by
    simp only [Expr.erase, Expr.format, lhs.format_erase, rhs.format_erase,
      lhs.binaryPrecedence?_erase, rhs.binaryPrecedence?_erase]
  | .unary op arg _ => by
    simp only [Expr.erase, Expr.format, arg.format_erase, arg.binaryPrecedence?_erase]
  | .update op arg before _ => by simp only [Expr.erase, Expr.format, arg.format_erase]

theorem Expr.formatList_erase : (es : List Expr) →
    Expr.formatList (Expr.eraseList es) = Expr.formatList es
  | [] => rfl
  | [e] => by simp only [Expr.eraseList, Expr.formatList, e.format_erase]
  | e :: e' :: rest => by
    have tail := Expr.formatList_erase (e' :: rest)
    simp only [Expr.eraseList] at tail ⊢
    simp only [Expr.formatList, e.format_erase, tail]

theorem Expr.formatEntries_erase : (es : List (MapKey × Expr)) →
    Expr.formatEntries (Expr.eraseEntries es) = Expr.formatEntries es
  | [] => rfl
  | [(k, v)] => by simp only [Expr.eraseEntries, Expr.formatEntries, v.format_erase]
  | (k, v) :: e' :: rest => by
    have tail := Expr.formatEntries_erase (e' :: rest)
    simp only [Expr.eraseEntries] at tail ⊢
    simp only [Expr.formatEntries, v.format_erase, tail]

end

mutual

theorem Stmt.lines_erase (unit : String) (depth : Nat) : (s : Stmt) →
    s.erase.lines unit depth = s.lines unit depth
  | .assign _ value _ => by simp only [Stmt.erase, Stmt.lines, value.format_erase]
  | .expr e _ => by simp only [Stmt.erase, Stmt.lines, e.format_erase]
  | .block body _ => by
    have inner := Stmt.linesList_erase unit (depth + 1) body
    have empty : (Stmt.eraseList body).isEmpty = body.isEmpty := by cases body <;> rfl
    simp only [Stmt.erase, Stmt.lines, inner, empty]

theorem Stmt.linesList_erase (unit : String) (depth : Nat) : (ss : List Stmt) →
    Stmt.linesList unit depth (Stmt.eraseList ss) = Stmt.linesList unit depth ss
  | [] => rfl
  | s :: rest => by
    simp only [Stmt.eraseList, Stmt.linesList, s.lines_erase unit depth,
      Stmt.linesList_erase unit depth rest]

end

theorem Program.format_erase (p : Program) (width : Int) :
    p.erase.format width = p.format width := by
  simp only [Program.erase, Program.format, Stmt.linesList_erase]

/-- Trees that agree up to `erase` have one canonical text. -/
theorem Expr.format_eq_of_erase {e e' : Expr} (same : e'.erase = e.erase) :
    e'.format = e.format := by
  rw [← e'.format_erase, same, e.format_erase]

theorem Program.format_eq_of_erase {p p' : Program} (same : p'.erase = p.erase) (width : Int) :
    p'.format width = p.format width := by
  rw [← p'.format_erase, same, p.format_erase]

end Quill
