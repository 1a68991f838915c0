import Mathlib
import Quill.Proofs.Parse.Parsable

set_option autoImplicit false

/- The trees a parse returns are well formed at every node: a literal is written as its value
says, names are names, an update changes what can be assigned, and every block holds a
statement. -/
namespace Quill

open Scan

/-- How the text `raw` of a literal writes its value: an integer as digits with no point that
read as it, a decimal as digits with a fraction that read as it, a truth value or null as its
word in any case, and a text as itself. -/
def Data.WrittenAs : Data → String → Prop
  | .int n, raw => IsNumber raw.toList ∧ raw.contains '.' = false ∧
    Decimal.readInteger raw = .ok n
  | .float x, raw => IsNumber raw.toList ∧ raw.contains '.' = true ∧
    Decimal.readDecimal raw = some x
  | .bool b, raw => raw.toLower = if b then "true" else "false"
  | .null, raw => raw.toLower = "null"
  | .text s, raw => s = raw
  | .list _, _ | .record _, _ => False

/-- The words that write a constant, in lower case. -/
def constantWords : List String := ["true", "false", "null"]

/-- The parts of an expression, the expressions it is made of. -/
def Expr.parts : Expr → List Expr
  | .literal .. | .var .. => []
  | .field obj .. => [obj]
  | .index obj key _ => [obj, key]
  | .call callee args _ => callee :: args
  | .array items _ => items
  | .map entries _ => entries.map (·.2)
  | .binary _ lhs rhs _ => [lhs, rhs]
  | .unary _ arg _ => [arg]
  | .update _ arg _ _ => [arg]

/-- `e` is a node of the expression `t`: `t` itself, or a node of one of its parts. -/
inductive Expr.NodeOf (e : Expr) : Expr → Prop
  | self : Expr.NodeOf e e
  | part {p t : Expr} : p ∈ t.parts → Expr.NodeOf e p → Expr.NodeOf e t

/-- What a parse makes of one node of an expression, apart from its parts: a literal written as
its value says, a variable named by a name that writes no constant, a member chosen by a name,
and an update of a variable or a member. -/
def Expr.FormedHere : Expr → Prop
  | .literal v raw _ => v.WrittenAs raw
  | .var name _ => IsName name.toList ∧ name.toLower ∉ constantWords
  | .field _ name _ _ => IsName name.toList
  | .update _ arg _ _ =>
    (∃ name pos, arg = .var name pos) ∨
      (∃ obj name namePos pos, arg = .field obj name namePos pos) ∨
      ∃ obj key pos, arg = .index obj key pos
  | .index .. | .call .. | .array .. | .map .. | .binary .. | .unary .. => True

/-- The statements a statement is made of: those of a block. -/
def Stmt.parts : Stmt → List Stmt
  | .block body _ => body
  | .assign .. | .expr .. => []

/-- The expressions a statement holds itself, not through a statement of its own. -/
def Stmt.exprs : Stmt → List Expr
  | .assign _ value _ => [value]
  | .expr e _ => [e]
  | .block .. => []

/-- `s` is a statement of `t`: `t` itself, or a statement of one of its parts. -/
inductive Stmt.NodeOf (s : Stmt) : Stmt → Prop
  | self : Stmt.NodeOf s s
  | part {p t : Stmt} : p ∈ t.parts → Stmt.NodeOf s p → Stmt.NodeOf s t

/-- What a parse makes of one statement, apart from its parts: an assignment's target is a name
and a block holds a statement. -/
def Stmt.FormedHere : Stmt → Prop
  | .assign name _ _ => IsName name.toList
  | .block body _ => body ≠ []
  | .expr .. => True

/-- Every statement of `s`, at any depth, is formed as `Stmt.FormedHere` says, and so is every
node of every expression it holds. -/
def Stmt.WellFormed (s : Stmt) : Prop :=
  ∀ s' : Stmt, s'.NodeOf s → s'.FormedHere ∧ ∀ e ∈ s'.exprs, ∀ e' : Expr,
    e'.NodeOf e → e'.FormedHere

theorem LiteralParsable.writtenAs {v : Data} {raw : String} (wf : LiteralParsable v raw) :
    v.WrittenAs raw := by
  rcases wf with rfl | ⟨number, read⟩ | ⟨-, found⟩
  · rfl
  · unfold Parse.numberValue at read
    split at read
    · rename_i point
      split at read
      · rename_i x decimal
        cases read
        exact ⟨number, point, decimal⟩
      · cases read
    · rename_i point
      split at read
      · rename_i n integer
        cases read
        exact ⟨number, by simpa using point, integer⟩
      · cases read
      · cases read
  · rcases keyword?_some found with ⟨rfl, lower⟩ | ⟨rfl, lower⟩ |
      ⟨rfl, lower⟩ <;> exact lower

theorem keyword?_none {name : String} (plain : Parse.keyword? name = none) :
    name.toLower ∉ constantWords := by
  unfold Parse.keyword? at plain
  split at plain <;> simp_all [constantWords]

theorem Expr.Parsable.parts {t : Expr} (wf : t.Parsable) : ∀ p ∈ t.parts, p.Parsable := by
  cases t with
  | literal | var => exact List.forall_mem_nil _
  | field obj _ _ _ => simpa [Expr.parts] using wf.1
  | index obj key _ => simpa [Expr.parts] using (show obj.Parsable ∧ key.Parsable from wf)
  | call callee args _ =>
    simpa [Expr.parts] using ⟨wf.1, (Expr.listParsable_iff args).mp wf.2⟩
  | array items _ => simpa [Expr.parts] using (Expr.listParsable_iff items).mp wf
  | map entries _ =>
    intro p mem
    obtain ⟨kv, found, rfl⟩ := List.mem_map.mp mem
    exact (Expr.entriesParsable_iff entries).mp wf kv found
  | binary _ lhs rhs _ => simpa [Expr.parts] using (show lhs.Parsable ∧ rhs.Parsable from wf)
  | unary _ arg _ => simpa [Expr.parts] using (show arg.Parsable from wf)
  | update _ arg _ _ => simpa [Expr.parts] using wf.1

theorem Expr.Parsable.nodeOf {e t : Expr} (wf : t.Parsable) (node : e.NodeOf t) : e.Parsable := by
  induction node with
  | self => exact wf
  | part mem _ ih => exact ih (wf.parts _ mem)

theorem Expr.Parsable.formedHere {e : Expr} (wf : e.Parsable) : e.FormedHere := by
  cases e with
  | literal v raw _ => exact LiteralParsable.writtenAs wf
  | var name _ => exact ⟨wf.1, keyword?_none wf.2⟩
  | field _ _ _ _ => exact wf.2
  | update _ arg _ _ =>
    have target := wf.2
    cases arg <;> simp_all [Expr.assignable, Expr.FormedHere]
  | index | call | array | map | binary | unary => trivial

theorem Stmt.Parsable.parts {t : Stmt} (wf : t.Parsable) : ∀ p ∈ t.parts, p.Parsable := by
  cases t with
  | block body _ => exact (Stmt.listParsable_iff body).mp wf.2
  | assign | expr => exact List.forall_mem_nil _

theorem Stmt.Parsable.exprs {s : Stmt} (wf : s.Parsable) : ∀ e ∈ s.exprs, e.Parsable := by
  cases s with
  | assign _ _ _ => simpa [Stmt.exprs] using wf.2
  | expr e _ => simpa [Stmt.exprs] using (show e.Parsable from wf)
  | block => exact List.forall_mem_nil _

theorem Stmt.Parsable.nodeOf {s t : Stmt} (wf : t.Parsable) (node : s.NodeOf t) : s.Parsable := by
  induction node with
  | self => exact wf
  | part mem _ ih => exact ih (wf.parts _ mem)

theorem Stmt.Parsable.formedHere {s : Stmt} (wf : s.Parsable) : s.FormedHere := by
  cases s with
  | assign _ _ _ => exact wf.1
  | block _ _ => exact wf.1
  | expr => trivial

theorem Stmt.Parsable.wellFormed {s : Stmt} (wf : s.Parsable) : s.WellFormed := by
  intro s' node
  have wf' := wf.nodeOf node
  refine ⟨wf'.formedHere, fun e mem e' inner => ?_⟩
  exact ((wf'.exprs e mem).nodeOf inner).formedHere

/-- Every tree a parse returns is well formed at every node: in a program every statement and
every node of every expression, in an expression every node. -/
theorem parsed_trees_wellFormed :
    (∀ (source : String) (t : Program), parseProgram source = .ok t → ∀ s ∈ t.body,
      s.WellFormed) ∧
    (∀ (source : String) (e : Expr), parseExpression source = .ok e →
      ∀ e' : Expr, e'.NodeOf e → e'.FormedHere) := by
  refine ⟨fun source t parsed s mem => ?_, fun source e parsed e' node => ?_⟩
  · exact ((Stmt.listParsable_iff t.body).mp (parseProgram_parsable parsed) s mem).wellFormed
  · exact ((parseExpression_parsable parsed).nodeOf node).formedHere

/-- A program with a nested block, a postfix update of a member and a constant written in
capitals, and a call with an integer argument: both parse, to trees well formed at every node. -/
theorem parsed_trees_wellFormed_sample :
    (∃ t, parseProgram "{ x.y++; }; z = TRUE;" = .ok t ∧ ∀ s ∈ t.body, s.WellFormed) ∧
    (∃ e, parseExpression "f(15)" = .ok e ∧ ∀ e' : Expr, e'.NodeOf e → e'.FormedHere) := by
  have program : parseProgram "{ x.y++; }; z = TRUE;" = .ok ⟨[.block [.expr (.update .inc
      (.field (.var "x" ⟨1, 3, 2⟩) "y" ⟨1, 5, 4⟩ ⟨1, 3, 2⟩) false
        ⟨1, 3, 2⟩) ⟨1, 3, 2⟩] ⟨1, 1, 0⟩,
      .assign "z" (.literal (.bool true) "TRUE" ⟨1, 17, 16⟩)
        ⟨1, 13, 12⟩], ⟨1, 1, 0⟩⟩ := by
    cbv
  have expression : parseExpression "f(15)" =
      .ok (.call (.var "f" ⟨1, 1, 0⟩) [.literal (.int 15) "15" ⟨1, 3, 2⟩]
        ⟨1, 1, 0⟩) := by
    cbv
  exact ⟨⟨_, program, parsed_trees_wellFormed.1 _ _ program⟩,
    ⟨_, expression, parsed_trees_wellFormed.2 _ _ expression⟩⟩

end Quill
