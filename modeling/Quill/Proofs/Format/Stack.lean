import Quill.Tree.FormatStack
import Quill.Proofs.Tree.Erase

set_option autoImplicit false

/- The formatter under the limit of the call stack: it formats a tree exactly when the tree's
format reach fits the room below the limit, and the reach grows by at most three levels for each
level of nesting. -/
namespace Quill

/-- The levels that writing a literal's value takes below the literal's own two levels. -/
def literalReach (value : Data) (raw : String) : Nat :=
  match value with
  | .null | .bool _ => 0
  | .text _ => 3
  | _ => if isNumberText raw then 1 else 2

theorem literalOverflow_eq_none_iff (room : Nat) (value : Data) (raw : String) :
    literalOverflow room value (.text raw) = none ↔ literalReach value raw ≤ room := by
  cases value with
  | null | bool | text => simp [literalOverflow, literalReach]
  | int | float | list | record =>
    -- a number's text is matched at the first level below and displayed at the second
    simp only [literalOverflow, literalReach]
    cases isNumberText raw <;> split <;> simp <;> omega

mutual

/-- The levels of the stack that formatting an expression takes, its own call included. -/
def Expr.formatReach : Expr → Nat
  | .literal v raw _ => literalReach v raw + 2
  | .var .. => 2
  | .field obj .. => obj.formatReach + 2
  | .index obj key _ => max (obj.formatReach + 2) (key.formatReach + 1)
  | .call callee args _ => max (Expr.listFormatReach args + 3) (callee.formatReach + 2)
  | .array items _ => Expr.listFormatReach items + 3
  | .map entries _ => Expr.entriesFormatReach entries + 3
  | .binary _ lhs rhs _ => max 5 (max lhs.formatReach rhs.formatReach + 2)
  | .unary _ arg _ | .update _ arg _ _ => max 3 (arg.formatReach + 1)

/-- The levels that formatting the items of a list takes, each by a call of its own. -/
def Expr.listFormatReach : List Expr → Nat
  | [] => 0
  | e :: rest => max e.formatReach (Expr.listFormatReach rest)

/-- The levels that quoting the keys and formatting the values of map entries take. -/
def Expr.entriesFormatReach : List (MapKey × Expr) → Nat
  | [] => 0
  | (_, v) :: rest => max (max 3 v.formatReach) (Expr.entriesFormatReach rest)

end

theorem Expr.two_le_formatReach (e : Expr) : 2 ≤ e.formatReach := by
  cases e <;> simp only [Expr.formatReach] <;> omega

/- The walk and the reach recurse together over the expression, its lists and its entries; in
every case the walk fails at the first two levels and otherwise asks of each part the room its
reach needs. -/
mutual

theorem Expr.formatOverflow_eq_none_iff : (e : Expr) → (room : Nat) →
    e.formatOverflow room = none ↔ e.formatReach ≤ room
  | e, 0 | e, 1 => by
    have := e.two_le_formatReach
    simp only [Expr.formatOverflow, reduceCtorEq, false_iff]
    omega
  | .literal v raw _, r + 2 => by
    simp only [Expr.formatOverflow, Expr.formatReach, literalOverflow_eq_none_iff]
    omega
  | .var .., r + 2 => by simp [Expr.formatOverflow, Expr.formatReach]
  | .field obj .., r + 2 => by
    simp only [Expr.formatOverflow, Expr.formatReach, Expr.formatOverflow_eq_none_iff obj]
    omega
  | .index obj key _, r + 2 => by
    simp only [Expr.formatOverflow, Expr.formatReach, Option.orElse_eq_orElse, Option.orElse_eq_or,
      Option.or_eq_none_iff, Expr.formatOverflow_eq_none_iff obj,
      Expr.formatOverflow_eq_none_iff key]
    omega
  | .call callee args _, r + 2 => by
    simp only [Expr.formatOverflow, Expr.formatReach, Option.orElse_eq_orElse, Option.orElse_eq_or,
      Option.or_eq_none_iff, Expr.formatOverflow_eq_none_iff callee]
    split
    · simp only [reduceCtorEq, false_and, false_iff]
      omega
    · rw [Expr.listFormatOverflow_eq_none_iff args]
      omega
  | .array items _, r + 2 => by
    simp only [Expr.formatOverflow, Expr.formatReach]
    split
    · simp only [reduceCtorEq, false_iff]
      omega
    · rw [Expr.listFormatOverflow_eq_none_iff items]
      omega
  | .map entries _, r + 2 => by
    simp only [Expr.formatOverflow, Expr.formatReach]
    split
    · simp only [reduceCtorEq, false_iff]
      omega
    · rw [Expr.entriesFormatOverflow_eq_none_iff entries]
      omega
  | .binary _ lhs rhs _, r + 2 => by
    simp only [Expr.formatOverflow, Expr.formatReach]
    split
    · simp only [reduceCtorEq, false_iff]
      omega
    · simp only [Option.orElse_eq_orElse, Option.orElse_eq_or, Option.or_eq_none_iff,
        Expr.formatOverflow_eq_none_iff lhs, Expr.formatOverflow_eq_none_iff rhs]
      omega
  | .unary _ arg _, r + 2 => by
    simp only [Expr.formatOverflow, Expr.formatReach]
    split
    · simp only [reduceCtorEq, false_iff]
      omega
    · rw [Expr.formatOverflow_eq_none_iff arg]
      omega
  | .update _ arg _ _, r + 2 => by
    simp only [Expr.formatOverflow, Expr.formatReach, Option.orElse_eq_orElse, Option.orElse_eq_or,
      Option.or_eq_none_iff, Expr.formatOverflow_eq_none_iff arg]
    split
    · simp only [reduceCtorEq, and_false, false_iff]
      omega
    · simp only [and_true]
      omega

theorem Expr.listFormatOverflow_eq_none_iff : (es : List Expr) → (room : Nat) →
    Expr.listFormatOverflow room es = none ↔ Expr.listFormatReach es ≤ room
  | [], room => by simp [Expr.listFormatOverflow, Expr.listFormatReach]
  | e :: rest, room => by
    simp only [Expr.listFormatOverflow, Expr.listFormatReach, Option.orElse_eq_orElse,
      Option.orElse_eq_or, Option.or_eq_none_iff, Expr.formatOverflow_eq_none_iff e,
      Expr.listFormatOverflow_eq_none_iff rest]
    omega

theorem Expr.entriesFormatOverflow_eq_none_iff : (es : List (MapKey × Expr)) → (room : Nat) →
    Expr.entriesFormatOverflow room es = none ↔ Expr.entriesFormatReach es ≤ room
  | [], room => by simp [Expr.entriesFormatOverflow, Expr.entriesFormatReach]
  | (_, v) :: rest, room => by
    simp only [Expr.entriesFormatOverflow, Expr.entriesFormatReach, Option.orElse_eq_orElse,
      Option.orElse_eq_or, Option.or_eq_none_iff, Expr.entriesFormatOverflow_eq_none_iff rest]
    split
    · simp only [reduceCtorEq, false_and, false_iff]
      omega
    · rw [Expr.formatOverflow_eq_none_iff v]
      omega

end

mutual

/-- The levels of the stack that formatting a statement takes, its own call included. -/
def Stmt.formatReach : Stmt → Nat
  | .assign _ value _ => value.formatReach + 1
  | .expr e _ => e.formatReach + 1
  | .block body _ => max 2 (Stmt.listFormatReach body + 1)

/-- The levels that formatting statements one after another takes. -/
def Stmt.listFormatReach : List Stmt → Nat
  | [] => 0
  | s :: rest => max s.formatReach (Stmt.listFormatReach rest)

end

/-- The levels that building a formatter and formatting a program with it take. -/
def Program.formatReach (p : Program) : Nat := max 2 (Stmt.listFormatReach p.body + 1)

mutual

theorem Stmt.formatOverflow_eq_none_iff : (s : Stmt) → (room : Nat) →
    s.formatOverflow room = none ↔ s.formatReach ≤ room
  | s, 0 | s, 1 => by
    have : 2 ≤ s.formatReach := by
      cases s <;> simp only [Stmt.formatReach] <;> grind [Expr.two_le_formatReach]
    simp only [Stmt.formatOverflow, reduceCtorEq, false_iff]
    omega
  | .assign _ value _, r + 2 => by
    simp only [Stmt.formatOverflow, Stmt.formatReach, Expr.formatOverflow_eq_none_iff]
    omega
  | .expr e _, r + 2 => by
    simp only [Stmt.formatOverflow, Stmt.formatReach, Expr.formatOverflow_eq_none_iff]
    omega
  | .block body _, r + 2 => by
    simp only [Stmt.formatOverflow, Stmt.formatReach, Stmt.listFormatOverflow_eq_none_iff body]
    omega

theorem Stmt.listFormatOverflow_eq_none_iff : (ss : List Stmt) → (room : Nat) →
    Stmt.listFormatOverflow room ss = none ↔ Stmt.listFormatReach ss ≤ room
  | [], room => by simp [Stmt.listFormatOverflow, Stmt.listFormatReach]
  | s :: rest, room => by
    simp only [Stmt.listFormatOverflow, Stmt.listFormatReach, Option.orElse_eq_orElse,
      Option.orElse_eq_or, Option.or_eq_none_iff, Stmt.formatOverflow_eq_none_iff s,
      Stmt.listFormatOverflow_eq_none_iff rest]
    omega

end

theorem Program.formatOverflow_eq_none_iff (p : Program) (room : Nat) :
    p.formatOverflow room = none ↔ p.formatReach ≤ room := by
  match room with
  | 0 | 1 =>
    simp only [Program.formatOverflow, Program.formatReach, reduceCtorEq, false_iff]
    omega
  | r + 2 =>
    simp only [Program.formatOverflow, Program.formatReach, Stmt.listFormatOverflow_eq_none_iff]
    omega

theorem Expr.formatterOverflow_eq_none_iff (e : Expr) (room : Nat) :
    e.formatterOverflow room = none ↔ e.formatReach ≤ room := by
  have := e.two_le_formatReach
  match room with
  | 0 | 1 =>
    simp only [Expr.formatterOverflow, reduceCtorEq, false_iff]
    omega
  | r + 2 => rw [Expr.formatterOverflow, Expr.formatOverflow_eq_none_iff]

/-- A formatter built at level `depth` of the stack formats a program, with the canonical text,
exactly when the program's reach fits below the limit. -/
theorem Program.formatAt_eq_ok_iff (depth : Nat) (width : Int) (p : Program) (text : String) :
    p.formatAt depth width = .ok text ↔
      depth + p.formatReach ≤ Parse.stackLimit ∧ text = p.format width := by
  have : 2 ≤ p.formatReach := Nat.le_max_left ..
  unfold Program.formatAt
  split
  · next fits =>
    rw [Program.formatOverflow_eq_none_iff] at fits
    have : depth + p.formatReach ≤ Parse.stackLimit := by omega
    simp only [Except.ok.injEq, this, true_and, eq_comm]
  · next o overflows =>
    have : ¬p.formatReach ≤ Parse.stackLimit - depth := by
      rw [← Program.formatOverflow_eq_none_iff, overflows]
      simp
    simp only [reduceCtorEq, false_iff]
    omega

theorem Program.formatDefaultAt_eq_ok_iff (depth : Nat) (p : Program) (text : String) :
    p.formatDefaultAt depth = .ok text ↔
      depth + 2 + p.formatReach ≤ Parse.stackLimit ∧ text = p.format 2 := by
  have : 2 ≤ p.formatReach := Nat.le_max_left ..
  unfold Program.formatDefaultAt
  split
  · simp only [reduceCtorEq, false_iff]
    omega
  · exact Program.formatAt_eq_ok_iff ..

theorem Expr.formatAt_eq_ok_iff (depth : Nat) (e : Expr) (text : String) :
    e.formatAt depth = .ok text ↔
      depth + e.formatReach ≤ Parse.stackLimit ∧ text = e.format := by
  have := e.two_le_formatReach
  unfold Expr.formatAt
  split
  · next fits =>
    rw [Expr.formatterOverflow_eq_none_iff] at fits
    have : depth + e.formatReach ≤ Parse.stackLimit := by omega
    simp only [Except.ok.injEq, this, true_and, eq_comm]
  · next o overflows =>
    have : ¬e.formatReach ≤ Parse.stackLimit - depth := by
      rw [← Expr.formatterOverflow_eq_none_iff, overflows]
      simp
    simp only [reduceCtorEq, false_iff]
    omega

/- Every level of nesting costs the formatter at most three levels of the stack: a binary
operation's precedence lookup two more than its own call, a list's generator one. -/
mutual

theorem Expr.formatReach_le : (e : Expr) → e.formatReach ≤ 3 * e.height + 5
  | .literal v raw _ => by
    have : literalReach v raw ≤ 3 := by
      unfold literalReach
      split <;> (try split) <;> omega
    simp only [Expr.formatReach, Expr.height]
    omega
  | .var .. => by simp [Expr.formatReach, Expr.height]
  | .field obj .. => by
    have := obj.formatReach_le
    simp only [Expr.formatReach, Expr.height]
    omega
  | .index obj key _ => by
    have := obj.formatReach_le
    have := key.formatReach_le
    simp only [Expr.formatReach, Expr.height]
    omega
  | .call callee args _ => by
    have := callee.formatReach_le
    have := Expr.listFormatReach_le args
    simp only [Expr.formatReach, Expr.height]
    omega
  | .array items _ => by
    have := Expr.listFormatReach_le items
    simp only [Expr.formatReach, Expr.height]
    omega
  | .map entries _ => by
    have := Expr.entriesFormatReach_le entries
    simp only [Expr.formatReach, Expr.height]
    omega
  | .binary _ lhs rhs _ => by
    have := lhs.formatReach_le
    have := rhs.formatReach_le
    simp only [Expr.formatReach, Expr.height]
    omega
  | .unary _ arg _ | .update _ arg _ _ => by
    have := arg.formatReach_le
    simp only [Expr.formatReach, Expr.height]
    omega

theorem Expr.listFormatReach_le :
    (es : List Expr) → Expr.listFormatReach es ≤ 3 * Expr.listHeight es + 5
  | [] => by simp [Expr.listFormatReach]
  | e :: rest => by
    have := e.formatReach_le
    have := Expr.listFormatReach_le rest
    simp only [Expr.listFormatReach, Expr.listHeight]
    omega

theorem Expr.entriesFormatReach_le :
    (es : List (MapKey × Expr)) → Expr.entriesFormatReach es ≤ 3 * Expr.entriesHeight es + 5
  | [] => by simp [Expr.entriesFormatReach]
  | (_, v) :: rest => by
    have := v.formatReach_le
    have := Expr.entriesFormatReach_le rest
    simp only [Expr.entriesFormatReach, Expr.entriesHeight]
    omega

end

mutual

theorem Stmt.formatReach_le : (s : Stmt) → s.formatReach ≤ 3 * s.height + 6
  | .assign _ e _ | .expr e _ => by
    have := e.formatReach_le
    simp only [Stmt.formatReach, Stmt.height]
    omega
  | .block body _ => by
    have := Stmt.listFormatReach_le body
    simp only [Stmt.formatReach, Stmt.height]
    omega

theorem Stmt.listFormatReach_le :
    (ss : List Stmt) → Stmt.listFormatReach ss ≤ 3 * Stmt.listHeight ss + 6
  | [] => by simp [Stmt.listFormatReach]
  | s :: rest => by
    have := s.formatReach_le
    have := Stmt.listFormatReach_le rest
    simp only [Stmt.listFormatReach, Stmt.listHeight]
    omega

end

theorem Program.formatReach_le (p : Program) : p.formatReach ≤ 3 * p.height + 7 := by
  have := Stmt.listFormatReach_le p.body
  simp only [Program.formatReach, Program.height]
  omega

/-- A program with room on the stack for the parser to read its formatted text back is formatted
without running out of stack by a formatter built no deeper than the parser's entry point. -/
theorem Program.formatAt_of_reparse_room {p : Program} {depth : Nat}
    (room : Parse.textDepth + 5 * p.height + 13 ≤ Parse.stackLimit)
    (shallow : depth ≤ Parse.textDepth) (width : Int) :
    p.formatAt depth width = .ok (p.format width) := by
  have := p.formatReach_le
  rw [Program.formatAt_eq_ok_iff]
  exact ⟨by omega, rfl⟩

end Quill
