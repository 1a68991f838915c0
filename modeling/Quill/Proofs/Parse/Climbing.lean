import Mathlib
import Quill.Proofs.Reparse.Basic
import Quill.Proofs.Parse.Budget

set_option autoImplicit false

/- Binary operations are parsed by precedence climbing, and the climb builds the tree the
precedence table gives on its own: the operator that binds least, the last of them on a tie, at
the root, the operations before it on the left and those after it on the right. -/
namespace Quill

open Quill.Parser Quill.Parser.Spec Cursor

/-- Operations split at `y`, their loosest one and the last of the loosest: every operation
before it binds at least as tightly, and every one after it more tightly. -/
def SplitsAt (ops before : List (BinaryOp × Expr)) (y : BinaryOp × Expr)
    (after : List (BinaryOp × Expr)) : Prop :=
  ops = before ++ y :: after ∧ (∀ x ∈ before, y.1.precedence ≤ x.1.precedence) ∧
    ∀ x ∈ after, y.1.precedence < x.1.precedence

/-- The split of operations at their loosest one, the last of the loosest; none for no
operations. -/
def loosestSplit :
    List (BinaryOp × Expr) →
      Option (List (BinaryOp × Expr) × (BinaryOp × Expr) × List (BinaryOp × Expr))
  | [] => none
  | x :: rest =>
    match loosestSplit rest with
    | some (before, y, after) =>
      if y.1.precedence ≤ x.1.precedence then some (x :: before, y, after) else some ([], x, rest)
    | none => some ([], x, rest)

theorem loosestSplit_eq_none
    {ops : List (BinaryOp × Expr)} : loosestSplit ops = none ↔ ops = [] := by
  cases ops with
  | nil => simp [loosestSplit]
  | cons x rest =>
    simp only [loosestSplit, reduceCtorEq, iff_false]
    split
    · split <;> simp
    · simp

theorem loosestSplit_splitsAt {ops : List (BinaryOp × Expr)} :
    ∀ {before after : List (BinaryOp × Expr)} {y : BinaryOp × Expr},
      loosestSplit ops = some (before, y, after) → SplitsAt ops before y after := by
  induction ops with
  | nil => simp [loosestSplit]
  | cons x rest ih =>
    intro before after y found
    unfold loosestSplit at found
    split at found
    · rename_i before' y' after' inner
      obtain ⟨same, atLeast, above⟩ := ih inner
      split at found
      · rename_i looser
        simp only [Option.some.injEq, Prod.mk.injEq] at found
        obtain ⟨rfl, rfl, rfl⟩ := found
        refine ⟨by simp [same], ?_, above⟩
        intro z mem
        rcases List.mem_cons.mp mem with rfl | mem
        · exact looser
        · exact atLeast z mem
      · rename_i tighter
        simp only [Option.some.injEq, Prod.mk.injEq] at found
        obtain ⟨rfl, rfl, rfl⟩ := found
        refine ⟨rfl, List.forall_mem_nil _, fun z mem => ?_⟩
        rw [same] at mem
        rcases List.mem_append.mp mem with mem | mem
        · have := atLeast z mem
          omega
        · rcases List.mem_cons.mp mem with rfl | mem
          · omega
          · have := above z mem
            omega
    · rename_i none
      simp only [Option.some.injEq, Prod.mk.injEq] at found
      obtain ⟨rfl, rfl, rfl⟩ := found
      rw [loosestSplit_eq_none.mp none]
      exact ⟨rfl, List.forall_mem_nil _, List.forall_mem_nil _⟩

/-- The split is the only one with those properties. -/
theorem loosestSplit_of_splitsAt {before : List (BinaryOp × Expr)} :
    ∀ {ops after : List (BinaryOp × Expr)} {y : BinaryOp × Expr},
      SplitsAt ops before y after → loosestSplit ops = some (before, y, after) := by
  induction before with
  | nil =>
    intro ops after y splits
    obtain ⟨rfl, -, above⟩ := splits
    show loosestSplit (y :: after) = some ([], y, after)
    cases inner : loosestSplit after with
    | none => simp [loosestSplit, inner]
    | some split =>
      obtain ⟨before', y', after'⟩ := split
      have mem : y' ∈ after := by simp [(loosestSplit_splitsAt inner).1]
      have := above y' mem
      simp [loosestSplit, inner, show ¬y'.1.precedence ≤ y.1.precedence by omega]
  | cons x before ih =>
    intro ops after y splits
    obtain ⟨rfl, atLeast, above⟩ := splits
    have inner : loosestSplit (before ++ y :: after) = some (before, y, after) :=
      ih ⟨rfl, fun z mem => atLeast z (List.mem_cons_of_mem x mem), above⟩
    have looser : y.1.precedence ≤ x.1.precedence := atLeast x List.mem_cons_self
    simp [loosestSplit, inner, looser]

/-- The tree the precedence table gives to the operand `first` followed by the operations
`ops`: the loosest operation, the last of the loosest, at the root, positioned at `first`. -/
def Expr.byPrecedence (first : Expr) (ops : List (BinaryOp × Expr)) : Expr :=
  match found : loosestSplit ops with
  | none => first
  | some (before, (op, y), after) =>
    .binary op (first.byPrecedence before) (y.byPrecedence after) first.pos
termination_by ops.length
decreasing_by
  all_goals
    have lengths := congrArg List.length (loosestSplit_splitsAt found).1
    simp only [List.length_append, List.length_cons] at lengths
    omega

@[simp] theorem Expr.byPrecedence_nil (first : Expr) : first.byPrecedence [] = first := by
  rw [Expr.byPrecedence]
  split
  · rfl
  · rename_i found
    simp [loosestSplit] at found

theorem Expr.byPrecedence_splitsAt {first y : Expr} {op : BinaryOp}
    {ops before after : List (BinaryOp × Expr)} (splits : SplitsAt ops before (op, y) after) :
    first.byPrecedence ops =
      .binary op (first.byPrecedence before) (y.byPrecedence after) first.pos := by
  rw [Expr.byPrecedence]
  split
  · rename_i found
    rw [loosestSplit_of_splitsAt splits] at found
    cases found
  · rename_i before' op' y' after' found
    rw [loosestSplit_of_splitsAt splits] at found
    simp only [Option.some.injEq, Prod.mk.injEq] at found
    obtain ⟨rfl, ⟨rfl, rfl⟩, rfl⟩ := found
    rfl

@[simp] theorem Expr.byPrecedence_pos (first : Expr) (ops : List (BinaryOp × Expr)) :
    (first.byPrecedence ops).pos = first.pos := by
  rw [Expr.byPrecedence]
  split <;> rfl

/-- An operation whose right operand takes the operations that bind more tightly than it, and
that is followed by one binding no more tightly, is the left operand of the rest. -/
theorem Expr.byPrecedence_absorb {r y : Expr} {op : BinaryOp} {tight : List (BinaryOp × Expr)}
    (tighter : ∀ x ∈ tight, op.precedence < x.1.precedence) (rest : List (BinaryOp × Expr))
    (looser : ∀ x ∈ rest.head?, x.1.precedence ≤ op.precedence) :
    r.byPrecedence ((op, y) :: (tight ++ rest)) =
      (Expr.binary op r (y.byPrecedence tight) r.pos).byPrecedence rest := by
  -- by strong induction on the rest: its loosest operation is the root on both sides, and the
  -- operations before it bind at least as tightly and form a shorter rest of the left operand
  induction size : rest.length using Nat.strongRecOn generalizing rest with
  | ind n ih =>
  cases found : loosestSplit rest with
  | none =>
    have whole : SplitsAt ((op, y) :: tight) [] (op, y) tight :=
      ⟨rfl, List.forall_mem_nil _, tighter⟩
    rw [loosestSplit_eq_none.mp found, List.append_nil, Expr.byPrecedence_nil,
      Expr.byPrecedence_splitsAt whole, Expr.byPrecedence_nil]
  | some split =>
    obtain ⟨before, ⟨o, z⟩, after⟩ := split
    obtain ⟨rfl, atLeast, above⟩ := loosestSplit_splitsAt found
    have first : o.precedence ≤ op.precedence := by
      cases before with
      | nil => exact looser _ rfl
      | cons b before => exact Nat.le_trans (atLeast b List.mem_cons_self) (looser b rfl)
    have whole : SplitsAt ((op, y) :: (tight ++ (before ++ (o, z) :: after)))
        ((op, y) :: (tight ++ before)) (o, z) after := by
      refine ⟨by simp, fun x mem => ?_, above⟩
      rcases List.mem_cons.mp mem with rfl | mem
      · exact first
      · rcases List.mem_append.mp mem with mem | mem
        · exact Nat.le_of_lt (Nat.lt_of_le_of_lt first (tighter x mem))
        · exact atLeast x mem
    have shorter : before.length < n := by
      rw [← size]
      simp
    have beforeLooser : ∀ x ∈ before.head?, x.1.precedence ≤ op.precedence := by
      cases before with
      | nil => exact fun _ mem => absurd mem (by simp)
      | cons b _ => exact fun x mem => (Option.mem_some_iff.mp mem) ▸ looser b rfl
    rw [Expr.byPrecedence_splitsAt whole, Expr.byPrecedence_splitsAt ⟨rfl, atLeast, above⟩,
      ih before.length shorter before beforeLooser rfl]
    rfl

/-- `t` is made of binary operations over the operands `first` and those of `ops`, met in the
order written by an in-order walk of those operations. -/
inductive Expr.Spine : Expr → Expr → List (BinaryOp × Expr) → Prop
  | leaf (x : Expr) : Expr.Spine x x []
  | node {l r first y : Expr} {left right : List (BinaryOp × Expr)} {op : BinaryOp}
      {pos : Position} : Expr.Spine l first left → Expr.Spine r y right →
      Expr.Spine (.binary op l r pos) first (left ++ (op, y) :: right)

/-- The tree of the precedence table keeps every operand and operator, in the order written. -/
theorem Expr.byPrecedence_spine (first : Expr) (ops : List (BinaryOp × Expr)) :
    (first.byPrecedence ops).Spine first ops := by
  fun_induction Expr.byPrecedence first ops with
  | case1 first ops found =>
    rw [loosestSplit_eq_none.mp found]
    exact .leaf first
  | case2 first ops before op y after found left right =>
    rw [(loosestSplit_splitsAt found).1]
    exact .node left right

/-- The primary method, run from `c` at any depth up to `top` and with any fuel, reads the
operand `x` and stops at `c'`, or runs out of fuel. -/
def Operand (top : Nat) (c : Cursor) (x : Expr) (c' : Cursor) : Prop :=
  ∀ d ≤ top, ∀ n, Spec Spent (Parse.primary n) d c fun y c'' => y = x ∧ c'' = c'

/-- From `c` to `c'` stand the operations `ops`: each a binary operator token followed by the
operand that the primary method reads after it. -/
inductive OperationsRead (top : Nat) : Cursor → List (BinaryOp × Expr) → Cursor → Prop
  | nil (c : Cursor) : OperationsRead top c [] c
  | cons {c c1 c' : Cursor} {op : BinaryOp} {x : Expr} {ops : List (BinaryOp × Expr)} :
      BinaryOp.ofToken? c.current.kind = some op → Operand top c.advance x c1 →
      OperationsRead top c1 ops c' → OperationsRead top c ((op, x) :: ops) c'

/-- No operator binding more tightly than `p` stands at `c`. -/
def StopsClimb (p : Nat) (c : Cursor) : Prop :=
  ∀ op, BinaryOp.ofToken? c.current.kind = some op → op.precedence ≤ p

theorem BinaryOp.precedence_le_six (op : BinaryOp) : op.precedence ≤ 6 := by
  cases op <;> decide

theorem stopsClimb_of_none {p : Nat} {c : Cursor} (none : BinaryOp.ofToken? c.current.kind = none) :
    StopsClimb p c := by
  intro op found
  rw [none] at found
  cases found

/-- An operand is read below the limit of the call stack: the primary method's own frame
fails at a depth without room. -/
theorem Operand.room {top : Nat} {c c' : Cursor} {x : Expr} (operand : Operand top c x c') :
    top + 5 ≤ Parse.stackLimit := by
  have once := operand top (Nat.le_refl top) 1
  rw [Parse.primary, spec_frame] at once
  split at once
  · cases once
  · rename_i room
    unfold Parse.leafReach at room
    omega

theorem OperationsRead.append_split {top : Nat} {b : List (BinaryOp × Expr)}
    (a : List (BinaryOp × Expr)) :
    ∀ {c c' : Cursor}, OperationsRead top c (a ++ b) c' →
      ∃ cm, OperationsRead top c a cm ∧ OperationsRead top cm b c' := by
  induction a with
  | nil => exact fun {c _} read => ⟨c, .nil c, read⟩
  | cons x a ih =>
    intro c c' read
    cases read with
    | cons found operand rest =>
      obtain ⟨cm, front, back⟩ := ih rest
      exact ⟨cm, .cons found operand front, back⟩

/- The loop of tighter operations at strength `p` reads every operation binding more tightly
than `p`; each right operand takes, by a nested loop, the operations after it that bind tighter. -/

/-- The loop of operations binding more tightly than `p` builds the tree of the precedence table,
reading its operands at most `6 - p` calls below its own depth. -/
theorem tighter_climbs {top : Nat} (tight : List (BinaryOp × Expr)) :
    ∀ {c cm : Cursor} {p D : Nat} {r : Expr}, OperationsRead top c tight cm →
      (∀ x ∈ tight, p < x.1.precedence) → StopsClimb p cm → D + 6 ≤ top + p →
      ∀ n, Spec Spent (Parse.tighter n p r) D c fun x c' => x = r.byPrecedence tight ∧
        c' = cm := by
  -- by strong induction on the operations: the nested loop reads a prefix of those after the
  -- first operation, and the loop goes on over the rest
  induction size : tight.length using Nat.strongRecOn generalizing tight with
  | ind count ih =>
  intro c cm p D r read tighter stop depth n
  cases n with
  | zero => exact spec_throw.mpr rfl
  | succ n =>
  rw [Parse.tighter]
  simp only [spec_bind, spec_current]
  cases read with
  | nil =>
    split
    · rename_i op found
      have looser := stop op found
      simp [spec_pure, show ¬p < op.precedence by omega]
    · exact ⟨by simp, rfl⟩
  | @cons _ c1 _ op x ops found operand rest =>
    have climbs : p < op.precedence := tighter _ List.mem_cons_self
    simp only [found, climbs, ↓reduceIte, spec_bind]
    obtain ⟨keep, keep_def⟩ : ∃ keep : BinaryOp × Expr → Bool,
        keep = fun y => decide (op.precedence < y.1.precedence) := ⟨_, rfl⟩
    have splitOps : ops = ops.takeWhile keep ++ ops.dropWhile keep :=
      List.takeWhile_append_dropWhile.symm
    have innerTighter : ∀ y ∈ ops.takeWhile keep, op.precedence < y.1.precedence := by
      intro y mem
      simpa [keep_def] using List.all_eq_true.mp List.all_takeWhile y mem
    have outerLooser : ∀ y ∈ (ops.dropWhile keep).head?, y.1.precedence ≤ op.precedence := by
      intro y mem
      have notKept := List.head?_dropWhile_not keep ops
      rw [Option.mem_def.mp mem] at notKept
      simpa [keep_def] using notKept
    generalize ops.takeWhile keep = inner at splitOps innerTighter
    generalize ops.dropWhile keep = outer at splitOps outerLooser
    subst splitOps
    obtain ⟨cm', innerRead, outerRead⟩ := OperationsRead.append_split inner rest
    have outerTighter : ∀ y ∈ outer, p < y.1.precedence :=
      fun y mem => tighter y (List.mem_cons_of_mem _ (List.mem_append_right _ mem))
    have stopMid : StopsClimb op.precedence cm' := by
      cases outerRead with
      | nil =>
        intro o atEnd
        have := stop o atEnd
        omega
      | cons next _ _ =>
        intro o atNext
        rw [next] at atNext
        cases atNext
        exact outerLooser _ rfl
    have room := operand.room
    have within := op.precedence_le_six
    cases n with
    | zero => exact spec_throw.mpr rfl
    | succ m =>
      rw [Parse.operation, spec_frame_room (by omega)]
      simp only [spec_bind, spec_discard, spec_take, spec_pure]
      refine (operand (D + 1) (by omega) m).mono fun y c2 read => ?_
      obtain ⟨rfl, rfl⟩ := read
      refine (ih inner.length (by simp at size; omega) inner rfl innerRead innerTighter stopMid
        (by omega) m).mono fun right c3 nested => ?_
      obtain ⟨rfl, rfl⟩ := nested
      refine (ih outer.length (by simp at size; omega) outer rfl outerRead outerTighter stop depth
        (m + 1)).mono fun t c4 climbed => ?_
      obtain ⟨same, atEnd⟩ := climbed
      refine ⟨?_, atEnd⟩
      rw [same, Expr.byPrecedence_absorb innerTighter outer outerLooser]

/-- The expression method reads an operand and the operations after it and returns the tree of
the precedence table, or runs out of fuel; its operands are read at most eight calls below it. -/
theorem expression_reads_operations {d : Nat} {c c1 c' : Cursor} {first : Expr}
    {ops : List (BinaryOp × Expr)} (operand : Operand (d + 8) c first c1)
    (read : OperationsRead (d + 8) c1 ops c') (stop : BinaryOp.ofToken? c'.current.kind = none)
    (n : Nat) :
    Spec Spent (Parse.expression n) d c fun x c'' => x = first.byPrecedence ops ∧ c'' = c' := by
  cases n with
  | zero => exact spec_throw.mpr rfl
  | succ n =>
  have room := operand.room
  rw [Parse.expression, spec_frame_room (by omega)]
  simp only [spec_bind, spec_current, spec_ite, spec_pure]
  refine (operand (d + 1) (by omega) n).mono fun e c2 read => ?_
  obtain ⟨rfl, rfl⟩ := read
  cases read with
  | nil => simp [stop]
  | cons found operand' rest =>
    simp only [found, Option.isSome_some, ↓reduceIte]
    rw [spec_frame_room (by omega), spec_operations]
    exact tighter_climbs _ (.cons found operand' rest) (fun x _ => x.1.precedence_pos)
      (stopsClimb_of_none stop) (by omega) n

/-- Precedence climbing builds the tree of the precedence table, whose in-order walk meets every
operand and operator once, in the order written. -/
theorem expression_climbs {d : Nat} {c c1 c' : Cursor} {first : Expr}
    {ops : List (BinaryOp × Expr)} (ends : c.Ends) (operand : Operand (d + 8) c first c1)
    (read : OperationsRead (d + 8) c1 ops c') (stop : BinaryOp.ofToken? c'.current.kind = none) :
    (∀ n, 8 * c.left + 11 ≤ n →
      (Parse.expression n).exec d c = (.ok (first.byPrecedence ops), c')) ∧
      (first.byPrecedence ops).Spine first ops := by
  refine ⟨fun n fuel => ?_, Expr.byPrecedence_spine first ops⟩
  rcases (expression_reads_operations operand read stop n).exec_cases with
    ⟨x, c'', ran, same, atEnd⟩ | ⟨e, c'', ran, spent⟩
  · rw [ran, same, atEnd]
  · have live := expression_live n d c ends fuel
    unfold Spec at live
    rw [ran] at live
    exact absurd spent live

/-- A name that writes no constant and is followed by no call, member, index or update is an
operand, read at any depth with room for the identifier's frame. -/
theorem operand_name {top : Nat} {c : Cursor} {name : String} {pos : Position}
    (room : top + 6 ≤ Parse.stackLimit) (token : c.current = ⟨.ident, name, pos⟩)
    (plain : Parse.keyword? name = none) (stops : c.advance.current.kind ∉ suffixKinds) :
    Operand top c (.var name pos) c.advance := by
  intro d below n
  cases n with
  | zero => exact spec_throw.mpr rfl
  | succ n =>
  rw [Parse.primary, spec_frame_room (by omega)]
  simp only [spec_bind, spec_current, token]
  unfold Parse.identifier
  rw [spec_frame_room (by omega)]
  simp only [spec_bind, spec_expect, Cursor.test, token, beq_self_eq_true, plain, spec_pure,
    forall_const, reduceCtorEq, false_implies, and_true]
  rw [spec_frame_room (by omega)]
  cases n with
  | zero => exact spec_throw.mpr rfl
  | succ m =>
    rw [Parse.suffixes]
    simp only [spec_bind, spec_current]
    split <;> simp_all [suffixKinds, spec_pure]

/-- `a + b * c` is read as `a + (b * c)`. -/
theorem expression_climbs_sum_product :
    ((Parse.expression 51).exec 0 (Cursor.ofTokens [⟨.ident, "a", ⟨1, 1, 0⟩⟩,
      ⟨.add, "+", ⟨1, 3, 2⟩⟩, ⟨.ident, "b", ⟨1, 5, 4⟩⟩,
      ⟨.mul, "*", ⟨1, 7, 6⟩⟩, ⟨.ident, "c", ⟨1, 9, 8⟩⟩])).1 =
      .ok (.binary .add (.var "a" ⟨1, 1, 0⟩)
        (.binary .mul (.var "b" ⟨1, 5, 4⟩) (.var "c" ⟨1, 9, 8⟩) ⟨1, 5, 4⟩)
          ⟨1, 1, 0⟩) := by
  have tree : (Expr.var "a" ⟨1, 1, 0⟩).byPrecedence
      [(.add, .var "b" ⟨1, 5, 4⟩), (.mul, .var "c" ⟨1, 9, 8⟩)] =
        .binary .add (.var "a" ⟨1, 1, 0⟩)
          (.binary .mul (.var "b" ⟨1, 5, 4⟩) (.var "c" ⟨1, 9, 8⟩) ⟨1, 5, 4⟩)
          ⟨1, 1, 0⟩ := by
    cbv
  rw [← tree, (expression_climbs (ofTokens_ends _)
    (operand_name (by decide) (by rfl) (by cbv) (by decide))
    (.cons (by rfl) (operand_name (by decide) (by rfl) (by cbv) (by decide))
      (.cons (by rfl) (operand_name (by decide) (by rfl) (by cbv) (by decide)) (.nil _)))
    (by rfl)).1 51 (by decide)]

end Quill
