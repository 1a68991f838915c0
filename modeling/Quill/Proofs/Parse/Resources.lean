import Quill.Proofs.Parse.Spec

set_option autoImplicit false

/- More fuel and a shallower start never change how a parse ends, unless the poorer run ran
short: whatever else the poorer run answers, the richer run answers too, at the same cursor. -/
namespace Quill

namespace Parser

variable {α β : Type} {spent : ParseFailure → Prop}

/-- A failure for want of fuel or of stack. -/
def Starved : ParseFailure → Prop
  | .exhausted | .tooDeep => True
  | _ => False

variable (spent) in
/-- The run `r'` ends as `r` does, unless `r` failed in a way that `spent` counts as running
short. -/
def Outlasts (r' r : Except ParseFailure α × Cursor) : Prop :=
  r' = r ∨ ∃ e c, r = (.error e, c) ∧ spent e

variable (spent) in
/-- Run from any cursor, `p'` ends as `p` does, unless `p` ran short; `p'` starts no deeper than
`p`, and at the same depth unless running out of stack counts as running short. -/
def Outruns (p' p : Parser α) : Prop :=
  ∀ (d d' : Nat) (c : Cursor), d' ≤ d → spent .tooDeep ∨ d' = d →
    Outlasts spent (p'.exec d' c) (p.exec d c)

theorem Outlasts.refl (r : Except ParseFailure α × Cursor) : Outlasts spent r r := .inl rfl

/-- A parser that never looks at its depth outruns itself. -/
theorem outruns_of_exec {p : Parser α} (steady : ∀ d d' c, p.exec d' c = p.exec d c) :
    Outruns spent p p := fun d d' c _ _ => .inl (steady d d' c)

theorem exhausted_outruns {p : Parser α} (exhausted : spent .exhausted) :
    Outruns spent p (throw .exhausted) :=
  fun _ _ c _ _ => .inr ⟨.exhausted, c, rfl, exhausted⟩

theorem pure_outruns (a : α) : Outruns spent (pure a) (pure a) := outruns_of_exec fun _ _ _ => rfl

theorem throw_outruns (e : ParseFailure) : Outruns spent (throw e : Parser α) (throw e) :=
  outruns_of_exec fun _ _ _ => rfl

theorem get_outruns : Outruns spent (get : Parser Cursor) get := outruns_of_exec fun _ _ _ => rfl

theorem current_outruns : Outruns spent Parse.current Parse.current :=
  outruns_of_exec fun _ _ _ => by rw [exec_current, exec_current]

theorem take_outruns : Outruns spent Parse.take Parse.take :=
  outruns_of_exec fun _ _ _ => by rw [exec_take, exec_take]

theorem expect_outruns (k : TokenKind) (reason : String) :
    Outruns spent (Parse.expect k reason) (Parse.expect k reason) :=
  outruns_of_exec fun _ _ _ => by rw [exec_expect, exec_expect]

theorem expectOneOf_outruns (ks : List TokenKind) :
    Outruns spent (Parse.expectOneOf ks) (Parse.expectOneOf ks) :=
  outruns_of_exec fun _ _ _ => by rw [exec_expectOneOf, exec_expectOneOf]

theorem bind_outruns {p p' : Parser α} {f f' : α → Parser β} (first : Outruns spent p' p)
    (rest : ∀ a, Outruns spent (f' a) (f a)) : Outruns spent (p' >>= f') (p >>= f) := by
  intro d d' c shallower same
  rw [exec_bind, exec_bind]
  rcases first d d' c shallower same with agree | short
  · rw [agree]
    rcases p.exec d c with ⟨e | a, c1⟩
    · exact .refl _
    · exact rest a d d' c1 shallower same
  · obtain ⟨e, c1, ran, short⟩ := short
    rw [ran]
    exact .inr ⟨e, c1, rfl, short⟩

theorem discard_outruns {p p' : Parser α} (h : Outruns spent p' p) :
    Outruns spent (discard p') (discard p) := by
  intro d d' c shallower same
  rw [exec_discard, exec_discard]
  rcases h d d' c shallower same with agree | short
  · rw [agree]
    exact .refl _
  · obtain ⟨e, c1, ran, short⟩ := short
    rw [ran]
    exact .inr ⟨e, c1, rfl, short⟩

theorem ite_outruns {b : Prop} [Decidable b] {p p' q q' : Parser α} (yes : Outruns spent p' p)
    (no : Outruns spent q' q) : Outruns spent (if b then p' else q') (if b then p else q) := by
  by_cases holds : b
  · simpa only [holds, ↓reduceIte] using yes
  · simpa only [holds, ↓reduceIte] using no

/-- A frame that fits the stack in the poorer run fits it in the richer run, which is no deeper;
where it does not fit, the poorer run ran short or both fail alike. -/
theorem frame_outruns {body body' : Parser α} (h : Outruns spent body' body) :
    Outruns spent (Parse.frame body') (Parse.frame body) := by
  intro d d' c shallower same
  rw [exec_frame, exec_frame]
  by_cases deep : Parse.stackLimit < d + 1 + Parse.leafReach
  · rw [if_pos deep]
    rcases same with short | rfl
    · exact .inr ⟨.tooDeep, c, rfl, short⟩
    · rw [if_pos deep]
      exact .refl _
  · rw [if_neg deep, if_neg (by omega)]
    exact h (d + 1) (d' + 1) c (by omega) (same.imp_right fun level => by omega)

/-- What the relation gives: a run of the poorer parser that did not run short is a run of the
richer one too. -/
theorem Outruns.exec_eq {p p' : Parser α} (h : Outruns spent p' p) {d d' : Nat} {c : Cursor}
    (shallower : d' ≤ d) (same : spent .tooDeep ∨ d' = d) {r : Except ParseFailure α × Cursor}
    (ran : p.exec d c = r)
      (full : ∀ e c', r = (.error e, c') → ¬spent e) : p'.exec d' c = r := by
  rcases h d d' c shallower same with agree | ⟨e, c', short, starved⟩
  · rw [agree, ran]
  · exact absurd starved (full e c' (ran.symm.trans short))

/-- Reading one literal token does not depend on the depth, beyond its frame. -/
theorem literal_outruns : Outruns spent Parse.literal Parse.literal := by
  unfold Parse.literal
  refine frame_outruns (bind_outruns take_outruns fun t => ite_outruns ?_ (pure_outruns _))
  split
  · exact pure_outruns _
  · exact throw_outruns _

theorem identifier_outruns : Outruns spent Parse.identifier Parse.identifier := by
  unfold Parse.identifier
  refine frame_outruns (bind_outruns (expect_outruns _ _) fun t => ?_)
  split
  · exact pure_outruns _
  · exact pure_outruns _

theorem updateAfter_outruns
    (arg : Expr) : Outruns spent (Parse.updateAfter arg) (Parse.updateAfter arg) := by
  unfold Parse.updateAfter
  refine frame_outruns (bind_outruns (expectOneOf_outruns _) fun op => ?_)
  split
  · exact pure_outruns _
  · exact throw_outruns _

end Parser

open Quill.Parser

variable {spent : ParseFailure → Prop}

/- One theorem per grammar method, by recursion on the poorer run's fuel together: each method
calls the others at one unit less, on both sides. -/
mutual

theorem statement_outruns (exhausted : spent .exhausted) :
    ∀ n m : Nat, n ≤ m → Outruns spent (Parse.statement m) (Parse.statement n)
  | 0, _, _ => exhausted_outruns exhausted
  | _ + 1, 0, more => by omega
  | n + 1, m + 1, more => by
    have le : n ≤ m := by omega
    rw [Parse.statement, Parse.statement]
    refine frame_outruns (bind_outruns get_outruns fun c => ?_)
    dsimp only
    refine ite_outruns (bind_outruns (assignment_outruns exhausted n m le) fun stmt => ?_)
      (ite_outruns (bind_outruns (block_outruns exhausted n m le) fun stmt => ?_)
        (bind_outruns (expression_outruns exhausted n m le) fun e =>
          bind_outruns (pure_outruns _) fun stmt => ?_))
    all_goals
      refine bind_outruns get_outruns fun c => ite_outruns ?_ (pure_outruns _)
      exact bind_outruns (discard_outruns (expect_outruns _ _)) fun _ => pure_outruns _

theorem block_outruns (exhausted : spent .exhausted) :
    ∀ n m : Nat, n ≤ m → Outruns spent (Parse.block m) (Parse.block n)
  | 0, _, _ => exhausted_outruns exhausted
  | _ + 1, 0, more => by omega
  | n + 1, m + 1, more => by
    have le : n ≤ m := by omega
    rw [Parse.block, Parse.block]
    refine frame_outruns (bind_outruns (expect_outruns _ _) fun start => ?_)
    refine bind_outruns (statements_outruns exhausted n m [] le) fun body => ?_
    exact bind_outruns (discard_outruns (expect_outruns _ _)) fun _ => pure_outruns _

theorem statements_outruns (exhausted : spent .exhausted) :
    ∀ (n m : Nat) (acc : List Stmt), n ≤ m →
    Outruns spent (Parse.statements m acc) (Parse.statements n acc)
  | 0, _, _, _ => exhausted_outruns exhausted
  | _ + 1, 0, _, more => by omega
  | n + 1, m + 1, acc, more => by
    have le : n ≤ m := by omega
    rw [Parse.statements, Parse.statements]
    refine bind_outruns get_outruns fun c => ite_outruns (pure_outruns _) ?_
    exact bind_outruns
      (statement_outruns exhausted n m le) fun s => statements_outruns exhausted n m (s :: acc) le

theorem assignment_outruns (exhausted : spent .exhausted) :
    ∀ n m : Nat, n ≤ m → Outruns spent (Parse.assignment m) (Parse.assignment n)
  | 0, _, _ => exhausted_outruns exhausted
  | _ + 1, 0, more => by omega
  | n + 1, m + 1, more => by
    have le : n ≤ m := by omega
    rw [Parse.assignment, Parse.assignment]
    refine frame_outruns (bind_outruns (expect_outruns _ _) fun name => ?_)
    refine bind_outruns (discard_outruns (expect_outruns _ _)) fun _ => ?_
    exact bind_outruns (expression_outruns exhausted n m le) fun value => pure_outruns _

theorem expression_outruns (exhausted : spent .exhausted) :
    ∀ n m : Nat, n ≤ m → Outruns spent (Parse.expression m) (Parse.expression n)
  | 0, _, _ => exhausted_outruns exhausted
  | _ + 1, 0, more => by omega
  | n + 1, m + 1, more => by
    have le : n ≤ m := by omega
    rw [Parse.expression, Parse.expression]
    refine frame_outruns (bind_outruns (primary_outruns exhausted n m le) fun e => ?_)
    refine bind_outruns current_outruns fun t => ?_
    exact ite_outruns (frame_outruns (operations_outruns exhausted n m e le)) (pure_outruns _)

theorem operations_outruns (exhausted : spent .exhausted) :
    ∀ (n m : Nat) (left : Expr), n ≤ m →
    Outruns spent (Parse.operations m left) (Parse.operations n left)
  | 0, _, _, _ => exhausted_outruns exhausted
  | _ + 1, 0, _, more => by omega
  | n + 1, m + 1, left, more => by
    have le : n ≤ m := by omega
    rw [Parse.operations, Parse.operations]
    refine bind_outruns current_outruns fun t => ?_
    cases BinaryOp.ofToken? t.kind with
    | none => exact pure_outruns _
    | some op =>
      exact bind_outruns (operation_outruns exhausted n m op left le) fun left =>
        operations_outruns exhausted n m left le

theorem operation_outruns (exhausted : spent .exhausted) :
    ∀ (n m : Nat) (op : BinaryOp) (left : Expr), n ≤ m →
    Outruns spent (Parse.operation m op left) (Parse.operation n op left)
  | 0, _, _, _, _ => exhausted_outruns exhausted
  | _ + 1, 0, _, _, more => by omega
  | n + 1, m + 1, op, left, more => by
    have le : n ≤ m := by omega
    rw [Parse.operation, Parse.operation]
    refine frame_outruns (bind_outruns (discard_outruns take_outruns) fun _ => ?_)
    refine bind_outruns (primary_outruns exhausted n m le) fun right => ?_
    exact bind_outruns
      (tighter_outruns exhausted n m op.precedence right le) fun right => pure_outruns _

theorem tighter_outruns (exhausted : spent .exhausted) :
    ∀ (n m prec : Nat) (right : Expr), n ≤ m →
    Outruns spent (Parse.tighter m prec right) (Parse.tighter n prec right)
  | 0, _, _, _, _ => exhausted_outruns exhausted
  | _ + 1, 0, _, _, more => by omega
  | n + 1, m + 1, prec, right, more => by
    have le : n ≤ m := by omega
    rw [Parse.tighter, Parse.tighter]
    refine bind_outruns current_outruns fun t => ?_
    cases BinaryOp.ofToken? t.kind with
    | none => exact pure_outruns _
    | some op =>
      refine ite_outruns ?_ (pure_outruns _)
      exact bind_outruns (operation_outruns exhausted n m op right le) fun right =>
        tighter_outruns exhausted n m prec right le

theorem primary_outruns (exhausted : spent .exhausted) :
    ∀ n m : Nat, n ≤ m → Outruns spent (Parse.primary m) (Parse.primary n)
  | 0, _, _ => exhausted_outruns exhausted
  | _ + 1, 0, more => by omega
  | n + 1, m + 1, more => by
    have le : n ≤ m := by omega
    rw [Parse.primary, Parse.primary]
    refine frame_outruns (bind_outruns current_outruns fun tok => ?_)
    dsimp only
    have rest : ∀ e, Outruns spent (Parse.frame (Parse.suffixes m e))
      (Parse.frame (Parse.suffixes n e)) :=
      fun e => frame_outruns (suffixes_outruns exhausted n m e le)
    split
    · exact bind_outruns literal_outruns rest
    · exact bind_outruns literal_outruns rest
    · exact bind_outruns identifier_outruns rest
    · exact bind_outruns (array_outruns exhausted n m le) rest
    · exact bind_outruns (mapping_outruns exhausted n m le) rest
    · exact bind_outruns (paren_outruns exhausted n m le) rest
    · exact bind_outruns (updateBefore_outruns exhausted n m le) rest
    · exact bind_outruns (updateBefore_outruns exhausted n m le) rest
    · exact bind_outruns (unary_outruns exhausted n m le) rest
    · exact bind_outruns (unary_outruns exhausted n m le) rest
    · exact bind_outruns (unary_outruns exhausted n m le) rest
    · exact bind_outruns (throw_outruns _) rest

theorem suffixes_outruns (exhausted : spent .exhausted) :
    ∀ (n m : Nat) (e : Expr), n ≤ m →
    Outruns spent (Parse.suffixes m e) (Parse.suffixes n e)
  | 0, _, _, _ => exhausted_outruns exhausted
  | _ + 1, 0, _, more => by omega
  | n + 1, m + 1, e, more => by
    have le : n ≤ m := by omega
    rw [Parse.suffixes, Parse.suffixes]
    refine bind_outruns current_outruns fun t => ?_
    split
    · exact bind_outruns
        (arguments_outruns exhausted n m le) fun args => suffixes_outruns exhausted n m _ le
    · exact bind_outruns
        (member_outruns exhausted n m e le) fun e => suffixes_outruns exhausted n m e le
    · exact bind_outruns
        (indexing_outruns exhausted n m e le) fun e => suffixes_outruns exhausted n m e le
    · exact bind_outruns (updateAfter_outruns e) fun e => suffixes_outruns exhausted n m e le
    · exact bind_outruns (updateAfter_outruns e) fun e => suffixes_outruns exhausted n m e le
    · exact pure_outruns _

theorem member_outruns (exhausted : spent .exhausted) :
    ∀ (n m : Nat) (obj : Expr), n ≤ m →
    Outruns spent (Parse.member m obj) (Parse.member n obj)
  | 0, _, _, _ => exhausted_outruns exhausted
  | _ + 1, 0, _, more => by omega
  | n + 1, m + 1, obj, more => by
    have le : n ≤ m := by omega
    rw [Parse.member, Parse.member]
    refine frame_outruns (bind_outruns (discard_outruns (expect_outruns _ _)) fun _ => ?_)
    refine bind_outruns (expect_outruns _ _) fun name => ?_
    refine bind_outruns get_outruns fun c => ite_outruns ?_ (pure_outruns _)
    exact bind_outruns (arguments_outruns exhausted n m le) fun args => pure_outruns _

theorem indexing_outruns (exhausted : spent .exhausted) :
    ∀ (n m : Nat) (obj : Expr), n ≤ m →
    Outruns spent (Parse.indexing m obj) (Parse.indexing n obj)
  | 0, _, _, _ => exhausted_outruns exhausted
  | _ + 1, 0, _, more => by omega
  | n + 1, m + 1, obj, more => by
    have le : n ≤ m := by omega
    rw [Parse.indexing, Parse.indexing]
    refine frame_outruns (bind_outruns (discard_outruns (expect_outruns _ _)) fun _ => ?_)
    refine bind_outruns (expression_outruns exhausted n m le) fun key => ?_
    exact bind_outruns (discard_outruns (expect_outruns _ _)) fun _ => pure_outruns _

theorem unary_outruns (exhausted : spent .exhausted) :
    ∀ n m : Nat, n ≤ m → Outruns spent (Parse.unary m) (Parse.unary n)
  | 0, _, _ => exhausted_outruns exhausted
  | _ + 1, 0, more => by omega
  | n + 1, m + 1, more => by
    have le : n ≤ m := by omega
    rw [Parse.unary, Parse.unary]
    refine frame_outruns (bind_outruns take_outruns fun op => ?_)
    refine bind_outruns (primary_outruns exhausted n m le) fun arg => ?_
    cases UnaryOp.ofToken? op.kind with
    | none => exact throw_outruns _
    | some u => exact pure_outruns _

theorem updateBefore_outruns (exhausted : spent .exhausted) :
    ∀ n m : Nat, n ≤ m →
    Outruns spent (Parse.updateBefore m) (Parse.updateBefore n)
  | 0, _, _ => exhausted_outruns exhausted
  | _ + 1, 0, more => by omega
  | n + 1, m + 1, more => by
    have le : n ≤ m := by omega
    rw [Parse.updateBefore, Parse.updateBefore]
    refine frame_outruns (bind_outruns (expectOneOf_outruns _) fun op => ?_)
    refine bind_outruns (primary_outruns exhausted n m le) fun arg => ?_
    split
    · exact pure_outruns _
    · exact throw_outruns _

theorem paren_outruns (exhausted : spent .exhausted) :
    ∀ n m : Nat, n ≤ m → Outruns spent (Parse.paren m) (Parse.paren n)
  | 0, _, _ => exhausted_outruns exhausted
  | _ + 1, 0, more => by omega
  | n + 1, m + 1, more => by
    have le : n ≤ m := by omega
    rw [Parse.paren, Parse.paren]
    refine frame_outruns (bind_outruns (discard_outruns (expect_outruns _ _)) fun _ => ?_)
    refine bind_outruns (expression_outruns exhausted n m le) fun e => ?_
    exact bind_outruns (discard_outruns (expect_outruns _ _)) fun _ => pure_outruns _

theorem array_outruns (exhausted : spent .exhausted) :
    ∀ n m : Nat, n ≤ m → Outruns spent (Parse.array m) (Parse.array n)
  | 0, _, _ => exhausted_outruns exhausted
  | _ + 1, 0, more => by omega
  | n + 1, m + 1, more => by
    have le : n ≤ m := by omega
    rw [Parse.array, Parse.array]
    refine frame_outruns (bind_outruns (expect_outruns _ _) fun start => ?_)
    refine bind_outruns (listed_outruns exhausted n m _ _ [] le) fun items => ?_
    exact bind_outruns (discard_outruns (expect_outruns _ _)) fun _ => pure_outruns _

theorem listed_outruns (exhausted : spent .exhausted) :
    ∀ (n m : Nat) (close : TokenKind) (sep : String) (acc : List Expr),
    n ≤ m → Outruns spent (Parse.listed m close sep acc) (Parse.listed n close sep acc)
  | 0, _, _, _, _, _ => exhausted_outruns exhausted
  | _ + 1, 0, _, _, _, more => by omega
  | n + 1, m + 1, close, sep, acc, more => by
    have le : n ≤ m := by omega
    rw [Parse.listed, Parse.listed]
    refine bind_outruns get_outruns fun c => ite_outruns (pure_outruns _) ?_
    dsimp only
    refine ite_outruns (bind_outruns (discard_outruns (expect_outruns _ _)) fun _ => ?_) ?_
    all_goals
      exact bind_outruns
        (expression_outruns exhausted n m le) fun e => listed_outruns exhausted n m close sep
        (e :: acc) le

theorem mapping_outruns (exhausted : spent .exhausted) :
    ∀ n m : Nat, n ≤ m → Outruns spent (Parse.mapping m) (Parse.mapping n)
  | 0, _, _ => exhausted_outruns exhausted
  | _ + 1, 0, more => by omega
  | n + 1, m + 1, more => by
    have le : n ≤ m := by omega
    rw [Parse.mapping, Parse.mapping]
    refine frame_outruns (bind_outruns (expect_outruns _ _) fun start => ?_)
    refine bind_outruns (entries_outruns exhausted n m [] le) fun entries => ?_
    exact bind_outruns (discard_outruns (expect_outruns _ _)) fun _ => pure_outruns _

theorem entries_outruns (exhausted : spent .exhausted) :
    ∀ (n m : Nat) (acc : List (MapKey × Expr)), n ≤ m →
    Outruns spent (Parse.entries m acc) (Parse.entries n acc)
  | 0, _, _, _ => exhausted_outruns exhausted
  | _ + 1, 0, _, more => by omega
  | n + 1, m + 1, acc, more => by
    have le : n ≤ m := by omega
    rw [Parse.entries, Parse.entries]
    refine bind_outruns get_outruns fun c => ite_outruns (pure_outruns _) ?_
    dsimp only
    refine ite_outruns (bind_outruns (discard_outruns (expect_outruns _ _)) fun _ => ?_) ?_
    all_goals
      refine bind_outruns (expect_outruns _ _) fun key => ?_
      refine bind_outruns (discard_outruns (expect_outruns _ _)) fun _ => ?_
      exact bind_outruns
        (expression_outruns exhausted n m le) fun value => entries_outruns exhausted n m _ le

theorem arguments_outruns (exhausted : spent .exhausted) :
    ∀ n m : Nat, n ≤ m → Outruns spent (Parse.arguments m) (Parse.arguments n)
  | 0, _, _ => exhausted_outruns exhausted
  | _ + 1, 0, more => by omega
  | n + 1, m + 1, more => by
    have le : n ≤ m := by omega
    rw [Parse.arguments, Parse.arguments]
    refine frame_outruns (bind_outruns (discard_outruns (expect_outruns _ _)) fun _ => ?_)
    refine bind_outruns (listed_outruns exhausted n m _ _ [] le) fun args => ?_
    exact bind_outruns (discard_outruns (expect_outruns _ _)) fun _ => pure_outruns _

end

/-- The statements of a program, read with more fuel from no deeper, end alike. -/
theorem program_outruns (exhausted : spent .exhausted) (n : Nat) :
    ∀ (m : Nat) (acc : List Stmt), n ≤ m →
      Outruns spent (Parse.program m acc) (Parse.program n acc) := by
  induction n with
  | zero => exact fun _ _ _ => exhausted_outruns exhausted
  | succ n ih =>
    intro m acc more
    obtain ⟨m, rfl⟩ : ∃ k, m = k + 1 := ⟨m - 1, by omega⟩
    rw [Parse.program, Parse.program]
    refine bind_outruns get_outruns fun c => ite_outruns (pure_outruns _) ?_
    exact bind_outruns (statement_outruns exhausted n m (by omega)) fun s =>
      ih m (s :: acc) (by omega)

theorem programAt_outruns (exhausted : spent .exhausted) {n m : Nat} (le : n ≤ m) :
    Outruns spent (Parse.programAt m) (Parse.programAt n) := by
  unfold Parse.programAt
  refine frame_outruns (bind_outruns current_outruns fun start => ?_)
  exact bind_outruns (program_outruns exhausted n m [] le) fun body => pure_outruns _

end Quill
