import Mathlib.Data.List.TakeWhile
import Quill.Proofs.Cursor.Reachable
import Quill.Proofs.Parse.Resources
import Quill.Proofs.Parse.Budget

set_option autoImplicit false

/- What lies past the first end of input: one bit, whether a colon follows it, which the
statement rule sees when it tells a block from a map. The proof runs the parser on two cursors
side by side. -/
namespace Quill

/-- The tokens up to and including the first end of input, comments dropped; all of them when
there is no end of input. -/
def throughEnd (ts : List Token) : List Token :=
  let kept := ts.filter (·.kind != .comment)
  kept.take ((kept.takeWhile (·.kind != .eof)).length + 1)

/-- Whether the first token after the first end of input, comments dropped, is a colon. -/
def colonPastEnd (ts : List Token) : Bool :=
  let kept := ts.filter (·.kind != .comment)
  match kept.drop ((kept.takeWhile (·.kind != .eof)).length + 1) with
  | t :: _ => t.kind == .colon
  | [] => false

section Split

variable {ts w r : List Token} {x : Token}

/-- A list of tokens either reaches an end of input, after tokens that are not one, or holds
none. -/
theorem first_eof_or_none (kept : List Token) :
    (∃ w x r, kept = w ++ x :: r ∧ (∀ t ∈ w, t.kind ≠ .eof) ∧ x.kind = .eof) ∨
      ∀ t ∈ kept, t.kind ≠ .eof := by
  induction kept with
  | nil => exact .inr (by simp)
  | cons t kept ih =>
    by_cases ended : t.kind = .eof
    · exact .inl ⟨[], t, kept, rfl, by simp, ended⟩
    · rcases ih with ⟨w, x, r, rfl, plain, eof⟩ | plain
      · exact .inl ⟨t :: w, x, r, rfl, List.forall_mem_cons.mpr ⟨ended, plain⟩, eof⟩
      · exact .inr (List.forall_mem_cons.mpr ⟨ended, plain⟩)

theorem takeWhile_split (plain : ∀ t ∈ w, t.kind ≠ .eof) (eof : x.kind = .eof) :
    (w ++ x :: r).takeWhile (·.kind != .eof) = w := by
  rw [List.takeWhile_append_of_pos (by simpa using plain),
    List.takeWhile_cons_of_neg (by simp [eof]), List.append_nil]

theorem throughEnd_split (split : ts.filter (·.kind != .comment) = w ++ x :: r)
    (plain : ∀ t ∈ w, t.kind ≠ .eof) (eof : x.kind = .eof) : throughEnd ts = w ++ [x] := by
  simp only [throughEnd, split, takeWhile_split plain eof, List.take_length_add_append,
    List.take_succ_cons, List.take_zero]

theorem throughEnd_plain (plain : ∀ t ∈ ts.filter (·.kind != .comment), t.kind ≠ .eof) :
    throughEnd ts = ts.filter (·.kind != .comment) := by
  have whole : (ts.filter (·.kind != .comment)).takeWhile (·.kind != .eof) =
      ts.filter (·.kind != .comment) := List.takeWhile_eq_self_iff.mpr (by simpa using plain)
  simp only [throughEnd, whole]
  exact List.take_of_length_le (Nat.le_succ _)

/-- Past the first end of input the readable tokens go on as the written ones do, comments
dropped: the same first token, or none. -/
theorem readable_split (split : ts.filter (·.kind != .comment) = w ++ x :: r)
    (eof : x.kind = .eof) :
    ∃ r', readable ts = w ++ x :: r' ∧ r'.head? = r.head? := by
  have reads := readable_readsAs ts
  dsimp only [ReadsAs] at reads
  rw [split] at reads
  rcases reads with ⟨-, same⟩ | ⟨open_, t, -, same⟩
  · exact ⟨r, same, rfl⟩
  · -- an end of input is added only when the written tokens do not end with one
    cases r with
    | nil => simp [eof] at open_
    | cons y r => exact ⟨y :: r ++ [t], by simp [same], rfl⟩

end Split

namespace Cursor

variable {e : Nat} {c c1 c2 : Cursor}

/-- The token at place `i` of the cursor's tokens; past them, the last. -/
def tokenAt (c : Cursor) (i : Nat) : Token := if h : i < c.items.size then c.items[i] else c.last

theorem peek_eq_tokenAt (c : Cursor) (n : Nat) : c.peek n = c.tokenAt (c.index + n) := rfl

theorem tokenAt_of_items {c' : Cursor} (same : c'.items = c.items) (i : Nat) :
    c'.tokenAt i = c.tokenAt i := by
  simp only [tokenAt, last, same]

/-- Two cursors read alike up to the end of input at place `e`: they stand at the same place,
not past `e`, their tokens agree up to `e`, and they agree whether the token after `e` is a
colon. -/
structure AgreeTo (e : Nat) (c1 c2 : Cursor) : Prop where
  index : c1.index = c2.index
  within : c1.index ≤ e
  tokens : ∀ i ≤ e, c1.items[i]? = c2.items[i]?
  stop : (c1.items[e]?).map Token.kind = some .eof
  colon : (c1.tokenAt (e + 1)).kind = .colon ↔ (c2.tokenAt (e + 1)).kind = .colon

namespace AgreeTo

theorem lt_size (agree : AgreeTo e c1 c2) : e < c1.items.size ∧ e < c2.items.size := by
  have first : e < c1.items.size := by
    rcases Nat.lt_or_ge e c1.items.size with inside | beyond
    · exact inside
    · have := agree.stop
      rw [Array.getElem?_eq_none beyond] at this
      cases this
  refine ⟨first, ?_⟩
  have same := agree.tokens e (Nat.le_refl e)
  rw [Array.getElem?_eq_getElem first] at same
  rcases Nat.lt_or_ge e c2.items.size with inside | beyond
  · exact inside
  · rw [Array.getElem?_eq_none beyond] at same
    cases same

/-- Up to the end of input the two cursors hold the same tokens. -/
theorem tokenAt_eq (agree : AgreeTo e c1 c2) {i : Nat} (le : i ≤ e) :
    c1.tokenAt i = c2.tokenAt i := by
  obtain ⟨inside1, inside2⟩ := agree.lt_size
  have same := agree.tokens i le
  rw [Array.getElem?_eq_getElem (by omega), Array.getElem?_eq_getElem (by omega),
    Option.some.injEq] at same
  simp [tokenAt, show i < c1.items.size by omega, show i < c2.items.size by omega, same]

theorem tokenAt_end (agree : AgreeTo e c1 c2) : (c1.tokenAt e).kind = .eof := by
  have inside := agree.lt_size.1
  have ended := agree.stop
  rw [Array.getElem?_eq_getElem inside] at ended
  simpa [tokenAt, inside] using ended

theorem current (agree : AgreeTo e c1 c2) : c1.current = c2.current := by
  rw [Cursor.current, Cursor.current, peek_eq_tokenAt, peek_eq_tokenAt, ← agree.index]
  exact agree.tokenAt_eq (by simpa using agree.within)

theorem atEnd (agree : AgreeTo e c1 c2) : c1.atEnd = c2.atEnd := by
  simp only [Cursor.atEnd, agree.current]

theorem test (agree : AgreeTo e c1 c2) (k : TokenKind) : c1.test k = c2.test k := by
  simp only [Cursor.test, agree.current]

theorem testAny (agree : AgreeTo e c1 c2)
    (ks : List TokenKind) : c1.testAny ks = c2.testAny ks := by
  simp only [Cursor.testAny, agree.current]

/-- At the end of input itself the cursor reads an end of input. -/
theorem atEnd_of_index (agree : AgreeTo e c1 c2)
    (last : c1.index = e) : c1.current.kind = .eof := by
  rw [Cursor.current, peek_eq_tokenAt, Nat.add_zero, last]
  exact agree.tokenAt_end

theorem of_items {c1' c2' : Cursor} (agree : AgreeTo e c1 c2) (same1 : c1'.items = c1.items)
    (same2 : c2'.items = c2.items) (index : c1'.index = c2'.index) (within : c1'.index ≤ e) :
    AgreeTo e c1' c2' := by
  refine ⟨index, within, by simpa [same1, same2] using agree.tokens,
    by simpa [same1] using agree.stop, ?_⟩
  rw [tokenAt_of_items same1, tokenAt_of_items same2]
  exact agree.colon

/-- Reading a token keeps the two cursors reading alike: both step past it, or both stay at an
end of input. -/
theorem advance (agree : AgreeTo e c1 c2) : AgreeTo e c1.advance c2.advance := by
  cases stop : c1.atEnd with
  | true =>
    rw [advance_eq_of_atEnd stop, advance_eq_of_atEnd (agree.atEnd ▸ stop)]
    exact agree
  | false =>
    have stop2 : c2.atEnd = false := agree.atEnd ▸ stop
    have before : c1.index < e := by
      rcases Nat.lt_or_ge c1.index e with lt | ge
      · exact lt
      · have := agree.atEnd_of_index (Nat.le_antisymm agree.within ge)
        simp [Cursor.atEnd, this] at stop
    have moved1 : c1.advance.index = c1.index + 1 := by simp [Cursor.advance, stop]
    have moved2 : c2.advance.index = c2.index + 1 := by simp [Cursor.advance, stop2]
    exact agree.of_items advance_items advance_items (by rw [moved1, moved2, agree.index])
      (by rw [moved1]; omega)

/-- The test for an assignment, a name followed by `=`, comes out alike: at the end of input it
fails on the current token, and before it both tokens are shared. -/
theorem assigns (agree : AgreeTo e c1 c2) :
    (c1.current.kind == .ident && (c1.peek 1).kind == .assign) =
      (c2.current.kind == .ident && (c2.peek 1).kind == .assign) := by
  simp only [Cursor.current, peek_eq_tokenAt, Nat.add_zero, ← agree.index]
  rcases Nat.lt_or_ge c1.index e with before | last
  · rw [agree.tokenAt_eq (by omega), agree.tokenAt_eq (i := c1.index + 1) (by omega)]
  · obtain rfl := Nat.le_antisymm agree.within last
    rw [agree.tokenAt_end, ← agree.tokenAt_eq (Nat.le_refl _), agree.tokenAt_end]
    rfl

/-- The test for a block comes out alike: right before the end of input its second token lies
past that end, where the two cursors agree on whether it is a colon. -/
theorem opensBlock (agree : AgreeTo e c1 c2) :
    (c1.current.kind == .lbrace && (c1.peek 1).kind != .rbrace && (c1.peek 2).kind != .colon) =
      (c2.current.kind == .lbrace && (c2.peek 1).kind != .rbrace &&
        (c2.peek 2).kind != .colon) := by
  simp only [Cursor.current, peek_eq_tokenAt, Nat.add_zero, ← agree.index]
  rcases Nat.lt_or_ge (c1.index + 1) e with early | late
  · rw [agree.tokenAt_eq (by omega), agree.tokenAt_eq (i := c1.index + 1) (by omega),
      agree.tokenAt_eq (i := c1.index + 2) (by omega)]
  · rcases Nat.lt_or_ge c1.index e with before | last
    · -- the second token ahead is the one past the end of input
      have next : c1.index + 2 = e + 1 := by omega
      have colon : ((c1.tokenAt (e + 1)).kind != .colon) =
        ((c2.tokenAt (e + 1)).kind != .colon) := by
        rw [Bool.eq_iff_iff, bne_iff_ne, bne_iff_ne, ne_eq, ne_eq, agree.colon]
      rw [agree.tokenAt_eq (by omega), agree.tokenAt_eq (i := c1.index + 1) (by omega), next, colon]
    · obtain rfl := Nat.le_antisymm agree.within last
      rw [agree.tokenAt_end, ← agree.tokenAt_eq (Nat.le_refl _), agree.tokenAt_end]
      rfl

/-- A cursor at the start of its tokens reads as itself up to its last token. -/
theorem refl (ends : c.Ends) (start : c.index = 0) : AgreeTo (c.items.size - 1) c c := by
  refine ⟨rfl, by omega, fun _ _ => rfl, ?_, Iff.rfl⟩
  have inside : c.items.size - 1 < c.items.size := by have := c.nonempty; omega
  rw [Array.getElem?_eq_getElem inside]
  exact congrArg some ends

end AgreeTo

end Cursor

namespace Parser

open Cursor

variable {α β : Type} {e : Nat}

/-- Run from two cursors that read alike up to the end of input at `e`, `p` ends alike: with
the same outcome, at two cursors that again read alike. -/
def Mirrors (e : Nat) (p : Parser α) : Prop :=
  ∀ d c1 c2, AgreeTo e c1 c2 →
    (p.exec d c1).1 = (p.exec d c2).1 ∧ AgreeTo e (p.exec d c1).2 (p.exec d c2).2

theorem pure_mirrors (a : α) : Mirrors e (pure a) := fun _ _ _ agree => ⟨rfl, agree⟩

theorem throw_mirrors (err : ParseFailure) : Mirrors e (throw err : Parser α) :=
  fun _ _ _ agree => ⟨rfl, agree⟩

theorem current_mirrors : Mirrors e Parse.current := by
  intro d c1 c2 agree
  rw [exec_current, exec_current]
  exact ⟨by rw [agree.current], agree⟩

theorem take_mirrors : Mirrors e Parse.take := by
  intro d c1 c2 agree
  rw [exec_take, exec_take]
  exact ⟨by rw [agree.current], agree.advance⟩

theorem expect_mirrors (k : TokenKind) (reason : String) : Mirrors e (Parse.expect k reason) := by
  intro d c1 c2 agree
  rw [exec_expect, exec_expect]
  unfold Cursor.expect
  rw [agree.test k]
  by_cases found : c2.test k
  · simp only [found, ↓reduceIte, Cursor.next]
    exact ⟨by rw [agree.current], agree.advance⟩
  · simp only [found, Bool.false_eq_true, ↓reduceIte, Cursor.missing]
    exact ⟨by rw [agree.current], agree⟩

theorem expectOneOf_mirrors (ks : List TokenKind) : Mirrors e (Parse.expectOneOf ks) := by
  intro d c1 c2 agree
  rw [exec_expectOneOf, exec_expectOneOf]
  unfold Cursor.expectOneOf
  rw [agree.testAny ks]
  by_cases found : c2.testAny ks
  · simp only [found, ↓reduceIte, Cursor.next]
    exact ⟨by rw [agree.current], agree.advance⟩
  · simp only [found, Bool.false_eq_true, ↓reduceIte, Cursor.missing]
    exact ⟨by rw [agree.current], agree⟩

theorem bind_mirrors {p : Parser α} {f : α → Parser β} (first : Mirrors e p)
    (rest : ∀ a, Mirrors e (f a)) : Mirrors e (p >>= f) := by
  intro d c1 c2 agree
  rw [exec_bind, exec_bind]
  obtain ⟨same, agree'⟩ := first d c1 c2 agree
  revert same agree'
  rcases p.exec d c1 with ⟨r1, c1'⟩
  rcases p.exec d c2 with ⟨r2, c2'⟩
  rintro (rfl : r1 = r2) agree'
  cases r1 with
  | error err => exact ⟨rfl, agree'⟩
  | ok a => exact rest a d c1' c2' agree'

theorem discard_mirrors {p : Parser α} (h : Mirrors e p) : Mirrors e (discard p) := by
  intro d c1 c2 agree
  rw [exec_discard, exec_discard]
  obtain ⟨same, agree'⟩ := h d c1 c2 agree
  revert same agree'
  rcases p.exec d c1 with ⟨r1, c1'⟩
  rcases p.exec d c2 with ⟨r2, c2'⟩
  rintro (rfl : r1 = r2) agree'
  cases r1 <;> exact ⟨rfl, agree'⟩

theorem ite_mirrors {b : Prop} [Decidable b] {p q : Parser α} (yes : Mirrors e p)
    (no : Mirrors e q) :
    Mirrors e (if b then p else q) := by
  by_cases holds : b
  · simpa only [holds, ↓reduceIte] using yes
  · simpa only [holds, ↓reduceIte] using no

/-- A frame asks only the depth, which the two runs share. -/
theorem frame_mirrors {body : Parser α} (h : Mirrors e body) : Mirrors e (Parse.frame body) := by
  intro d c1 c2 agree
  rw [exec_frame, exec_frame]
  split
  · exact ⟨rfl, agree⟩
  · exact h (d + 1) c1 c2 agree

/-- What follows a look at the cursor runs alike when it asks of the cursor only what two
cursors reading alike answer alike. -/
theorem get_mirrors {f : Cursor → Parser α} (steady : ∀ c1 c2, AgreeTo e c1 c2 → f c1 = f c2)
    (each : ∀ c, Mirrors e (f c)) : Mirrors e (get >>= f) := by
  intro d c1 c2 agree
  rw [exec_bind, exec_bind, exec_get, exec_get]
  dsimp only
  rw [steady c1 c2 agree]
  exact each c2 d c1 c2 agree

theorem literal_mirrors : Mirrors e Parse.literal := by
  unfold Parse.literal
  refine frame_mirrors (bind_mirrors take_mirrors fun t => ite_mirrors ?_ (pure_mirrors _))
  split
  · exact pure_mirrors _
  · exact throw_mirrors _

theorem identifier_mirrors : Mirrors e Parse.identifier := by
  unfold Parse.identifier
  refine frame_mirrors (bind_mirrors (expect_mirrors _ _) fun t => ?_)
  split
  · exact pure_mirrors _
  · exact pure_mirrors _

theorem updateAfter_mirrors (arg : Expr) : Mirrors e (Parse.updateAfter arg) := by
  unfold Parse.updateAfter
  refine frame_mirrors (bind_mirrors (expectOneOf_mirrors _) fun op => ?_)
  split
  · exact pure_mirrors _
  · exact throw_mirrors _

end Parser

open Quill.Parser

variable {e : Nat}

/- One theorem per grammar method, by recursion on the fuel: each method looks at the cursor
only through the current token, the two after it when a statement chooses its form, and the
tests that two cursors reading alike answer alike. -/
mutual

theorem statement_mirrors : ∀ n, Mirrors e (Parse.statement n)
  | 0 => by rw [Parse.statement]; exact throw_mirrors _
  | n + 1 => by
    rw [Parse.statement]
    refine frame_mirrors (get_mirrors (fun c1 c2 agree => ?_) fun c => ?_)
    · dsimp only
      rw [agree.assigns, agree.opensBlock, agree.current]
    dsimp only
    refine ite_mirrors (bind_mirrors (assignment_mirrors n) fun stmt => ?_)
      (ite_mirrors (bind_mirrors (block_mirrors n) fun stmt => ?_)
        (bind_mirrors (expression_mirrors n) fun e => bind_mirrors (pure_mirrors _) fun stmt => ?_))
    all_goals
      refine get_mirrors (fun c1 c2 agree => by rw [agree.atEnd]) fun c => ite_mirrors ?_
        (pure_mirrors _)
      exact bind_mirrors (discard_mirrors (expect_mirrors _ _)) fun _ => pure_mirrors _

theorem block_mirrors : ∀ n, Mirrors e (Parse.block n)
  | 0 => by rw [Parse.block]; exact throw_mirrors _
  | n + 1 => by
    rw [Parse.block]
    refine frame_mirrors (bind_mirrors (expect_mirrors _ _) fun start => ?_)
    refine bind_mirrors (statements_mirrors n []) fun body => ?_
    exact bind_mirrors (discard_mirrors (expect_mirrors _ _)) fun _ => pure_mirrors _

theorem statements_mirrors : ∀ (n : Nat) (acc : List Stmt), Mirrors e (Parse.statements n acc)
  | 0, _ => by rw [Parse.statements]; exact throw_mirrors _
  | n + 1, acc => by
    rw [Parse.statements]
    refine get_mirrors (fun c1 c2 agree => by rw [agree.testAny]) fun c => ite_mirrors
      (pure_mirrors _) ?_
    exact bind_mirrors (statement_mirrors n) fun s => statements_mirrors n (s :: acc)

theorem assignment_mirrors : ∀ n, Mirrors e (Parse.assignment n)
  | 0 => by rw [Parse.assignment]; exact throw_mirrors _
  | n + 1 => by
    rw [Parse.assignment]
    refine frame_mirrors (bind_mirrors (expect_mirrors _ _) fun name => ?_)
    refine bind_mirrors (discard_mirrors (expect_mirrors _ _)) fun _ => ?_
    exact bind_mirrors (expression_mirrors n) fun value => pure_mirrors _

theorem expression_mirrors : ∀ n, Mirrors e (Parse.expression n)
  | 0 => by rw [Parse.expression]; exact throw_mirrors _
  | n + 1 => by
    rw [Parse.expression]
    refine frame_mirrors (bind_mirrors (primary_mirrors n) fun e => ?_)
    refine bind_mirrors current_mirrors fun t => ?_
    exact ite_mirrors (frame_mirrors (operations_mirrors n e)) (pure_mirrors _)

theorem operations_mirrors : ∀ (n : Nat) (left : Expr), Mirrors e (Parse.operations n left)
  | 0, _ => by rw [Parse.operations]; exact throw_mirrors _
  | n + 1, left => by
    rw [Parse.operations]
    refine bind_mirrors current_mirrors fun t => ?_
    cases BinaryOp.ofToken? t.kind with
    | none => exact pure_mirrors _
    | some op =>
      exact bind_mirrors (operation_mirrors n op left) fun left => operations_mirrors n left

theorem operation_mirrors : ∀ (n : Nat) (op : BinaryOp) (left : Expr),
    Mirrors e (Parse.operation n op left)
  | 0, _, _ => by rw [Parse.operation]; exact throw_mirrors _
  | n + 1, op, left => by
    rw [Parse.operation]
    refine frame_mirrors (bind_mirrors (discard_mirrors take_mirrors) fun _ => ?_)
    refine bind_mirrors (primary_mirrors n) fun right => ?_
    exact bind_mirrors (tighter_mirrors n op.precedence right) fun right => pure_mirrors _

theorem tighter_mirrors : ∀ (n prec : Nat) (right : Expr), Mirrors e (Parse.tighter n prec right)
  | 0, _, _ => by rw [Parse.tighter]; exact throw_mirrors _
  | n + 1, prec, right => by
    rw [Parse.tighter]
    refine bind_mirrors current_mirrors fun t => ?_
    cases BinaryOp.ofToken? t.kind with
    | none => exact pure_mirrors _
    | some op =>
      refine ite_mirrors ?_ (pure_mirrors _)
      exact bind_mirrors (operation_mirrors n op right) fun right => tighter_mirrors n prec right

theorem primary_mirrors : ∀ n, Mirrors e (Parse.primary n)
  | 0 => by rw [Parse.primary]; exact throw_mirrors _
  | n + 1 => by
    rw [Parse.primary]
    refine frame_mirrors (bind_mirrors current_mirrors fun tok => ?_)
    dsimp only
    have rest : ∀ e', Mirrors e (Parse.frame (Parse.suffixes n e')) :=
      fun e' => frame_mirrors (suffixes_mirrors n e')
    split
    · exact bind_mirrors literal_mirrors rest
    · exact bind_mirrors literal_mirrors rest
    · exact bind_mirrors identifier_mirrors rest
    · exact bind_mirrors (array_mirrors n) rest
    · exact bind_mirrors (mapping_mirrors n) rest
    · exact bind_mirrors (paren_mirrors n) rest
    · exact bind_mirrors (updateBefore_mirrors n) rest
    · exact bind_mirrors (updateBefore_mirrors n) rest
    · exact bind_mirrors (unary_mirrors n) rest
    · exact bind_mirrors (unary_mirrors n) rest
    · exact bind_mirrors (unary_mirrors n) rest
    · exact bind_mirrors (throw_mirrors _) rest

theorem suffixes_mirrors : ∀ (n : Nat) (e' : Expr), Mirrors e (Parse.suffixes n e')
  | 0, _ => by rw [Parse.suffixes]; exact throw_mirrors _
  | n + 1, e' => by
    rw [Parse.suffixes]
    refine bind_mirrors current_mirrors fun t => ?_
    split
    · exact bind_mirrors (arguments_mirrors n) fun args => suffixes_mirrors n _
    · exact bind_mirrors (member_mirrors n e') fun e' => suffixes_mirrors n e'
    · exact bind_mirrors (indexing_mirrors n e') fun e' => suffixes_mirrors n e'
    · exact bind_mirrors (updateAfter_mirrors e') fun e' => suffixes_mirrors n e'
    · exact bind_mirrors (updateAfter_mirrors e') fun e' => suffixes_mirrors n e'
    · exact pure_mirrors _

theorem member_mirrors : ∀ (n : Nat) (obj : Expr), Mirrors e (Parse.member n obj)
  | 0, _ => by rw [Parse.member]; exact throw_mirrors _
  | n + 1, obj => by
    rw [Parse.member]
    refine frame_mirrors (bind_mirrors (discard_mirrors (expect_mirrors _ _)) fun _ => ?_)
    refine bind_mirrors (expect_mirrors _ _) fun name => ?_
    refine get_mirrors (fun c1 c2 agree => by rw [agree.test]) fun c => ite_mirrors ?_
      (pure_mirrors _)
    exact bind_mirrors (arguments_mirrors n) fun args => pure_mirrors _

theorem indexing_mirrors : ∀ (n : Nat) (obj : Expr), Mirrors e (Parse.indexing n obj)
  | 0, _ => by rw [Parse.indexing]; exact throw_mirrors _
  | n + 1, obj => by
    rw [Parse.indexing]
    refine frame_mirrors (bind_mirrors (discard_mirrors (expect_mirrors _ _)) fun _ => ?_)
    refine bind_mirrors (expression_mirrors n) fun key => ?_
    exact bind_mirrors (discard_mirrors (expect_mirrors _ _)) fun _ => pure_mirrors _

theorem unary_mirrors : ∀ n, Mirrors e (Parse.unary n)
  | 0 => by rw [Parse.unary]; exact throw_mirrors _
  | n + 1 => by
    rw [Parse.unary]
    refine frame_mirrors (bind_mirrors take_mirrors fun op => ?_)
    refine bind_mirrors (primary_mirrors n) fun arg => ?_
    cases UnaryOp.ofToken? op.kind with
    | none => exact throw_mirrors _
    | some u => exact pure_mirrors _

theorem updateBefore_mirrors : ∀ n, Mirrors e (Parse.updateBefore n)
  | 0 => by rw [Parse.updateBefore]; exact throw_mirrors _
  | n + 1 => by
    rw [Parse.updateBefore]
    refine frame_mirrors (bind_mirrors (expectOneOf_mirrors _) fun op => ?_)
    refine bind_mirrors (primary_mirrors n) fun arg => ?_
    split
    · exact pure_mirrors _
    · exact throw_mirrors _

theorem paren_mirrors : ∀ n, Mirrors e (Parse.paren n)
  | 0 => by rw [Parse.paren]; exact throw_mirrors _
  | n + 1 => by
    rw [Parse.paren]
    refine frame_mirrors (bind_mirrors (discard_mirrors (expect_mirrors _ _)) fun _ => ?_)
    refine bind_mirrors (expression_mirrors n) fun e => ?_
    exact bind_mirrors (discard_mirrors (expect_mirrors _ _)) fun _ => pure_mirrors _

theorem array_mirrors : ∀ n, Mirrors e (Parse.array n)
  | 0 => by rw [Parse.array]; exact throw_mirrors _
  | n + 1 => by
    rw [Parse.array]
    refine frame_mirrors (bind_mirrors (expect_mirrors _ _) fun start => ?_)
    refine bind_mirrors (listed_mirrors n _ _ []) fun items => ?_
    exact bind_mirrors (discard_mirrors (expect_mirrors _ _)) fun _ => pure_mirrors _

theorem listed_mirrors : ∀ (n : Nat) (close : TokenKind) (sep : String) (acc : List Expr),
    Mirrors e (Parse.listed n close sep acc)
  | 0, _, _, _ => by rw [Parse.listed]; exact throw_mirrors _
  | n + 1, close, sep, acc => by
    rw [Parse.listed]
    refine get_mirrors (fun c1 c2 agree => by rw [agree.testAny]) fun c => ite_mirrors
      (pure_mirrors _) ?_
    refine ite_mirrors (bind_mirrors (discard_mirrors (expect_mirrors _ _)) fun _ => ?_) ?_
    all_goals
      exact bind_mirrors (expression_mirrors n) fun e => listed_mirrors n close sep (e :: acc)

theorem mapping_mirrors : ∀ n, Mirrors e (Parse.mapping n)
  | 0 => by rw [Parse.mapping]; exact throw_mirrors _
  | n + 1 => by
    rw [Parse.mapping]
    refine frame_mirrors (bind_mirrors (expect_mirrors _ _) fun start => ?_)
    refine bind_mirrors (entries_mirrors n []) fun entries => ?_
    exact bind_mirrors (discard_mirrors (expect_mirrors _ _)) fun _ => pure_mirrors _

theorem entries_mirrors : ∀ (n : Nat)
    (acc : List (MapKey × Expr)), Mirrors e (Parse.entries n acc)
  | 0, _ => by rw [Parse.entries]; exact throw_mirrors _
  | n + 1, acc => by
    rw [Parse.entries]
    refine get_mirrors (fun c1 c2 agree => by rw [agree.testAny]) fun c => ite_mirrors
      (pure_mirrors _) ?_
    refine ite_mirrors (bind_mirrors (discard_mirrors (expect_mirrors _ _)) fun _ => ?_) ?_
    all_goals
      refine bind_mirrors (expect_mirrors _ _) fun key => ?_
      refine bind_mirrors (discard_mirrors (expect_mirrors _ _)) fun _ => ?_
      exact bind_mirrors (expression_mirrors n) fun value => entries_mirrors n _

theorem arguments_mirrors : ∀ n, Mirrors e (Parse.arguments n)
  | 0 => by rw [Parse.arguments]; exact throw_mirrors _
  | n + 1 => by
    rw [Parse.arguments]
    refine frame_mirrors (bind_mirrors (discard_mirrors (expect_mirrors _ _)) fun _ => ?_)
    refine bind_mirrors (listed_mirrors n _ _ []) fun args => ?_
    exact bind_mirrors (discard_mirrors (expect_mirrors _ _)) fun _ => pure_mirrors _

end

theorem program_mirrors : ∀ (n : Nat) (acc : List Stmt), Mirrors e (Parse.program n acc)
  | 0, _ => by rw [Parse.program]; exact throw_mirrors _
  | n + 1, acc => by
    rw [Parse.program]
    refine get_mirrors (fun c1 c2 agree => by rw [agree.atEnd]) fun c => ite_mirrors
      (pure_mirrors _) ?_
    exact bind_mirrors (statement_mirrors n) fun s => program_mirrors n (s :: acc)

theorem programAt_mirrors (n : Nat) : Mirrors e (Parse.programAt n) := by
  unfold Parse.programAt
  refine frame_mirrors (bind_mirrors current_mirrors fun start => ?_)
  exact bind_mirrors (program_mirrors n []) fun body => pure_mirrors _

section Lists

variable {ts w r : List Token} {x : Token}

theorem ofTokens_items_split (split : ts.filter (·.kind != .comment) = w ++ x :: r)
    (eof : x.kind = .eof) {i : Nat} (le : i ≤ w.length) :
    (Cursor.ofTokens ts).items[i]? = (w ++ [x])[i]? := by
  obtain ⟨r', read, -⟩ := readable_split split eof
  have regroup : w ++ x :: r' = (w ++ [x]) ++ r' := by simp
  simp only [Cursor.ofTokens, read, List.getElem?_toArray, regroup]
  exact List.getElem?_append_left (by simp; omega)

/-- The token the cursor finds right after the first end of input is a colon exactly when the
first written token after it, comments dropped, is one. -/
theorem ofTokens_colon_split (split : ts.filter (·.kind != .comment) = w ++ x :: r)
    (plain : ∀ t ∈ w, t.kind ≠ .eof) (eof : x.kind = .eof) :
    ((Cursor.ofTokens ts).tokenAt (w.length + 1)).kind = .colon ↔ colonPastEnd ts = true := by
  obtain ⟨r', read, head⟩ := readable_split split eof
  have past : colonPastEnd ts = (r'.head?.map (·.kind == .colon)).getD false := by
    rw [head]
    simp only [colonPastEnd, split, takeWhile_split plain eof, List.drop_length_add_append,
      List.drop_succ_cons, List.drop_zero]
    cases r <;> rfl
  rw [past]
  cases r' with
  | nil =>
    have beyond : ¬ w.length + 1 < (Cursor.ofTokens ts).items.size := by
      simp [Cursor.ofTokens, read]
    rw [Cursor.tokenAt, dif_neg beyond, ofTokens_ends ts]
    simp
  | cons y r' =>
    have inside : w.length + 1 < (Cursor.ofTokens ts).items.size := by
      simp [Cursor.ofTokens, read]
    rw [Cursor.tokenAt, dif_pos inside]
    simp [Cursor.ofTokens, read]

/-- Token lists that agree through their first end of input, and on whether a colon follows it,
give cursors that read alike. -/
theorem ofTokens_agree {l1 l2 : List Token} (through : throughEnd l1 = throughEnd l2)
    (colon : colonPastEnd l1 = colonPastEnd l2) :
    ∃ e, Cursor.AgreeTo e (Cursor.ofTokens l1) (Cursor.ofTokens l2) := by
  rcases first_eof_or_none (l1.filter (·.kind != .comment)) with
    ⟨w1, x1, r1, split1, plain1, eof1⟩ | plain1 <;>
  rcases first_eof_or_none (l2.filter (·.kind != .comment)) with
    ⟨w2, x2, r2, split2, plain2, eof2⟩ | plain2
  · -- both reach an end of input, after the same tokens
    rw [throughEnd_split split1 plain1 eof1, throughEnd_split split2 plain2 eof2] at through
    obtain ⟨rfl, last⟩ := List.append_inj' through rfl
    obtain rfl : x1 = x2 := List.singleton_inj.mp last
    refine ⟨w1.length, rfl, Nat.zero_le _, fun i le => ?_, ?_, ?_⟩
    · rw [ofTokens_items_split split1 eof1 le, ofTokens_items_split split2 eof1 le]
    · rw [ofTokens_items_split split1 eof1 (Nat.le_refl _)]
      simp [eof1]
    · rw [ofTokens_colon_split split1 plain1 eof1, ofTokens_colon_split split2 plain2 eof2, colon]
  · -- an end of input on one side only cannot sit in the shared tokens
    rw [throughEnd_split split1 plain1 eof1, throughEnd_plain plain2] at through
    exact absurd eof1 (plain2 x1 (by simp [← through]))
  · rw [throughEnd_plain plain1, throughEnd_split split2 plain2 eof2] at through
    exact absurd eof2 (plain1 x2 (by simp [through]))
  · -- with no end of input written, the readable tokens are the same
    rw [throughEnd_plain plain1, throughEnd_plain plain2] at through
    have same : Cursor.ofTokens l1 = Cursor.ofTokens l2 := by
      unfold Cursor.ofTokens
      congr 1
      simp only [readable, through]
    rw [same]
    exact ⟨_, Cursor.AgreeTo.refl (ofTokens_ends l2) rfl⟩

end Lists

/-- The fuel the entry point gives leaves room for the tokens ahead. -/
theorem budget_room (ts : List Token) :
    8 * (Cursor.ofTokens ts).unread + 16 ≤ Parse.budget (Cursor.ofTokens ts) := by
  have := Cursor.unread_le_left (ofTokens_ends ts)
  simp only [Cursor.left, Parse.budget] at *
  omega

/-- Any fuel past what the tokens ahead need gives the same run of a program. -/
theorem programAt_settles {c : Cursor} (ends : c.Ends) {n : Nat} (fuel : 8 * c.unread + 16 ≤ n)
    (d : Nat) : (Parse.programAt n).exec d c = (Parse.programAt (8 * c.unread + 16)).exec d c := by
  have genuine : Spec Genuine (Parse.programAt (8 * c.unread + 16)) d c fun _ _ => True := by
    unfold Parse.programAt
    refine frame_halts ?_
    simp only [Spec.spec_bind, Spec.spec_current, Spec.spec_pure]
    exact (program_halts _ (d + 1) _ [] ends (by omega)).mono fun _ _ _ => trivial
  refine (@programAt_outruns (· = .exhausted) rfl _ _ fuel).exec_eq (Nat.le_refl d)
    (.inr rfl) rfl ?_
  intro err c' ran
  simp only [Spec, ran] at genuine
  exact genuine.live

/-- Nothing after the first end of input decides a parse but whether a colon comes right after
it: token lists that agree up to there, and on that colon, parse alike at every depth. -/
theorem parse_ignores_past_end {l1 l2 : List Token} (through : throughEnd l1 = throughEnd l2)
    (colon : colonPastEnd l1 = colonPastEnd l2) (depth : Nat) :
    parseTokens l1 depth = parseTokens l2 depth := by
  obtain ⟨e, agree⟩ := ofTokens_agree through colon
  have ends1 := ofTokens_ends l1
  have ends2 := ofTokens_ends l2
  -- run both with fuel enough for either list, where each run has settled
  let m := max (8 * (Cursor.ofTokens l1).unread + 16) (8 * (Cursor.ofTokens l2).unread + 16)
  calc parseTokens l1 depth
      = ((Parse.programAt (8 * (Cursor.ofTokens l1).unread + 16)).exec depth
          (Cursor.ofTokens l1)).1 := by
        rw [← programAt_settles ends1 (budget_room l1)]
        rfl
    _ = ((Parse.programAt m).exec depth (Cursor.ofTokens l1)).1 := by
        rw [programAt_settles ends1 (Nat.le_max_left _ _)]
    _ = ((Parse.programAt m).exec depth (Cursor.ofTokens l2)).1 :=
        (programAt_mirrors m depth _ _ agree).1
    _ = ((Parse.programAt (8 * (Cursor.ofTokens l2).unread + 16)).exec depth
          (Cursor.ofTokens l2)).1 := by
        rw [programAt_settles ends2 (Nat.le_max_right _ _)]
    _ = parseTokens l2 depth := by
        rw [← programAt_settles ends2 (budget_room l2)]
        rfl

/-- A comment before the end of input and a name after it leave the parse of a name as it is. -/
theorem parse_ignores_past_end_name :
    throughEnd [⟨.ident, "x", ⟨1, 1, 0⟩⟩, ⟨.eof, "", ⟨1, 2, 1⟩⟩,
      ⟨.ident, "y", ⟨2, 1, 2⟩⟩] =
      throughEnd [⟨.ident, "x", ⟨1, 1, 0⟩⟩, ⟨.comment, "# x", ⟨1, 3, 2⟩⟩,
        ⟨.eof, "", ⟨1, 2, 1⟩⟩] ∧
    colonPastEnd [⟨.ident, "x", ⟨1, 1, 0⟩⟩, ⟨.eof, "", ⟨1, 2, 1⟩⟩,
      ⟨.ident, "y", ⟨2, 1, 2⟩⟩] =
      colonPastEnd [⟨.ident, "x", ⟨1, 1, 0⟩⟩, ⟨.comment, "# x", ⟨1, 3, 2⟩⟩,
        ⟨.eof, "", ⟨1, 2, 1⟩⟩] ∧
    parseTokens [⟨.ident, "x", ⟨1, 1, 0⟩⟩, ⟨.eof, "", ⟨1, 2, 1⟩⟩,
      ⟨.ident, "y", ⟨2, 1, 2⟩⟩] =
      parseTokens [⟨.ident, "x", ⟨1, 1, 0⟩⟩, ⟨.comment, "# x", ⟨1, 3, 2⟩⟩,
        ⟨.eof, "", ⟨1, 2, 1⟩⟩] :=
  ⟨by rfl, by rfl, parse_ignores_past_end (by rfl) (by rfl) _⟩

/-- Whether a colon follows the end of input does count: a lone opening brace is then read as a
map instead of a block, and fails with another message. -/
theorem colon_past_end_counts :
    throughEnd [⟨.lbrace, "\x7b", ⟨1, 1, 0⟩⟩, ⟨.eof, "", ⟨1, 2, 1⟩⟩,
      ⟨.colon, ":", ⟨1, 3, 2⟩⟩] =
      throughEnd [⟨.lbrace, "\x7b", ⟨1, 1, 0⟩⟩, ⟨.eof, "", ⟨1, 2, 1⟩⟩] ∧
    parseTokens [⟨.lbrace, "\x7b", ⟨1, 1, 0⟩⟩, ⟨.eof, "", ⟨1, 2, 1⟩⟩,
      ⟨.colon, ":", ⟨1, 3, 2⟩⟩] =
      .error (.grammar ⟨.expectationFailure, "A map must be closed by a brace", ⟨1, 2, 1⟩,
        [.rbrace], ⟨.eof, "", ⟨1, 2, 1⟩⟩⟩) ∧
    parseTokens [⟨.lbrace, "\x7b", ⟨1, 1, 0⟩⟩, ⟨.eof, "", ⟨1, 2, 1⟩⟩] =
      .error (.grammar ⟨.expectationFailure, "A block must be closed by a brace", ⟨1, 2, 1⟩,
        [.rbrace], ⟨.eof, "", ⟨1, 2, 1⟩⟩⟩) :=
  ⟨by rfl, by rfl, by rfl⟩

end Quill
