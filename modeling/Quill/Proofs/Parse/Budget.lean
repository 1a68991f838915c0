import Quill.Proofs.Parse.Spec

set_option autoImplicit false

/- The parser's fuel is never what stops it: each method needs at most eight units for each token
ahead of it before the next end of input, plus a constant of its own, and the entry points give
eight units a token and sixteen more. -/
namespace Quill

open Quill.Parser Quill.Parser.Spec Cursor

/-- Every failure except running out of fuel. -/
def Live (e : ParseFailure) : Prop := e ≠ .exhausted

/-- A failure that the input or the stack causes: a syntax error, a number token whose text
gives no value, or calls nested past the limit of the stack. -/
def Genuine : ParseFailure → Prop
  | .grammar _ | .number _ | .tooDeep => True
  | .notUnary _ | .exhausted => False

theorem Genuine.live {e : ParseFailure} (genuine : Genuine e) : Live e := by
  intro spent
  subst spent
  exact genuine

section Readers

variable {α : Type} {d : Nat} {c : Cursor} {Q : α → Cursor → Prop}

theorem frame_halts {body : Parser α} (h : Spec Genuine body (d + 1) c Q) :
    Spec Genuine (Parse.frame body) d c Q := by
  rw [spec_frame]
  split
  · trivial
  · exact h

theorem expect_halts {k : TokenKind} {reason : String} {R : Token → Cursor → Prop}
    (ends : c.Ends) (live : k ≠ .eof) (h : Past c c.advance → R c.current c.advance) :
    Spec Genuine (Parse.expect k reason) d c R := by
  rw [spec_expect]
  exact ⟨fun found => h (past_advance ends (atEnd_false_of_test found live)),
    fun _ => trivial⟩

theorem expectOneOf_halts {ks : List TokenKind} {R : Token → Cursor → Prop} (ends : c.Ends)
    (live : TokenKind.eof ∉ ks) (h : Past c c.advance → R c.current c.advance) :
    Spec Genuine (Parse.expectOneOf ks) d c R := by
  rw [spec_expectOneOf]
  exact ⟨fun found => h (past_advance ends (atEnd_false_of_testAny found live)),
    fun _ => trivial⟩

/-- A literal reads the current token, whatever it is. -/
theorem literal_halts : Spec Genuine Parse.literal d c fun _ c' => c' = c.advance := by
  unfold Parse.literal
  refine frame_halts ?_
  simp only [spec_bind, spec_take]
  split
  · split
    · rfl
    · trivial
  · rfl

theorem identifier_halts
    (ends : c.Ends) : Spec Genuine Parse.identifier d c fun _ c' => Past c c' := by
  unfold Parse.identifier
  refine frame_halts ?_
  simp only [spec_bind]
  refine expect_halts ends (by decide) fun past => ?_
  split <;> exact past

theorem updateAfter_halts (ends : c.Ends) (arg : Expr) :
    Spec Genuine (Parse.updateAfter arg) d c fun _ c' => Past c c' := by
  unfold Parse.updateAfter
  refine frame_halts ?_
  simp only [spec_bind]
  refine expectOneOf_halts ends (by decide) fun past => ?_
  split
  · exact past
  · trivial

end Readers

theorem ofToken_ne_eof {k : TokenKind} {op : BinaryOp} (found : BinaryOp.ofToken? k = some op) :
    k ≠ .eof := by
  rintro rfl
  cases found

/-- How the unary method may fail at a token of kind `k`: as any grammar method does, or for
want of an operator when `k` writes none. -/
def UnaryFailure (k : TokenKind) (e : ParseFailure) : Prop :=
  Genuine e ∨ (UnaryOp.ofToken? k = none ∧ e = .notUnary k)

/-- At the end of input no primary expression starts. -/
theorem primary_atEnd {n d : Nat} {c : Cursor} {Q : Expr → Cursor → Prop}
    (stop : c.atEnd = true) :
    Spec Genuine (Parse.primary (n + 1)) d c Q := by
  have ended : c.current.kind = .eof := by simpa [atEnd] using stop
  rw [Parse.primary]
  refine frame_halts ?_
  simp only [spec_bind, spec_current, ended, spec_throw]
  trivial

/- One theorem per grammar method, by recursion on the fuel together: each calls the others
at the fuel it passes them. -/
mutual

theorem statement_halts : ∀ (n d : Nat) (c : Cursor), c.Ends → 8 * c.unread + 12 ≤ n →
    Spec Genuine (Parse.statement n) d c fun _ c' => Past c c'
  | 0, _, _, _, fuel => by omega
  | n + 1, d, c, ends, fuel => by
    rw [Parse.statement]
    refine frame_halts ?_
    simp only [spec_bind, spec_get, spec_ite, spec_discard, spec_pure]
    have terminated : ∀ c1, Past c c1 →
        if (!c1.atEnd) = true then
          Spec Genuine (Parse.expect TokenKind.semicolon
            "A statement must be terminated by a semicolon")
            (d + 1) c1 fun _ c2 => Past c c2
        else Past c c1 := by
      intro c1 past
      split
      · exact expect_halts (past.within.ends ends)
          (by decide) fun closed => past.trans_within closed.within
      · exact past
    split
    · exact (assignment_halts n (d + 1) c ends (by omega)).mono fun _ c1 past => terminated c1 past
    · split
      · exact (block_halts n (d + 1) c ends (by omega)).mono fun _ c1 past => terminated c1 past
      · exact (expression_halts n (d + 1) c ends
          (by omega)).mono fun _ c1 past => terminated c1 past

theorem block_halts : ∀ (n d : Nat) (c : Cursor), c.Ends → 8 * c.unread + 6 ≤ n →
    Spec Genuine (Parse.block n) d c fun _ c' => Past c c'
  | 0, _, _, _, fuel => by omega
  | n + 1, d, c, ends, fuel => by
    rw [Parse.block]
    refine frame_halts ?_
    simp only [spec_bind, spec_discard, spec_pure]
    refine expect_halts ends (by decide) fun opened => ?_
    refine (statements_halts n (d + 1) c.advance [] (opened.within.ends ends)
      (by have := opened.2; omega)).mono fun _ c1 inner => ?_
    exact expect_halts (inner.ends (opened.within.ends ends)) (by decide) fun closed =>
      opened.trans_within (inner.trans closed.within)

theorem statements_halts : ∀ (n d : Nat) (c : Cursor) (acc : List Stmt), c.Ends →
    8 * c.unread + 13 ≤ n → Spec Genuine (Parse.statements n acc) d c fun _ c' => Within c c'
  | 0, _, _, _, _, fuel => by omega
  | n + 1, d, c, acc, ends, fuel => by
    rw [Parse.statements]
    simp only [spec_bind, spec_get, spec_ite, spec_pure]
    split
    · exact Within.refl c
    · refine (statement_halts n d c ends (by omega)).mono fun s c1 one => ?_
      exact (statements_halts n d c1 (s :: acc) (one.within.ends ends)
        (by have := one.2; omega)).mono fun _ c2 more => one.within.trans more

theorem assignment_halts : ∀ (n d : Nat) (c : Cursor), c.Ends → 8 * c.unread + 1 ≤ n →
    Spec Genuine (Parse.assignment n) d c fun _ c' => Past c c'
  | 0, _, _, _, fuel => by omega
  | n + 1, d, c, ends, fuel => by
    rw [Parse.assignment]
    refine frame_halts ?_
    simp only [spec_bind, spec_discard, spec_pure]
    refine expect_halts ends (by decide) fun named => ?_
    refine expect_halts (named.within.ends ends) (by decide) fun assigned => ?_
    have both := named.trans_within assigned.within
    exact (expression_halts n (d + 1) c.advance.advance (both.within.ends ends)
      (by have := assigned.2; have := named.2; omega)).mono fun _ c1 value =>
        both.trans_within value.within

theorem expression_halts : ∀ (n d : Nat) (c : Cursor), c.Ends → 8 * c.unread + 11 ≤ n →
    Spec Genuine (Parse.expression n) d c fun _ c' => Past c c'
  | 0, _, _, _, fuel => by omega
  | n + 1, d, c, ends, fuel => by
    rw [Parse.expression]
    refine frame_halts ?_
    simp only [spec_bind, spec_current, spec_ite, spec_pure]
    refine (primary_halts n (d + 1) c ends (by omega)).mono fun e c1 first => ?_
    split
    · exact frame_halts ((operations_halts n (d + 2) c1 e (first.within.ends ends)
        (by have := first.2; omega)).mono fun _ c2 more => first.trans_within more)
    · exact first

theorem operations_halts : ∀ (n d : Nat) (c : Cursor) (left : Expr), c.Ends →
    8 * c.unread + 4 ≤ n → Spec Genuine (Parse.operations n left) d c fun _ c' => Within c c'
  | 0, _, _, _, _, fuel => by omega
  | n + 1, d, c, left, ends, fuel => by
    rw [Parse.operations]
    simp only [spec_bind, spec_current]
    split <;> simp only [spec_bind, spec_pure]
    · rename_i op found
      have live : c.atEnd = false := by simp [atEnd, ofToken_ne_eof found]
      refine (operation_halts n d c op left ends live (by omega)).mono fun l c1 one => ?_
      exact (operations_halts n d c1 l (one.within.ends ends) (by have := one.2; omega)).mono
        fun _ c2 more => one.within.trans more
    · exact Within.refl c

theorem operation_halts : ∀ (n d : Nat) (c : Cursor) (op : BinaryOp) (left : Expr), c.Ends →
    c.atEnd = false → 8 * c.unread + 3 ≤ n →
    Spec Genuine (Parse.operation n op left) d c fun _ c' => Past c c'
  | 0, _, _, _, _, _, _, fuel => by omega
  | n + 1, d, c, op, left, ends, live, fuel => by
    rw [Parse.operation]
    refine frame_halts ?_
    simp only [spec_bind, spec_discard, spec_take, spec_pure]
    have taken := past_advance ends live
    refine (primary_halts n (d + 1) c.advance (taken.within.ends ends)
      (by have := taken.2; omega)).mono fun r c1 right => ?_
    exact (tighter_halts n (d + 1) c1 op.precedence r (right.within.ends (taken.within.ends ends))
      (by have := taken.2; have := right.2; omega)).mono fun _ c2 more =>
        taken.trans_within (right.within.trans more)

theorem tighter_halts : ∀ (n d : Nat) (c : Cursor) (prec : Nat) (right : Expr), c.Ends →
    8 * c.unread + 4 ≤ n → Spec Genuine (Parse.tighter n prec right) d c fun _ c' => Within c c'
  | 0, _, _, _, _, _, fuel => by omega
  | n + 1, d, c, prec, right, ends, fuel => by
    rw [Parse.tighter]
    simp only [spec_bind, spec_current]
    split <;> simp only [spec_bind, spec_ite, spec_pure]
    · rename_i op found
      split
      · have live : c.atEnd = false := by simp [atEnd, ofToken_ne_eof found]
        refine (operation_halts n d c op right ends live (by omega)).mono fun r c1 one => ?_
        exact (tighter_halts n d c1 prec r (one.within.ends ends) (by have := one.2; omega)).mono
          fun _ c2 more => one.within.trans more
      · exact Within.refl c
    · exact Within.refl c

theorem primary_halts : ∀ (n d : Nat) (c : Cursor), c.Ends → 8 * c.unread + 10 ≤ n →
    Spec Genuine (Parse.primary n) d c fun _ c' => Past c c'
  | 0, _, _, _, fuel => by omega
  | n + 1, d, c, ends, fuel => by
    rw [Parse.primary]
    refine frame_halts ?_
    simp only [spec_bind, spec_current]
    have suffixed : ∀ e c1, Past c c1 →
        Spec Genuine (Parse.frame (Parse.suffixes n e)) (d + 1) c1 fun _ c2 => Past c c2 :=
      fun e c1 first => frame_halts ((suffixes_halts n (d + 2) c1 e (first.within.ends ends)
        (by have := first.2; omega)).mono fun _ c2 more => first.trans_within more)
    have live : ∀ k, c.current.kind = k → k ≠ .eof → c.atEnd = false := by
      intro k same ne
      simp [atEnd, same, ne]
    have operator : ∀ {k}, c.current.kind = k → (UnaryOp.ofToken? k).isSome →
        ∀ e, UnaryFailure c.current.kind e → Genuine e := by
      intro k same writes e failed
      rcases failed with genuine | ⟨none, -⟩
      · exact genuine
      · rw [same] at none
        simp [none] at writes
    split <;> simp only [spec_bind, spec_throw]
    · rename_i head
      refine literal_halts.mono fun e c1 moved => ?_
      subst moved
      exact suffixed e _ (past_advance ends (live _ head (by decide)))
    · rename_i head
      refine literal_halts.mono fun e c1 moved => ?_
      subst moved
      exact suffixed e _ (past_advance ends (live _ head (by decide)))
    · exact (identifier_halts ends).mono suffixed
    · exact (array_halts n (d + 1) c ends (by omega)).mono suffixed
    · exact (mapping_halts n (d + 1) c ends (by omega)).mono suffixed
    · exact (paren_halts n (d + 1) c ends (by omega)).mono suffixed
    · exact (updateBefore_halts n (d + 1) c ends (by omega)).mono suffixed
    · exact (updateBefore_halts n (d + 1) c ends (by omega)).mono suffixed
    · rename_i head
      exact ((unary_halts n (d + 1) c ends (by omega)).conseq (operator head rfl) fun _ _ past =>
        past).mono suffixed
    · rename_i head
      exact ((unary_halts n (d + 1) c ends (by omega)).conseq (operator head rfl) fun _ _ past =>
        past).mono suffixed
    · rename_i head
      exact ((unary_halts n (d + 1) c ends (by omega)).conseq (operator head rfl) fun _ _ past =>
        past).mono suffixed
    · trivial

theorem suffixes_halts : ∀ (n d : Nat) (c : Cursor)
    (e : Expr), c.Ends → 8 * c.unread + 6 ≤ n →
    Spec Genuine (Parse.suffixes n e) d c fun _ c' => Within c c'
  | 0, _, _, _, _, fuel => by omega
  | n + 1, d, c, e, ends, fuel => by
    rw [Parse.suffixes]
    simp only [spec_bind, spec_current]
    have chained : ∀ e1 c1, Past c c1 →
        Spec Genuine (Parse.suffixes n e1) d c1 fun _ c2 => Within c c2 :=
      fun e1 c1 one => (suffixes_halts n d c1 e1 (one.within.ends ends)
        (by have := one.2; omega)).mono fun _ c2 more => one.within.trans more
    split <;> simp only [spec_bind, spec_pure]
    · exact (arguments_halts n d c ends (by omega)).mono fun _ c1 one => chained _ c1 one
    · exact (member_halts n d c e ends (by omega)).mono chained
    · exact (indexing_halts n d c e ends (by omega)).mono chained
    · exact (updateAfter_halts ends e).mono chained
    · exact (updateAfter_halts ends e).mono chained
    · exact Within.refl c

theorem member_halts : ∀ (n d : Nat) (c : Cursor)
    (obj : Expr), c.Ends → 8 * c.unread + 1 ≤ n →
    Spec Genuine (Parse.member n obj) d c fun _ c' => Past c c'
  | 0, _, _, _, _, fuel => by omega
  | n + 1, d, c, obj, ends, fuel => by
    rw [Parse.member]
    refine frame_halts ?_
    simp only [spec_bind, spec_discard, spec_get, spec_ite, spec_pure]
    refine expect_halts ends (by decide) fun dotted => ?_
    refine expect_halts (dotted.within.ends ends) (by decide) fun named => ?_
    have both := dotted.trans_within named.within
    split
    · exact (arguments_halts n (d + 1) c.advance.advance (both.within.ends ends)
        (by have := dotted.2; have := named.2; omega)).mono fun _ c1 args =>
          both.trans_within args.within
    · exact both

theorem indexing_halts : ∀ (n d : Nat) (c : Cursor)
    (obj : Expr), c.Ends → 8 * c.unread + 4 ≤ n →
    Spec Genuine (Parse.indexing n obj) d c fun _ c' => Past c c'
  | 0, _, _, _, _, fuel => by omega
  | n + 1, d, c, obj, ends, fuel => by
    rw [Parse.indexing]
    refine frame_halts ?_
    simp only [spec_bind, spec_discard, spec_pure]
    refine expect_halts ends (by decide) fun opened => ?_
    refine (expression_halts n (d + 1) c.advance (opened.within.ends ends)
      (by have := opened.2; omega)).mono fun _ c1 key => ?_
    exact expect_halts (key.within.ends (opened.within.ends ends)) (by decide) fun closed =>
      opened.trans_within (key.within.trans closed.within)

/-- The unary method reads an operator and a primary expression; it fails for want of an
operator only when the token it started at writes none. -/
theorem unary_halts : ∀ (n d : Nat) (c : Cursor), c.Ends → 8 * c.unread + 3 ≤ n →
    Spec (UnaryFailure c.current.kind) (Parse.unary n) d c fun _ c' => Past c c'
  | 0, _, _, _, fuel => by omega
  | n + 1, d, c, ends, fuel => by
    rw [Parse.unary, spec_frame]
    split
    · exact .inl trivial
    simp only [spec_bind, spec_take]
    cases stop : c.atEnd with
    | false =>
      have taken := past_advance ends stop
      refine ((primary_halts n (d + 1) c.advance (taken.within.ends ends)
        (by have := taken.2; omega)).conseq (fun _ genuine => .inl genuine) fun _ c1 arg => ?_)
      split
      · exact taken.trans_within arg.within
      · rename_i none
        exact .inr ⟨none, rfl⟩
    | true =>
      rw [advance_eq_of_atEnd stop]
      obtain ⟨m, rfl⟩ : ∃ m, n = m + 1 := ⟨n - 1, by omega⟩
      exact (primary_atEnd stop).conseq (fun _ genuine => .inl genuine) fun _ _ => id

theorem updateBefore_halts : ∀ (n d : Nat) (c : Cursor), c.Ends → 8 * c.unread + 3 ≤ n →
    Spec Genuine (Parse.updateBefore n) d c fun _ c' => Past c c'
  | 0, _, _, _, fuel => by omega
  | n + 1, d, c, ends, fuel => by
    rw [Parse.updateBefore]
    refine frame_halts ?_
    simp only [spec_bind]
    refine expectOneOf_halts ends (by decide) fun taken => ?_
    refine (primary_halts n (d + 1) c.advance (taken.within.ends ends)
      (by have := taken.2; omega)).mono fun _ c1 arg => ?_
    split
    · exact taken.trans_within arg.within
    · trivial

theorem paren_halts : ∀ (n d : Nat) (c : Cursor), c.Ends → 8 * c.unread + 4 ≤ n →
    Spec Genuine (Parse.paren n) d c fun _ c' => Past c c'
  | 0, _, _, _, fuel => by omega
  | n + 1, d, c, ends, fuel => by
    rw [Parse.paren]
    refine frame_halts ?_
    simp only [spec_bind, spec_discard, spec_pure]
    refine expect_halts ends (by decide) fun opened => ?_
    refine (expression_halts n (d + 1) c.advance (opened.within.ends ends)
      (by have := opened.2; omega)).mono fun _ c1 inner => ?_
    exact expect_halts (inner.within.ends (opened.within.ends ends)) (by decide) fun closed =>
      opened.trans_within (inner.within.trans closed.within)

theorem array_halts : ∀ (n d : Nat) (c : Cursor), c.Ends → 8 * c.unread + 5 ≤ n →
    Spec Genuine (Parse.array n) d c fun _ c' => Past c c'
  | 0, _, _, _, fuel => by omega
  | n + 1, d, c, ends, fuel => by
    rw [Parse.array]
    refine frame_halts ?_
    simp only [spec_bind, spec_discard, spec_pure]
    refine expect_halts ends (by decide) fun opened => ?_
    refine (listed_halts n (d + 1) c.advance .rbracket _ [] (opened.within.ends ends)
      (by have := opened.2; omega)).mono fun _ c1 items => ?_
    exact expect_halts (items.ends (opened.within.ends ends)) (by decide) fun closed =>
      opened.trans_within (items.trans closed.within)

theorem listed_halts : ∀ (n d : Nat) (c : Cursor) (close : TokenKind) (sep : String)
    (acc : List Expr), c.Ends → 8 * c.unread + 12 ≤ n →
    Spec Genuine (Parse.listed n close sep acc) d c fun _ c' => Within c c'
  | 0, _, _, _, _, _, _, fuel => by omega
  | n + 1, d, c, close, sep, acc, ends, fuel => by
    rw [Parse.listed]
    simp only [spec_bind, spec_get, spec_ite, spec_discard, spec_pure]
    have item : ∀ c1, Within c c1 → Spec Genuine (Parse.expression n) d c1 fun e c2 =>
        Spec Genuine (Parse.listed n close sep (e :: acc)) d c2 fun _ c3 => Within c c3 :=
      fun c1 comma => (expression_halts n d c1 (comma.ends ends)
        (by have := comma.2; omega)).mono fun e c2 one =>
          (listed_halts n d c2 close sep (e :: acc) (one.within.ends (comma.ends ends))
            (by have := comma.2; have := one.2; omega)).mono fun _ c3 more =>
              comma.trans (one.within.trans more)
    split
    · exact Within.refl c
    · split
      · exact expect_halts ends (by decide) fun comma => item _ comma.within
      · exact item c (Within.refl c)

theorem mapping_halts : ∀ (n d : Nat) (c : Cursor), c.Ends → 8 * c.unread + 1 ≤ n →
    Spec Genuine (Parse.mapping n) d c fun _ c' => Past c c'
  | 0, _, _, _, fuel => by omega
  | n + 1, d, c, ends, fuel => by
    rw [Parse.mapping]
    refine frame_halts ?_
    simp only [spec_bind, spec_discard, spec_pure]
    refine expect_halts ends (by decide) fun opened => ?_
    refine (entries_halts n (d + 1) c.advance [] (opened.within.ends ends)
      (by have := opened.2; omega)).mono fun _ c1 items => ?_
    exact expect_halts (items.ends (opened.within.ends ends)) (by decide) fun closed =>
      opened.trans_within (items.trans closed.within)

theorem entries_halts : ∀ (n d : Nat) (c : Cursor) (acc : List (MapKey × Expr)), c.Ends →
    8 * c.unread + 4 ≤ n → Spec Genuine (Parse.entries n acc) d c fun _ c' => Within c c'
  | 0, _, _, _, _, fuel => by omega
  | n + 1, d, c, acc, ends, fuel => by
    rw [Parse.entries]
    simp only [spec_bind, spec_get, spec_ite, spec_discard, spec_pure]
    have entry : ∀ c1, Within c c1 →
        Spec Genuine (Parse.expect .string "A map key must be a string") d c1 fun key c2 =>
          Spec Genuine (Parse.expect .colon "A map key and value must be separated by a colon") d c2
            fun _ c3 => Spec Genuine (Parse.expression n) d c3 fun value c4 =>
              Spec Genuine (Parse.entries n ((⟨key.text, key.pos⟩, value) :: acc)) d c4
                fun _ c5 => Within c c5 := by
      intro c1 comma
      refine expect_halts (comma.ends ends) (by decide) fun keyed => ?_
      have key := comma.trans_past keyed
      refine expect_halts (key.within.ends ends) (by decide) fun colon => ?_
      have both := key.trans_within colon.within
      refine (expression_halts n d c1.advance.advance (both.within.ends ends)
        (by have := keyed.2; have := colon.2; have := comma.2; omega)).mono fun value c2 one => ?_
      exact (entries_halts n d c2 _ (one.within.ends (both.within.ends ends))
        (by have := keyed.2; have := colon.2; have := comma.2; have := one.2; omega)).mono
          fun _ c3 more => both.within.trans (one.within.trans more)
    split
    · exact Within.refl c
    · split
      · exact expect_halts ends (by decide) fun comma => entry _ comma.within
      · exact entry c (Within.refl c)

theorem arguments_halts : ∀ (n d : Nat) (c : Cursor), c.Ends → 8 * c.unread + 5 ≤ n →
    Spec Genuine (Parse.arguments n) d c fun _ c' => Past c c'
  | 0, _, _, _, fuel => by omega
  | n + 1, d, c, ends, fuel => by
    rw [Parse.arguments]
    refine frame_halts ?_
    simp only [spec_bind, spec_discard, spec_pure]
    refine expect_halts ends (by decide) fun opened => ?_
    refine (listed_halts n (d + 1) c.advance .rparen _ [] (opened.within.ends ends)
      (by have := opened.2; omega)).mono fun _ c1 items => ?_
    exact expect_halts (items.ends (opened.within.ends ends)) (by decide) fun closed =>
      opened.trans_within (items.trans closed.within)

end

theorem program_halts : ∀ (n d : Nat) (c : Cursor) (acc : List Stmt), c.Ends →
    8 * c.unread + 13 ≤ n → Spec Genuine (Parse.program n acc) d c fun _ c' => Within c c'
  | 0, _, _, _, _, fuel => by omega
  | n + 1, d, c, acc, ends, fuel => by
    rw [Parse.program]
    simp only [spec_bind, spec_get, spec_ite, spec_pure]
    split
    · exact Within.refl c
    · refine (statement_halts n d c ends (by omega)).mono fun s c1 one => ?_
      exact (program_halts n d c1 (s :: acc) (one.within.ends ends)
        (by have := one.2; omega)).mono fun _ c2 more => one.within.trans more

theorem readable_getLast (ts : List Token) :
    ∃ t, (readable ts).getLast? = some t ∧ t.kind = .eof := by
  simp only [readable]
  split
  · rename_i t found
    split
    · rename_i final
      exact ⟨t, found, by simpa using final⟩
    · exact ⟨eofAfter (some t), by simp, rfl⟩
  · exact ⟨_, rfl, rfl⟩

/-- The readable tokens end with the end of input. -/
theorem ofTokens_ends (ts : List Token) : (Cursor.ofTokens ts).Ends := by
  obtain ⟨t, final, eof⟩ := readable_getLast ts
  have nonempty : 0 < (readable ts).length := List.length_pos_iff.mpr (readable_ne_nil ts)
  unfold Cursor.Ends Cursor.last Cursor.ofTokens
  simp only [List.getElem_toArray, List.size_toArray]
  rw [List.getLast?_eq_getElem?, List.getElem?_eq_getElem (by omega), Option.some.injEq] at final
  rw [final]
  exact eof

/-- The expression method with its fuel counted over every token before the last. -/
theorem expression_live (n d : Nat) (c : Cursor) (ends : c.Ends) (fuel : 8 * c.left + 11 ≤ n) :
    Spec Live (Parse.expression n) d c fun _ c' => Past c c' :=
  (expression_halts n d c ends (by have := unread_le_left ends; omega)).conseq
    (fun _ genuine => genuine.live) fun _ _ past => past

/-- The fuel the entry points give covers every parse: a program or an expression is read, or
the tokens or the depth of the calls stop it, never the fuel. -/
theorem budget_suffices (ts : List Token) (depth : Nat) :
    (∀ r c', Parser.runFrom Parse.programAt depth (Cursor.ofTokens ts) = (r, c') →
      r ≠ .error .exhausted) ∧
    (∀ r c', Parser.runFrom Parse.soleExpression depth (Cursor.ofTokens ts) = (r, c') →
      r ≠ .error .exhausted) := by
  have ends := ofTokens_ends ts
  have room : 8 * (Cursor.ofTokens ts).unread + 16 ≤ Parse.budget (Cursor.ofTokens ts) := by
    have := unread_le_left ends
    simp only [Cursor.left, Parse.budget] at *
    omega
  have outcome : ∀ {α : Type} (p : Parser α) (r : Except ParseFailure α) (c' : Cursor),
      Spec Genuine p depth (Cursor.ofTokens ts) (fun _ _ => True) →
      p.exec depth (Cursor.ofTokens ts) = (r, c') → r ≠ .error .exhausted := by
    intro α p r c' spec ran
    rcases spec.exec_cases with ⟨a, c1, ran', -⟩ | ⟨e, c1, ran', genuine⟩
    · rw [ran] at ran'
      cases ran'
      intro same
      cases same
    · rw [ran] at ran'
      cases ran'
      intro same
      cases same
      exact genuine
  refine ⟨fun r c' ran => outcome _ r c' ?_ ran, fun r c' ran => outcome _ r c' ?_ ran⟩
  · unfold Parse.programAt
    refine frame_halts ?_
    simp only [spec_bind, spec_current, spec_pure]
    exact (program_halts _ (depth + 1) _ [] ends (by omega)).mono fun _ _ _ => trivial
  · unfold Parse.soleExpression
    simp only [spec_bind, spec_discard, spec_pure]
    refine (expression_halts _ depth _ ends (by omega)).mono fun _ c1 _ => ?_
    rw [spec_expect]
    exact ⟨fun _ => trivial, fun _ => trivial⟩

end Quill
