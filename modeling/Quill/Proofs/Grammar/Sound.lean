import Quill.Proofs.Grammar.Derivation
import Quill.Proofs.Parse.Census

set_option autoImplicit false

/- Every parse reads a derivation of the grammar: each grammar method, run from a cursor whose
kinds run to the end of input, returns only where the kinds it read derive its nonterminal. -/
namespace Quill

open Quill.Parser Quill.Parser.Spec Grammar

namespace Cursor

variable {c : Cursor} {k : TokenKind} {ks : List TokenKind}

/-- The kinds of the tokens from the current one on. -/
def kinds (c : Cursor) : List TokenKind := c.ahead.map (·.kind)

/-- The tokens from the current one on run to the end of input, which is the last of them. -/
def Ready (c : Cursor) : Prop := c.kinds.getLast? = some .eof

theorem shows_of_kinds (same : c.kinds = k :: ks) :
    ∃ (t : Token) (rest : List Token), c.Shows (t.shape :: rest.map Token.shape) ∧
      t.kind = k ∧
      rest.map (·.kind) = ks := by
  obtain ⟨t, rest, ahead, first, more⟩ := List.map_eq_cons_iff.mp same
  exact ⟨t, rest, by simp [Shows, ahead], first, more⟩

theorem current_of_kinds (same : c.kinds = k :: ks) : c.current.kind = k := by
  obtain ⟨t, rest, shows, rfl, -⟩ := shows_of_kinds same
  exact shows.kind

/-- Reading a token that does not end the input takes its kind off the front. -/
theorem advance_of_kinds (same : c.kinds = k :: ks) (live : k ≠ .eof) : c.advance.kinds = ks := by
  obtain ⟨t, rest, shows, rfl, rfl⟩ := shows_of_kinds same
  have moved := congrArg (List.map Prod.fst) (shows.advance live)
  simpa [Shows, kinds, Function.comp_def, Token.shape] using moved

theorem peek_of_kinds (same : c.kinds = ks) (i : Nat) (inside : i < ks.length) :
    (c.peek i).kind = ks[i] := by
  subst same
  have shows : c.Shows (c.ahead.map Token.shape) := rfl
  have shape := shows.peek i (by simpa [kinds] using inside)
  simpa [kinds, Token.shape] using congrArg Prod.fst shape

theorem Ready.head (ready : c.Ready) : ∃ ks, c.kinds = c.current.kind :: ks := by
  cases same : c.kinds with
  | nil => simp [Ready, same] at ready
  | cons k ks => exact ⟨ks, by rw [current_of_kinds same]⟩

theorem Ready.live (ready : c.Ready) (live : c.current.kind ≠ .eof) :
    c.kinds = c.current.kind :: c.advance.kinds := by
  obtain ⟨ks, same⟩ := ready.head
  rw [same, advance_of_kinds same live]

/-- Reading keeps the tokens ahead running to the end of input: the end is never passed. -/
theorem Ready.advance (ready : c.Ready) : c.advance.Ready := by
  by_cases stop : c.atEnd
  · rw [advance_eq_of_atEnd stop]
    exact ready
  · have live : c.current.kind ≠ .eof := by simpa [atEnd] using stop
    have same := ready.live live
    unfold Ready at *
    rw [same] at ready
    cases rest : c.advance.kinds with
    | nil => simp [rest] at ready; exact absurd ready live
    | cons k ks => rwa [rest, List.getLast?_cons_cons] at ready

end Cursor

namespace Grammar

/-- From `c` to `c'` a parser read tokens whose kinds `G` derives, and the tokens ahead of `c'`
still run to the end of input. -/
def Read (G : List TokenKind → List TokenKind → Prop) (c c' : Cursor) : Prop :=
  c'.Ready ∧ G c.kinds c'.kinds

end Grammar

section Readers

open Cursor

variable {α : Type} {d : Nat} {c : Cursor}

/-- A token consumed of a kind that does not end the input is the first of the kinds ahead. -/
theorem expect_reads {k : TokenKind} {reason : String} {R : Token → Cursor → Prop}
    (ready : c.Ready) (live : k ≠ .eof)
    (next : c.kinds = k :: c.advance.kinds → c.advance.Ready → R c.current c.advance) :
    Spec AnyFailure (Parse.expect k reason) d c R :=
  expect_any fun found => next (found ▸ ready.live (by rw [found]; exact live)) ready.advance

theorem UnaryOp.kind_of_ofToken? {k : TokenKind} {u : UnaryOp}
    (found : UnaryOp.ofToken? k = some u) :
    k = .not ∨ k = .add ∨ k = .sub := by
  rw [← UnaryOp.token_of_ofToken? found]
  cases u
  · exact .inl rfl
  · exact .inr (.inl rfl)
  · exact .inr (.inr rfl)

theorem literal_derives (ready : c.Ready)
    (lit : c.current.kind = .string ∨ c.current.kind = .number) :
    Spec AnyFailure Parse.literal d c fun _ c' => Read Primary c c' := by
  have live : c.current.kind ≠ .eof := by rcases lit with h | h <;> rw [h] <;> decide
  have head : Read Primary c c.advance := by
    refine ⟨ready.advance, ?_⟩
    rw [ready.live live]
    rcases lit with h | h <;> rw [h]
    · exact .string
    · exact .number
  unfold Parse.literal
  refine frame_any ?_
  simp only [spec_bind, spec_take]
  split
  · split
    · exact head
    · trivial
  · exact head

theorem identifier_derives (ready : c.Ready) :
    Spec AnyFailure Parse.identifier d c fun _ c' => Read Primary c c' := by
  unfold Parse.identifier
  refine frame_any ?_
  simp only [spec_bind]
  refine expect_reads ready (by decide) fun named ready1 => ?_
  have head : Read Primary c c.advance := ⟨ready1, by rw [named]; exact .ident⟩
  split <;> exact head

theorem updateAfter_derives (ready : c.Ready) (arg : Expr) :
    Spec AnyFailure (Parse.updateAfter arg) d c fun _ c' => Read Suffix c c' := by
  unfold Parse.updateAfter
  refine frame_any ?_
  simp only [spec_bind]
  refine expectOneOf_any fun update => ?_
  have op : c.current.kind = .inc ∨ c.current.kind = .dec := by simpa using update
  have live : c.current.kind ≠ .eof := by rcases op with h | h <;> rw [h] <;> decide
  have one : Read Suffix c c.advance :=
    ⟨ready.advance, by rw [ready.live live]; exact .update op⟩
  split
  · exact one
  · trivial

end Readers

/- One theorem per grammar method, by recursion on the fuel together: each calls the others
at the fuel it passes them. -/
mutual

theorem statement_derives : ∀ (n d : Nat) (c : Cursor), c.Ready →
    Spec AnyFailure (Parse.statement n) d c fun _ c' => Read Statement c c'
  | 0, _, _, _ => trivial
  | n + 1, d, c, ready => by
    rw [Parse.statement]
    refine frame_any ?_
    simp only [spec_bind, spec_get, spec_ite, spec_discard, spec_pure]
    have terminated : ∀ (s : Stmt) c1, Read Body c c1 →
        if (!c1.atEnd) = true then
          Spec AnyFailure (Parse.expect TokenKind.semicolon
            "A statement must be terminated by a semicolon") (d + 1) c1
            fun _ c2 => Read Statement c c2
        else Read Statement c c1 := by
      intro s c1 ⟨ready1, body⟩
      split
      · refine expect_reads ready1 (by decide) fun semicolon ready2 => ⟨ready2, .mk body ?_⟩
        rw [semicolon]
        exact .semicolon
      · rename_i stop
        obtain ⟨ks, same⟩ := ready1.head
        have eof : c1.current.kind = .eof := by simpa [Cursor.atEnd] using stop
        refine ⟨ready1, .mk body ?_⟩
        rw [same, eof]
        exact .eof
    split
    · exact (assignment_derives n (d + 1) c ready).mono terminated
    · split
      · exact (block_derives n (d + 1) c ready).mono terminated
      · exact (expression_derives n (d + 1) c ready).mono fun e c1 ⟨ready1, value⟩ =>
          terminated (.expr e c.current.pos) c1 ⟨ready1, .expression value⟩

theorem block_derives : ∀ (n d : Nat) (c : Cursor), c.Ready →
    Spec AnyFailure (Parse.block n) d c fun _ c' => Read Body c c'
  | 0, _, _, _ => trivial
  | n + 1, d, c, ready => by
    rw [Parse.block]
    refine frame_any ?_
    simp only [spec_bind, spec_discard, spec_pure]
    refine expect_reads ready (by decide) fun opened ready1 => ?_
    refine (statements_derives n (d + 1) c.advance [] ready1).mono fun _ c1
      ⟨ready2, inner⟩ => ?_
    refine expect_reads ready2 (by decide) fun closed ready3 => ⟨ready3, ?_⟩
    rw [closed] at inner
    rw [opened]
    exact .block inner

theorem statements_derives : ∀ (n d : Nat) (c : Cursor) (acc : List Stmt), c.Ready →
    Spec AnyFailure (Parse.statements n acc) d c fun _ c' => Read Statements c c'
  | 0, _, _, _, _ => trivial
  | n + 1, d, c, acc, ready => by
    rw [Parse.statements]
    simp only [spec_bind, spec_get, spec_ite, spec_pure]
    split
    · exact ⟨ready, .nil⟩
    · refine (statement_derives n d c ready).mono fun s c1 ⟨ready1, first⟩ => ?_
      exact (statements_derives n d c1 (s :: acc) ready1).mono fun _ c2 ⟨ready2, rest⟩ =>
        ⟨ready2, .cons first rest⟩

theorem assignment_derives : ∀ (n d : Nat) (c : Cursor), c.Ready →
    Spec AnyFailure (Parse.assignment n) d c fun _ c' => Read Body c c'
  | 0, _, _, _ => trivial
  | n + 1, d, c, ready => by
    rw [Parse.assignment]
    refine frame_any ?_
    simp only [spec_bind, spec_discard, spec_pure]
    refine expect_reads ready (by decide) fun named ready1 => ?_
    refine expect_reads ready1 (by decide) fun assigned ready2 => ?_
    refine (expression_derives n (d + 1) c.advance.advance ready2).mono
      fun _ c1 ⟨ready3, value⟩ => ⟨ready3, ?_⟩
    rw [named, assigned]
    exact .assign value

theorem expression_derives : ∀ (n d : Nat) (c : Cursor), c.Ready →
    Spec AnyFailure (Parse.expression n) d c fun _ c' => Read Expression c c'
  | 0, _, _, _ => trivial
  | n + 1, d, c, ready => by
    rw [Parse.expression]
    refine frame_any ?_
    simp only [spec_bind, spec_current, spec_ite, spec_pure]
    refine (primary_derives n (d + 1) c ready).mono fun e c1 ⟨ready1, first⟩ => ?_
    split
    · exact frame_any ((operations_derives n (d + 2) c1 e ready1).mono
        fun _ c2 ⟨ready2, rest⟩ => ⟨ready2, .mk first rest⟩)
    · exact ⟨ready1, .ofPostfix first⟩

theorem operations_derives : ∀ (n d : Nat) (c : Cursor) (left : Expr), c.Ready →
    Spec AnyFailure (Parse.operations n left) d c fun _ c' => Read Operations c c'
  | 0, _, _, _, _ => trivial
  | n + 1, d, c, left, ready => by
    rw [Parse.operations]
    simp only [spec_bind, spec_current]
    split <;> simp only [spec_bind, spec_pure]
    · rename_i op found
      exact (operation_derives n d c op left ready found).mono fun l c1 ⟨ready1, first⟩ =>
        (operations_derives n d c1 l ready1).mono fun _ c2 ⟨ready2, rest⟩ =>
          ⟨ready2, first.append rest⟩
    · exact ⟨ready, .nil⟩

/-- One operation reads its operator and its right operand, and the climb after it reads more
operations: a run of them, however the climb nests the tree. -/
theorem operation_derives : ∀ (n d : Nat) (c : Cursor) (op : BinaryOp) (left : Expr), c.Ready →
    BinaryOp.ofToken? c.current.kind = some op →
    Spec AnyFailure (Parse.operation n op left) d c fun _ c' => Read Operations c c'
  | 0, _, _, _, _, _, _ => trivial
  | n + 1, d, c, op, left, ready, found => by
    rw [Parse.operation]
    refine frame_any ?_
    simp only [spec_bind, spec_discard, spec_take, spec_pure]
    have binary : c.current.kind ∈ binaryOps := (binaryOps_iff _).mpr (by simp [found])
    have taken := ready.live (ofToken_ne_eof found)
    refine (primary_derives n (d + 1) c.advance ready.advance).mono fun r c1
      ⟨ready1, right⟩ => ?_
    refine (tighter_derives n (d + 1) c1 op.precedence r ready1).mono
      fun _ c2 ⟨ready2, rest⟩ => ⟨ready2, ?_⟩
    rw [taken]
    exact .cons binary right rest

theorem tighter_derives : ∀ (n d : Nat) (c : Cursor) (prec : Nat) (right : Expr), c.Ready →
    Spec AnyFailure (Parse.tighter n prec right) d c fun _ c' => Read Operations c c'
  | 0, _, _, _, _, _ => trivial
  | n + 1, d, c, prec, right, ready => by
    rw [Parse.tighter]
    simp only [spec_bind, spec_current]
    split <;> simp only [spec_bind, spec_ite, spec_pure]
    · rename_i op found
      split
      · exact (operation_derives n d c op right ready found).mono fun r c1 ⟨ready1, first⟩ =>
          (tighter_derives n d c1 prec r ready1).mono fun _ c2 ⟨ready2, rest⟩ =>
            ⟨ready2, first.append rest⟩
      · exact ⟨ready, .nil⟩
    · exact ⟨ready, .nil⟩

theorem primary_derives : ∀ (n d : Nat) (c : Cursor), c.Ready →
    Spec AnyFailure (Parse.primary n) d c fun _ c' => Read Postfix c c'
  | 0, _, _, _ => trivial
  | n + 1, d, c, ready => by
    rw [Parse.primary]
    refine frame_any ?_
    simp only [spec_bind, spec_current]
    have suffixed : ∀ e c1, Read Postfix c c1 →
        Spec AnyFailure (Parse.frame (Parse.suffixes n e)) (d + 1) c1
          fun _ c2 => Read Postfix c c2 :=
      fun e c1 ⟨ready1, head⟩ => frame_any ((suffixes_derives n (d + 2) c1 e ready1).mono
        fun _ c2 ⟨ready2, chain⟩ => ⟨ready2, head.suffixes chain⟩)
    have primed : ∀ e c1, Read Primary c c1 →
        Spec AnyFailure (Parse.frame (Parse.suffixes n e)) (d + 1) c1
          fun _ c2 => Read Postfix c c2 :=
      fun e c1 ⟨ready1, head⟩ => suffixed e c1 ⟨ready1, .ofPrimary head⟩
    split <;> simp only [spec_bind, spec_throw]
    · rename_i kind
      exact (literal_derives ready (.inl kind)).mono primed
    · rename_i kind
      exact (literal_derives ready (.inr kind)).mono primed
    · exact (identifier_derives ready).mono primed
    · exact (array_derives n (d + 1) c ready).mono primed
    · exact (mapping_derives n (d + 1) c ready).mono primed
    · exact (paren_derives n (d + 1) c ready).mono primed
    · exact (updateBefore_derives n (d + 1) c ready).mono primed
    · exact (updateBefore_derives n (d + 1) c ready).mono primed
    · exact (unary_derives n (d + 1) c ready).mono suffixed
    · exact (unary_derives n (d + 1) c ready).mono suffixed
    · exact (unary_derives n (d + 1) c ready).mono suffixed
    · trivial

theorem suffixes_derives : ∀ (n d : Nat) (c : Cursor) (e : Expr), c.Ready →
    Spec AnyFailure (Parse.suffixes n e) d c fun _ c' => Read Suffixes c c'
  | 0, _, _, _, _ => trivial
  | n + 1, d, c, e, ready => by
    rw [Parse.suffixes]
    simp only [spec_bind, spec_current]
    have chained : ∀ e1 c1, Read Suffix c c1 →
        Spec AnyFailure (Parse.suffixes n e1) d c1 fun _ c2 => Read Suffixes c c2 :=
      fun e1 c1 ⟨ready1, one⟩ => (suffixes_derives n d c1 e1 ready1).mono
        fun _ c2 ⟨ready2, rest⟩ => ⟨ready2, .cons one rest⟩
    split <;> simp only [spec_bind, spec_pure]
    · exact (arguments_derives n d c ready).mono fun _ c1 read => chained _ c1 read
    · exact (member_derives n d c e ready).mono chained
    · exact (indexing_derives n d c e ready).mono chained
    · exact (updateAfter_derives ready e).mono chained
    · exact (updateAfter_derives ready e).mono chained
    · exact ⟨ready, .nil⟩

/-- A member access reads `.` and a name, and a call right after them is the same suffix. -/
theorem member_derives : ∀ (n d : Nat) (c : Cursor) (obj : Expr), c.Ready →
    Spec AnyFailure (Parse.member n obj) d c fun _ c' => Read Suffix c c'
  | 0, _, _, _, _ => trivial
  | n + 1, d, c, obj, ready => by
    rw [Parse.member]
    refine frame_any ?_
    simp only [spec_bind, spec_discard, spec_get, spec_ite, spec_pure]
    refine expect_reads ready (by decide) fun dotted ready1 => ?_
    refine expect_reads ready1 (by decide) fun named ready2 => ?_
    split
    · rename_i called
      have opened : c.advance.advance.current.kind = .lparen := by
        simpa [Cursor.test] using called
      refine (arguments_derives n (d + 1) c.advance.advance ready2).mono
        fun _ c3 ⟨ready3, call⟩ => ⟨ready3, ?_⟩
      rw [dotted, named]
      exact call.member_call (by rw [ready2.live (by rw [opened]; decide), opened]; rfl)
    · exact ⟨ready2, by rw [dotted, named]; exact .member⟩

theorem indexing_derives : ∀ (n d : Nat) (c : Cursor) (obj : Expr), c.Ready →
    Spec AnyFailure (Parse.indexing n obj) d c fun _ c' => Read Suffix c c'
  | 0, _, _, _, _ => trivial
  | n + 1, d, c, obj, ready => by
    rw [Parse.indexing]
    refine frame_any ?_
    simp only [spec_bind, spec_discard, spec_pure]
    refine expect_reads ready (by decide) fun opened ready1 => ?_
    refine (expression_derives n (d + 1) c.advance ready1).mono fun _ c1 ⟨ready2, key⟩ => ?_
    refine expect_reads ready2 (by decide) fun closed ready3 => ⟨ready3, ?_⟩
    rw [closed] at key
    rw [opened]
    exact .index key

/-- A unary operator applies to a whole postfix expression; the grammar reads the same tokens as
the operator on its primary expression, followed by the suffixes. -/
theorem unary_derives : ∀ (n d : Nat) (c : Cursor), c.Ready →
    Spec AnyFailure (Parse.unary n) d c fun _ c' => Read Postfix c c'
  | 0, _, _, _ => trivial
  | n + 1, d, c, ready => by
    rw [Parse.unary]
    refine frame_any ?_
    simp only [spec_bind, spec_take]
    refine (primary_derives n (d + 1) c.advance ready.advance).mono
      fun _ c1 ⟨ready1, operand⟩ => ?_
    split
    · rename_i u found
      have op := UnaryOp.kind_of_ofToken? found
      have live : c.current.kind ≠ .eof := by rcases op with h | h | h <;> rw [h] <;> decide
      refine ⟨ready1, ?_⟩
      rw [ready.live live]
      exact operand.unary op
    · trivial

theorem updateBefore_derives : ∀ (n d : Nat) (c : Cursor), c.Ready →
    Spec AnyFailure (Parse.updateBefore n) d c fun _ c' => Read Primary c c'
  | 0, _, _, _ => trivial
  | n + 1, d, c, ready => by
    rw [Parse.updateBefore]
    refine frame_any ?_
    simp only [spec_bind]
    refine expectOneOf_any fun update => ?_
    have op : c.current.kind = .inc ∨ c.current.kind = .dec := by simpa using update
    have live : c.current.kind ≠ .eof := by rcases op with h | h <;> rw [h] <;> decide
    refine (primary_derives n (d + 1) c.advance ready.advance).mono
      fun _ c1 ⟨ready1, operand⟩ => ?_
    have head : Read Primary c c1 := ⟨ready1, by rw [ready.live live]; exact .update op operand⟩
    split
    · exact head
    · trivial

theorem paren_derives : ∀ (n d : Nat) (c : Cursor), c.Ready →
    Spec AnyFailure (Parse.paren n) d c fun _ c' => Read Primary c c'
  | 0, _, _, _ => trivial
  | n + 1, d, c, ready => by
    rw [Parse.paren]
    refine frame_any ?_
    simp only [spec_bind, spec_discard, spec_pure]
    refine expect_reads ready (by decide) fun opened ready1 => ?_
    refine (expression_derives n (d + 1) c.advance ready1).mono fun _ c1 ⟨ready2, inner⟩ => ?_
    refine expect_reads ready2 (by decide) fun closed ready3 => ⟨ready3, ?_⟩
    rw [closed] at inner
    rw [opened]
    exact .paren inner

theorem array_derives : ∀ (n d : Nat) (c : Cursor), c.Ready →
    Spec AnyFailure (Parse.array n) d c fun _ c' => Read Primary c c'
  | 0, _, _, _ => trivial
  | n + 1, d, c, ready => by
    rw [Parse.array]
    refine frame_any ?_
    simp only [spec_bind, spec_discard, spec_pure]
    refine expect_reads ready (by decide) fun opened ready1 => ?_
    refine (listed_derives n (d + 1) c.advance .rbracket _ [] ready1).mono
      fun _ c1 ⟨ready2, items, _⟩ => ?_
    refine expect_reads ready2 (by decide) fun closed ready3 => ⟨ready3, ?_⟩
    have items := items rfl
    rw [closed] at items
    rw [opened]
    exact .array items

/-- The expressions of a list, each after a comma but the first: the items from the first on,
or, once one is read, the items after it. -/
theorem listed_derives : ∀ (n d : Nat) (c : Cursor) (close : TokenKind) (sep : String)
    (acc : List Expr), c.Ready →
    Spec AnyFailure (Parse.listed n close sep acc) d c fun _ c' =>
      c'.Ready ∧ (acc = [] → Items c.kinds c'.kinds) ∧
        (acc ≠ [] → MoreItems c.kinds c'.kinds)
  | 0, _, _, _, _, _, _ => trivial
  | n + 1, d, c, close, sep, acc, ready => by
    rw [Parse.listed]
    simp only [spec_bind, spec_get, spec_ite, spec_discard, spec_pure]
    have item : ∀ c1 : Cursor, c1.Ready → ∀ {Q : Cursor → Prop},
        (∀ c3 m, c3.Ready → Expression c1.kinds m → MoreItems m c3.kinds → Q c3) →
        Spec AnyFailure (Parse.expression n) d c1 fun e c2 =>
          Spec AnyFailure (Parse.listed n close sep (e :: acc)) d c2 fun _ c3 => Q c3 := by
      intro c1 ready1 Q next
      refine (expression_derives n d c1 ready1).mono fun e c2 ⟨ready2, first⟩ => ?_
      exact (listed_derives n d c2 close sep (e :: acc) ready2).mono fun _ c3
        ⟨ready3, _, more⟩ =>
        next c3 _ ready3 first (more (List.cons_ne_nil _ _))
    split
    · exact ⟨ready, fun _ => .nil, fun _ => .nil⟩
    · split
      · rename_i filled
        refine expect_reads ready (by decide) fun separated ready1 =>
          item _ ready1 fun c3 _ ready3 first more => ⟨ready3, fun empty => ?_, fun _ => ?_⟩
        · simp [empty] at filled
        · rw [separated]
          exact .cons first more
      · rename_i empty
        exact item c ready fun c3 _ ready3 first more =>
          ⟨ready3, fun _ => .cons first more,
            fun filled => absurd (by simpa using empty) filled⟩

theorem mapping_derives : ∀ (n d : Nat) (c : Cursor), c.Ready →
    Spec AnyFailure (Parse.mapping n) d c fun _ c' => Read Primary c c'
  | 0, _, _, _ => trivial
  | n + 1, d, c, ready => by
    rw [Parse.mapping]
    refine frame_any ?_
    simp only [spec_bind, spec_discard, spec_pure]
    refine expect_reads ready (by decide) fun opened ready1 => ?_
    refine (entries_derives n (d + 1) c.advance [] ready1).mono
      fun _ c1 ⟨ready2, inner, _⟩ => ?_
    refine expect_reads ready2 (by decide) fun closed ready3 => ⟨ready3, ?_⟩
    have inner := inner rfl
    rw [closed] at inner
    rw [opened]
    exact .map inner

/-- The entries of a map, each after a comma but the first, as `listed_derives` has them. -/
theorem entries_derives : ∀ (n d : Nat) (c : Cursor) (acc : List (MapKey × Expr)), c.Ready →
    Spec AnyFailure (Parse.entries n acc) d c fun _ c' =>
      c'.Ready ∧ (acc = [] → Entries c.kinds c'.kinds) ∧
        (acc ≠ [] → MoreEntries c.kinds c'.kinds)
  | 0, _, _, _, _ => trivial
  | n + 1, d, c, acc, ready => by
    rw [Parse.entries]
    simp only [spec_bind, spec_get, spec_ite, spec_discard, spec_pure]
    have entry : ∀ c1 : Cursor, c1.Ready → ∀ {Q : Cursor → Prop},
        (∀ c3 ts m, c3.Ready → c1.kinds = .string :: .colon :: ts → Expression ts m →
          MoreEntries m c3.kinds → Q c3) →
        Spec AnyFailure (Parse.expect .string "A map key must be a string") d c1 fun key c2 =>
          Spec AnyFailure (Parse.expect .colon
            "A map key and value must be separated by a colon") d c2
            fun _ c3 => Spec AnyFailure (Parse.expression n) d c3 fun value c4 =>
              Spec AnyFailure (Parse.entries n ((⟨key.text, key.pos⟩, value) :: acc)) d c4
                fun _ c5 => Q c5 := by
      intro c1 ready1 Q next
      refine expect_reads ready1 (by decide) fun keyed ready2 => ?_
      refine expect_reads ready2 (by decide) fun paired ready3 => ?_
      refine (expression_derives n d c1.advance.advance ready3).mono
        fun value c4 ⟨ready4, first⟩ => ?_
      exact (entries_derives n d c4 _ ready4).mono fun _ c5 ⟨ready5, _, more⟩ =>
        next c5 _ _ ready5 (by rw [keyed, paired]) first (more (List.cons_ne_nil _ _))
    split
    · exact ⟨ready, fun _ => .nil, fun _ => .nil⟩
    · split
      · rename_i filled
        refine expect_reads ready (by decide) fun separated ready1 =>
          entry _ ready1 fun c3 _ _ ready3 keyed first more =>
            ⟨ready3, fun empty => ?_, fun _ => ?_⟩
        · simp [empty] at filled
        · rw [separated, keyed]
          exact .cons first more
      · rename_i empty
        exact entry c ready fun c3 _ _ ready3 keyed first more =>
          ⟨ready3, fun _ => by rw [keyed]; exact .cons first more,
            fun filled => absurd (by simpa using empty) filled⟩

theorem arguments_derives : ∀ (n d : Nat) (c : Cursor), c.Ready →
    Spec AnyFailure (Parse.arguments n) d c fun _ c' => Read Suffix c c'
  | 0, _, _, _ => trivial
  | n + 1, d, c, ready => by
    rw [Parse.arguments]
    refine frame_any ?_
    simp only [spec_bind, spec_discard, spec_pure]
    refine expect_reads ready (by decide) fun opened ready1 => ?_
    refine (listed_derives n (d + 1) c.advance .rparen _ [] ready1).mono
      fun _ c1 ⟨ready2, items, _⟩ => ?_
    refine expect_reads ready2 (by decide) fun closed ready3 => ⟨ready3, ?_⟩
    have items := items rfl
    rw [closed] at items
    rw [opened]
    exact .call items

end

theorem program_derives : ∀ (n d : Nat) (c : Cursor) (acc : List Stmt), c.Ready →
    Spec AnyFailure (Parse.program n acc) d c fun _ c' =>
      Read Statements c c' ∧ c'.atEnd = true
  | 0, _, _, _, _ => trivial
  | n + 1, d, c, acc, ready => by
    rw [Parse.program]
    simp only [spec_bind, spec_get, spec_ite, spec_pure]
    split
    · rename_i stop
      exact ⟨⟨ready, .nil⟩, stop⟩
    · refine (statement_derives n d c ready).mono fun s c1 ⟨ready1, first⟩ => ?_
      refine (program_derives n d c1 (s :: acc) ready1).mono fun _ c2 read => ?_
      obtain ⟨⟨ready2, rest⟩, stop⟩ := read
      exact ⟨⟨ready2, .cons first rest⟩, stop⟩

section Program

variable {front : List Token} {t : Token}

/-- Tokens that end with the end of input are read from their first, comments dropped. -/
theorem ofTokens_kinds (ended : t.kind = .eof) :
    (Cursor.ofTokens (front ++ [t])).kinds =
      ((front ++ [t]).filter (·.kind != .comment)).map (·.kind) := by
  have kept : (front ++ [t]).filter (·.kind != .comment) = front.filter (·.kind != .comment) ++
    [t] := by
    simp [List.filter_append, ended]
  simp [Cursor.kinds, Cursor.ahead, Cursor.ofTokens, readable_of_eof ended, kept]

theorem ofTokens_ready (ended : t.kind = .eof) : (Cursor.ofTokens (front ++ [t])).Ready := by
  simp [Cursor.Ready, ofTokens_kinds ended, List.filter_append, ended]

/-- At the end of input, among kinds whose only end of input is the last, a cursor has nothing
else ahead. -/
theorem kinds_of_atEnd {c : Cursor} {ks : List TokenKind} (ready : c.Ready) (stop : c.atEnd = true)
    (within : c.kinds <:+ ks) (single : ks.count .eof = 1) : c.kinds = [.eof] := by
  obtain ⟨rest, same⟩ := ready.head
  have eof : c.current.kind = .eof := by simpa [Cursor.atEnd] using stop
  rw [eof] at same
  rw [same]
  cases rest with
  | nil => rfl
  | cons k more =>
    have last : (k :: more).getLast? = some .eof := by
      simpa [Cursor.Ready, same, List.getLast?_cons_cons] using ready
    have twice : 2 ≤ c.kinds.count .eof := by
      rw [same, List.count_cons_self]
      have := List.count_pos_iff.mpr (List.mem_of_getLast? last)
      omega
    have := within.sublist.count_le TokenKind.eof
    omega

/-- A parse of tokens that end with the end of input, and have no other, reads a program. -/
theorem parseTokens_derives (ended : t.kind = .eof) (plain : ∀ x ∈ front, x.kind ≠ .eof)
    {p : Program} (parsed : parseTokens (front ++ [t]) = .ok p) :
    Grammar.Program (((front ++ [t]).filter (·.kind != .comment)).map (·.kind)) := by
  set c := Cursor.ofTokens (front ++ [t])
  have spec : Spec AnyFailure (Parse.programAt (Parse.budget c)) Parse.textDepth c
      fun _ c' => Read Statements c c' ∧ c'.atEnd = true := by
    rw [Parse.programAt]
    refine frame_any ?_
    simp only [spec_bind, spec_current, spec_pure]
    exact program_derives _ _ _ [] (ofTokens_ready ended)
  rcases ran : Parser.exec (Parse.programAt (Parse.budget c)) Parse.textDepth c with ⟨r, c'⟩
  have result : r = .ok p := by
    rw [← parsed]
    exact (congrArg Prod.fst ran).symm
  subst result
  obtain ⟨⟨ready, statements⟩, stop⟩ := spec.post ran
  have single : c.kinds.count .eof = 1 := by
    rw [ofTokens_kinds ended]
    simp only [List.filter_append, List.map_append, List.count_append]
    have none : ((front.filter (·.kind != .comment)).map (·.kind)).count .eof = 0 :=
      List.count_eq_zero.mpr fun mem => by
        obtain ⟨x, kept, same⟩ := List.mem_map.mp mem
        exact plain x (List.mem_of_mem_filter kept) same
    simp [none, ended]
  have final := kinds_of_atEnd ready stop statements.suffix single
  rw [← ofTokens_kinds ended, Grammar.Program, ← final]
  exact statements

end Program

end Quill
