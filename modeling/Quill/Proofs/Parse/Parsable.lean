import Mathlib
import Quill.Proofs.Scan.Classes
import Quill.Proofs.Format.Layout
import Quill.Proofs.Parse.Spec

set_option autoImplicit false

/- Every tree a parse builds is parsable: the parser builds names and numbers only of tokens of
those classes, and every token a scanned cursor holds is of its class. -/
namespace Quill

open Quill.Parser Quill.Parser.Spec

/-- Any failure at all: a specification that admits every failure speaks of successful runs
only. -/
def AnyFailure (_ : ParseFailure) : Prop := True

theorem Expr.listParsable_iff (es : List Expr) :
    Expr.ListParsable es ↔ ∀ e ∈ es, e.Parsable := by
  induction es with
  | nil => simp [Expr.ListParsable]
  | cons e rest ih => simp [Expr.ListParsable, ih]

theorem Expr.entriesParsable_iff (es : List (MapKey × Expr)) :
    Expr.EntriesParsable es ↔ ∀ kv ∈ es, kv.2.Parsable := by
  induction es with
  | nil => simp [Expr.EntriesParsable]
  | cons kv rest ih => simp [Expr.EntriesParsable, ih]

theorem Stmt.listParsable_iff (ss : List Stmt) :
    Stmt.ListParsable ss ↔ ∀ s ∈ ss, s.Parsable := by
  induction ss with
  | nil => simp [Stmt.ListParsable]
  | cons s rest ih => simp [Stmt.ListParsable, ih]

namespace Cursor

variable {c : Cursor}

/-- A cursor whose tokens are all of their classes. -/
def Classed (c : Cursor) : Prop := ∀ t ∈ c.items, t.Classed

theorem Classed.peek (classed : c.Classed) (i : Nat) : (c.peek i).Classed := by
  unfold Cursor.peek Cursor.last
  split
  · exact classed _ (Array.getElem_mem _)
  · exact classed _ (Array.getElem_mem _)

theorem Classed.current (classed : c.Classed) : c.current.Classed := classed.peek 0

theorem Classed.advance (classed : c.Classed) : c.advance.Classed := by
  unfold Cursor.advance
  split
  · exact classed
  · exact classed

/-- Past a token that does not end the input, the current token is the one that came after it. -/
theorem advance_current (live : c.current.kind ≠ .eof) : c.advance.current = c.peek 1 := by
  have more : c.atEnd = false := by simp [Cursor.atEnd, live]
  simp [Cursor.advance, more, Cursor.current, Cursor.peek, Cursor.last]

/-- The readable tokens of classed tokens are classed: comments are dropped and an end of input
is added. -/
theorem readable_classed {ts : List Token} (classed : ∀ t ∈ ts, t.Classed) :
    ∀ t ∈ readable ts, t.Classed := by
  have kept : ∀ t ∈ ts.filter (·.kind != .comment), t.Classed := fun t mem =>
    classed t (List.mem_filter.mp mem).1
  have ended : ∀ last, (eofAfter last).Classed := by
    intro last
    cases last <;> simp [Token.Classed, eofAfter]
  simp only [readable]
  split
  · split
    · exact kept
    · intro t mem
      rcases List.mem_append.mp mem with mem | mem
      · exact kept t mem
      · rw [List.mem_singleton.mp mem]
        exact ended _
  · intro t mem
    rw [List.mem_singleton.mp mem]
    exact ended _

theorem ofTokens_classed {ts : List Token} (classed : ∀ t ∈ ts, t.Classed) :
    (Cursor.ofTokens ts).Classed := fun t mem =>
  readable_classed classed t (by simpa [Cursor.ofTokens] using mem)

end Cursor

section Readers

variable {α : Type} {d : Nat} {c : Cursor} {Q : α → Cursor → Prop}

theorem frame_any {body : Parser α} (h : Spec AnyFailure body (d + 1) c Q) :
    Spec AnyFailure (Parse.frame body) d c Q := by
  rw [spec_frame]
  split
  · trivial
  · exact h

theorem expect_any {k : TokenKind} {reason : String} {R : Token → Cursor → Prop}
    (h : c.current.kind = k → R c.current c.advance) :
    Spec AnyFailure (Parse.expect k reason) d c R :=
  spec_expect.mpr ⟨fun found => h (by simpa [Cursor.test] using found), fun _ => trivial⟩

theorem expectOneOf_any {ks : List TokenKind} {R : Token → Cursor → Prop}
    (h : c.current.kind ∈ ks → R c.current c.advance) :
    Spec AnyFailure (Parse.expectOneOf ks) d c R :=
  spec_expectOneOf.mpr ⟨fun found => h (by simpa [Cursor.testAny] using found),
    fun _ => trivial⟩

variable (classed : c.Classed)
include classed

/-- A literal is a string, or a number token's text with its value. -/
theorem literal_parsable :
    Spec AnyFailure Parse.literal d c fun e c' => e.Parsable ∧ c'.Classed := by
  unfold Parse.literal
  refine frame_any ?_
  simp only [spec_bind, spec_take]
  split
  · rename_i number
    split
    · rename_i v valued
      have isNumber := classed.current.2 (by simpa using number)
      exact ⟨.inr (.inl ⟨isNumber, valued⟩), classed.advance⟩
    · trivial
  · exact ⟨.inl rfl, classed.advance⟩

/-- A name is a keyword constant or a variable. -/
theorem identifier_parsable :
    Spec AnyFailure Parse.identifier d c fun e c' => e.Parsable ∧ c'.Classed := by
  unfold Parse.identifier
  refine frame_any ?_
  simp only [spec_bind]
  refine expect_any fun named => ?_
  have name := classed.current.1 named
  split
  · rename_i v constant
    exact ⟨.inr (.inr ⟨name, constant⟩), classed.advance⟩
  · rename_i plain
    exact ⟨⟨name, plain⟩, classed.advance⟩

/-- A postfix update applies to an argument that can be assigned. -/
theorem updateAfter_parsable {arg : Expr} (wf : arg.Parsable) :
    Spec AnyFailure (Parse.updateAfter arg) d c fun e c' => e.Parsable ∧ c'.Classed := by
  unfold Parse.updateAfter
  refine frame_any ?_
  simp only [spec_bind]
  refine expectOneOf_any fun _ => ?_
  split
  · rename_i assignable
    exact ⟨⟨wf, assignable⟩, classed.advance⟩
  · trivial

end Readers

/- One theorem per grammar method, by recursion on the fuel together: each calls the others
at the fuel it passes them. -/
mutual

theorem statement_parsable : ∀ (n d : Nat) (c : Cursor), c.Classed →
    Spec AnyFailure (Parse.statement n) d c fun s c' => s.Parsable ∧ c'.Classed
  | 0, _, _, _ => trivial
  | n + 1, d, c, classed => by
    rw [Parse.statement]
    refine frame_any ?_
    simp only [spec_bind, spec_get, spec_ite, spec_discard, spec_pure]
    have terminated : ∀ (s : Stmt) c1, s.Parsable ∧ c1.Classed →
        if (!c1.atEnd) = true then
          Spec AnyFailure (Parse.expect TokenKind.semicolon
            "A statement must be terminated by a semicolon") (d + 1) c1
            fun _ c2 => s.Parsable ∧ c2.Classed
        else s.Parsable ∧ c1.Classed := by
      intro s c1 built
      split
      · exact expect_any fun _ => ⟨built.1, built.2.advance⟩
      · exact built
    split
    · exact (assignment_parsable n (d + 1) c classed).mono terminated
    · split
      · rename_i opened
        simp only [Bool.and_eq_true, beq_iff_eq, bne_iff_ne, ne_eq] at opened
        have filled : c.advance.current.kind ≠ .rbrace := by
          rw [Cursor.advance_current (by simp [opened.1.1])]
          exact opened.1.2
        exact (block_parsable n (d + 1) c classed filled).mono terminated
      · exact (expression_parsable n (d + 1) c classed).mono fun e c1 built =>
          terminated (.expr e c.current.pos) c1 built

/-- A block's statements follow a brace that is not closed at once, so there is at least one. -/
theorem block_parsable : ∀ (n d : Nat) (c : Cursor), c.Classed →
    c.advance.current.kind ≠ .rbrace →
    Spec AnyFailure (Parse.block n) d c fun s c' => s.Parsable ∧ c'.Classed
  | 0, _, _, _, _ => trivial
  | n + 1, d, c, classed, filled => by
    rw [Parse.block]
    refine frame_any ?_
    simp only [spec_bind, spec_discard, spec_pure]
    refine expect_any fun _ => ?_
    refine (statements_parsable n (d + 1) c.advance [] classed.advance (List.forall_mem_nil _)).mono
      fun body c1 read => ?_
    obtain ⟨wf, classed1, empty⟩ := read
    refine expect_any fun closed =>
      ⟨⟨?_, (Stmt.listParsable_iff body).mpr wf⟩, classed1.advance⟩
    rintro rfl
    exact filled ((empty rfl).2 ▸ closed)

theorem statements_parsable : ∀ (n d : Nat) (c : Cursor) (acc : List Stmt), c.Classed →
    (∀ s ∈ acc, s.Parsable) →
    Spec AnyFailure (Parse.statements n acc) d c fun ss c' =>
      (∀ s ∈ ss, s.Parsable) ∧ c'.Classed ∧ (ss = [] → acc = [] ∧ c' = c)
  | 0, _, _, _, _, _ => trivial
  | n + 1, d, c, acc, classed, before => by
    rw [Parse.statements]
    simp only [spec_bind, spec_get, spec_ite, spec_pure]
    split
    · exact ⟨by simpa using before, classed, fun empty => by simpa using empty⟩
    · refine (statement_parsable n d c classed).mono fun s c1 read => ?_
      obtain ⟨wf, classed1⟩ := read
      refine (statements_parsable n d c1 (s :: acc) classed1 ?_).mono
        fun ss c2 ⟨all, classed2, empty⟩ => ⟨all, classed2, fun none => ?_⟩
      · intro s' mem
        rcases List.mem_cons.mp mem with rfl | mem
        · exact wf
        · exact before s' mem
      · exact absurd (empty none).1 (List.cons_ne_nil _ _)

/-- An assignment's target is a name. -/
theorem assignment_parsable : ∀ (n d : Nat) (c : Cursor), c.Classed →
    Spec AnyFailure (Parse.assignment n) d c fun s c' => s.Parsable ∧ c'.Classed
  | 0, _, _, _ => trivial
  | n + 1, d, c, classed => by
    rw [Parse.assignment]
    refine frame_any ?_
    simp only [spec_bind, spec_discard, spec_pure]
    refine expect_any fun named => ?_
    refine expect_any fun _ => ?_
    exact (expression_parsable n (d + 1) c.advance.advance classed.advance.advance).mono
      fun _ c1 ⟨wf, classed1⟩ => ⟨⟨classed.current.1 named, wf⟩, classed1⟩

theorem expression_parsable : ∀ (n d : Nat) (c : Cursor), c.Classed →
    Spec AnyFailure (Parse.expression n) d c fun e c' => e.Parsable ∧ c'.Classed
  | 0, _, _, _ => trivial
  | n + 1, d, c, classed => by
    rw [Parse.expression]
    refine frame_any ?_
    simp only [spec_bind, spec_current, spec_ite, spec_pure]
    refine (primary_parsable n (d + 1) c classed).mono fun e c1 read => ?_
    obtain ⟨wf, classed1⟩ := read
    split
    · exact frame_any (operations_parsable n (d + 2) c1 e classed1 wf)
    · exact ⟨wf, classed1⟩

theorem operations_parsable : ∀ (n d : Nat) (c : Cursor) (left : Expr), c.Classed →
    left.Parsable →
    Spec AnyFailure (Parse.operations n left) d c fun e c' => e.Parsable ∧ c'.Classed
  | 0, _, _, _, _, _ => trivial
  | n + 1, d, c, left, classed, wf => by
    rw [Parse.operations]
    simp only [spec_bind, spec_current]
    split <;> simp only [spec_bind, spec_pure]
    · rename_i op _
      exact (operation_parsable n d c op left classed wf).mono fun l c1 ⟨wf1, classed1⟩ =>
        operations_parsable n d c1 l classed1 wf1
    · exact ⟨wf, classed⟩

theorem operation_parsable : ∀ (n d : Nat) (c : Cursor) (op : BinaryOp) (left : Expr),
    c.Classed → left.Parsable →
    Spec AnyFailure (Parse.operation n op left) d c fun e c' => e.Parsable ∧ c'.Classed
  | 0, _, _, _, _, _, _ => trivial
  | n + 1, d, c, op, left, classed, wf => by
    rw [Parse.operation]
    refine frame_any ?_
    simp only [spec_bind, spec_discard, spec_take, spec_pure]
    refine (primary_parsable n (d + 1) c.advance classed.advance).mono
      fun r c1 read => ?_
    obtain ⟨wf1, classed1⟩ := read
    exact (tighter_parsable n (d + 1) c1 op.precedence r classed1 wf1).mono
      fun _ c2 ⟨wf2, classed2⟩ => ⟨⟨wf, wf2⟩, classed2⟩

theorem tighter_parsable : ∀ (n d : Nat) (c : Cursor) (prec : Nat) (right : Expr), c.Classed →
    right.Parsable →
    Spec AnyFailure (Parse.tighter n prec right) d c fun e c' => e.Parsable ∧ c'.Classed
  | 0, _, _, _, _, _, _ => trivial
  | n + 1, d, c, prec, right, classed, wf => by
    rw [Parse.tighter]
    simp only [spec_bind, spec_current]
    split <;> simp only [spec_bind, spec_ite, spec_pure]
    · rename_i op _
      split
      · exact (operation_parsable n d c op right classed wf).mono fun r c1 ⟨wf1, classed1⟩ =>
          tighter_parsable n d c1 prec r classed1 wf1
      · exact ⟨wf, classed⟩
    · exact ⟨wf, classed⟩

theorem primary_parsable : ∀ (n d : Nat) (c : Cursor), c.Classed →
    Spec AnyFailure (Parse.primary n) d c fun e c' => e.Parsable ∧ c'.Classed
  | 0, _, _, _ => trivial
  | n + 1, d, c, classed => by
    rw [Parse.primary]
    refine frame_any ?_
    simp only [spec_bind, spec_current]
    have suffixed : ∀ e c1, e.Parsable ∧ c1.Classed →
        Spec AnyFailure (Parse.frame (Parse.suffixes n e)) (d + 1) c1
          fun e' c2 => e'.Parsable ∧ c2.Classed :=
      fun e c1 ⟨wf, classed1⟩ => frame_any (suffixes_parsable n (d + 2) c1 e classed1 wf)
    split <;> simp only [spec_bind, spec_throw]
    · exact (literal_parsable classed).mono suffixed
    · exact (literal_parsable classed).mono suffixed
    · exact (identifier_parsable classed).mono suffixed
    · exact (array_parsable n (d + 1) c classed).mono suffixed
    · exact (mapping_parsable n (d + 1) c classed).mono suffixed
    · exact (paren_parsable n (d + 1) c classed).mono suffixed
    · exact (updateBefore_parsable n (d + 1) c classed).mono suffixed
    · exact (updateBefore_parsable n (d + 1) c classed).mono suffixed
    · exact (unary_parsable n (d + 1) c classed).mono suffixed
    · exact (unary_parsable n (d + 1) c classed).mono suffixed
    · exact (unary_parsable n (d + 1) c classed).mono suffixed
    · trivial

theorem suffixes_parsable : ∀ (n d : Nat) (c : Cursor) (e : Expr), c.Classed → e.Parsable →
    Spec AnyFailure (Parse.suffixes n e) d c fun e' c' => e'.Parsable ∧ c'.Classed
  | 0, _, _, _, _, _ => trivial
  | n + 1, d, c, e, classed, wf => by
    rw [Parse.suffixes]
    simp only [spec_bind, spec_current]
    have chained : ∀ e1 c1, e1.Parsable ∧ c1.Classed →
        Spec AnyFailure (Parse.suffixes n e1) d c1 fun e' c2 => e'.Parsable ∧ c2.Classed :=
      fun e1 c1 ⟨wf1, classed1⟩ => suffixes_parsable n d c1 e1 classed1 wf1
    split <;> simp only [spec_bind, spec_pure]
    · exact (arguments_parsable n d c classed).mono fun args c1 ⟨all, classed1⟩ =>
        chained _ c1 ⟨⟨wf, (Expr.listParsable_iff args).mpr all⟩, classed1⟩
    · exact (member_parsable n d c e classed wf).mono chained
    · exact (indexing_parsable n d c e classed wf).mono chained
    · exact (updateAfter_parsable classed wf).mono chained
    · exact (updateAfter_parsable classed wf).mono chained
    · exact ⟨wf, classed⟩

/-- A member's name is a name, and a call right after it calls the member. -/
theorem member_parsable : ∀ (n d : Nat) (c : Cursor) (obj : Expr), c.Classed → obj.Parsable →
    Spec AnyFailure (Parse.member n obj) d c fun e c' => e.Parsable ∧ c'.Classed
  | 0, _, _, _, _, _ => trivial
  | n + 1, d, c, obj, classed, wf => by
    rw [Parse.member]
    refine frame_any ?_
    simp only [spec_bind, spec_discard, spec_get, spec_ite, spec_pure]
    refine expect_any fun _ => ?_
    refine expect_any fun named => ?_
    have field : (Expr.field obj c.advance.current.text c.advance.current.pos obj.pos).Parsable :=
      ⟨wf, classed.advance.current.1 named⟩
    split
    · exact (arguments_parsable n (d + 1) c.advance.advance classed.advance.advance).mono
        fun args c1 ⟨all, classed1⟩ =>
          ⟨⟨field, (Expr.listParsable_iff args).mpr all⟩, classed1⟩
    · exact ⟨field, classed.advance.advance⟩

theorem indexing_parsable : ∀ (n d : Nat) (c : Cursor) (obj : Expr), c.Classed →
    obj.Parsable →
    Spec AnyFailure (Parse.indexing n obj) d c fun e c' => e.Parsable ∧ c'.Classed
  | 0, _, _, _, _, _ => trivial
  | n + 1, d, c, obj, classed, wf => by
    rw [Parse.indexing]
    refine frame_any ?_
    simp only [spec_bind, spec_discard, spec_pure]
    refine expect_any fun _ => ?_
    refine (expression_parsable n (d + 1) c.advance classed.advance).mono
      fun key c1 read => ?_
    obtain ⟨wf1, classed1⟩ := read
    exact expect_any fun _ => ⟨⟨wf, wf1⟩, classed1.advance⟩

theorem unary_parsable : ∀ (n d : Nat) (c : Cursor), c.Classed →
    Spec AnyFailure (Parse.unary n) d c fun e c' => e.Parsable ∧ c'.Classed
  | 0, _, _, _ => trivial
  | n + 1, d, c, classed => by
    rw [Parse.unary]
    refine frame_any ?_
    simp only [spec_bind, spec_take]
    refine (primary_parsable n (d + 1) c.advance classed.advance).mono fun _ c1 built => ?_
    split
    · exact built
    · trivial

/-- A prefix update applies to an argument that can be assigned. -/
theorem updateBefore_parsable : ∀ (n d : Nat) (c : Cursor), c.Classed →
    Spec AnyFailure (Parse.updateBefore n) d c fun e c' => e.Parsable ∧ c'.Classed
  | 0, _, _, _ => trivial
  | n + 1, d, c, classed => by
    rw [Parse.updateBefore]
    refine frame_any ?_
    simp only [spec_bind]
    refine expectOneOf_any fun _ => ?_
    refine (primary_parsable n (d + 1) c.advance classed.advance).mono
      fun _ c1 read => ?_
    obtain ⟨wf, classed1⟩ := read
    split
    · rename_i assignable
      exact ⟨⟨wf, assignable⟩, classed1⟩
    · trivial

theorem paren_parsable : ∀ (n d : Nat) (c : Cursor), c.Classed →
    Spec AnyFailure (Parse.paren n) d c fun e c' => e.Parsable ∧ c'.Classed
  | 0, _, _, _ => trivial
  | n + 1, d, c, classed => by
    rw [Parse.paren]
    refine frame_any ?_
    simp only [spec_bind, spec_discard, spec_pure]
    refine expect_any fun _ => ?_
    refine (expression_parsable n (d + 1) c.advance classed.advance).mono
      fun _ c1 read => ?_
    obtain ⟨wf, classed1⟩ := read
    exact expect_any fun _ => ⟨wf, classed1.advance⟩

theorem array_parsable : ∀ (n d : Nat) (c : Cursor), c.Classed →
    Spec AnyFailure (Parse.array n) d c fun e c' => e.Parsable ∧ c'.Classed
  | 0, _, _, _ => trivial
  | n + 1, d, c, classed => by
    rw [Parse.array]
    refine frame_any ?_
    simp only [spec_bind, spec_discard, spec_pure]
    refine expect_any fun _ => ?_
    refine (listed_parsable n (d + 1) c.advance .rbracket _ [] classed.advance
      (List.forall_mem_nil _)).mono
      fun items c1 read => ?_
    obtain ⟨all, classed1⟩ := read
    exact expect_any fun _ => ⟨(Expr.listParsable_iff items).mpr all, classed1.advance⟩

theorem listed_parsable : ∀ (n d : Nat) (c : Cursor) (close : TokenKind) (sep : String)
    (acc : List Expr), c.Classed → (∀ e ∈ acc, e.Parsable) →
    Spec AnyFailure (Parse.listed n close sep acc) d c fun es c' =>
      (∀ e ∈ es, e.Parsable) ∧ c'.Classed
  | 0, _, _, _, _, _, _, _ => trivial
  | n + 1, d, c, close, sep, acc, classed, before => by
    rw [Parse.listed]
    simp only [spec_bind, spec_get, spec_ite, spec_discard, spec_pure]
    have item : ∀ c1, c1.Classed → Spec AnyFailure (Parse.expression n) d c1 fun e c2 =>
        Spec AnyFailure (Parse.listed n close sep (e :: acc)) d c2 fun es c3 =>
          (∀ e ∈ es, e.Parsable) ∧ c3.Classed := by
      intro c1 classed1
      refine (expression_parsable n d c1 classed1).mono fun e c2 read => ?_
      obtain ⟨wf, classed2⟩ := read
      refine listed_parsable n d c2 close sep (e :: acc) classed2 fun e' mem => ?_
      rcases List.mem_cons.mp mem with rfl | mem
      · exact wf
      · exact before e' mem
    split
    · exact ⟨by simpa using before, classed⟩
    · split
      · exact expect_any fun _ => item _ classed.advance
      · exact item c classed

theorem mapping_parsable : ∀ (n d : Nat) (c : Cursor), c.Classed →
    Spec AnyFailure (Parse.mapping n) d c fun e c' => e.Parsable ∧ c'.Classed
  | 0, _, _, _ => trivial
  | n + 1, d, c, classed => by
    rw [Parse.mapping]
    refine frame_any ?_
    simp only [spec_bind, spec_discard, spec_pure]
    refine expect_any fun _ => ?_
    refine (entries_parsable n (d + 1) c.advance [] classed.advance (List.forall_mem_nil _)).mono
      fun es c1 read => ?_
    obtain ⟨all, classed1⟩ := read
    exact expect_any fun _ => ⟨(Expr.entriesParsable_iff es).mpr all, classed1.advance⟩

theorem entries_parsable : ∀ (n d : Nat) (c : Cursor) (acc : List (MapKey × Expr)),
    c.Classed → (∀ kv ∈ acc, kv.2.Parsable) →
    Spec AnyFailure (Parse.entries n acc) d c fun es c' =>
      (∀ kv ∈ es, kv.2.Parsable) ∧ c'.Classed
  | 0, _, _, _, _, _ => trivial
  | n + 1, d, c, acc, classed, before => by
    rw [Parse.entries]
    simp only [spec_bind, spec_get, spec_ite, spec_discard, spec_pure]
    have entry : ∀ c1 : Cursor, c1.Classed →
        Spec AnyFailure (Parse.expect .string "A map key must be a string") d c1 fun key c2 =>
          Spec AnyFailure (Parse.expect .colon
            "A map key and value must be separated by a colon") d c2
            fun _ c3 => Spec AnyFailure (Parse.expression n) d c3 fun value c4 =>
              Spec AnyFailure (Parse.entries n ((⟨key.text, key.pos⟩, value) :: acc)) d c4
                fun es c5 => (∀ kv ∈ es, kv.2.Parsable) ∧ c5.Classed := by
      intro c1 classed1
      refine expect_any fun _ => expect_any fun _ => ?_
      refine (expression_parsable n d c1.advance.advance classed1.advance.advance).mono
        fun value c2 read => ?_
      obtain ⟨wf, classed2⟩ := read
      refine entries_parsable n d c2 _ classed2 fun kv mem => ?_
      rcases List.mem_cons.mp mem with rfl | mem
      · exact wf
      · exact before kv mem
    split
    · exact ⟨by simpa using before, classed⟩
    · split
      · exact expect_any fun _ => entry _ classed.advance
      · exact entry c classed

theorem arguments_parsable : ∀ (n d : Nat) (c : Cursor), c.Classed →
    Spec AnyFailure (Parse.arguments n) d c fun es c' => (∀ e ∈ es, e.Parsable) ∧ c'.Classed
  | 0, _, _, _ => trivial
  | n + 1, d, c, classed => by
    rw [Parse.arguments]
    refine frame_any ?_
    simp only [spec_bind, spec_discard, spec_pure]
    refine expect_any fun _ => ?_
    refine (listed_parsable n (d + 1) c.advance .rparen _ [] classed.advance
      (List.forall_mem_nil _)).mono
      fun _ c1 read => ?_
    obtain ⟨all, classed1⟩ := read
    exact expect_any fun _ => ⟨all, classed1.advance⟩

end

theorem program_parsable : ∀ (n d : Nat) (c : Cursor) (acc : List Stmt), c.Classed →
    (∀ s ∈ acc, s.Parsable) →
    Spec AnyFailure (Parse.program n acc) d c fun ss _ => ∀ s ∈ ss, s.Parsable
  | 0, _, _, _, _, _ => trivial
  | n + 1, d, c, acc, classed, before => by
    rw [Parse.program]
    simp only [spec_bind, spec_get, spec_ite, spec_pure]
    split
    · simpa using before
    · refine (statement_parsable n d c classed).mono fun s c1 read => ?_
      obtain ⟨wf, classed1⟩ := read
      refine program_parsable n d c1 (s :: acc) classed1 fun s' mem => ?_
      rcases List.mem_cons.mp mem with rfl | mem
      · exact wf
      · exact before s' mem

theorem Parser.Spec.post {α : Type} {allow : ParseFailure → Prop} {p : Parser α} {d : Nat}
    {c c' : Cursor} {Q : α → Cursor → Prop} {a : α} (spec : Spec allow p d c Q)
    (ran : p.exec d c = (.ok a, c')) : Q a c' := by
  unfold Spec at spec
  rw [ran] at spec
  exact spec

/-- A source text that parses was scanned, and its tokens parse. -/
theorem parseProgram_ok {s : String} {t : Program} (parsed : parseProgram s = .ok t) :
    ∃ ts, scan s = .ok ts ∧ parseTokens ts = .ok t := by
  unfold parseProgram at parsed
  cases scanned : scan s with
  | error e => simp [scanned, Except.mapError, Bind.bind, Except.bind] at parsed
  | ok ts =>
    refine ⟨ts, rfl, ?_⟩
    cases tree : parseTokens ts <;>
      simp_all [Except.mapError, Bind.bind, Except.bind]

theorem parseExpression_ok {s : String} {e : Expr} (parsed : parseExpression s = .ok e) :
    ∃ ts, scan s = .ok ts ∧ parseExpressionTokens ts = .ok e := by
  unfold parseExpression at parsed
  cases scanned : scan s with
  | error e => simp [scanned, Except.mapError, Bind.bind, Except.bind] at parsed
  | ok ts =>
    refine ⟨ts, rfl, ?_⟩
    cases tree : parseExpressionTokens ts <;>
      simp_all [Except.mapError, Bind.bind, Except.bind]

/-- Every program a source text parses to is parsable. -/
theorem parseProgram_parsable {s : String} {t : Program} (parsed : parseProgram s = .ok t) :
    Stmt.ListParsable t.body := by
  obtain ⟨ts, scanned, tree⟩ := parseProgram_ok parsed
  have classed := Cursor.ofTokens_classed (scan_classed scanned)
  unfold parseTokens Parser.runFrom at tree
  rcases ran : Parser.exec (Parse.programAt (Parse.budget (Cursor.ofTokens ts))) Parse.textDepth
    (Cursor.ofTokens ts) with ⟨r, c'⟩
  have spec : Spec AnyFailure (Parse.programAt (Parse.budget (Cursor.ofTokens ts)))
      Parse.textDepth (Cursor.ofTokens ts) fun p _ => ∀ s ∈ p.body, s.Parsable := by
    rw [Parse.programAt]
    refine frame_any ?_
    simp only [spec_bind, spec_current, spec_pure]
    exact program_parsable _ _ _ [] classed (List.forall_mem_nil _)
  have result : r = .ok t := by
    rw [← tree]
    exact (congrArg Prod.fst ran).symm
  subst result
  exact (Stmt.listParsable_iff t.body).mpr (spec.post ran)

/-- Every expression a source text parses to is parsable. -/
theorem parseExpression_parsable {s : String} {e : Expr} (parsed : parseExpression s = .ok e) :
    e.Parsable := by
  obtain ⟨ts, scanned, tree⟩ := parseExpression_ok parsed
  have classed := Cursor.ofTokens_classed (scan_classed scanned)
  unfold parseExpressionTokens Parser.runFrom at tree
  rcases ran : Parser.exec (Parse.soleExpression (Parse.budget (Cursor.ofTokens ts)))
    Parse.textDepth (Cursor.ofTokens ts) with ⟨r, c'⟩
  have spec : Spec AnyFailure (Parse.soleExpression (Parse.budget (Cursor.ofTokens ts)))
      Parse.textDepth (Cursor.ofTokens ts) fun e _ => e.Parsable := by
    rw [Parse.soleExpression]
    simp only [spec_bind, spec_discard, spec_pure]
    exact (expression_parsable _ _ _ classed).mono fun _ _ ⟨wf, _⟩ => expect_any fun _ => wf
  have result : r = .ok e := by
    rw [← tree]
    exact (congrArg Prod.fst ran).symm
  subst result
  exact spec.post ran

end Quill
