import Quill.Proofs.Parse.Resources
import Quill.Proofs.Parse.Halting
import Quill.Proofs.Parse.Parsable
import Quill.Proofs.Reparse.Basic
import Quill.Proofs.Scan.Layout

set_option autoImplicit false

/- How a statement is told apart from an expression: no expression that reads to the end of
input starts like an assignment or a block, so a text of one expression parses as the program
of that one expression statement, unless the program's two extra calls overflow the stack. -/
namespace Quill

open Quill.Parser Quill.Parser.Spec Cursor

variable {d : Nat} {c : Cursor}

/-- Any run satisfies the specification that records it. -/
theorem Parser.Spec.records {α : Type} {p : Parser α} :
    Spec AnyFailure p d c fun a c' => p.exec d c = (.ok a, c') := by
  unfold Spec
  rcases p.exec d c with ⟨e | a, c'⟩
  · trivial
  · rfl

theorem assignment_other (n : Nat) :
    Spec AnyFailure (Parse.assignment n) d c fun s _ => ∀ e p, s ≠ .expr e p := by
  cases n with
  | zero => trivial
  | succ n =>
    rw [Parse.assignment]
    refine frame_any ?_
    simp only [spec_bind, spec_discard, spec_pure]
    exact expect_any fun _ => expect_any fun _ => records.mono fun _ _ _ _ _ => by simp

theorem block_other (n : Nat) :
    Spec AnyFailure (Parse.block n) d c fun s _ => ∀ e p, s ≠ .expr e p := by
  cases n with
  | zero => trivial
  | succ n =>
    rw [Parse.block]
    refine frame_any ?_
    simp only [spec_bind, spec_discard, spec_pure]
    exact expect_any fun _ => records.mono fun _ _ _ => expect_any fun _ _ _ => by simp

/-- A statement that comes out as an expression statement read its expression one call deeper
from its first token, then a `;` unless the expression ended the input. -/
theorem statement_expression (n : Nat) :
    Spec AnyFailure (Parse.statement (n + 1)) d c fun s c1 => ∀ e p, s = .expr e p →
      p = c.current.pos ∧ ∃ c2, (Parse.expression n).exec (d + 1) c = (.ok e, c2) ∧
        (c1 = c2 ∧ c2.atEnd = true ∨ c2.current.kind = .semicolon ∧ c1 = c2.advance) := by
  rw [Parse.statement]
  refine frame_any ?_
  simp only [spec_bind, spec_get, spec_ite, spec_discard, spec_pure]
  split
  · refine (assignment_other n).mono fun s c1 other => ?_
    split
    · exact expect_any fun _ e p same => absurd same (other e p)
    · exact fun e p same => absurd same (other e p)
  · split
    · refine (block_other n).mono fun s c1 other => ?_
      split
      · exact expect_any fun _ e p same => absurd same (other e p)
      · exact fun e p same => absurd same (other e p)
    · refine records.mono fun e0 c2 ran => ?_
      split
      · refine expect_any fun semi e p same => ?_
        cases same
        exact ⟨rfl, c2, ran, .inr ⟨semi, rfl⟩⟩
      · rename_i stop
        intro e p same
        cases same
        exact ⟨rfl, c2, ran, .inl ⟨rfl, by simpa using stop⟩⟩

/-- The statements of a program extend those read before, and add one unless the input is
over. -/
theorem program_extends (n : Nat) :
    ∀ (c : Cursor) (acc : List Stmt), Spec AnyFailure (Parse.program n acc) d c fun body _ =>
      acc.reverse <+: body ∧ (body.length = acc.length → c.atEnd = true) := by
  induction n with
  | zero => exact fun _ _ => trivial
  | succ n ih =>
    intro c acc
    rw [Parse.program]
    simp only [spec_bind, spec_get, spec_ite, spec_pure]
    split
    · rename_i stop
      exact ⟨List.prefix_refl _, fun _ => stop⟩
    · refine records.mono fun s c1 _ => (ih c1 (s :: acc)).mono fun body _ read => ?_
      obtain ⟨longer, _⟩ := read
      have grown := longer.length_le
      simp only [List.reverse_cons, List.length_append, List.length_reverse,
        List.length_singleton] at grown
      refine ⟨(List.prefix_append _ _).trans (by simpa using longer), fun same => ?_⟩
      omega

/-- A program read as one expression statement stands with it at the first token, its expression
read three calls deeper and ending the input or followed by a `;` that does. -/
theorem programAt_lone (n : Nat) :
    Spec AnyFailure (Parse.programAt (n + 2)) d c fun prog _ => ∀ e p p',
      prog = ⟨[.expr e p'], p⟩ → p = c.current.pos ∧ p' = c.current.pos ∧
        ∃ c2, (Parse.expression n).exec (d + 2) c = (.ok e, c2) ∧
          (c2.atEnd = true ∨ c2.current.kind = .semicolon ∧ c2.advance.atEnd = true) := by
  unfold Parse.programAt
  refine frame_any ?_
  simp only [spec_bind, spec_current, spec_pure]
  rw [Parse.program]
  simp only [spec_bind, spec_get, spec_ite, spec_pure]
  split
  · intro e p p' same
    simp at same
  · refine (statement_expression n).mono fun s c1 read => ?_
    refine (program_extends (n + 1) c1 [s]).mono fun body _ grown => ?_
    intro e p p' same
    simp only [Program.mk.injEq] at same
    obtain ⟨rfl, rfl⟩ := same
    obtain ⟨first, ended⟩ := grown
    have one : s = .expr e p' := by simpa using first
    obtain ⟨at_, c2, ran, stop⟩ := read e p' one
    refine ⟨rfl, at_, c2, ran, ?_⟩
    have last := ended rfl
    rcases stop with ⟨rfl, _⟩ | ⟨semi, rfl⟩
    · exact .inl last
    · exact .inr ⟨semi, last⟩

/-- At a token that starts no call, member access, indexing or postfix update, the chain of
suffixes is empty. -/
theorem suffixes_plain {allow : ParseFailure → Prop} (n : Nat) (e : Expr)
    (plain : c.current.kind ∉ suffixKinds) :
    Spec allow (Parse.suffixes (n + 1) e) d c fun e' c' => e' = e ∧ c' = c := by
  rw [Parse.suffixes]
  simp only [spec_bind, spec_current]
  split <;> simp_all [suffixKinds, spec_pure]

/-- A name followed by `=` is a primary expression of one token. -/
theorem primary_name_assign (n : Nat) (named : c.current.kind = .ident)
    (assigned : (c.peek 1).kind = .assign) :
    Spec AnyFailure (Parse.primary n) d c fun _ c' => c' = c.advance := by
  cases n with
  | zero => trivial
  | succ n =>
    have next : c.advance.current.kind = .assign := by
      rw [advance_current (by simp [named])]
      exact assigned
    rw [Parse.primary]
    refine frame_any ?_
    simp only [spec_bind, spec_current, named]
    unfold Parse.identifier
    refine frame_any ?_
    simp only [spec_bind]
    refine expect_any fun _ => ?_
    have stop : ∀ e, Spec AnyFailure (Parse.frame (Parse.suffixes n e)) (d + 1) c.advance
        fun _ c' => c' = c.advance := by
      intro e
      refine frame_any ?_
      cases n with
      | zero => trivial
      | succ n =>
        exact (suffixes_plain n e (by simp [next, suffixKinds])).mono fun _ _ same => same.2
    split <;> exact stop _

/-- After a name, `=` ends an expression. -/
theorem expression_name_assign (n : Nat) (named : c.current.kind = .ident)
    (assigned : (c.peek 1).kind = .assign) :
    Spec AnyFailure (Parse.expression n) d c fun _ c' => c' = c.advance := by
  cases n with
  | zero => trivial
  | succ n =>
    have next : c.advance.current.kind = .assign := by
      rw [advance_current (by simp [named])]
      exact assigned
    rw [Parse.expression]
    refine frame_any ?_
    simp only [spec_bind, spec_current]
    refine (primary_name_assign n named assigned).mono fun e c1 moved => ?_
    subst moved
    rw [next, if_neg (by decide)]
    rfl

/-- The entries of a map opened before a token that is no `}` stop at once only at the end of
input, when the token after the first is no `:`. -/
theorem entries_unkeyed (n : Nat) (filled : c.current.kind ≠ .rbrace)
    (unkeyed : (c.peek 1).kind ≠ .colon) :
    Spec AnyFailure (Parse.entries n []) d c fun _ c' => c' = c ∧ c.current.kind = .eof := by
  cases n with
  | zero => trivial
  | succ n =>
    rw [Parse.entries]
    simp only [spec_bind, spec_get, spec_ite, spec_discard, spec_pure]
    split
    · rename_i stop
      simp only [Cursor.testAny, List.contains_cons, List.contains_nil, Bool.or_false,
        Bool.or_eq_true, beq_iff_eq] at stop
      exact ⟨trivial, stop.resolve_left filled⟩
    · -- no separator before the first key, and no `:` after it
      simp only [List.isEmpty_nil, Bool.not_true, Bool.false_eq_true, ↓reduceIte]
      refine expect_any fun keyed => expect_any fun colon => ?_
      rw [advance_current (by simp [keyed])] at colon
      exact absurd colon unkeyed

/-- A brace followed neither by `}` nor by a string and `:` starts no map. -/
theorem mapping_unkeyed (n : Nat) (opened : c.current.kind = .lbrace)
    (filled : (c.peek 1).kind ≠ .rbrace) (unkeyed : (c.peek 2).kind ≠ .colon) :
    Spec AnyFailure (Parse.mapping n) d c fun _ _ => False := by
  cases n with
  | zero => trivial
  | succ n =>
    have live : c.atEnd = false := by simp [atEnd, opened]
    rw [Parse.mapping]
    refine frame_any ?_
    simp only [spec_bind, spec_discard, spec_pure]
    refine expect_any fun _ => ?_
    refine (entries_unkeyed n (by rw [advance_current (by simp [opened])]; exact filled)
      (by rw [peek_advance live]; exact unkeyed)).mono fun _ c1 stop => ?_
    obtain ⟨rfl, ended⟩ := stop
    exact expect_any fun closed => absurd (closed.symm.trans ended) (by decide)

theorem expression_brace_fails (n : Nat) (opened : c.current.kind = .lbrace)
    (filled : (c.peek 1).kind ≠ .rbrace) (unkeyed : (c.peek 2).kind ≠ .colon) :
    Spec AnyFailure (Parse.expression n) d c fun _ _ => False := by
  cases n with
  | zero => trivial
  | succ n =>
    rw [Parse.expression]
    refine frame_any ?_
    simp only [spec_bind]
    cases n with
    | zero => trivial
    | succ n =>
      rw [Parse.primary]
      refine frame_any ?_
      simp only [spec_bind, spec_current, opened]
      exact (mapping_unkeyed n opened filled unkeyed).mono fun _ _ none => none.elim

/-- A program whose first token starts neither an assignment nor a block reads one expression
statement, its expression two calls deeper than the program's own frame. -/
theorem programAt_expression {allow : ParseFailure → Prop} {R : Program → Cursor → Prop}
    (n : Nat) (room : d + 6 ≤ Parse.stackLimit) (live : c.atEnd = false)
    (notAssign : ¬(c.current.kind = .ident ∧ (c.peek 1).kind = .assign))
    (notBlock :
      ¬(c.current.kind = .lbrace ∧ (c.peek 1).kind ≠ .rbrace ∧ (c.peek 2).kind ≠ .colon))
    (read : Spec allow (Parse.expression n) (d + 2) c fun e c2 =>
      c2.atEnd = true ∧ R ⟨[.expr e c.current.pos], c.current.pos⟩ c2) :
    Spec allow (Parse.programAt (n + 2)) d c R := by
  unfold Parse.programAt
  rw [spec_frame_room (by omega)]
  simp only [spec_bind, spec_current, spec_pure]
  rw [Parse.program]
  simp only [spec_bind, spec_get, spec_ite, spec_pure]
  rw [if_neg (by simp [live]), Parse.statement, spec_frame_room (by omega)]
  simp only [spec_bind, spec_get, spec_ite, spec_discard, spec_pure]
  rw [if_neg (by simpa using notAssign), if_neg (by simpa using notBlock)]
  refine read.mono fun e c2 read => ?_
  obtain ⟨ended, built⟩ := read
  rw [if_neg (by simp [ended]), Parse.program]
  simp only [spec_bind, spec_get, spec_ite, spec_pure]
  rw [if_pos ended]
  exact built

/-- What the parse of a sole expression did: it read the expression to the end of input. -/
theorem soleExpression_read (n : Nat) :
    Spec AnyFailure (Parse.soleExpression n) d c fun e _ =>
      ∃ c2, (Parse.expression n).exec d c = (.ok e, c2) ∧ c2.atEnd = true := by
  unfold Parse.soleExpression
  simp only [spec_bind, spec_discard, spec_pure]
  exact records.mono fun e c2 ran => expect_any fun ended => ⟨c2, ran, by simp [atEnd, ended]⟩

/-- Nothing but the end of input is left to read. -/
theorem expression_atEnd (n : Nat) (stop : c.atEnd = true) :
    Spec AnyFailure (Parse.expression n) d c fun _ _ => False := by
  cases n with
  | zero => trivial
  | succ n =>
    rw [Parse.expression]
    refine frame_any ?_
    simp only [spec_bind]
    cases n with
    | zero => trivial
    | succ n => exact (primary_atEnd stop).conseq (fun _ _ => trivial) fun _ _ none => none

/-- The fuel the entry points give leaves the expression of a program's first statement,
which gets two units less, enough to finish. -/
theorem budget_expression (c : Cursor) (ends : c.Ends) :
    ∃ n, Parse.budget c = n + 2 ∧ 8 * c.unread + 11 ≤ n := by
  have := unread_le_left ends
  refine ⟨Parse.budget c - 2, ?_, ?_⟩ <;> simp only [Cursor.left, Parse.budget] at * <;> omega

/-- Tokens that parse as one expression parse as the program of that one expression statement,
unless the program's two extra calls overflow the stack. -/
theorem lone_expression_tokens {ts : List Token} {e : Expr}
    (parsed : parseExpressionTokens ts = .ok e) :
    parseTokens ts = .ok ⟨[.expr e (Cursor.ofTokens ts).current.pos],
      (Cursor.ofTokens ts).current.pos⟩ ∨
    parseTokens ts = .error .tooDeep ∧ (Parser.runFrom Parse.soleExpression
      (Parse.textDepth + 2) (Cursor.ofTokens ts)).1 = .error .tooDeep := by
  have ends := ofTokens_ends ts
  unfold parseTokens parseExpressionTokens at *
  generalize Cursor.ofTokens ts = c at ends parsed ⊢
  obtain ⟨n, budget, fuel⟩ := budget_expression c ends
  have sole : (Parse.soleExpression (n + 2)).exec Parse.textDepth c =
      (.ok e, ((Parse.soleExpression (n + 2)).exec Parse.textDepth c).2) := by
    rw [← budget]
    exact Prod.ext parsed rfl
  obtain ⟨c2, ran, ended⟩ := (soleExpression_read (n + 2)).post sole
  have live : c.atEnd = false := by
    cases stop : c.atEnd
    · rfl
    · exact ((expression_atEnd (n + 2) stop).post ran).elim
  have notAssign : ¬(c.current.kind = .ident ∧ (c.peek 1).kind = .assign) := by
    rintro ⟨named, assigned⟩
    have moved := (expression_name_assign (n + 2) named assigned).post ran
    subst moved
    rw [atEnd, advance_current (by simp [named]), assigned] at ended
    exact absurd ended (by decide)
  have notBlock : ¬(c.current.kind = .lbrace ∧ (c.peek 1).kind ≠ .rbrace ∧
      (c.peek 2).kind ≠ .colon) := by
    rintro ⟨opened, filled, unkeyed⟩
    exact (expression_brace_fails (n + 2) opened filled unkeyed).post ran
  have room : Parse.textDepth + 6 ≤ Parse.stackLimit := by decide
  -- the statement reads the expression two calls deeper with two units less: the same run,
  -- unless it overflows, since the fuel suffices
  have deeper := (@expression_outruns Starved trivial n (n + 2) (by omega))
    (Parse.textDepth + 2) Parse.textDepth c (by omega) (.inl trivial)
  have genuine := expression_halts n (Parse.textDepth + 2) c ends fuel
  rcases weak : (Parse.expression n).exec (Parse.textDepth + 2) c with ⟨err | e', cw⟩
  · rw [weak, ran] at deeper
    have overflow : err = .tooDeep := by
      rcases deeper with same | ⟨e0, c0, same, starved⟩
      · simp at same
      · simp only [Prod.mk.injEq, Except.error.injEq] at same
        obtain ⟨rfl, -⟩ := same
        have real : Genuine err := by simpa [Spec, weak] using genuine
        cases err <;> simp_all [Starved, Genuine]
    subst overflow
    refine .inr ⟨?_, ?_⟩
    · have failed : Spec (· = .tooDeep) (Parse.programAt (n + 2)) Parse.textDepth c
          fun _ _ => False :=
        programAt_expression n room live notAssign notBlock (Spec.of_exec_error weak rfl)
      rcases failed.exec_cases with ⟨_, _, _, none⟩ | ⟨err, c', run, deep⟩
      · exact none.elim
      · show ((Parse.programAt (Parse.budget c)).exec _ c).1 = _
        rw [budget, run, deep]
    · -- with the whole budget, two calls deeper, the expression fails alike
      have same := (@expression_outruns Spent rfl n (n + 2) (by omega)).exec_eq
        (Nat.le_refl _) (.inr rfl) weak (fun _ _ same => by cases same; simp [Spent])
      have failed : Spec (· = .tooDeep) (Parse.soleExpression (n + 2)) (Parse.textDepth + 2) c
          fun _ _ => False := by
        unfold Parse.soleExpression
        simp only [spec_bind]
        exact Spec.of_exec_error same rfl
      rcases failed.exec_cases with ⟨_, _, _, none⟩ | ⟨err, c', run, deep⟩
      · exact none.elim
      · show ((Parse.soleExpression (Parse.budget c)).exec _ c).1 = _
        rw [budget, run, deep]
  · rw [weak, ran] at deeper
    have agree : e' = e ∧ cw = c2 := by
      rcases deeper with same | ⟨e0, c0, same, _⟩
      · simp only [Prod.mk.injEq, Except.ok.injEq] at same
        exact ⟨same.1.symm, same.2.symm⟩
      · simp at same
    obtain ⟨rfl, rfl⟩ := agree
    have built : Spec (fun _ => False) (Parse.programAt (n + 2)) Parse.textDepth c
        fun prog _ => prog = ⟨[.expr e' c.current.pos], c.current.pos⟩ :=
      programAt_expression n room live notAssign notBlock (Spec.of_exec weak ⟨ended, rfl⟩)
    rcases built.exec_cases with ⟨prog, c', run, rfl⟩ | ⟨_, _, _, none⟩
    · refine .inl ?_
      show ((Parse.programAt (Parse.budget c)).exec _ c).1 = _
      rw [budget, run]
    · exact none.elim

/-- Tokens that parse as a program of one expression statement, with no `;` before the end of
input, parse as that expression. -/
theorem lone_statement_tokens {ts : List Token} {e : Expr} {p p' : Position}
    (parsed : parseTokens ts = .ok ⟨[.expr e p'], p⟩)
    (unterminated : ∀ c2 : Cursor, c2.items = (Cursor.ofTokens ts).items →
      c2.current.kind = .semicolon → c2.advance.atEnd = true → False) :
    parseExpressionTokens ts = .ok e := by
  have ends := ofTokens_ends ts
  unfold parseTokens parseExpressionTokens at *
  generalize Cursor.ofTokens ts = c at ends parsed unterminated ⊢
  obtain ⟨n, budget, fuel⟩ := budget_expression c ends
  have program : (Parse.programAt (n + 2)).exec Parse.textDepth c =
      (.ok ⟨[.expr e p'], p⟩, ((Parse.programAt (n + 2)).exec Parse.textDepth c).2) := by
    rw [← budget]
    exact Prod.ext parsed rfl
  obtain ⟨-, -, c2, ran, stop⟩ := (programAt_lone n).post program e p p' rfl
  have past := (expression_halts n (Parse.textDepth + 2) c ends fuel).post ran
  have ended : c2.atEnd = true := stop.resolve_right fun ⟨semi, last⟩ =>
    unterminated c2 past.1 semi last
  have whole : (Parse.expression (n + 2)).exec Parse.textDepth c = (.ok e, c2) :=
    (@expression_outruns Starved trivial n (n + 2) (by omega)).exec_eq (by omega)
      (.inl trivial) ran fun _ _ same => by simp at same
  have sole : Spec (fun _ => False) (Parse.soleExpression (n + 2)) Parse.textDepth c
      fun e' _ => e' = e := by
    unfold Parse.soleExpression
    simp only [spec_bind, spec_discard, spec_pure]
    refine Spec.of_exec whole ?_
    rw [spec_expect]
    refine ⟨fun _ => rfl, fun missing => ?_⟩
    simp [Cursor.test, atEnd] at missing ended
    exact missing ended
  rcases sole.exec_cases with ⟨e', c', run, rfl⟩ | ⟨_, _, _, none⟩
  · show ((Parse.soleExpression (Parse.budget c)).exec _ c).1 = _
    rw [budget, run]
  · exact none.elim

/-- The last token written in a token list: the last that is neither a comment nor the end of
input. -/
def lastWritten (ts : List Token) : Option Token :=
  (ts.filter fun t => t.kind != .comment && t.kind != .eof).getLast?

/-- A scan ends with the end of input, and has no other. -/
theorem scan_ends {s : String} {ts : List Token} (scanned : scan s = .ok ts) :
    ∃ front t, ts = front ++ [t] ∧ t.kind = .eof ∧ ∀ x ∈ front, x.kind ≠ .eof := by
  obtain ⟨ls, rfl, laid⟩ := Scan.run_layout scanned
  obtain ⟨front, rfl, plain⟩ := laid.laws.ends
  exact ⟨front.map Prod.fst, ⟨.eof, "", Scan.posAt s.toList s.toList.length⟩, by simp, rfl,
    by simpa using plain⟩

/-- Where the tokens after a place are one token and then an end of input that is the only one,
that token is the last of those before the end. -/
theorem getLast_of_drop {front : List Token} {t x y : Token} {rest : List Token}
    (plain : ∀ z ∈ front, z.kind ≠ .eof) (ended : y.kind = .eof) :
    ∀ i, (front ++ [t]).drop i = x :: y :: rest → front.getLast? = some x := by
  induction front with
  | nil =>
    intro i split
    cases i <;> simp at split
  | cons a front ih =>
    intro i split
    cases i with
    | zero =>
      simp only [List.drop_zero, List.cons_append, List.cons.injEq] at split
      obtain ⟨rfl, next⟩ := split
      cases front with
      | nil => rfl
      | cons b front =>
        simp only [List.cons_append, List.cons.injEq] at next
        obtain ⟨rfl, -⟩ := next
        exact absurd ended (plain _ (by simp))
    | succ i =>
      have last := ih (fun z mem => plain z (by simp [mem])) i (by simpa using split)
      cases front with
      | nil => simp at last
      | cons b front => simpa [List.getLast?_cons_cons] using last

/-- Tokens that end with the end of input are read with their comments dropped. -/
theorem readable_of_eof {front : List Token} {t : Token} (ended : t.kind = .eof) :
    readable (front ++ [t]) = front.filter (·.kind != .comment) ++ [t] := by
  have filtered : (front ++ [t]).filter (·.kind != .comment) =
      front.filter (·.kind != .comment) ++ [t] := by
    simp [List.filter_append, ended]
  simp only [readable]
  rw [filtered]
  simp [ended]

/-- A cursor at the last written token of a scan: the token after it ends the input. -/
theorem lastWritten_of_advance {front : List Token} {t : Token}
    (plain : ∀ x ∈ front, x.kind ≠ .eof)
    (ended : t.kind = .eof) {c : Cursor} (items : c.items = (Cursor.ofTokens (front ++ [t])).items)
    (live : c.atEnd = false) (last : c.advance.atEnd = true) :
    lastWritten (front ++ [t]) = some c.current := by
  set kept := front.filter (·.kind != .comment) with keptEq
  have whole : readable (front ++ [t]) = kept ++ [t] := readable_of_eof ended
  have written : lastWritten (front ++ [t]) = kept.getLast? := by
    have dropped : [t].filter (fun t => t.kind != .comment && t.kind != .eof) = [] := by
      simp [ended]
    unfold lastWritten
    rw [List.filter_append, dropped, List.append_nil, keptEq]
    congr 1
    exact List.filter_congr fun x mem => by simp [plain x mem]
  have ends : c.Ends := (ofTokens_ends _).of_items items
  have inside := index_lt_of_live ends live
  have toList : c.items.toList = kept ++ [t] := by simp [items, Cursor.ofTokens, whole]
  have next : ∃ h : c.index + 1 < c.items.size, c.items[c.index + 1].kind = .eof := by
    by_cases within : c.index + 1 < c.items.size
    · refine ⟨within, ?_⟩
      have stepped : c.advance = { c with index := c.index + 1 } := by simp [Cursor.advance, live]
      rw [stepped] at last
      simpa [Cursor.atEnd, Cursor.current, Cursor.peek, within] using last
    · have final : c.current = c.last := by
        unfold Cursor.current Cursor.peek Cursor.last
        rw [dif_pos (by omega)]
        congr 1
        omega
      simp only [Cursor.atEnd, final, beq_eq_false_iff_ne] at live
      exact absurd ends live
  obtain ⟨within, eof⟩ := next
  rw [written]
  have dropped : (kept ++ [t]).drop c.index =
      c.current :: c.items[c.index + 1] :: c.items.toList.drop (c.index + 2) := by
    rw [← toList, List.drop_eq_getElem_cons (by simpa using inside),
      List.drop_eq_getElem_cons (by simpa using within)]
    simp [Cursor.current, Cursor.peek, inside]
  exact getLast_of_drop (fun z mem => plain z (List.mem_of_mem_filter mem)) eof c.index dropped

/-- The first token that is no comment is where a cursor over the tokens starts. -/
theorem ofTokens_current_find {ts : List Token} {t : Token}
    (found : ts.find? (·.kind != .comment) = some t) : (Cursor.ofTokens ts).current = t := by
  have head : (ts.filter (·.kind != .comment)).head? = some t := by
    rw [List.head?_filter]
    exact found
  have first : (readable ts).head? = some t := by
    simp only [readable]
    generalize ts.filter (·.kind != .comment) = kept at head ⊢
    split
    · split <;> simp [head]
    · rename_i none
      simp [List.getLast?_eq_none_iff.mp none] at head
  cases read : readable ts with
  | nil => simp [read] at first
  | cons a rest =>
    simp only [read, List.head?_cons, Option.some.injEq] at first
    subst first
    simp [Cursor.ofTokens, Cursor.current, Cursor.peek, read]

theorem parseProgram_scanned {s : String} {ts : List Token} (scanned : scan s = .ok ts) :
    parseProgram s = (parseTokens ts).mapError .parse := by
  simp [parseProgram, scanned, Except.mapError, Bind.bind, Except.bind]

theorem parseExpression_scanned {s : String} {ts : List Token} (scanned : scan s = .ok ts) :
    parseExpression s = (parseExpressionTokens ts).mapError .parse := by
  simp [parseExpression, scanned, Except.mapError, Bind.bind, Except.bind]

/-- A text of one expression parses as the program of that statement unless the program's two
extra calls overflow the stack, and a program of one expression statement without `;` reads back. -/
theorem lone_expression_statement (s : String) :
    (∀ e, parseExpression s = .ok e → ∃ ts, scan s = .ok ts ∧
      ((∃ t, ts.find? (·.kind != .comment) = some t ∧
          parseProgram s = .ok ⟨[.expr e t.pos], t.pos⟩) ∨
        parseProgram s = .error (.parse .tooDeep) ∧ (Parser.runFrom Parse.soleExpression
          (Parse.textDepth + 2) (Cursor.ofTokens ts)).1 = .error .tooDeep)) ∧
    (∀ e p p', parseProgram s = .ok ⟨[.expr e p'], p⟩ →
      (∀ ts, scan s = .ok ts → ∀ t, lastWritten ts = some t → t.kind ≠ .semicolon) →
      parseExpression s = .ok e) := by
  refine ⟨fun e parsed => ?_, fun e p p' parsed unterminated => ?_⟩
  · obtain ⟨ts, scanned, tokens⟩ := parseExpression_ok parsed
    refine ⟨ts, scanned, ?_⟩
    rcases lone_expression_tokens tokens with built | ⟨deep, deeper⟩
    · -- the end of input is no comment, so some token is none
      obtain ⟨front, t, rfl, ended, -⟩ := scan_ends scanned
      obtain ⟨first, found⟩ : ∃ first,
        (front ++ [t]).find? (·.kind != .comment) = some first := by
        cases seek : (front ++ [t]).find? (·.kind != .comment) with
        | none =>
          have := List.find?_eq_none.mp seek t (by simp)
          simp [ended] at this
        | some first => exact ⟨first, rfl⟩
      refine .inl ⟨first, found, ?_⟩
      rw [← ofTokens_current_find found, parseProgram_scanned scanned, built]
      rfl
    · refine .inr ⟨?_, deeper⟩
      rw [parseProgram_scanned scanned, deep]
      rfl
  · obtain ⟨ts, scanned, tokens⟩ := parseProgram_ok parsed
    obtain ⟨front, t, rfl, ended, plain⟩ := scan_ends scanned
    have sole := lone_statement_tokens tokens fun c2 items semi last =>
      unterminated _ scanned c2.current
        (lastWritten_of_advance plain ended items (by simp [atEnd, semi]) last) semi
    rw [parseExpression_scanned scanned, sole]
    rfl

/-- A lone name is a program of one expression statement, and reads back as the name. -/
theorem lone_expression_statement_name :
    parseProgram "a" = .ok ⟨[.expr (.var "a" ⟨1, 1, 0⟩) ⟨1, 1, 0⟩], ⟨1, 1, 0⟩⟩ ∧
    (∀ ts, scan "a" = .ok ts → ∀ t, lastWritten ts = some t → t.kind ≠ .semicolon) ∧
    parseExpression "a" = .ok (.var "a" ⟨1, 1, 0⟩) := by
  have scanned : scan "a" = .ok
    [⟨.ident, "a", ⟨1, 1, 0⟩⟩, ⟨.eof, "", ⟨1, 2, 1⟩⟩] := by cbv
  have program : parseProgram "a" = .ok
    ⟨[.expr (.var "a" ⟨1, 1, 0⟩) ⟨1, 1, 0⟩], ⟨1, 1, 0⟩⟩ := by
    simp only [parseProgram, scanned]
    cbv
  have plain : ∀ ts, scan "a" = .ok ts → ∀ t, lastWritten ts = some t →
    t.kind ≠ .semicolon := by
    intro ts read t last
    rw [scanned, Except.ok.injEq] at read
    subst read
    simp only [lastWritten] at last
    cases last
    decide
  exact ⟨program, plain, (lone_expression_statement "a").2 _ _ _ program plain⟩

/- Where the two calls tell: each `!` nests two calls, so the longest run before a name that a
sole expression reads is one too long for a program. -/

/-- `k` operators `!` and the name `x`, as words. -/
def negationWords (k : Nat) : List Scan.Word :=
  List.replicate k (.token .not "!") ++ [.token .ident "x"]

theorem negationWords_succ (k : Nat) :
    negationWords (k + 1) = .token .not "!" :: negationWords k := by
  simp [negationWords, List.replicate_succ]

theorem spellAll_negationWords (k : Nat) :
    Scan.spellAll (negationWords k) = List.replicate k '!' ++ ['x'] := by
  induction k with
  | zero => rfl
  | succ k ih =>
    rw [negationWords_succ, Scan.spellAll_cons, ih]
    rfl

theorem shapes_negationWords (k : Nat) :
    Scan.shapes (negationWords k) = List.replicate k (.not, "!") ++ [(.ident, "x")] := by
  induction k with
  | zero => rfl
  | succ k ih =>
    rw [negationWords_succ, Scan.shapes_token, ih]
    rfl

/-- The words of a run of `!` before a name do not run together. -/
theorem lex_negationWords (k : Nat) : Scan.Lex (negationWords k) [] := by
  induction k with
  | zero =>
    refine ⟨.inl ⟨rfl, ⟨'x', [], rfl, by decide, List.forall_mem_nil _⟩,
      fun _ head => ?_⟩, trivial⟩
    simp at head
  | succ k ih =>
    rw [negationWords_succ]
    refine ⟨.inr (.inr (.inr ⟨by decide, rfl, '!', rfl, fun d head => ?_⟩)), ih⟩
    rw [spellAll_negationWords, List.append_nil] at head
    have next : d = '!' ∨ d = 'x' := by
      cases k with
      | zero =>
        simp at head
        exact .inr head.symm
      | succ k =>
        simp [List.replicate_succ] at head
        exact .inl head.symm
    rcases next with rfl | rfl <;> decide

theorem Cursor.Shows.size_sub {ks : List (TokenKind × String)} (shows : c.Shows ks) :
    c.items.size - c.index = ks.length := by
  rw [← shows]
  simp [Cursor.ahead]

/-- A run of `k` operators `!` before a name reads as one primary expression up to the end of
input, when the stack has room for the two calls each operator nests and the name's own. -/
theorem primary_negations {allow : ParseFailure → Prop} (name : String) (k : Nat) :
    ∀ (n d : Nat) (c : Cursor),
      c.Shows (List.replicate k (.not, "!") ++ [(.ident, name), (.eof, "")]) →
      d + 2 * k + 6 ≤ Parse.stackLimit → 2 * k + 2 ≤ n →
      Spec allow (Parse.primary n) d c fun _ c' => c'.Shows [(.eof, "")] := by
  have ended : ∀ (m d : Nat) (c : Cursor) (e : Expr), c.Shows [(.eof, "")] →
      d + 5 ≤ Parse.stackLimit →
      Spec allow (Parse.frame (Parse.suffixes (m + 1) e)) d c fun _ c' => c'.Shows
        [(.eof, "")] := by
    intro m d c e shows room
    rw [spec_frame_room (by omega)]
    exact (suffixes_plain m e (by simp [shows.kind, suffixKinds])).mono fun _ _ same =>
      same.2 ▸ shows
  induction k with
  | zero =>
    intro n d c shows room fuel
    obtain ⟨m, rfl⟩ : ∃ m, n = m + 2 := ⟨n - 2, by omega⟩
    simp only [List.replicate_zero, List.nil_append] at shows
    rw [Parse.primary, spec_frame_room (by omega)]
    simp only [spec_bind, spec_current, shows.kind]
    unfold Parse.identifier
    rw [spec_frame_room (by omega)]
    simp only [spec_bind]
    refine expect_shows shows (by decide) fun _ c1 _ _ after => ?_
    split <;> exact ended m (d + 1) c1 _ after (by omega)
  | succ k ih =>
    intro n d c shows room fuel
    obtain ⟨m, rfl⟩ : ∃ m, n = m + 2 := ⟨n - 2, by omega⟩
    simp only [List.replicate_succ, List.cons_append] at shows
    rw [Parse.primary, spec_frame_room (by omega)]
    simp only [spec_bind, spec_current, shows.kind]
    rw [Parse.unary, spec_frame_room (by omega)]
    simp only [spec_bind]
    refine take_shows shows (by decide) fun op c1 shape after => ?_
    refine (ih m (d + 2) c1 after (by omega) (by omega)).mono fun _ c2 done => ?_
    have negation : UnaryOp.ofToken? op.kind = some .not := by
      rw [show op.kind = .not from congrArg Prod.fst shape]
      rfl
    simp only [negation, spec_pure]
    exact ended m (d + 1) c2 _ done (by omega)

/-- Such a run is a whole expression. -/
theorem soleExpression_negations (name : String) (k n d : Nat) (c : Cursor)
    (shows : c.Shows (List.replicate k (.not, "!") ++ [(.ident, name), (.eof, "")]))
    (room : d + 2 * k + 7 ≤ Parse.stackLimit) (fuel : 2 * k + 3 ≤ n) :
    Spec (fun _ => False) (Parse.soleExpression n) d c fun _ _ => True := by
  obtain ⟨m, rfl⟩ : ∃ m, n = m + 1 := ⟨n - 1, by omega⟩
  unfold Parse.soleExpression
  simp only [spec_bind, spec_discard, spec_pure]
  rw [Parse.expression, spec_frame_room (by omega)]
  simp only [spec_bind, spec_current]
  refine (primary_negations name k m (d + 1) c shows (by omega) (by omega)).mono
    fun _ c1 done => ?_
  rw [done.kind, if_neg (by decide), spec_pure, spec_expect]
  exact ⟨fun _ => trivial, fun missing => by simp [done.test] at missing⟩

/-- A name where the stack has no room for its reading fails the primary expression. -/
theorem primary_name_overflows (n : Nat) (named : c.current.kind = .ident)
    (deep : Parse.stackLimit < d + 2 + Parse.leafReach) :
    Spec (· = .tooDeep) (Parse.primary (n + 1)) d c fun _ _ => False := by
  rw [Parse.primary, spec_frame]
  split
  · rfl
  · simp only [spec_bind, spec_current, named]
    unfold Parse.identifier
    rw [spec_frame, if_pos (by omega)]

/-- Four hundred and ninety-three `!` before a name are one expression, but as a program, whose
statement reads its expression two calls deeper, they overflow the stack. -/
theorem negations_parse_apart :
    (∃ e, parseExpression (String.ofList (List.replicate 493 '!' ++ ['x'])) = .ok e) ∧
    parseProgram (String.ofList (List.replicate 493 '!' ++ ['x'])) = .error (.parse .tooDeep) := by
  obtain ⟨toks, pos, shaped, plain, scanned⟩ := Scan.scan_words (lex_negationWords 493)
  rw [spellAll_negationWords] at scanned
  have shows := Cursor.ofTokens_shows plain pos
  rw [shaped, shapes_negationWords, List.append_assoc, List.singleton_append] at shows
  have fuel : 3960 ≤ Parse.budget (Cursor.ofTokens (toks ++ [⟨.eof, "", pos⟩])) := by
    have size := shows.size_sub
    simp only [List.length_append, List.length_replicate, List.length_cons, List.length_nil] at size
    simp only [Parse.budget]
    have : (Cursor.ofTokens (toks ++ [⟨.eof, "", pos⟩])).index = 0 := rfl
    omega
  obtain ⟨e, c1, read⟩ : ∃ e c1, Parser.runFrom Parse.soleExpression Parse.textDepth
      (Cursor.ofTokens (toks ++ [⟨.eof, "", pos⟩])) = (.ok e, c1) := by
    generalize Cursor.ofTokens (toks ++ [⟨.eof, "", pos⟩]) = c at shows fuel
    rcases (soleExpression_negations "x" 493 (Parse.budget c) Parse.textDepth c shows (by decide)
      (by omega)).exec_cases with ⟨e, c1, ran, -⟩ | ⟨_, _, _, none⟩
    · exact ⟨e, c1, ran⟩
    · exact none.elim
  obtain ⟨c1, overflow⟩ : ∃ c1, Parser.runFrom Parse.programAt Parse.textDepth
      (Cursor.ofTokens (toks ++ [⟨.eof, "", pos⟩])) = (.error .tooDeep, c1) := by
    generalize Cursor.ofTokens (toks ++ [⟨.eof, "", pos⟩]) = c at shows fuel
    obtain ⟨n, budget⟩ : ∃ n, Parse.budget c = n + 3 := ⟨Parse.budget c - 3, by omega⟩
    have kinds : ∀ i < 493, (c.peek i).kind = .not := by
      intro i below
      have shape := shows.peek i (by simp only [List.length_append, List.length_replicate]; omega)
      rw [List.getElem_append_left (by simp only [List.length_replicate]; omega),
        List.getElem_replicate] at shape
      exact congrArg Prod.fst shape
    have named : (c.peek 493).kind = .ident := by
      have shape := shows.peek 493
        (by simp only [List.length_append, List.length_replicate, List.length_cons]; omega)
      rw [List.getElem_append_right (by simp only [List.length_replicate]; omega)] at shape
      simpa only [List.length_replicate, Nat.sub_self, List.getElem_cons_zero, Token.shape] using
        congrArg Prod.fst shape
    have spec := programAt_primary (d := Parse.textDepth) (by decide)
      ⟨by simp [Cursor.current, kinds 0 (by omega)], by simp [Cursor.current, kinds 0 (by omega)],
        by simp [Cursor.current, kinds 0 (by omega)]⟩
      (unary_chain_overflows 493 n (Parse.textDepth + 3) c
        (fun i below => by simp [kinds i below]) (by omega)
        fun m c' pos same => by
          obtain ⟨m, rfl⟩ : ∃ m', m = m' + 1 := ⟨m - 1, by omega⟩
          exact primary_name_overflows m (by rw [same]; exact named) (by decide))
    rw [← budget] at spec
    rcases spec.exec_cases with ⟨_, _, _, none⟩ | ⟨err, c1, ran, deep⟩
    · exact none.elim
    · exact ⟨c1, deep ▸ ran⟩
  refine ⟨⟨e, ?_⟩, ?_⟩
  · rw [parseExpression_scanned scanned, parseExpressionTokens, read]
    rfl
  · rw [parseProgram_scanned scanned, parseTokens, overflow]
    rfl

end Quill
