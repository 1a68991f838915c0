import Quill.Proofs.Reparse.Expression
import Quill.Proofs.Parse.Budget

set_option autoImplicit false

/- The parser reads the canonical text of statements and programs back: that text never starts
an expression like an assignment or a block, nor a block like a map. -/
namespace Quill

open Scan Quill.Parser Quill.Parser.Spec Cursor

/-- The token after a name is no `=`, and the one after that is no `:`; an opening brace is
followed by a closing one, or by a key and a colon. -/
def Lookahead (ks : List (TokenKind × String)) : Prop :=
  (∀ k k' r, ks = k :: k' :: r → k'.1 ≠ .assign ∧ k'.1 ≠ .colon) ∧
    ∀ t r, ks = (.lbrace, t) :: r →
      (∃ t' r', r = (.rbrace, t') :: r') ∨ ∃ t1 t2 r', r = (.string, t1) :: (.colon, t2) :: r'

/-- Tokens that start with neither `=` nor `:`. -/
def Settles (rest : List (TokenKind × String)) : Prop :=
  ∀ k ∈ rest.head?, k.1 ≠ .assign ∧ k.1 ≠ .colon

theorem settles_cons {k : TokenKind} (text : String) (ks : List (TokenKind × String))
    (plain : k ≠ .assign ∧ k ≠ .colon) : Settles ((k, text) :: ks) := by
  intro k' mem
  simp only [List.head?_cons, Option.mem_def, Option.some.injEq] at mem
  subst mem
  exact plain

theorem startKinds_settle {k : TokenKind}
    (start : k ∈ startKinds) : k ≠ .assign ∧ k ≠ .colon := by
  simp only [startKinds, List.mem_cons, List.not_mem_nil, or_false] at start
  rcases start with rfl | rfl | rfl | rfl | rfl | rfl | rfl | rfl | rfl | rfl | rfl <;> decide

theorem lookahead_cons {k : TokenKind} {text : String} {rest : List (TokenKind × String)}
    (open_ : k ≠ .lbrace) (settles : Settles rest) : Lookahead ((k, text) :: rest) := by
  refine ⟨fun k1 k2 r same => ?_, fun t r same => ?_⟩
  · simp only [List.cons.injEq] at same
    obtain ⟨rfl, rfl⟩ := same
    exact settles k2 (by simp)
  · simp only [List.cons.injEq, Prod.mk.injEq] at same
    exact absurd same.1.1 open_

/-- The text of a parsable operand, in parentheses or bare, looks like the operand's own text. -/
theorem lookahead_parenthesized {paren : Bool} {ws : List Word} {rest : List (TokenKind × String)}
    (head : ∃ k ks, shapes ws = k :: ks ∧ k.1 ∈ startKinds)
    (bare : paren = false → Lookahead (shapes ws ++ rest)) :
    Lookahead (shapes (parenthesized paren ws) ++ rest) := by
  cases paren with
  | false => exact bare rfl
  | true =>
    obtain ⟨k, ks, same, start⟩ := head
    rw [shapes_parenthesized, same, List.cons_append]
    exact lookahead_cons (by decide) (settles_cons _ _ (startKinds_settle start))

theorem Expr.listWords_settles (items : List Expr) (text : String)
    (rest : List (TokenKind × String)) :
    Settles (shapes (Expr.listWords items) ++ (.rbracket, text) :: rest) := by
  cases items with
  | nil => exact settles_cons _ _ (by decide)
  | cons e es =>
    obtain ⟨k, ks, same, start⟩ := e.words_head
    rw [shapes_listWords_cons, same, List.cons_append, List.cons_append]
    exact settles_cons _ _ (startKinds_settle start)

theorem Expr.lookahead (e : Expr) (rest : List (TokenKind × String)) (settles : Settles rest) :
    Lookahead (shapes e.words ++ rest) := by
  cases e with
  | literal v raw _ =>
    unfold Expr.words literalWords
    split <;> exact lookahead_cons (by decide) settles
  | var => exact lookahead_cons (by decide) settles
  | field obj _ _ _ =>
    simp only [Expr.words, shapes_append, List.append_assoc]
    exact lookahead_parenthesized obj.words_head fun _ =>
      obj.lookahead _ (settles_cons _ _ (by decide))
  | index obj _ _ =>
    simp only [Expr.words, shapes_append, List.append_assoc]
    exact lookahead_parenthesized obj.words_head fun _ =>
      obj.lookahead _ (settles_cons _ _ (by decide))
  | call callee _ _ =>
    simp only [Expr.words, shapes_append, List.append_assoc]
    exact lookahead_parenthesized callee.words_head fun _ =>
      callee.lookahead _ (settles_cons _ _ (by decide))
  | array items _ =>
    simp only [Expr.words, shapes_append, Word.sym, TokenKind.symbol?, Option.getD_some,
      shapes_token, shapes_nil, List.cons_append, List.nil_append, List.append_assoc]
    exact lookahead_cons (by decide) (Expr.listWords_settles items _ rest)
  | map entries _ =>
    simp only [Expr.words, shapes_append, Word.sym, TokenKind.symbol?, Option.getD_some,
      shapes_token, shapes_nil, List.cons_append, List.nil_append, List.append_assoc]
    cases entries with
    | nil =>
      simp only [Expr.entryWords, shapes_nil, List.nil_append]
      refine ⟨fun k k' r same => ?_, fun t r same => .inl ⟨"\x7d", rest, ?_⟩⟩
      · simp only [List.cons.injEq] at same
        rw [← same.2.1]
        decide
      · simp only [List.cons.injEq] at same
        exact same.2.symm
    | cons kv es =>
      obtain ⟨k, v⟩ := kv
      rw [shapes_entryWords_cons]
      simp only [List.cons_append]
      refine ⟨fun k1 k2 r same => ?_, fun t r same =>
        .inr ⟨k.text, ":", shapes v.words ++ entryTokens es ++ (.rbrace, "\x7d") :: rest, ?_⟩⟩
      · simp only [List.cons.injEq] at same
        rw [← same.2.1]
        exact ⟨by simp, by simp⟩
      · simp only [List.cons.injEq] at same
        exact same.2.symm
  | binary op lhs _ _ =>
    simp only [Expr.words, shapes_append, Word.space, shapes_gap, shapes_token,
      List.append_assoc, List.cons_append, List.nil_append]
    exact lookahead_parenthesized lhs.words_head fun _ =>
      lhs.lookahead _ (settles_cons _ _ (by cases op <;> decide))
  | unary op arg _ =>
    simp only [Expr.words, shapes_token, List.cons_append]
    refine lookahead_cons (by cases op <;> decide) ?_
    cases op.parenArg arg with
    | false =>
      obtain ⟨k, ks, same, start⟩ := arg.words_head
      rw [parenthesized_false, same, List.cons_append]
      exact settles_cons _ _ (startKinds_settle start)
    | true =>
      rw [shapes_parenthesized]
      exact settles_cons _ _ (by decide)
  | update op arg before _ =>
    cases before with
    | true =>
      obtain ⟨k, ks, same, start⟩ := arg.words_head
      simp only [Expr.words, ↓reduceIte, shapes_token, same, List.cons_append]
      exact lookahead_cons (by cases op <;> decide) (settles_cons _ _ (startKinds_settle start))
    | false =>
      simp only [Expr.words, Bool.false_eq_true, ↓reduceIte, shapes_append, shapes_token,
        shapes_nil, List.append_assoc, List.cons_append, List.nil_append]
      exact arg.lookahead _ (settles_cons _ _ (by cases op <;> decide))

/-- A statement's text has two tokens at least: one that starts an expression, and one that is
no colon. -/
theorem Stmt.words_two {s : Stmt} (wf : s.Parsable) (rest : List (TokenKind × String)) :
    ∃ k k' ks, shapes s.words ++ rest = k :: k' :: ks ∧ k.1 ∈ startKinds ∧
      k'.1 ≠ .colon := by
  cases s with
  | assign name value _ =>
    exact ⟨(.ident, name), (.assign, "="), shapes value.words ++ (.semicolon, ";") :: rest,
      by simp [Stmt.words, Word.sym, Word.space, TokenKind.symbol?], by simp
        [startKinds], by decide⟩
  | expr e _ =>
    obtain ⟨k, ks, same, start⟩ := e.words_head
    have looks := e.lookahead ((.semicolon, ";") :: rest) (settles_cons _ _ (by decide))
    rw [same, List.cons_append] at looks
    obtain ⟨k', ks', tail⟩ : ∃ k' ks', ks ++ (.semicolon, ";") :: rest = k' :: ks' := by
      cases ks with
      | nil => exact ⟨_, _, rfl⟩
      | cons k' ks' => exact ⟨k', _, rfl⟩
    refine ⟨k, k', ks', ?_, start, (looks.1 k k' ks' (by rw [tail])).2⟩
    simp [Stmt.words, same, Word.sym, TokenKind.symbol?, tail]
  | block body _ =>
    obtain ⟨first, others⟩ := wf
    obtain ⟨s, ss, rfl⟩ := List.exists_cons_of_ne_nil first
    obtain ⟨k, ks, same, start⟩ : ∃ k ks, shapes s.words = k :: ks ∧
      k.1 ∈ startKinds := by
      obtain ⟨k, k', ks, same, start, -⟩ := Stmt.words_two others.1 []
      exact ⟨k, k' :: ks, by simpa using same, start⟩
    refine ⟨(.lbrace, "\x7b"), k, ks ++ shapes (Stmt.listWords ss) ++
      (.rbrace, "\x7d") :: (.semicolon, ";") :: rest, ?_, by simp [startKinds], fun colon => ?_⟩
    · simp [Stmt.words, Stmt.listWords, Word.sym, TokenKind.symbol?, same]
    · rw [colon] at start
      simp [startKinds] at start

/-- The statement method reads the text of `s` at depth `d`, whatever follows. -/
def Stmt.ReadsAt (s : Stmt) (d : Nat) : Prop :=
  ∀ (n : Nat) (c : Cursor) (rest : List (TokenKind × String)),
    c.Shows (shapes s.words ++ rest) →
    Spec Spent (Parse.statement n) d c fun x c' => x.erase = s.erase ∧ c'.Shows rest

theorem statements_reads {closeText : String} :
    ∀ (ss acc : List Stmt) (n d : Nat) (c : Cursor) (rest : List (TokenKind × String)),
      (∀ s ∈ ss, s.Parsable ∧ s.ReadsAt d) →
      c.Shows (shapes (Stmt.listWords ss) ++ (.rbrace, closeText) :: rest) →
      Spec Spent (Parse.statements n acc) d c fun xs c' =>
        Stmt.eraseList xs = Stmt.eraseList (acc.reverse ++ ss) ∧
          c'.Shows ((.rbrace, closeText) :: rest) := by
  intro ss acc n d c rest reads shows
  cases n with
  | zero => exact spec_throw.mpr rfl
  | succ n =>
  cases ss with
  | nil =>
    have found : c.testAny [.rbrace, .eof] = true := by simp [Stmt.listWords] at shows; simp
      [shows.testAny]
    rw [Parse.statements]
    simp only [spec_bind, spec_get, found, ↓reduceIte, spec_pure, List.append_nil]
    exact ⟨by simp, by simpa [Stmt.listWords] using shows⟩
  | cons s ss =>
    obtain ⟨k, k', ks, same, start, -⟩ := Stmt.words_two (reads s (by simp)).1
      (shapes (Stmt.listWords ss) ++ (.rbrace, closeText) :: rest)
    rw [Stmt.listWords, shapes_append, List.append_assoc] at shows
    have found : c.testAny [.rbrace, .eof] = false := by
      rw [same] at shows
      exact shows.testAny_start start (by simp)
    rw [Parse.statements]
    simp only [spec_bind, spec_get, found, Bool.false_eq_true, ↓reduceIte]
    refine ((reads s (by simp)).2 n c _ shows).mono fun x c1 read => ?_
    obtain ⟨one, shows1⟩ := read
    refine (statements_reads ss (x :: acc) n d c1 rest
      (fun s' mem => reads s' (by simp [mem])) shows1).mono fun xs c2 read => ?_
    obtain ⟨items, closed⟩ := read
    refine ⟨?_, closed⟩
    rw [items]
    simp [Stmt.eraseList_eq_map, one]

theorem program_reads {endText : String} :
    ∀ (ss acc : List Stmt) (n d : Nat) (c : Cursor),
      (∀ s ∈ ss, s.Parsable ∧ s.ReadsAt d) →
      c.Shows (shapes (Stmt.listWords ss) ++ [(.eof, endText)]) →
      Spec Spent (Parse.program n acc) d c fun xs _ =>
        Stmt.eraseList xs = Stmt.eraseList (acc.reverse ++ ss) := by
  intro ss acc n d c reads shows
  cases n with
  | zero => exact spec_throw.mpr rfl
  | succ n =>
  cases ss with
  | nil =>
    simp only [Stmt.listWords, shapes_nil, List.nil_append] at shows
    rw [Parse.program]
    simp only [spec_bind, spec_get, shows.atEnd, beq_self_eq_true, ↓reduceIte, spec_pure,
      List.append_nil]
  | cons s ss =>
    obtain ⟨k, k', ks, same, start, -⟩ := Stmt.words_two (reads s (by simp)).1
      (shapes (Stmt.listWords ss) ++ [(.eof, endText)])
    rw [Stmt.listWords, shapes_append, List.append_assoc] at shows
    have live : c.atEnd = false := by
      rw [same] at shows
      have notEnd : k.1 ≠ .eof := by
        simp only [startKinds, List.mem_cons, List.not_mem_nil, or_false] at start
        rcases start with h | h | h | h | h | h | h | h | h | h | h <;> simp [h]
      simp [shows.atEnd, notEnd]
    rw [Parse.program]
    simp only [spec_bind, spec_get, live, Bool.false_eq_true, ↓reduceIte]
    refine ((reads s (by simp)).2 n c _ shows).mono fun x c1 read => ?_
    obtain ⟨one, shows1⟩ := read
    refine (program_reads ss (x :: acc) n d c1 (fun s' mem => reads s' (by simp [mem]))
      shows1).mono fun xs c2 items => ?_
    rw [items]
    simp [Stmt.eraseList_eq_map, one]

/-- After the text of a statement's form, the statement method reads its semicolon. -/
theorem terminated {d : Nat} {c : Cursor} {rest : List (TokenKind × String)} {stmt : Stmt}
    {Q : Stmt → Cursor → Prop} (shows : c.Shows ((.semicolon, ";") :: rest))
    (next : ∀ c', c'.Shows rest → Q stmt c') :
    Spec Spent (do
      let x ← MonadState.get
      if (!Cursor.atEnd x) = true then do
        discard (Parse.expect .semicolon "A statement must be terminated by a semicolon")
        Pure.pure stmt
      else Pure.pure stmt) d c Q := by
  simp only [spec_bind, spec_get, shows.atEnd]
  rw [if_pos (by decide)]
  simp only [spec_bind, spec_discard, spec_pure]
  exact expect_shows shows (by decide) fun _ c' _ _ shows' => next c' shows'

theorem Cursor.Shows.peek_kind {c : Cursor} {ks : List (TokenKind × String)} (shows : c.Shows ks)
    (i : Nat) (inside : i < ks.length) : (c.peek i).kind = ks[i].1 := by
  have same := shows.peek i inside
  simp only [Token.shape] at same
  rw [← same]

theorem Stmt.reads_assign {name : String} {value : Expr} {pos : Position} {d : Nat}
    (reads : value.Reads) (room : d + 5 * value.height + 12 ≤ Parse.stackLimit) :
    (Stmt.assign name value pos).ReadsAt d := by
  intro n c rest shows
  simp only [Stmt.words, shapes_append, Word.sym, Word.space, TokenKind.symbol?, Option.getD_some,
    shapes_token, shapes_gap, shapes_nil, List.cons_append, List.nil_append,
    List.append_assoc] at shows
  cases n with
  | zero => exact spec_throw.mpr rfl
  | succ n =>
    have second := shows.peek_kind 1 (by simp)
    rw [Parse.statement, spec_frame_room (by omega)]
    simp only [spec_bind, spec_get, shows.kind, second]
    simp only [List.getElem_cons_succ, List.getElem_cons_zero, beq_self_eq_true, Bool.and_self,
      ↓reduceIte, spec_bind]
    cases n with
    | zero => exact spec_throw.mpr rfl
    | succ n =>
      rw [Parse.assignment, spec_frame_room (by omega)]
      simp only [spec_bind, spec_discard]
      refine expect_shows shows (by decide) fun t c1 _ named shows1 => ?_
      refine expect_shows shows1 (by decide) fun _ c2 _ _ shows2 => ?_
      refine ((reads.readsAt (d := d + 2) (by omega)) n c2 _ shows2
        (stopsAt_closing _ _ (by simp) 0)).mono fun x c3 read => ?_
      obtain ⟨same, shows3⟩ := read
      rw [spec_pure]
      exact terminated shows3 fun c4 shows4 => ⟨by simp [Stmt.erase, named, same], shows4⟩

theorem Stmt.reads_expr {e : Expr} {pos : Position} {d : Nat} (reads : e.Reads)
    (room : d + 5 * e.height + 11 ≤ Parse.stackLimit) : (Stmt.expr e pos).ReadsAt d := by
  intro n c rest shows
  simp only [Stmt.words, shapes_append, Word.sym, TokenKind.symbol?, Option.getD_some,
    shapes_token, shapes_nil, List.append_assoc, List.cons_append, List.nil_append] at shows
  obtain ⟨k, ks, head, -⟩ := e.words_head
  have looks := e.lookahead ((.semicolon, ";") :: rest) (settles_cons _ _ (by decide))
  rw [head, List.cons_append] at looks
  obtain ⟨k', r, tail⟩ : ∃ k' r, ks ++ (.semicolon, ";") :: rest = k' :: r := by
    cases ks with
    | nil => exact ⟨_, _, rfl⟩
    | cons k' ks' => exact ⟨k', _, rfl⟩
  have shows' : c.Shows (k :: k' :: r) := by
    rw [← tail, ← List.cons_append, ← head]; exact shows
  have second := looks.1 k k' r (by rw [tail])
  have notAssign : (c.current.kind == .ident && (c.peek 1).kind == .assign) = false := by
    simp [shows'.peek_kind 1 (by simp), second.1]
  have notBlock : (c.current.kind == .lbrace && (c.peek 1).kind != .rbrace &&
      (c.peek 2).kind != .colon) = false := by
    by_cases brace : k.1 = .lbrace
    · obtain ⟨kind, text⟩ := k
      simp only at brace
      subst brace
      rcases looks.2 text (k' :: r) (by rw [tail]) with ⟨t', r', closed⟩ |
        ⟨t1, t2, r', keyed⟩
      · rw [closed] at shows'
        simp [shows'.peek_kind 1 (by simp)]
      · rw [keyed] at shows'
        simp [shows'.peek_kind 2 (by simp)]
    · simp [shows'.kind, brace]
  cases n with
  | zero => exact spec_throw.mpr rfl
  | succ n =>
    rw [Parse.statement, spec_frame_room (by omega)]
    simp only [spec_bind, spec_get, notAssign, notBlock, Bool.false_eq_true, ↓reduceIte]
    refine ((reads.readsAt (d := d + 1) (by omega)) n c _ shows
      (stopsAt_closing _ _ (by simp) 0)).mono fun x c1 read => ?_
    obtain ⟨same, shows1⟩ := read
    rw [spec_pure]
    exact terminated shows1 fun c2 shows2 => ⟨by simp [Stmt.erase, same], shows2⟩

theorem Stmt.reads_block {body : List Stmt} {pos : Position} {d : Nat} (filled : body ≠ [])
    (reads : ∀ s ∈ body, s.Parsable ∧ s.ReadsAt (d + 2)) (room : d + 6 ≤ Parse.stackLimit) :
    (Stmt.block body pos).ReadsAt d := by
  intro n c rest shows
  simp only [Stmt.words, shapes_append, Word.sym, TokenKind.symbol?, Option.getD_some,
    shapes_token, shapes_nil, List.append_assoc, List.cons_append, List.nil_append] at shows
  obtain ⟨s, ss, rfl⟩ := List.exists_cons_of_ne_nil filled
  obtain ⟨k, k', ks, same, start, notColon⟩ := Stmt.words_two (reads s (by simp)).1
    (shapes (Stmt.listWords ss) ++ (.rbrace, "\x7d") :: (.semicolon, ";") :: rest)
  have shows' : c.Shows ((.lbrace, "\x7b") :: k :: k' :: ks) := by
    rw [← same]
    simpa [Stmt.listWords] using shows
  have notClose : k.1 ≠ .rbrace := by
    intro closed
    rw [closed] at start
    simp [startKinds] at start
  have isBlock : (c.current.kind == .lbrace && (c.peek 1).kind != .rbrace &&
      (c.peek 2).kind != .colon) = true := by
    simp [shows'.kind, shows'.peek_kind 1 (by simp), shows'.peek_kind 2 (by simp), notClose,
      notColon]
  have notAssign : (c.current.kind == .ident && (c.peek 1).kind == .assign) = false := by
    simp [shows'.kind]
  cases n with
  | zero => exact spec_throw.mpr rfl
  | succ n =>
    rw [Parse.statement, spec_frame_room (by omega)]
    simp only [spec_bind, spec_get, notAssign, isBlock, Bool.false_eq_true, ↓reduceIte]
    cases n with
    | zero => exact spec_throw.mpr rfl
    | succ n =>
      rw [Parse.block, spec_frame_room (by omega)]
      simp only [spec_bind, spec_discard]
      refine expect_shows shows (by decide) fun start c1 _ _ shows1 => ?_
      refine (statements_reads (s :: ss) [] n (d + 2) c1 _ reads shows1).mono
        fun xs c2 read => ?_
      obtain ⟨items, shows2⟩ := read
      refine expect_shows shows2 (by decide) fun _ c3 _ _ shows3 => ?_
      rw [spec_pure]
      exact terminated shows3 fun c4 shows4 => ⟨by simp [Stmt.erase, items], shows4⟩

theorem Stmt.height_le_listHeight {s : Stmt} {ss : List Stmt} (mem : s ∈ ss) :
    s.height ≤ Stmt.listHeight ss := by
  induction ss with
  | nil => cases mem
  | cons e rest ih =>
    simp only [Stmt.listHeight]
    rcases List.mem_cons.mp mem with rfl | mem
    · omega
    · have := ih mem
      omega

theorem Stmt.ListParsable.mem {s : Stmt} {ss : List Stmt} (wf : Stmt.ListParsable ss)
    (mem : s ∈ ss) : s.Parsable := by
  induction ss with
  | nil => cases mem
  | cons e rest ih =>
    rcases List.mem_cons.mp mem with rfl | mem
    · exact wf.1
    · exact ih wf.2 mem

/-- The statement method reads back the canonical text of every parsable statement the stack
has room for: by induction on the height of the statement, a block from its statements. -/
theorem Stmt.readsAt_of_parsable : (s : Stmt) → s.Parsable → ∀ d,
    d + 5 * s.height + 12 ≤ Parse.stackLimit → s.ReadsAt d := by
  suffices all : ∀ h (s : Stmt), s.height = h → s.Parsable → ∀ d,
      d + 5 * s.height + 12 ≤ Parse.stackLimit → s.ReadsAt d from
    fun s => all s.height s rfl
  intro h
  induction h using Nat.strongRecOn with
  | ind h ih =>
    intro s height wf d room
    cases s with
    | assign name value pos =>
      exact Stmt.reads_assign (value.reads_of_parsable wf.2) (by simpa [Stmt.height] using room)
    | expr e pos =>
      exact Stmt.reads_expr (e.reads_of_parsable wf) (by simp only [Stmt.height] at room; omega)
    | block body pos =>
      simp only [Stmt.height] at room height
      refine Stmt.reads_block wf.1 (fun s mem => ⟨wf.2.mem mem, ?_⟩) (by omega)
      have lower := Stmt.height_le_listHeight mem
      exact ih s.height (by omega) s rfl (wf.2.mem mem) (d + 2) (by omega)

/-- The program method reads back the canonical text of a parsable program that the stack has
room for. -/
theorem Program.programAt_reads {p : Program} (wf : Stmt.ListParsable p.body)
    (room : Parse.textDepth + 5 * p.height + 13 ≤ Parse.stackLimit) (n : Nat) {c : Cursor}
    {endText : String} (shows : c.Shows (shapes (Stmt.listWords p.body) ++ [(.eof, endText)])) :
    Spec Spent (Parse.programAt n) Parse.textDepth c fun x _ => x.erase = p.erase := by
  rw [Parse.programAt, spec_frame_room (by unfold Parse.textDepth at room ⊢; omega)]
  simp only [spec_bind, spec_current]
  have reads : ∀ s ∈ p.body, s.Parsable ∧ s.ReadsAt (Parse.textDepth + 1) := fun s mem =>
    ⟨wf.mem mem, s.readsAt_of_parsable (wf.mem mem) _
      (by have := Stmt.height_le_listHeight mem; unfold Program.height at room; omega)⟩
  refine (program_reads p.body [] n _ c reads shows).mono fun xs _ items => ?_
  simp [spec_pure, Program.erase, items]

/-- A run whose specification admits only exhaustion returns, when it has the fuel the entry
points give. -/
theorem Spec.runFrom_ok {α : Type} {p : Nat → Parser α} {d : Nat} {c : Cursor}
    {Q : α → Cursor → Prop} (spec : Spec Spent (p (Parse.budget c)) d c Q)
    (fueled : ∀ r c', Parser.runFrom p d c = (r, c') → r ≠ .error .exhausted) :
    ∃ x c', Parser.runFrom p d c = (.ok x, c') ∧ Q x c' := by
  rcases spec.exec_cases with ⟨x, c', ran, holds⟩ | ⟨e, c', ran, spent⟩
  · exact ⟨x, c', ran, holds⟩
  · subst spent
    exact absurd rfl (fueled _ _ ran)

/-- The canonical text of a parsable program whose height the stack has room for parses back to
the program, up to `erase`, at every indentation width. -/
theorem Program.parse_format {p : Program} (wf : Stmt.ListParsable p.body)
    (room : Parse.textDepth + 5 * p.height + 13 ≤ Parse.stackLimit) (width : Int) :
    ∃ p', parseProgram (p.format width) = .ok p' ∧ p'.erase = p.erase := by
  obtain ⟨toks, pos, shaped, plain, scanned⟩ := Program.scan_format wf width
  have shows := Cursor.ofTokens_shows plain pos
  rw [shaped] at shows
  obtain ⟨p', c', ran, same⟩ := Spec.runFrom_ok
    (Program.programAt_reads wf room _ shows) ((budget_suffices _ _).1)
  refine ⟨p', ?_, same⟩
  simp [parseProgram, scanned, parseTokens, ran, Except.mapError, Bind.bind, Except.bind]

/-- The canonical text of a parsable expression whose height the stack has room for parses back
to the expression, up to `erase`. -/
theorem Expr.parse_format {e : Expr} (wf : e.Parsable)
    (room : Parse.textDepth + 5 * e.height + 10 ≤ Parse.stackLimit) :
    ∃ e', parseExpression e.format = .ok e' ∧ e'.erase = e.erase := by
  obtain ⟨toks, pos, shaped, plain, scanned⟩ := Expr.scan_format wf
  have shows := Cursor.ofTokens_shows plain pos
  rw [shaped] at shows
  have read : Spec Spent
      (Parse.soleExpression (Parse.budget (Cursor.ofTokens (toks ++ [⟨.eof, "", pos⟩]))))
      Parse.textDepth (Cursor.ofTokens (toks ++ [⟨.eof, "", pos⟩]))
      fun x _ => x.erase = e.erase := by
    rw [Parse.soleExpression]
    simp only [spec_bind, spec_discard]
    refine ((e.reads_of_parsable wf).readsAt room _ _ _ shows
      (stopsAt_closing _ _ (by simp) 0)).mono fun x c' read => ?_
    obtain ⟨same, ended⟩ := read
    refine spec_expect.mpr ⟨fun _ => same, fun missing => ?_⟩
    simp [ended.test] at missing
  obtain ⟨e', c', ran, same⟩ := Spec.runFrom_ok read ((budget_suffices _ _).2)
  refine ⟨e', ?_, same⟩
  simp [parseExpression, scanned, parseExpressionTokens, ran, Except.mapError, Bind.bind,
    Except.bind]

end Quill
