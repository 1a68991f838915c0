import Quill.Proofs.Grammar.Sound

set_option autoImplicit false

/- Every derivation of the grammar parses, up to the failures the grammar cannot see: an update
of what cannot be assigned, an integer of too many digits, or calls nested past the limit of the
stack. With the soundness of the parser it reads exactly the grammar. -/
namespace Quill

open Quill.Parser Quill.Parser.Spec Grammar

section Numbers

open Decimal Scan

/-- The characters of a number: digits, and a point. -/
theorem numberChar {x : Char} (h : isDigit x = true ∨ x = '.') :
    x.toNat < 127 ∧ Text.isAsciiSpace x = false ∧ x ≠ '_' ∧ x ≠ '-' ∧ x ≠ '+' := by
  rcases h with digit | rfl
  · simp only [isDigit, Bool.and_eq_true, decide_eq_true_eq] at digit
    have low : 48 ≤ x.val.toNat := UInt32.le_iff_toNat_le.mp digit.1
    have high : x.val.toNat ≤ 57 := UInt32.le_iff_toNat_le.mp digit.2
    have away : ∀ y : Char, (y.val.toNat < 48 ∨ 57 < y.val.toNat) → x ≠ y := by
      rintro y far rfl
      omega
    refine ⟨high.trans_lt (by decide), ?_, away _ (by decide), away _ (by decide),
      away _ (by decide)⟩
    simp only [Text.isAsciiSpace, Bool.or_eq_false_iff, beq_eq_false_iff_ne]
    exact ⟨⟨⟨⟨⟨away _ (by decide), away _ (by decide)⟩, away _ (by decide)⟩,
      away _ (by decide)⟩, away _ (by decide)⟩, away _ (by decide)⟩
  · decide

theorem digitRun_of_stop {x : Char} (stop : isDigitChar x = false) (more : List Char) :
    digitRun (x :: more) = ([], x :: more) := by
  unfold digitRun
  split <;> simp_all

theorem digitRun_digits : ∀ (ds rest : List Char), (∀ x ∈ ds, isDigit x = true) →
    (∀ x, rest.head? = some x → isDigitChar x = false ∧ x ≠ '_') →
    digitRun (ds ++ rest) = (ds, rest)
  | [], [], _, _ => rfl
  | [], x :: more, _, stop => digitRun_of_stop (stop x rfl).1 more
  | c :: ds, rest, digits, stop => by
    have apart : ∀ d more, ds ++ rest = '_' :: d :: more → False := by
      intro d more same
      cases ds with
      | nil =>
        rw [List.nil_append] at same
        exact (stop '_' (by rw [same]; rfl)).2 rfl
      | cons y ys =>
        simp only [List.cons_append, List.cons.injEq] at same
        exact (numberChar (.inl (digits y (by simp)))).2.2.1 same.1
    rw [List.cons_append, digitRun.eq_2 _ _ apart,
      if_pos (show isDigitChar c = true from digits c (by simp)), digitRun_digits ds rest
      (fun x mem => digits x (.tail _ mem)) stop]

theorem IsNumber.chars {cs : List Char} (number : IsNumber cs) :
    ∀ x ∈ cs, isDigit x = true ∨ x = '.' := by
  obtain ⟨ds, frac, rfl, -, digits, fraction⟩ := number
  intro x mem
  rcases List.mem_append.mp mem with mem | mem
  · exact .inl (digits x mem)
  · rcases fraction with rfl | ⟨fs, rfl, -, more⟩
    · cases mem
    · rcases List.mem_cons.mp mem with rfl | mem
      · exact .inr rfl
      · exact .inl (more x mem)

theorem asciiForm_of_ascii : ∀
    {cs : List Char}, (∀ x ∈ cs, x.toNat < 127) → Text.asciiForm cs = cs
  | [], _ => rfl
  | c :: cs, ascii => by
    rw [Text.asciiForm, if_pos (ascii c (by simp)),
      asciiForm_of_ascii fun x mem => ascii x (.tail _ mem)]

/-- A number token's text is read as it is: it has no character that is not ASCII and no blank
around it. -/
theorem numberChars_of_isNumber {text : String} (number : IsNumber text.toList) :
    numberChars text = text.toList := by
  have chars := fun x mem => numberChar (IsNumber.chars number x mem)
  have kept : ∀ l : List Char, (∀ x ∈ l, Text.isAsciiSpace x = false) →
      l.dropWhile Text.isAsciiSpace = l := fun l plain =>
    List.dropWhile_eq_self_iff.mpr fun nonempty => by simp [plain _ (List.getElem_mem nonempty)]
  unfold numberChars Text.trimAsciiSpace
  rw [asciiForm_of_ascii fun x mem => (chars x mem).1, kept _ fun x mem => (chars x mem).2.1,
    kept _ fun x mem => (chars x (List.mem_reverse.mp mem)).2.1, List.reverse_reverse]

theorem splitSign_digit {d : Char} (lead : isDigit d = true) (rest : List Char) :
    splitSign (d :: rest) = (false, d :: rest) := by
  obtain ⟨-, -, -, minus, plus⟩ := numberChar (.inl lead)
  unfold splitSign
  split <;> simp_all

/-- A number token's text always gives a value, unless it writes an integer of more digits than
may be read. -/
theorem numberValue_of_isNumber {text : String} (number : IsNumber text.toList) :
    (∃ v, Parse.numberValue text = .ok v) ∨ ∃ n,
      Parse.numberValue text = .error (.tooManyDigits n) := by
  have chars := numberChars_of_isNumber number
  obtain ⟨ds, frac, spelled, filled, digits, fraction⟩ := number
  obtain ⟨d, more, rfl⟩ := List.exists_cons_of_ne_nil filled
  have lead : isDigit d = true := digits d (by simp)
  unfold Parse.numberValue
  rcases fraction with rfl | ⟨fs, rfl, filledFs, fractional⟩
  · -- an integer: digits and no point
    have point : text.contains '.' = false := by
      have absent : '.' ∉ d :: more := fun mem => absurd (digits '.' mem) (by decide)
      simpa [spelled] using absent
    have run : digitRun (d :: more) = (d :: more, []) := by
      simpa using digitRun_digits (d :: more) [] digits (by simp)
    rw [if_neg (by simp [point])]
    unfold readInteger
    rw [chars, spelled, List.append_nil, splitSign_digit lead]
    dsimp only
    rw [run]
    dsimp only
    simp only [List.isEmpty_cons, List.isEmpty_nil, Bool.not_true, Bool.or_false,
      Bool.false_eq_true, ↓reduceIte]
    by_cases long : (d :: more).length > digitLimit
    · exact .inr ⟨_, by rw [if_pos long]⟩
    · exact .inl ⟨_, by rw [if_neg long]⟩
  · -- a decimal: digits, a point and digits
    have point : text.contains '.' = true := by simp [spelled]
    have whole : digitRun (d :: more ++ '.' :: fs) = (d :: more, '.' :: fs) :=
      digitRun_digits _ _ digits fun x found => by cases found; exact ⟨by decide, by decide⟩
    have fraction : digitRun fs = (fs, []) := by
      simpa using digitRun_digits fs [] fractional (by simp)
    have magnitude : (readMagnitude (d :: more ++ '.' :: fs)).isSome := by
      unfold readMagnitude
      rw [whole]
      simp [fraction, exponentPart]
    have read : (readDecimal text).isSome := by
      unfold readDecimal
      rw [chars, spelled, List.cons_append, splitSign_digit lead]
      dsimp only
      split
      · rfl
      · split
        · rfl
        · simpa using magnitude
    obtain ⟨x, found⟩ := Option.isSome_iff_exists.mp read
    exact .inl ⟨_, by rw [if_pos point, found]⟩

end Numbers

/-- The failures a parse of tokens that the grammar derives can meet, which the grammar does not
see: an update of what cannot be assigned, an integer of more digits than may be read, and calls
nested past the limit of the stack. -/
def ParseFailure.Admitted : ParseFailure → Prop
  | .grammar e => e.kind = .invalidTarget
  | .number f => ∃ n, f = .tooManyDigits n
  | .tooDeep => True
  | .notUnary _ | .exhausted => False

/-- An admitted failure, or the fuel running out, which the entry points' fuel rules out. -/
def ParseFailure.Excused (e : ParseFailure) : Prop := e.Admitted ∨ Spent e

theorem Parser.Spec.failure {α : Type} {allow : ParseFailure → Prop} {p : Parser α} {d : Nat}
    {c c' : Cursor} {Q : α → Cursor → Prop} {e : ParseFailure} (spec : Spec allow p d c Q)
    (ran : p.exec d c = (.error e, c')) : allow e := by
  unfold Spec at spec
  rw [ran] at spec
  exact spec

/-- A loop that runs to a closing bracket or the end of input goes on at a comma and at a token
that starts an expression. -/
theorem items_not_closers : ∀ close ∈ [TokenKind.rparen, .rbracket, .rbrace],
    ∀ k ∈ TokenKind.comma :: startKinds, [close, TokenKind.eof].contains k = false := by
  decide

namespace Cursor

variable {c : Cursor} {k : TokenKind} {ks : List TokenKind}

/-- Past the tokens ahead a cursor sees the last, which ends the input. -/
theorem Ready.last (ready : c.Ready) : c.last.kind = .eof := by
  simp only [Ready, kinds, ahead, List.getLast?_map, List.getLast?_drop] at ready
  split at ready
  · simp at ready
  · have nonempty := c.nonempty
    rw [List.getLast?_eq_getElem?, Array.length_toList, Array.getElem?_toList,
      Array.getElem?_eq_getElem (by omega)] at ready
    simpa [Cursor.last] using ready

theorem Ready.peek (ready : c.Ready) (i : Nat) : (c.peek i).kind = c.kinds.getD i .eof := by
  by_cases inside : i < c.kinds.length
  · rw [peek_of_kinds rfl i inside, List.getD_eq_getElem _ _ inside]
  · rw [List.getD_eq_default _ _ (Nat.le_of_not_lt inside)]
    have beyond : ¬c.index + i < c.items.size := by
      simp only [kinds, ahead, List.length_map, List.length_drop, Array.length_toList] at inside
      omega
    rw [Cursor.peek, dif_neg beyond]
    exact ready.last

/-- The cursor reads tokens of the kinds `ks`, each of its class, up to the end of input. -/
structure At (c : Cursor) (ks : List TokenKind) : Prop where
  classed : c.Classed
  ready : c.Ready
  kinds : c.kinds = ks

namespace At

theorem kind (here : c.At (k :: ks)) : c.current.kind = k := current_of_kinds here.kinds

theorem advance (here : c.At (k :: ks)) (live : k ≠ .eof) : c.advance.At ks :=
  ⟨here.classed.advance, here.ready.advance, advance_of_kinds here.kinds live⟩

/-- A look ahead sees the kinds, and the end of input past them. -/
theorem peek (here : c.At ks) (i : Nat) : (c.peek i).kind = ks.getD i .eof := by
  rw [here.ready.peek, here.kinds]

theorem current_kind (here : c.At ks) : c.current.kind = ks.getD 0 .eof := here.peek 0

theorem cons (here : c.At ks) : ∃ rest, ks = c.current.kind :: rest := by
  obtain ⟨rest, same⟩ := here.ready.head
  exact ⟨rest, here.kinds ▸ same⟩

theorem testAny (here : c.At (k :: ks)) (kinds : List TokenKind) :
    c.testAny kinds = kinds.contains k := by
  simp [Cursor.testAny, here.kind]

theorem atEnd (here : c.At (k :: ks)) : c.atEnd = (k == .eof) := by
  simp [Cursor.atEnd, here.kind]

theorem goes_on {close : TokenKind} (here : c.At (k :: ks))
    (closer : close ∈ [TokenKind.rparen, .rbracket, .rbrace])
      (next : k ∈ TokenKind.comma :: startKinds) :
    c.testAny [close, .eof] = false := by
  rw [here.testAny]
  exact items_not_closers close closer k next

end At

end Cursor

section Readers

open Cursor

variable {α : Type} {allow : ParseFailure → Prop} {d : Nat} {c : Cursor} {k : TokenKind}
  {ks : List TokenKind}

theorem frame_excused {Q : α → Cursor → Prop} {body : Parser α}
    (h : Spec ParseFailure.Excused body (d + 1) c Q) :
    Spec ParseFailure.Excused (Parse.frame body) d c Q := by
  rw [spec_frame]
  split
  · exact .inl trivial
  · exact h

theorem expect_at {reason : String} {R : Token → Cursor → Prop} (here : c.At (k :: ks))
    (live : k ≠ .eof) (next : c.advance.At ks → R c.current c.advance) :
    Spec allow (Parse.expect k reason) d c R := by
  have found : c.test k = true := by simp [Cursor.test, here.kind]
  rw [spec_expect]
  exact ⟨fun _ => next (here.advance live), fun missing => absurd found (by simp [missing])⟩

theorem expectOneOf_at {kinds : List TokenKind} {R : Token → Cursor → Prop}
    (here : c.At (k :: ks))
    (mem : k ∈ kinds) (live : k ≠ .eof) (next : c.advance.At ks → R c.current c.advance) :
    Spec allow (Parse.expectOneOf kinds) d c R := by
  have found : c.testAny kinds = true := by simp [here.testAny, mem]
  rw [spec_expectOneOf]
  exact ⟨fun _ => next (here.advance live), fun missing => absurd found (by simp [missing])⟩

/-- A literal reads its token; a number token's text gives a value unless it is an integer of
more digits than may be read. -/
theorem literal_at (here : c.At (k :: ks)) (lit : k = .string ∨ k = .number) :
    Spec ParseFailure.Excused Parse.literal d c fun _ c' => c'.At ks := by
  have live : k ≠ .eof := by rcases lit with rfl | rfl <;> decide
  unfold Parse.literal
  refine frame_excused ?_
  simp only [spec_bind, spec_take]
  split
  · rename_i number
    have text : Scan.IsNumber c.current.text.toList :=
      here.classed.current.2 (by simpa using number)
    rcases numberValue_of_isNumber text with ⟨v, read⟩ | ⟨n, read⟩
    · simp only [read, spec_pure]
      exact here.advance live
    · simp only [read, spec_throw]
      exact .inl ⟨n, rfl⟩
  · exact here.advance live

theorem identifier_at (here : c.At (.ident :: ks)) :
    Spec ParseFailure.Excused Parse.identifier d c fun _ c' => c'.At ks := by
  unfold Parse.identifier
  refine frame_excused ?_
  simp only [spec_bind]
  refine expect_at here (by decide) fun here1 => ?_
  split <;> exact here1

/-- A postfix update reads its operator, and fails only where its argument cannot be assigned. -/
theorem updateAfter_at (here : c.At (k :: ks)) (op : k = .inc ∨ k = .dec) (arg : Expr) :
    Spec ParseFailure.Excused (Parse.updateAfter arg) d c fun _ c' => c'.At ks := by
  unfold Parse.updateAfter
  refine frame_excused ?_
  simp only [spec_bind]
  refine expectOneOf_at here (by rcases op with rfl | rfl <;> decide)
    (by rcases op with rfl | rfl <;> decide) fun here1 => ?_
  split
  · exact here1
  · exact .inl rfl

/-- After a statement's body, a `;` is read; the end of input is only looked at. -/
theorem terminator_at {m r : List TokenKind} {reason : String} (stop : Terminator m r)
    (here : c.At m) :
    if (!c.atEnd) = true then
      Spec allow (Parse.expect .semicolon reason) d c fun _ c' => c'.At r
    else c.At r := by
  cases stop with
  | semicolon =>
    rw [if_pos (by simp [here.atEnd])]
    exact expect_at here (by decide) id
  | eof =>
    rw [if_neg (by simp [here.atEnd])]
    exact here

/-- A chain of suffixes stops at once at a token that starts none. -/
theorem spec_suffixes_stop {n : Nat} {e : Expr} {Q : Expr → Cursor → Prop}
    (plain : c.current.kind ∉ suffixKinds) :
    Spec allow (Parse.suffixes (n + 1) e) d c Q ↔ Q e c := by
  rw [Parse.suffixes]
  simp only [spec_bind, spec_current]
  split <;> simp_all [suffixKinds, spec_pure]

end Readers

/-- A block's statements close it at once, when the braces read as an empty map too, or start with
a token that is no `}` followed by one that is no `:`. -/
theorem Grammar.Statements.closed_or_block {ts m : List TokenKind}
    (ss : Statements ts (.rbrace :: m)) :
    ts = .rbrace :: m ∨ ts.getD 0 .eof ≠ .rbrace ∧ ts.getD 1 .eof ≠ .colon := by
  by_cases closed : ts.getD 0 .eof = .rbrace
  · rcases ts with _ | ⟨k1, ts⟩
    · simp at closed
    · simp only [List.getD_cons_zero] at closed
      subst closed
      exact .inl ss.eq_of_rbrace.symm
  · -- a statement has no `:` for its second token
    refine .inr ⟨closed, fun keyed => ?_⟩
    rcases ts with _ | ⟨k1, _ | ⟨k2, ts⟩⟩ <;> simp at keyed closed
    subst keyed
    cases ss with
    | nil => exact closed rfl
    | cons first _ => exact first.second_ne_colon

/-- An expression statement is taken for neither an assignment nor a block: a name is never
followed by `=`, and an expression that starts with `{` is a map, closed at once or keyed. -/
theorem Grammar.Expression.not_assignment_or_block {ks m r : List TokenKind} (e : Expression ks m)
    (stop : Terminator m r) :
    ¬(ks.getD 0 .eof = .ident ∧ ks.getD 1 .eof = .assign) ∧
      ¬(ks.getD 0 .eof = .lbrace ∧ ks.getD 1 .eof ≠ .rbrace ∧
        ks.getD 2 .eof ≠ .colon) := by
  obtain ⟨k, rest, rfl, -⟩ := e.head
  constructor
  · rintro ⟨named, assigned⟩
    simp only [List.getD_cons_zero] at named
    subst named
    rcases rest with _ | ⟨k2, rest⟩ <;> simp at assigned
    subst assigned
    exact e.not_assign stop
  · rintro ⟨opened, open1, open2⟩
    simp only [List.getD_cons_zero] at opened
    subst opened
    rcases e.brace with ⟨y, rfl⟩ | ⟨y, rfl⟩
    · simp at open1
    · simp at open2

/- One theorem per grammar method, by recursion on the fuel together. Each takes a derivation of
its nonterminal from the kinds ahead, and the tokens that stop it where the method looks. -/
mutual

theorem statement_accepts : ∀ (n d : Nat) (c : Cursor) (ks r : List TokenKind), c.At ks →
    Statement ks r → Spec ParseFailure.Excused (Parse.statement n) d c fun _ c' => c'.At r
  | 0, _, _, _, _, _, _ => .inr rfl
  | n + 1, d, c, ks, r, here, ⟨body, stop⟩ => by
    rw [Parse.statement]
    refine frame_excused ?_
    simp only [spec_bind, spec_get, spec_ite, spec_discard, spec_pure]
    have ends := stop.endsExpression
    cases body with
    | assign value =>
      rw [if_pos (by simp [here.kind, here.peek])]
      exact (assignment_accepts n (d + 1) c _ _ here value ends).mono fun _ _ here1 =>
        terminator_at stop here1
    | @block ts _ ss =>
      rw [if_neg (by simp [here.kind])]
      rcases ss.closed_or_block with rfl | ⟨open1, open2⟩
      · -- braces closed at once are read as an empty map
        rw [if_neg (by simp [here.kind, here.peek])]
        exact (expression_accepts n (d + 1) c _ _ here (Expression.emptyMap _) ends).mono
          fun _ _ here1 => terminator_at stop here1
      · rw [if_pos (by simpa [here.kind, here.peek] using And.intro open1 open2)]
        exact (block_accepts n (d + 1) c ts _ here ss).mono fun _ _ here1 =>
          terminator_at stop here1
    | expression e =>
      obtain ⟨named, opened⟩ := e.not_assignment_or_block stop
      rw [if_neg (by simpa [here.current_kind, here.peek] using named),
        if_neg (by simpa [here.current_kind, here.peek] using opened)]
      exact (expression_accepts n (d + 1) c _ _ here e ends).mono fun _ _ here1 =>
        terminator_at stop here1

theorem block_accepts : ∀ (n d : Nat) (c : Cursor)
    (ts r : List TokenKind), c.At (.lbrace :: ts) →
    Statements ts (.rbrace :: r) →
    Spec ParseFailure.Excused (Parse.block n) d c fun _ c' => c'.At r
  | 0, _, _, _, _, _, _ => .inr rfl
  | n + 1, d, c, ts, r, here, ss => by
    rw [Parse.block]
    refine frame_excused ?_
    simp only [spec_bind, spec_discard, spec_pure]
    refine expect_at here (by decide) fun here1 => ?_
    refine (statements_accepts n (d + 1) c.advance ts r [] here1 ss).mono fun _ _ here2 => ?_
    exact expect_at here2 (by decide) id

theorem statements_accepts : ∀ (n d : Nat) (c : Cursor) (ks r : List TokenKind) (acc : List Stmt),
    c.At ks → Statements ks (.rbrace :: r) →
    Spec ParseFailure.Excused (Parse.statements n acc) d c fun _ c' => c'.At (.rbrace :: r)
  | 0, _, _, _, _, _, _, _ => .inr rfl
  | n + 1, d, c, ks, r, acc, here, ss => by
    rw [Parse.statements]
    simp only [spec_bind, spec_get, spec_ite, spec_pure]
    cases ss with
    | nil =>
      rw [if_pos (by simp [here.testAny])]
      exact here
    | cons first rest =>
      obtain ⟨k, _, rfl, start⟩ := first.head
      rw [if_neg (by simp [here.goes_on (show TokenKind.rbrace ∈ _ by decide) (.tail _ start)])]
      exact (statement_accepts n d c _ _ here first).mono fun s c1 here1 =>
        statements_accepts n d c1 _ r (s :: acc) here1 rest

theorem assignment_accepts : ∀ (n d : Nat) (c : Cursor) (ts r : List TokenKind),
    c.At (.ident :: .assign :: ts) → Expression ts r → EndsExpression r →
    Spec ParseFailure.Excused (Parse.assignment n) d c fun _ c' => c'.At r
  | 0, _, _, _, _, _, _, _ => .inr rfl
  | n + 1, d, c, ts, r, here, value, ends => by
    rw [Parse.assignment]
    refine frame_excused ?_
    simp only [spec_bind, spec_discard, spec_pure]
    refine expect_at here (by decide) fun here1 => expect_at here1 (by decide) fun here2 => ?_
    exact expression_accepts n (d + 1) _ ts r here2 value ends

theorem expression_accepts : ∀ (n d : Nat) (c : Cursor) (ks r : List TokenKind), c.At ks →
    Expression ks r → EndsExpression r →
    Spec ParseFailure.Excused (Parse.expression n) d c fun _ c' => c'.At r
  | 0, _, _, _, _, _, _, _ => .inr rfl
  | n + 1, d, c, ks, r, here, ⟨first, ops⟩, ends => by
    rw [Parse.expression]
    refine frame_excused ?_
    simp only [spec_bind, spec_current, spec_ite, spec_pure]
    refine (primary_accepts n (d + 1) c ks _ here first (ops.endsChain ends.chain)).mono
      fun x c1 here1 => ?_
    split
    · exact frame_excused (operations_accepts n (d + 2) c1 _ r x here1 ops ends)
    · -- no binary operator follows: the run of operations is empty
      rename_i plain
      obtain ⟨rest, same⟩ := here1.cons
      subst same
      rw [ops.eq_of_head fun binary => plain ((binaryOps_iff _).mp binary)]
      exact here1

theorem operations_accepts : ∀ (n d : Nat) (c : Cursor) (ks r : List TokenKind) (left : Expr),
    c.At ks → Operations ks r → EndsExpression r →
    Spec ParseFailure.Excused (Parse.operations n left) d c fun _ c' => c'.At r
  | 0, _, _, _, _, _, _, _, _ => .inr rfl
  | n + 1, d, c, ks, r, left, here, ops, ends => by
    rw [Parse.operations]
    simp only [spec_bind, spec_current]
    split <;> simp only [spec_bind, spec_pure]
    · rename_i op found
      exact (operation_accepts n d c ks r op left here ops ends found).mono
        fun l c1 ⟨m, here1, rest⟩ => operations_accepts n d c1 m r l here1 rest ends
    · rename_i plain
      obtain ⟨rest, rfl⟩ := here.cons
      rw [ops.eq_of_head fun binary => by simp [binaryOps_iff, plain] at binary]
      exact here

/-- One operation reads its operator and right operand, and the climb after it goes on through
the run of operations, however it nests the tree. -/
theorem operation_accepts : ∀ (n d : Nat) (c : Cursor) (ks r : List TokenKind) (op : BinaryOp)
    (left : Expr), c.At ks → Operations ks r → EndsExpression r →
    BinaryOp.ofToken? c.current.kind = some op →
    Spec ParseFailure.Excused (Parse.operation n op left) d c fun _ c' =>
      ∃ m, c'.At m ∧ Operations m r
  | 0, _, _, _, _, _, _, _, _, _, _ => .inr rfl
  | n + 1, d, c, ks, r, op, left, here, ops, ends, found => by
    rw [Parse.operation]
    refine frame_excused ?_
    simp only [spec_bind, spec_discard, spec_take, spec_pure]
    cases ops with
    | nil =>
      obtain ⟨k, rest, rfl, -, plain⟩ := ends
      exact absurd ((binaryOps_iff k).mpr (by rw [← here.kind, found]; rfl)) plain
    | @cons k _ m _ binary operand rest =>
      have live : k ≠ .eof := ofToken_ne_eof (by rw [← here.kind]; exact found)
      refine (primary_accepts n (d + 1) c.advance _ m (here.advance live) operand
        (rest.endsChain ends.chain)).mono fun y c1 here1 => ?_
      exact tighter_accepts n (d + 1) c1 m r op.precedence y here1 rest ends

theorem tighter_accepts : ∀ (n d : Nat) (c : Cursor) (ks r : List TokenKind) (prec : Nat)
    (right : Expr), c.At ks → Operations ks r → EndsExpression r →
    Spec ParseFailure.Excused (Parse.tighter n prec right) d c fun _ c' =>
      ∃ m, c'.At m ∧ Operations m r
  | 0, _, _, _, _, _, _, _, _, _ => .inr rfl
  | n + 1, d, c, ks, r, prec, right, here, ops, ends => by
    rw [Parse.tighter]
    simp only [spec_bind, spec_current]
    split <;> simp only [spec_bind, spec_ite, spec_pure]
    · rename_i op found
      split
      · exact (operation_accepts n d c ks r op right here ops ends found).mono
          fun y c1 ⟨m, here1, rest⟩ => tighter_accepts n d c1 m r prec y here1 rest ends
      · exact ⟨ks, here, ops⟩
    · exact ⟨ks, here, ops⟩

/-- A primary expression and its suffixes. The operand of a prefix update or of a unary operator
is read with the suffixes after it, which the grammar gives the whole postfix expression. -/
theorem primary_accepts : ∀ (n d : Nat) (c : Cursor) (ks r : List TokenKind), c.At ks →
    Postfix ks r → EndsChain r →
    Spec ParseFailure.Excused (Parse.primary n) d c fun _ c' => c'.At r
  | 0, _, _, _, _, _, _, _ => .inr rfl
  | n + 1, d, c, ks, r, here, ⟨head, chain⟩, stop => by
    rw [Parse.primary]
    refine frame_excused ?_
    simp only [spec_bind, spec_current]
    have suffixed : ∀ {m : List TokenKind}, Suffixes m r → ∀ e c1, c1.At m →
        Spec ParseFailure.Excused (Parse.frame (Parse.suffixes n e)) (d + 1) c1
          fun _ c2 => c2.At r :=
      fun chain e c1 here1 => frame_excused (suffixes_accepts n (d + 2) c1 _ r e here1 chain stop)
    cases head with
    | string =>
      simp only [here.kind, spec_bind]
      exact (literal_at here (.inl rfl)).mono (suffixed chain)
    | number =>
      simp only [here.kind, spec_bind]
      exact (literal_at here (.inr rfl)).mono (suffixed chain)
    | ident =>
      simp only [here.kind, spec_bind]
      exact (identifier_at here).mono (suffixed chain)
    | array items =>
      simp only [here.kind, spec_bind]
      exact (array_accepts n (d + 1) c _ _ here items).mono (suffixed chain)
    | map entries =>
      simp only [here.kind, spec_bind]
      exact (mapping_accepts n (d + 1) c _ _ here entries).mono (suffixed chain)
    | paren inner =>
      simp only [here.kind, spec_bind]
      exact (paren_accepts n (d + 1) c _ _ here inner).mono (suffixed chain)
    | update op arg =>
      have operand := arg.suffixes chain
      rcases op with rfl | rfl <;> simp only [here.kind, spec_bind] <;>
        exact (updateBefore_accepts n (d + 1) c _ _ r here (by decide) operand stop).mono
          (suffixed .nil)
    | unary op arg =>
      have operand : Postfix _ r := .mk arg chain
      rcases op with rfl | rfl | rfl <;> simp only [here.kind, spec_bind] <;>
        exact (unary_accepts n (d + 1) c _ _ r here (by decide) operand stop).mono (suffixed .nil)

theorem suffixes_accepts : ∀ (n d : Nat) (c : Cursor) (ks r : List TokenKind) (e : Expr),
    c.At ks → Suffixes ks r → EndsChain r →
    Spec ParseFailure.Excused (Parse.suffixes n e) d c fun _ c' => c'.At r
  | 0, _, _, _, _, _, _, _, _ => .inr rfl
  | n + 1, d, c, ks, r, e, here, chain, stop => by
    cases chain with
    | nil =>
      obtain ⟨k, rest, rfl, plain⟩ := stop
      exact (spec_suffixes_stop (by rw [here.kind]; exact plain)).mpr here
    | cons one rest =>
      rw [Parse.suffixes]
      simp only [spec_bind, spec_current]
      have chained : ∀ {m : List TokenKind}, Suffixes m r → ∀ e1 c1, c1.At m →
          Spec ParseFailure.Excused (Parse.suffixes n e1) d c1 fun _ c2 => c2.At r :=
        fun more e1 c1 here1 => suffixes_accepts n d c1 _ r e1 here1 more stop
      cases one with
      | call items =>
        simp only [here.kind, spec_bind]
        exact (arguments_accepts n d c _ _ here
          items).mono fun _ c1 here1 => chained rest _ c1 here1
      | member =>
        simp only [here.kind, spec_bind]
        exact (member_accepts n d c _ r e here rest stop).mono fun e1 c1 ⟨_, here1, more⟩ =>
          chained more e1 c1 here1
      | memberCall items =>
        simp only [here.kind, spec_bind]
        exact (member_accepts n d c _ r e here (.cons (.call items) rest) stop).mono
          fun e1 c1 ⟨_, here1, more⟩ => chained more e1 c1 here1
      | index key =>
        simp only [here.kind, spec_bind]
        exact (indexing_accepts n d c _ _ e here key).mono (chained rest)
      | update op =>
        rcases op with rfl | rfl <;> simp only [here.kind, spec_bind] <;>
          exact (updateAfter_at here (by decide) e).mono (chained rest)

/-- A member access reads `.` and a name; a call right after them is the first suffix of the
chain that follows. -/
theorem member_accepts : ∀ (n d : Nat) (c : Cursor) (ts r : List TokenKind) (obj : Expr),
    c.At (.dot :: .ident :: ts) → Suffixes ts r → EndsChain r →
    Spec ParseFailure.Excused (Parse.member n obj) d c fun _ c' => ∃ m, c'.At m ∧ Suffixes m r
  | 0, _, _, _, _, _, _, _, _ => .inr rfl
  | n + 1, d, c, ts, r, obj, here, chain, stop => by
    rw [Parse.member]
    refine frame_excused ?_
    simp only [spec_bind, spec_discard, spec_get, spec_ite, spec_pure]
    refine expect_at here (by decide) fun here1 => expect_at here1 (by decide) fun here2 => ?_
    split
    · rename_i called
      have opened : c.advance.advance.current.kind = .lparen := by
        simpa [Cursor.test] using called
      obtain ⟨rest, rfl⟩ := here2.cons
      rw [opened] at here2 chain
      cases chain with
      | nil =>
        obtain ⟨_, _, same, plain⟩ := stop
        cases same
        exact absurd (by decide) plain
      | cons one more =>
        cases one with
        | call items =>
          exact (arguments_accepts n (d + 1) _ _ _ here2 items).mono fun _ _ here3 =>
            ⟨_, here3, more⟩
        | update op => obtain h | h := op <;> cases h
    · exact ⟨ts, here2, chain⟩

theorem indexing_accepts : ∀ (n d : Nat) (c : Cursor) (ts r : List TokenKind) (obj : Expr),
    c.At (.lbracket :: ts) → Expression ts (.rbracket :: r) →
    Spec ParseFailure.Excused (Parse.indexing n obj) d c fun _ c' => c'.At r
  | 0, _, _, _, _, _, _, _ => .inr rfl
  | n + 1, d, c, ts, r, obj, here, key => by
    rw [Parse.indexing]
    refine frame_excused ?_
    simp only [spec_bind, spec_discard, spec_pure]
    refine expect_at here (by decide) fun here1 => ?_
    refine (expression_accepts n (d + 1) _ ts _ here1 key
      (endsExpression_closing (by decide) r)).mono
      fun _ _ here2 => ?_
    exact expect_at here2 (by decide) id

theorem unary_accepts : ∀ (n d : Nat) (c : Cursor) (k : TokenKind) (ts r : List TokenKind),
    c.At (k :: ts) → (k = .not ∨ k = .add ∨ k = .sub) → Postfix ts r → EndsChain r →
    Spec ParseFailure.Excused (Parse.unary n) d c fun _ c' => c'.At r
  | 0, _, _, _, _, _, _, _, _, _ => .inr rfl
  | n + 1, d, c, k, ts, r, here, op, operand, stop => by
    rw [Parse.unary]
    refine frame_excused ?_
    simp only [spec_bind, spec_take]
    have live : k ≠ .eof := by rcases op with rfl | rfl | rfl <;> decide
    refine (primary_accepts n (d + 1) c.advance ts r (here.advance live) operand stop).mono
      fun _ c1 here1 => ?_
    have found : (UnaryOp.ofToken? c.current.kind).isSome := by
      rw [here.kind]
      rcases op with rfl | rfl | rfl <;> decide
    obtain ⟨u, found⟩ := Option.isSome_iff_exists.mp found
    simp only [found, spec_pure]
    exact here1

theorem updateBefore_accepts : ∀ (n d : Nat) (c : Cursor) (k : TokenKind) (ts r : List TokenKind),
    c.At (k :: ts) → (k = .inc ∨ k = .dec) → Postfix ts r → EndsChain r →
    Spec ParseFailure.Excused (Parse.updateBefore n) d c fun _ c' => c'.At r
  | 0, _, _, _, _, _, _, _, _, _ => .inr rfl
  | n + 1, d, c, k, ts, r, here, op, operand, stop => by
    rw [Parse.updateBefore]
    refine frame_excused ?_
    simp only [spec_bind]
    refine expectOneOf_at here (by rcases op with rfl | rfl <;> decide)
      (by rcases op with rfl | rfl <;> decide) fun here1 => ?_
    refine (primary_accepts n (d + 1) c.advance ts r here1 operand stop).mono fun _ _ here2 => ?_
    split
    · exact here2
    · exact .inl rfl

theorem paren_accepts : ∀ (n d : Nat) (c : Cursor) (ts r : List TokenKind),
    c.At (.lparen :: ts) → Expression ts (.rparen :: r) →
    Spec ParseFailure.Excused (Parse.paren n) d c fun _ c' => c'.At r
  | 0, _, _, _, _, _, _ => .inr rfl
  | n + 1, d, c, ts, r, here, inner => by
    rw [Parse.paren]
    refine frame_excused ?_
    simp only [spec_bind, spec_discard, spec_pure]
    refine expect_at here (by decide) fun here1 => ?_
    refine (expression_accepts n (d + 1) _ ts _ here1 inner
      (endsExpression_closing (by decide) r)).mono
      fun _ _ here2 => ?_
    exact expect_at here2 (by decide) id

theorem array_accepts : ∀ (n d : Nat) (c : Cursor) (ts r : List TokenKind),
    c.At (.lbracket :: ts) → Items ts (.rbracket :: r) →
    Spec ParseFailure.Excused (Parse.array n) d c fun _ c' => c'.At r
  | 0, _, _, _, _, _, _ => .inr rfl
  | n + 1, d, c, ts, r, here, items => by
    rw [Parse.array]
    refine frame_excused ?_
    simp only [spec_bind, spec_discard, spec_pure]
    refine expect_at here (by decide) fun here1 => ?_
    refine (listed_accepts n (d + 1) _ ts r .rbracket _ [] here1 (.inr rfl) (fun _ => items)
      fun filled => absurd rfl filled).mono fun _ _ here2 => ?_
    exact expect_at here2 (by decide) id

/-- The expressions of a list, each after a comma but the first: the items from the first on, or,
once one is read, the items after it. -/
theorem listed_accepts : ∀ (n d : Nat) (c : Cursor) (ks r : List TokenKind) (close : TokenKind)
    (sep : String) (acc : List Expr), c.At ks → (close = .rparen ∨ close = .rbracket) →
    (acc = [] → Items ks (close :: r)) → (acc ≠ [] → MoreItems ks (close :: r)) →
    Spec ParseFailure.Excused (Parse.listed n close sep acc) d c fun _ c' => c'.At (close :: r)
  | 0, _, _, _, _, _, _, _, _, _, _, _ => .inr rfl
  | n + 1, d, c, ks, r, close, sep, acc, here, closing, first, later => by
    rw [Parse.listed]
    simp only [spec_bind, spec_get, spec_ite, spec_discard, spec_pure]
    have closer : close ∈ [TokenKind.rparen, .rbracket, .rbrace] := by
      rcases closing with rfl | rfl <;> decide
    have item : ∀ c1 ts m, c1.At ts → Expression ts m → MoreItems m (close :: r) →
        Spec ParseFailure.Excused (Parse.expression n) d c1 fun e c2 =>
          Spec ParseFailure.Excused (Parse.listed n close sep (e :: acc)) d c2
            fun _ c3 => c3.At (close :: r) :=
      fun c1 ts m here1 e more =>
        (expression_accepts n d c1 ts m here1 e
          (more.endsExpression closing)).mono fun e c2 here2 =>
          listed_accepts n d c2 m r close sep (e :: acc) here2 closing
            (fun empty => absurd empty (List.cons_ne_nil _ _)) fun _ => more
    by_cases empty : acc = []
    · rcases first empty with _ | ⟨e, more⟩
      · rw [if_pos (by simp [here.testAny])]
        exact here
      · obtain ⟨k, _, rfl, start⟩ := e.head
        rw [if_neg (by simp [here.goes_on closer (.tail _ start)]),
          if_neg (by simp [empty])]
        exact item c _ _ here e more
    · rcases later empty with _ | ⟨e, more⟩
      · rw [if_pos (by simp [here.testAny])]
        exact here
      · rw [if_neg (by simp [here.goes_on closer (.head _)]),
          if_pos (by simpa using empty)]
        exact expect_at here (by decide) fun here1 => item _ _ _ here1 e more

theorem mapping_accepts : ∀ (n d : Nat) (c : Cursor) (ts r : List TokenKind),
    c.At (.lbrace :: ts) → Entries ts (.rbrace :: r) →
    Spec ParseFailure.Excused (Parse.mapping n) d c fun _ c' => c'.At r
  | 0, _, _, _, _, _, _ => .inr rfl
  | n + 1, d, c, ts, r, here, entries => by
    rw [Parse.mapping]
    refine frame_excused ?_
    simp only [spec_bind, spec_discard, spec_pure]
    refine expect_at here (by decide) fun here1 => ?_
    refine (entries_accepts n (d + 1) _ ts r [] here1 (fun _ => entries)
      fun filled => absurd rfl filled).mono fun _ _ here2 => ?_
    exact expect_at here2 (by decide) id

/-- The entries of a map, each after a comma but the first, as `listed_accepts` has them. -/
theorem entries_accepts : ∀ (n d : Nat) (c : Cursor) (ks r : List TokenKind)
    (acc : List (MapKey × Expr)), c.At ks →
    (acc = [] → Entries ks (.rbrace :: r)) → (acc ≠ [] → MoreEntries ks (.rbrace :: r)) →
    Spec ParseFailure.Excused (Parse.entries n acc) d c fun _ c' => c'.At (.rbrace :: r)
  | 0, _, _, _, _, _, _, _, _ => .inr rfl
  | n + 1, d, c, ks, r, acc, here, first, later => by
    rw [Parse.entries]
    simp only [spec_bind, spec_get, spec_ite, spec_discard, spec_pure]
    have entry : ∀ c1 ts m, c1.At (.string :: .colon :: ts) → Expression ts m →
        MoreEntries m (.rbrace :: r) →
        Spec ParseFailure.Excused (Parse.expect .string "A map key must be a string") d c1
          fun key c2 => Spec ParseFailure.Excused (Parse.expect .colon
            "A map key and value must be separated by a colon") d c2
            fun _ c3 => Spec ParseFailure.Excused (Parse.expression n) d c3 fun value c4 =>
              Spec ParseFailure.Excused
                (Parse.entries n ((⟨key.text, key.pos⟩, value) :: acc)) d c4
                fun _ c5 => c5.At (.rbrace :: r) :=
      fun c1 ts m here1 e more =>
        expect_at here1 (by decide) fun here2 => expect_at here2 (by decide) fun here3 =>
          (expression_accepts n d _ ts m here3 e more.endsExpression).mono fun _ c4 here4 =>
            entries_accepts n d c4 m r _ here4 (fun empty => absurd empty (List.cons_ne_nil _ _))
              fun _ => more
    by_cases empty : acc = []
    · rcases first empty with _ | ⟨e, more⟩
      · rw [if_pos (by simp [here.testAny])]
        exact here
      · rw [if_neg (by simp [here.testAny]), if_neg (by simp [empty])]
        exact entry c _ _ here e more
    · rcases later empty with _ | ⟨e, more⟩
      · rw [if_pos (by simp [here.testAny])]
        exact here
      · rw [if_neg (by simp [here.testAny]), if_pos (by simpa using empty)]
        exact expect_at here (by decide) fun here1 => entry _ _ _ here1 e more

theorem arguments_accepts : ∀ (n d : Nat) (c : Cursor) (ts r : List TokenKind),
    c.At (.lparen :: ts) → Items ts (.rparen :: r) →
    Spec ParseFailure.Excused (Parse.arguments n) d c fun _ c' => c'.At r
  | 0, _, _, _, _, _, _ => .inr rfl
  | n + 1, d, c, ts, r, here, items => by
    rw [Parse.arguments]
    refine frame_excused ?_
    simp only [spec_bind, spec_discard, spec_pure]
    refine expect_at here (by decide) fun here1 => ?_
    refine (listed_accepts n (d + 1) _ ts r .rparen _ [] here1 (.inl rfl) (fun _ => items)
      fun filled => absurd rfl filled).mono fun _ _ here2 => ?_
    exact expect_at here2 (by decide) id

end

theorem program_accepts : ∀ (n d : Nat) (c : Cursor) (ks : List TokenKind) (acc : List Stmt),
    c.At ks → Statements ks [.eof] →
    Spec ParseFailure.Excused (Parse.program n acc) d c fun _ c' => c'.At [.eof]
  | 0, _, _, _, _, _, _ => .inr rfl
  | n + 1, d, c, ks, acc, here, ss => by
    rw [Parse.program]
    simp only [spec_bind, spec_get, spec_ite, spec_pure]
    cases ss with
    | nil =>
      rw [if_pos (by simp [here.atEnd])]
      exact here
    | cons first rest =>
      obtain ⟨k, _, rfl, start⟩ := first.head
      have live : k ≠ .eof := by
        rintro rfl
        exact absurd start (by decide)
      rw [if_neg (by simp [here.atEnd, live])]
      exact (statement_accepts n d c _ _ here first).mono fun s c1 here1 =>
        program_accepts n d c1 _ (s :: acc) here1 rest

/-- Tokens of their classes that the grammar derives parse, but for an admitted failure: the fuel
the entry point gives never runs out. -/
theorem parseTokens_accepts {front : List Token} {t : Token} (ended : t.kind = .eof)
    (classed : ∀ x ∈ front ++ [t], x.Classed)
    (derived : Grammar.Program (((front ++ [t]).filter (·.kind != .comment)).map (·.kind)))
    {e : ParseFailure} (failed : parseTokens (front ++ [t]) = .error e) : e.Admitted := by
  set c := Cursor.ofTokens (front ++ [t])
  have here : c.At (((front ++ [t]).filter (·.kind != .comment)).map (·.kind)) :=
    ⟨Cursor.ofTokens_classed classed, ofTokens_ready ended, ofTokens_kinds ended⟩
  have spec : Spec ParseFailure.Excused (Parse.programAt (Parse.budget c)) Parse.textDepth c
      fun _ c' => c'.At [.eof] := by
    rw [Parse.programAt]
    refine frame_excused ?_
    simp only [spec_bind, spec_current, spec_pure]
    exact program_accepts _ _ _ _ [] here derived
  rcases ran : Parser.exec (Parse.programAt (Parse.budget c)) Parse.textDepth c with ⟨r, c'⟩
  have result : r = .error e := by
    rw [← failed]
    exact (congrArg Prod.fst ran).symm
  subst result
  rcases spec.failure ran with admitted | spent
  · exact admitted
  · exact ((budget_suffices (front ++ [t]) Parse.textDepth).1 _ _ ran (by rw [spent])).elim

/-- The parser reads exactly the grammar: a text that parses is a program of the grammar, and a
program of the grammar fails to parse only in ways the grammar does not see. -/
theorem parse_accepts_grammar {s : String} {ts : List Token} (scanned : scan s = .ok ts) :
    ((∃ p, parseProgram s = .ok p) →
      Grammar.Program ((ts.filter (·.kind != .comment)).map (·.kind))) ∧
    (Grammar.Program ((ts.filter (·.kind != .comment)).map (·.kind)) →
      ∀ e, parseProgram s = .error (.parse e) → e.Admitted) := by
  obtain ⟨front, t, rfl, ended, plain⟩ := scan_ends scanned
  constructor
  · rintro ⟨p, parsed⟩
    obtain ⟨ts, again, tokens⟩ := parseProgram_ok parsed
    rw [scanned, Except.ok.injEq] at again
    subst again
    exact parseTokens_derives ended plain tokens
  · intro derived e failed
    rw [parseProgram_scanned scanned] at failed
    have tokens : parseTokens (front ++ [t]) = .error e := by
      cases parsed : parseTokens (front ++ [t]) <;> simp_all [Except.mapError]
    exact parseTokens_accepts ended (scan_classed scanned) derived tokens

/-- An empty pair of braces, a block to the grammar and a map to the parser. -/
theorem parse_accepts_grammar_braces :
    scan "{}" = .ok [⟨.lbrace, "\x7b", ⟨1, 1, 0⟩⟩, ⟨.rbrace, "\x7d", ⟨1, 2, 1⟩⟩,
      ⟨.eof, "", ⟨1, 3, 2⟩⟩] ∧
    ((∃ p, parseProgram "{}" = .ok p) → Grammar.Program [.lbrace, .rbrace, .eof]) ∧
    (Grammar.Program [.lbrace, .rbrace, .eof] →
      ∀ e, parseProgram "{}" = .error (.parse e) → e.Admitted) := by
  have scanned : scan "{}" =
      .ok [⟨.lbrace, "\x7b", ⟨1, 1, 0⟩⟩, ⟨.rbrace, "\x7d", ⟨1, 2, 1⟩⟩,
        ⟨.eof, "", ⟨1, 3, 2⟩⟩] := by
    cbv
  exact ⟨scanned, parse_accepts_grammar scanned⟩

/-- A run of `!` before a name is a postfix expression. -/
theorem negations_operand (k : Nat) (r : List TokenKind) :
    Postfix (List.replicate k .not ++ .ident :: r) r := by
  induction k with
  | zero => exact .ofPrimary .ident
  | succ k ih =>
    rw [List.replicate_succ, List.cons_append]
    exact .unary (.inl rfl) ih

/-- From 494 on, a run of `!` before a name nests more calls than the stack holds: two for each
operator, under the three of the program's statement. -/
theorem parseProgram_negations (k : Nat) (long : 494 ≤ k) :
    parseProgram (String.ofList (List.replicate k '!' ++ ['x'])) = .error (.parse .tooDeep) := by
  obtain ⟨toks, pos, shaped, plain, scanned⟩ := Scan.scan_words (lex_negationWords k)
  rw [spellAll_negationWords] at scanned
  have shows := Cursor.ofTokens_shows plain pos
  rw [shaped, shapes_negationWords, List.append_assoc, List.singleton_append] at shows
  obtain ⟨c1, overflow⟩ : ∃ c1, Parser.runFrom Parse.programAt Parse.textDepth
      (Cursor.ofTokens (toks ++ [⟨.eof, "", pos⟩])) = (.error .tooDeep, c1) := by
    generalize Cursor.ofTokens (toks ++ [⟨.eof, "", pos⟩]) = c at shows
    have fuel : 8 * k + 16 ≤ Parse.budget c := by
      have size := shows.size_sub
      simp only [List.length_append, List.length_replicate, List.length_cons,
        List.length_nil] at size
      simp only [Parse.budget]
      omega
    obtain ⟨n, budget⟩ : ∃ n, Parse.budget c = n + 3 := ⟨Parse.budget c - 3, by omega⟩
    have operators : ∀ i < k, (c.peek i).kind = .not := by
      intro i below
      have shape := shows.peek i (by simp only [List.length_append, List.length_replicate]; omega)
      rw [List.getElem_append_left (by simp only [List.length_replicate]; omega),
        List.getElem_replicate] at shape
      exact congrArg Prod.fst shape
    have first : c.current.kind = .not := operators 0 (by omega)
    have spec : Spec (· = .tooDeep) (Parse.programAt (n + 3)) Parse.textDepth c
        fun _ _ => False :=
      programAt_primary (by decide) (by simp [first])
        (primary_overflows k n (Parse.textDepth + 3) c (fun i below => by simp [operators i below])
          (by simp only [Parse.stackLimit, Parse.textDepth, Parse.leafReach]; omega) (by omega))
    rw [← budget] at spec
    rcases spec.exec_cases with ⟨_, _, _, none⟩ | ⟨_, c1, ran, deep⟩
    · exact none.elim
    · exact ⟨c1, deep ▸ ran⟩
  rw [parseProgram_scanned scanned, parseTokens, overflow]
  rfl

/-- A run of `!` before a name scans as those operators, the name and the end of input. -/
theorem scan_negations (k : Nat) :
    ∃ ts, scan (String.ofList (List.replicate k '!' ++ ['x'])) = .ok ts ∧
      (ts.filter (·.kind != .comment)).map (·.kind) = List.replicate k .not ++
        [.ident, .eof] := by
  obtain ⟨toks, pos, shaped, plain, scanned⟩ := Scan.scan_words (lex_negationWords k)
  rw [spellAll_negationWords] at scanned
  refine ⟨_, scanned, ?_⟩
  have kept : (toks ++ [(⟨.eof, "", pos⟩ : Token)]).filter (·.kind != TokenKind.comment) =
      toks ++ [⟨.eof, "", pos⟩] :=
    List.filter_eq_self.mpr fun t mem => by
      rcases List.mem_append.mp mem with mem | mem
      · simpa using plain t mem
      · rw [List.mem_singleton.mp mem]
        rfl
  have kinds : toks.map (·.kind) = List.replicate k .not ++ [.ident] := by
    have fst := congrArg (List.map Prod.fst) shaped
    rwa [shapes_negationWords, List.map_append, List.map_replicate, List.map_map] at fst
  rw [kept, List.map_append, kinds, List.append_assoc]
  rfl

/-- Five hundred `!` before a name are a program of the grammar, and their parse fails for want
of stack, which neither an update nor a number causes. -/
theorem negations_grammatical_overflow :
    (∃ ts, scan (String.ofList (List.replicate 500 '!' ++ ['x'])) = .ok ts ∧
      Grammar.Program ((ts.filter (·.kind != .comment)).map (·.kind))) ∧
    parseProgram (String.ofList (List.replicate 500 '!' ++ ['x'])) = .error (.parse .tooDeep) := by
  obtain ⟨ts, scanned, kinds⟩ := scan_negations 500
  refine ⟨⟨ts, scanned, ?_⟩, parseProgram_negations 500 (by decide)⟩
  rw [kinds]
  exact .cons (.mk (.expression (.ofPostfix (negations_operand 500 _))) .eof) .nil

end Quill
