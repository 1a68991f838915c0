import Quill.Proofs.Parse.Placed
import Quill.Proofs.Parse.Shows
import Quill.Proofs.Parse.Dispatch

set_option autoImplicit false

/- The parser places every node at the first of its own tokens that is no opening parenthesis,
so on the tokens of a text every node stands no later than any node below it. -/
namespace Quill

open Quill.Parser Quill.Parser.Spec

namespace Cursor

variable {c c' c'' : Cursor} {span span' : List Token}

/-- The cursor stands on one of its tokens, and the last of them ends the input. -/
def Sound (c : Cursor) : Prop := c.Ends ∧ c.index < c.items.size

/-- Reading the tokens `span` takes the cursor `c` to `c'`, which stands on a token of the same
list. -/
def Passes (c : Cursor) (span : List Token) (c' : Cursor) : Prop :=
  c'.Sound ∧ c'.items = c.items ∧ c.ahead = span ++ c'.ahead

theorem Passes.refl (sound : c.Sound) : c.Passes [] c := ⟨sound, rfl, rfl⟩

theorem Passes.sound (passes : c.Passes span c') : c'.Sound := passes.1

theorem Passes.trans (first : c.Passes span c') (second : c'.Passes span' c'') :
    c.Passes (span ++ span') c'' :=
  ⟨second.1, second.2.1.trans first.2.1, by rw [first.2.2, second.2.2, List.append_assoc]⟩

theorem Sound.ahead_eq
    (sound : c.Sound) : c.ahead = c.current :: c.items.toList.drop (c.index + 1) := by
  have inside := sound.2
  have length : c.index < c.items.toList.length := by simpa using inside
  have same : c.current = c.items[c.index] := by simp [current, peek, inside]
  rw [same, Cursor.ahead, List.drop_eq_getElem_cons length]
  simp

/-- Reading a token that does not end the input passes it. -/
theorem passes_advance (sound : c.Sound) (live : c.current.kind ≠ .eof) :
    c.Passes [c.current] c.advance := by
  have inside := sound.2
  have moving : c.atEnd = false := by simp [atEnd, live]
  have moved : c.advance = { c with index := c.index + 1 } := by simp [advance, moving]
  have next : c.index + 1 < c.items.size := by
    rcases Nat.lt_or_ge (c.index + 1) c.items.size with lt | ge
    · exact lt
    · have last : c.current = c.last := by
        simp only [current, peek, last, Nat.add_zero, inside, ↓reduceDIte]
        congr 1
        omega
      exact absurd (last ▸ sound.1) live
  rw [moved]
  exact ⟨⟨sound.1, next⟩, rfl, by simpa [Cursor.ahead] using sound.ahead_eq⟩

theorem Sound.advance (sound : c.Sound) : c.advance.Sound := by
  by_cases stop : c.atEnd
  · rw [advance_eq_of_atEnd stop]
    exact sound
  · exact (passes_advance sound (by simpa [atEnd] using stop)).sound

end Cursor

open Cursor

namespace Expr.Placed

variable {ts ks as : List Token} {t lb rb : Token}

theorem binary_left {ls rs : List Token} {op : BinaryOp} {lhs rhs : Expr}
    (left : lhs.Placed ls) (found : BinaryOp.ofToken? t.kind = some op) (right : rhs.Placed rs) :
    (Expr.binary op lhs rhs lhs.pos).Placed (ls ++ t :: rs) :=
  .binary left found right (leadPos_append _ left.lead)

theorem field_object {obj : Expr} {dot name : Token} (object : obj.Placed ts)
    (dotted : dot.kind = .dot) (named : name.kind = .ident) :
    (Expr.field obj name.text name.pos obj.pos).Placed (ts ++ [dot, name]) :=
  .field object dotted named (leadPos_append _ object.lead)

theorem index_object {obj key : Expr} (object : obj.Placed ts) (opened : lb.kind = .lbracket)
    (keyed : key.Placed ks) (closed : rb.kind = .rbracket) :
    (Expr.index obj key obj.pos).Placed (ts ++ lb :: ks ++ [rb]) :=
  .index object opened keyed closed (leadPos_append _ (leadPos_append _ object.lead))

theorem call_callee {callee : Expr} {args : List Expr} (called : callee.Placed ts)
    (opened : lb.kind = .lparen) (items : Expr.PlacedItems as args) (closed : rb.kind = .rparen) :
    (Expr.call callee args callee.pos).Placed (ts ++ lb :: as ++ [rb]) :=
  .call called opened items closed (leadPos_append _ (leadPos_append _ called.lead))

theorem updateAfter_arg {op : UpdateOp} {arg : Expr} (target : arg.Placed ts)
    (found : UpdateOp.ofToken? t.kind = some op) :
    (Expr.update op arg false arg.pos).Placed (ts ++ [t]) :=
  .updateAfter target found (leadPos_append _ target.lead)

theorem unary_token {op : UnaryOp} {arg : Expr} (found : UnaryOp.ofToken? t.kind = some op)
    (operand : arg.Placed ts) : (Expr.unary op arg t.pos).Placed (t :: ts) := by
  have plain : t.kind ≠ .lparen := by
    intro opening
    simp [opening, UnaryOp.ofToken?, UnaryOp.all, UnaryOp.token] at found
  exact .unary found operand (leadPos_cons _ plain)

theorem updateBefore_token {op : UpdateOp} {arg : Expr} (found : UpdateOp.ofToken? t.kind = some op)
    (target : arg.Placed ts) : (Expr.update op arg true t.pos).Placed (t :: ts) := by
  have plain : t.kind ≠ .lparen := by
    intro opening
    simp [opening, UpdateOp.ofToken?] at found
  exact .updateBefore found target (leadPos_cons _ plain)

theorem array_bracket {items : List Expr} (opened : lb.kind = .lbracket)
    (listed : Expr.PlacedItems ts items) (closed : rb.kind = .rbracket) :
    (Expr.array items lb.pos).Placed (lb :: ts ++ [rb]) :=
  .array opened listed closed (leadPos_append _ (leadPos_cons _ (by simp [opened])))

theorem map_brace {entries : List (MapKey × Expr)} (opened : lb.kind = .lbrace)
    (listed : Expr.PlacedEntries ts entries) (closed : rb.kind = .rbrace) :
    (Expr.map entries lb.pos).Placed (lb :: ts ++ [rb]) :=
  .map opened listed closed (leadPos_append _ (leadPos_cons _ (by simp [opened])))

end Expr.Placed

/-- From `c` to `c'` the parser read tokens on which the expression `e` is placed. -/
def PlacedRead (c : Cursor) (e : Expr) (c' : Cursor) : Prop :=
  ∃ span, c.Passes span c' ∧ e.Placed span

/-- The expression `e` is placed on the tokens `pre` followed by those read from `c` to `c'`. -/
def PlacedAfter (pre : List Token) (c : Cursor) (e : Expr) (c' : Cursor) : Prop :=
  ∃ span, c.Passes span c' ∧ e.Placed (pre ++ span)

/-- From `c` to `c'` the parser read a statement placed on some of the tokens, ended by a
semicolon or by the end of input. -/
def StatementPlaced (c : Cursor) (s : Stmt) (c' : Cursor) : Prop :=
  ∃ span, s.Placed span ∧ (c.Passes span c' ∧ c'.atEnd = true ∨
    ∃ semi : Token, semi.kind = .semicolon ∧ c.Passes (span ++ [semi]) c')

/-- From `c` to `c'` the parser read the items `es` after those of `acc`, which it had read
already: separated by commas, and after a comma unless `acc` is empty. -/
def ItemsPlaced (acc : List Expr) (c : Cursor) (es : List Expr) (c' : Cursor) : Prop :=
  ∃ span new, c.Passes span c' ∧ es = acc.reverse ++ new ∧
    (acc = [] → Expr.PlacedItems span new) ∧
    (acc ≠ [] → Expr.PlacedMore span new)

/-- From `c` to `c'` the parser read the map entries `es` after those of `acc`, which it had
read already: separated by commas, and after a comma unless `acc` is empty. -/
def EntriesPlaced (acc : List (MapKey × Expr)) (c : Cursor) (es : List (MapKey × Expr))
    (c' : Cursor) : Prop :=
  ∃ span new, c.Passes span c' ∧ es = acc.reverse ++ new ∧
    (acc = [] → Expr.PlacedEntries span new) ∧ (acc ≠ [] → Expr.PlacedMoreEntries span new)

section Steps

variable {pre span : List Token} {c c1 c2 : Cursor} {e : Expr}

theorem placedAfter_refl (sound : c.Sound) (placed : e.Placed pre) : PlacedAfter pre c e c :=
  ⟨[], Passes.refl sound, by simpa using placed⟩

theorem placedAfter_trans (passes : c.Passes span c1) (next : PlacedAfter (pre ++ span) c1 e c2) :
    PlacedAfter pre c e c2 := by
  obtain ⟨span2, passes2, placed⟩ := next
  exact ⟨span ++ span2, passes.trans passes2, by simpa using placed⟩

theorem placedRead_of_after (passes : c.Passes span c1) (next : PlacedAfter span c1 e c2) :
    PlacedRead c e c2 := by
  obtain ⟨span2, passes2, placed⟩ := next
  exact ⟨span ++ span2, passes.trans passes2, placed⟩

/-- A token of kind `k`, which does not end the input, is passed by expecting it. -/
theorem expect_passes {k : TokenKind} {reason : String} {R : Token → Cursor → Prop} {d : Nat}
    (sound : c.Sound) (live : k ≠ .eof)
    (next : c.current.kind = k → c.Passes [c.current] c.advance → R c.current c.advance) :
    Spec AnyFailure (Parse.expect k reason) d c R :=
  expect_any fun found => next found (passes_advance sound (found ▸ live))

/-- A literal stands at the string or number it reads. -/
theorem literal_placed {d : Nat} (sound : c.Sound) (kind : c.current.kind ∈ [.string, .number]) :
    Spec AnyFailure Parse.literal d c fun e c' => PlacedRead c e c' := by
  unfold Parse.literal
  refine frame_any ?_
  simp only [spec_bind, spec_take]
  simp only [List.mem_cons, List.not_mem_nil, or_false] at kind
  have live : c.current.kind ≠ .eof := by rcases kind with k | k <;> simp [k]
  have plain : c.current.kind ≠ .lparen := by rcases kind with k | k <;> simp [k]
  have literal : ∀ (v : Data) (raw : String),
      (Expr.literal v raw c.current.pos).Placed [c.current] :=
    fun _ _ => .literal (by rcases kind with k | k <;> simp [k]) (leadPos_cons _ plain)
  split
  · split
    · exact ⟨_, passes_advance sound live, literal _ _⟩
    · trivial
  · exact ⟨_, passes_advance sound live, literal _ _⟩

/-- A name stands at its token, whether it writes a constant or a variable. -/
theorem identifier_placed {d : Nat} (sound : c.Sound) :
    Spec AnyFailure Parse.identifier d c fun e c' => PlacedRead c e c' := by
  unfold Parse.identifier
  refine frame_any ?_
  simp only [spec_bind]
  refine expect_passes sound (by decide) fun named passes => ?_
  have lead := leadPos_cons [] (by simp [named] : c.current.kind ≠ .lparen)
  split
  · exact ⟨_, passes, .literal (by simp [named]) lead⟩
  · exact ⟨_, passes, .var named lead⟩

/-- A postfix update stands where its argument stands. -/
theorem updateAfter_placed {d : Nat} {arg : Expr} (sound : c.Sound) (placed : arg.Placed pre) :
    Spec AnyFailure (Parse.updateAfter arg) d c fun e c' => PlacedAfter pre c e c' := by
  unfold Parse.updateAfter
  refine frame_any ?_
  simp only [spec_bind]
  refine expectOneOf_any fun kind => ?_
  have live : c.current.kind ≠ .eof := by
    simp only [List.mem_cons, List.not_mem_nil, or_false] at kind
    rcases kind with k | k <;> simp [k]
  split
  · rename_i op _ found _
    exact ⟨_, passes_advance sound live, .updateAfter_arg placed found⟩
  · trivial

end Steps

/- One theorem per grammar method, by recursion on the fuel together: each calls the others
at the fuel it passes them. -/
mutual

theorem statement_placed : ∀ (n d : Nat) (c : Cursor), c.Sound →
    Spec AnyFailure (Parse.statement n) d c fun s c' => StatementPlaced c s c'
  | 0, _, _, _ => trivial
  | n + 1, d, c, sound => by
    rw [Parse.statement]
    refine frame_any ?_
    simp only [spec_bind, spec_get, spec_ite, spec_discard, spec_pure]
    have terminated : ∀ (s : Stmt) span c1, s.Placed span → c.Passes span c1 →
        if (!c1.atEnd) = true then
          Spec AnyFailure (Parse.expect TokenKind.semicolon
            "A statement must be terminated by a semicolon") (d + 1) c1
            fun _ c2 => StatementPlaced c s c2
        else StatementPlaced c s c1 := by
      intro s span c1 placed passes
      split
      · exact expect_passes passes.sound (by decide) fun semi past =>
          ⟨span, placed, .inr ⟨_, semi, passes.trans past⟩⟩
      · rename_i stop
        exact ⟨span, placed, .inl ⟨passes, by simpa using stop⟩⟩
    split
    · refine (assignment_placed n (d + 1) c sound).mono fun s c1 read => ?_
      obtain ⟨span, passes, placed⟩ := read
      exact terminated s span c1 placed passes
    · split
      · refine (block_placed n (d + 1) c sound).mono fun s c1 read => ?_
        obtain ⟨span, passes, placed⟩ := read
        exact terminated s span c1 placed passes
      · refine (expression_placed n (d + 1) c sound).mono fun e c1 read => ?_
        obtain ⟨span, passes, placed⟩ := read
        obtain ⟨rest, rfl⟩ : ∃ rest, span = c.current :: rest := by
          have starts := congrArg List.head? (sound.ahead_eq.symm.trans passes.2.2)
          cases span with
          | nil => simpa [leadPos] using placed.lead
          | cons t rest => exact ⟨rest, by simpa using starts.symm⟩
        exact terminated _ _ c1 (.expr placed) passes

theorem block_placed : ∀ (n d : Nat) (c : Cursor), c.Sound →
    Spec AnyFailure (Parse.block n) d c fun s c' => ∃ span, c.Passes span c' ∧ s.Placed span
  | 0, _, _, _ => trivial
  | n + 1, d, c, sound => by
    rw [Parse.block]
    refine frame_any ?_
    simp only [spec_bind, spec_discard, spec_pure]
    refine expect_passes sound (by decide) fun opened first => ?_
    refine (statements_placed n (d + 1) c.advance [] first.sound).mono fun body c1 read => ?_
    obtain ⟨span, new, passes, same, listed, -⟩ := read
    simp only [List.reverse_nil, List.nil_append] at same
    subst same
    refine expect_passes passes.sound (by decide) fun closed last => ?_
    have live : c1.atEnd = false := by simp [atEnd, closed]
    exact ⟨c.current :: span ++ [c1.current], by simpa using first.trans (passes.trans last),
      .block opened (listed live) closed⟩

theorem statements_placed : ∀ (n d : Nat) (c : Cursor) (acc : List Stmt), c.Sound →
    Spec AnyFailure (Parse.statements n acc) d c fun ss c' => ∃ span new, c.Passes span c' ∧
      ss = acc.reverse ++ new ∧ (c'.atEnd = false → Stmt.PlacedList span new) ∧
      (c.atEnd = true → c'.atEnd = true)
  | 0, _, _, _, _ => trivial
  | n + 1, d, c, acc, sound => by
    rw [Parse.statements]
    simp only [spec_bind, spec_get, spec_ite, spec_pure]
    split
    · exact ⟨[], [], Passes.refl sound, by simp, fun _ => .nil, id⟩
    · rename_i going
      have live : c.atEnd = false := by
        simp only [testAny, List.contains_iff_mem, List.mem_cons, List.not_mem_nil, or_false,
          not_or] at going
        simp [atEnd, going.2]
      refine (statement_placed n d c sound).mono fun s c1 read => ?_
      obtain ⟨span, placed, ⟨passes, ended⟩ | ⟨semi, semicolon, passes⟩⟩ := read
      · -- the input ended after the statement, so the run stops there
        refine (statements_placed n d c1 (s :: acc) passes.sound).mono fun ss c2 read => ?_
        obtain ⟨span2, new, passes2, rfl, -, stays⟩ := read
        exact ⟨span ++ span2, s :: new, passes.trans passes2, by simp,
          fun live2 => absurd (stays ended) (by simp [live2]), by simp [live]⟩
      · refine (statements_placed n d c1 (s :: acc) passes.sound).mono fun ss c2 read => ?_
        obtain ⟨span2, new, passes2, rfl, listed, -⟩ := read
        exact ⟨span ++ semi :: span2, s :: new, by simpa using passes.trans passes2, by simp,
          fun live2 => .cons placed semicolon (listed live2), by simp [live]⟩

theorem assignment_placed : ∀ (n d : Nat) (c : Cursor), c.Sound →
    Spec AnyFailure (Parse.assignment n) d c fun s c' => ∃ span, c.Passes span c' ∧
      s.Placed span
  | 0, _, _, _ => trivial
  | n + 1, d, c, sound => by
    rw [Parse.assignment]
    refine frame_any ?_
    simp only [spec_bind, spec_discard, spec_pure]
    refine expect_passes sound (by decide) fun named first => ?_
    refine expect_passes first.sound (by decide) fun assigns second => ?_
    refine (expression_placed n (d + 1) c.advance.advance second.sound).mono fun value c1 read => ?_
    obtain ⟨span, passes, placed⟩ := read
    exact ⟨_, by simpa using first.trans (second.trans passes), .assign named assigns placed⟩

theorem expression_placed : ∀ (n d : Nat) (c : Cursor), c.Sound →
    Spec AnyFailure (Parse.expression n) d c fun e c' => PlacedRead c e c'
  | 0, _, _, _ => trivial
  | n + 1, d, c, sound => by
    rw [Parse.expression]
    refine frame_any ?_
    simp only [spec_bind, spec_current, spec_ite, spec_pure]
    refine (primary_placed n (d + 1) c sound).mono fun e c1 read => ?_
    obtain ⟨span, passes, placed⟩ := read
    split
    · exact frame_any ((operations_placed n (d + 2) c1 e span passes.sound placed).mono
        fun _ _ => placedRead_of_after passes)
    · exact ⟨span, passes, placed⟩

theorem operations_placed : ∀ (n d : Nat) (c : Cursor) (left : Expr) (pre : List Token),
    c.Sound → left.Placed pre →
    Spec AnyFailure (Parse.operations n left) d c fun e c' => PlacedAfter pre c e c'
  | 0, _, _, _, _, _, _ => trivial
  | n + 1, d, c, left, pre, sound, placed => by
    rw [Parse.operations]
    simp only [spec_bind, spec_current]
    split <;> simp only [spec_bind, spec_pure]
    · rename_i op found
      refine (operation_placed n d c op left pre sound placed found).mono fun l c1 read => ?_
      obtain ⟨span, passes, placed1⟩ := read
      exact (operations_placed n d c1 l (pre ++ span) passes.sound placed1).mono
        fun _ _ => placedAfter_trans passes
    · exact placedAfter_refl sound placed

theorem operation_placed : ∀ (n d : Nat) (c : Cursor) (op : BinaryOp) (left : Expr)
    (pre : List Token), c.Sound → left.Placed pre →
      BinaryOp.ofToken? c.current.kind = some op →
    Spec AnyFailure (Parse.operation n op left) d c fun e c' => PlacedAfter pre c e c'
  | 0, _, _, _, _, _, _, _, _ => trivial
  | n + 1, d, c, op, left, pre, sound, placed, found => by
    rw [Parse.operation]
    refine frame_any ?_
    simp only [spec_bind, spec_discard, spec_take, spec_pure]
    have first := passes_advance sound (ofToken_ne_eof found)
    refine (primary_placed n (d + 1) c.advance first.sound).mono fun r c1 read => ?_
    obtain ⟨span, passes, right⟩ := read
    refine (tighter_placed n (d + 1) c1 op.precedence r span passes.sound right).mono
      fun r' c2 read => ?_
    obtain ⟨span2, passes2, right'⟩ := read
    exact ⟨c.current :: (span ++ span2), by simpa using first.trans (passes.trans passes2),
      .binary_left placed found right'⟩

theorem tighter_placed : ∀ (n d : Nat) (c : Cursor) (prec : Nat) (right : Expr)
    (pre : List Token), c.Sound → right.Placed pre →
    Spec AnyFailure (Parse.tighter n prec right) d c fun e c' => PlacedAfter pre c e c'
  | 0, _, _, _, _, _, _, _ => trivial
  | n + 1, d, c, prec, right, pre, sound, placed => by
    rw [Parse.tighter]
    simp only [spec_bind, spec_current]
    split <;> simp only [spec_bind, spec_ite, spec_pure]
    · rename_i op found
      split
      · refine (operation_placed n d c op right pre sound placed found).mono fun r c1 read => ?_
        obtain ⟨span, passes, placed1⟩ := read
        exact (tighter_placed n d c1 prec r (pre ++ span) passes.sound placed1).mono
          fun _ _ => placedAfter_trans passes
      · exact placedAfter_refl sound placed
    · exact placedAfter_refl sound placed

theorem primary_placed : ∀ (n d : Nat) (c : Cursor), c.Sound →
    Spec AnyFailure (Parse.primary n) d c fun e c' => PlacedRead c e c'
  | 0, _, _, _ => trivial
  | n + 1, d, c, sound => by
    rw [Parse.primary]
    refine frame_any ?_
    simp only [spec_bind, spec_current]
    have suffixed : ∀ e c1, PlacedRead c e c1 →
        Spec AnyFailure (Parse.frame (Parse.suffixes n e)) (d + 1) c1
          fun e' c2 => PlacedRead c e' c2 := by
      intro e c1 read
      obtain ⟨span, passes, placed⟩ := read
      exact frame_any ((suffixes_placed n (d + 2) c1 e span passes.sound placed).mono
        fun _ _ => placedRead_of_after passes)
    split <;> simp only [spec_bind, spec_throw]
    · exact (literal_placed sound (by simp [*])).mono suffixed
    · exact (literal_placed sound (by simp [*])).mono suffixed
    · exact (identifier_placed sound).mono suffixed
    · exact (array_placed n (d + 1) c sound).mono suffixed
    · exact (mapping_placed n (d + 1) c sound).mono suffixed
    · exact (paren_placed n (d + 1) c sound).mono suffixed
    · exact (updateBefore_placed n (d + 1) c sound).mono suffixed
    · exact (updateBefore_placed n (d + 1) c sound).mono suffixed
    · exact (unary_placed n (d + 1) c sound).mono suffixed
    · exact (unary_placed n (d + 1) c sound).mono suffixed
    · exact (unary_placed n (d + 1) c sound).mono suffixed
    · trivial

theorem suffixes_placed : ∀ (n d : Nat) (c : Cursor) (e : Expr) (pre : List Token), c.Sound →
    e.Placed pre → Spec AnyFailure (Parse.suffixes n e) d c fun e' c' => PlacedAfter pre c e' c'
  | 0, _, _, _, _, _, _ => trivial
  | n + 1, d, c, e, pre, sound, placed => by
    rw [Parse.suffixes]
    simp only [spec_bind, spec_current]
    have chained : ∀ e1 c1, PlacedAfter pre c e1 c1 →
        Spec AnyFailure (Parse.suffixes n e1) d c1 fun e' c2 => PlacedAfter pre c e' c2 := by
      intro e1 c1 read
      obtain ⟨span, passes, placed1⟩ := read
      exact (suffixes_placed n d c1 e1 (pre ++ span) passes.sound placed1).mono
        fun _ _ => placedAfter_trans passes
    split <;> simp only [spec_bind, spec_pure]
    · refine (arguments_placed n d c sound).mono fun args c1 read => ?_
      obtain ⟨lp, as, rp, passes, opened, closed, items⟩ := read
      exact chained _ c1
        ⟨_, passes, by simpa using Expr.Placed.call_callee placed opened items closed⟩
    · exact (member_placed n d c e pre sound placed).mono chained
    · exact (indexing_placed n d c e pre sound placed).mono chained
    · exact (updateAfter_placed sound placed).mono chained
    · exact (updateAfter_placed sound placed).mono chained
    · exact placedAfter_refl sound placed

/-- A member access, and a call right after it, stand where their object stands. -/
theorem member_placed : ∀ (n d : Nat) (c : Cursor) (obj : Expr) (pre : List Token), c.Sound →
    obj.Placed pre → Spec AnyFailure (Parse.member n obj) d c fun e c' => PlacedAfter pre c e c'
  | 0, _, _, _, _, _, _ => trivial
  | n + 1, d, c, obj, pre, sound, placed => by
    rw [Parse.member]
    refine frame_any ?_
    simp only [spec_bind, spec_discard, spec_get, spec_ite, spec_pure]
    refine expect_passes sound (by decide) fun dotted first => ?_
    refine expect_passes first.sound (by decide) fun named second => ?_
    have field := Expr.Placed.field_object placed dotted named
    split
    · refine (arguments_placed n (d + 1) c.advance.advance second.sound).mono
        fun args c1 read => ?_
      obtain ⟨lp, as, rp, passes, opened, closed, items⟩ := read
      exact ⟨_, first.trans (second.trans passes),
        by simpa [Expr.pos] using Expr.Placed.call_callee field opened items closed⟩
    · exact ⟨_, first.trans second, by simpa using field⟩

theorem indexing_placed : ∀ (n d : Nat) (c : Cursor) (obj : Expr) (pre : List Token), c.Sound →
    obj.Placed pre → Spec AnyFailure (Parse.indexing n obj) d c fun e c' => PlacedAfter pre c e c'
  | 0, _, _, _, _, _, _ => trivial
  | n + 1, d, c, obj, pre, sound, placed => by
    rw [Parse.indexing]
    refine frame_any ?_
    simp only [spec_bind, spec_discard, spec_pure]
    refine expect_passes sound (by decide) fun opened first => ?_
    refine (expression_placed n (d + 1) c.advance first.sound).mono fun key c1 read => ?_
    obtain ⟨span, passes, keyed⟩ := read
    refine expect_passes passes.sound (by decide) fun closed last => ?_
    exact ⟨_, first.trans (passes.trans last),
      by simpa using Expr.Placed.index_object placed opened keyed closed⟩

theorem unary_placed : ∀ (n d : Nat) (c : Cursor), c.Sound →
    Spec AnyFailure (Parse.unary n) d c fun e c' => PlacedRead c e c'
  | 0, _, _, _ => trivial
  | n + 1, d, c, sound => by
    rw [Parse.unary]
    refine frame_any ?_
    simp only [spec_bind, spec_take]
    refine (primary_placed n (d + 1) c.advance sound.advance).mono fun arg c1 read => ?_
    obtain ⟨span, passes, operand⟩ := read
    split
    · rename_i op found
      have live : c.current.kind ≠ .eof := by
        intro ended
        simp [ended, UnaryOp.ofToken?, UnaryOp.all, UnaryOp.token] at found
      exact ⟨_, (passes_advance sound live).trans passes, .unary_token found operand⟩
    · trivial

theorem updateBefore_placed : ∀ (n d : Nat) (c : Cursor), c.Sound →
    Spec AnyFailure (Parse.updateBefore n) d c fun e c' => PlacedRead c e c'
  | 0, _, _, _ => trivial
  | n + 1, d, c, sound => by
    rw [Parse.updateBefore]
    refine frame_any ?_
    simp only [spec_bind]
    refine expectOneOf_any fun kind => ?_
    have first := passes_advance sound (by simp at kind; rcases kind with k | k <;> simp [k])
    refine (primary_placed n (d + 1) c.advance first.sound).mono fun arg c1 read => ?_
    obtain ⟨span, passes, target⟩ := read
    split
    · rename_i op _ found _
      exact ⟨_, first.trans passes, .updateBefore_token found target⟩
    · trivial

theorem paren_placed : ∀ (n d : Nat) (c : Cursor), c.Sound →
    Spec AnyFailure (Parse.paren n) d c fun e c' => PlacedRead c e c'
  | 0, _, _, _ => trivial
  | n + 1, d, c, sound => by
    rw [Parse.paren]
    refine frame_any ?_
    simp only [spec_bind, spec_discard, spec_pure]
    refine expect_passes sound (by decide) fun opened first => ?_
    refine (expression_placed n (d + 1) c.advance first.sound).mono fun e c1 read => ?_
    obtain ⟨span, passes, placed⟩ := read
    refine expect_passes passes.sound (by decide) fun closed last => ?_
    exact ⟨_, first.trans (passes.trans last),
      by simpa using Expr.Placed.paren opened placed closed⟩

theorem array_placed : ∀ (n d : Nat) (c : Cursor), c.Sound →
    Spec AnyFailure (Parse.array n) d c fun e c' => PlacedRead c e c'
  | 0, _, _, _ => trivial
  | n + 1, d, c, sound => by
    rw [Parse.array]
    refine frame_any ?_
    simp only [spec_bind, spec_discard, spec_pure]
    refine expect_passes sound (by decide) fun opened first => ?_
    refine (listed_placed n (d + 1) c.advance .rbracket _ [] first.sound).mono
      fun items c1 read => ?_
    obtain ⟨span, new, passes, same, listed, -⟩ := read
    simp only [List.reverse_nil, List.nil_append] at same
    subst same
    refine expect_passes passes.sound (by decide) fun closed last => ?_
    exact ⟨_, first.trans (passes.trans last),
      by simpa using Expr.Placed.array_bracket opened (listed rfl) closed⟩

theorem listed_placed : ∀ (n d : Nat) (c : Cursor) (close : TokenKind) (sep : String)
    (acc : List Expr), c.Sound →
    Spec AnyFailure (Parse.listed n close sep acc) d c fun es c' => ItemsPlaced acc c es c'
  | 0, _, _, _, _, _, _ => trivial
  | n + 1, d, c, close, sep, acc, sound => by
    rw [Parse.listed]
    simp only [spec_bind, spec_get, spec_ite, spec_discard, spec_pure]
    have item : ∀ (sep' : List Token) c1, c.Passes sep' c1 → (acc = [] → sep' = []) →
        (acc ≠ [] → ∃ comma : Token, comma.kind = .comma ∧ sep' = [comma]) →
        Spec AnyFailure (Parse.expression n) d c1 fun e c2 =>
          Spec AnyFailure (Parse.listed n close sep (e :: acc)) d c2 fun es c3 =>
            ItemsPlaced acc c es c3 := by
      intro sep' c1 passes first later
      refine (expression_placed n d c1 passes.sound).mono fun e c2 read => ?_
      obtain ⟨span, passes2, placed⟩ := read
      refine (listed_placed n d c2 close sep (e :: acc) passes2.sound).mono fun es c3 read => ?_
      obtain ⟨span3, new, passes3, rfl, -, more⟩ := read
      refine ⟨sep' ++ (span ++ span3), e :: new, passes.trans (passes2.trans passes3), by simp,
        fun empty => ?_, fun full => ?_⟩
      · simpa [first empty] using Expr.PlacedItems.cons placed (more (List.cons_ne_nil _ _))
      · obtain ⟨comma, kind, rfl⟩ := later full
        simpa using Expr.PlacedMore.cons kind placed (more (List.cons_ne_nil _ _))
    split
    · exact ⟨[], [], Passes.refl sound, by simp, fun _ => .nil, fun _ => .nil⟩
    · split
      · rename_i full
        refine expect_passes sound (by decide) fun comma past => ?_
        exact item _ _ past (fun empty => by simp [empty] at full) fun _ => ⟨_, comma, rfl⟩
      · rename_i empty
        exact item [] c (Passes.refl sound) (fun _ => rfl) fun full => by simp_all

theorem mapping_placed : ∀ (n d : Nat) (c : Cursor), c.Sound →
    Spec AnyFailure (Parse.mapping n) d c fun e c' => PlacedRead c e c'
  | 0, _, _, _ => trivial
  | n + 1, d, c, sound => by
    rw [Parse.mapping]
    refine frame_any ?_
    simp only [spec_bind, spec_discard, spec_pure]
    refine expect_passes sound (by decide) fun opened first => ?_
    refine (entries_placed n (d + 1) c.advance [] first.sound).mono fun es c1 read => ?_
    obtain ⟨span, new, passes, same, listed, -⟩ := read
    simp only [List.reverse_nil, List.nil_append] at same
    subst same
    refine expect_passes passes.sound (by decide) fun closed last => ?_
    exact ⟨_, first.trans (passes.trans last),
      by simpa using Expr.Placed.map_brace opened (listed rfl) closed⟩

theorem entries_placed : ∀ (n d : Nat) (c : Cursor) (acc : List (MapKey × Expr)), c.Sound →
    Spec AnyFailure (Parse.entries n acc) d c fun es c' => EntriesPlaced acc c es c'
  | 0, _, _, _, _ => trivial
  | n + 1, d, c, acc, sound => by
    rw [Parse.entries]
    simp only [spec_bind, spec_get, spec_ite, spec_discard, spec_pure]
    have entry : ∀ (sep' : List Token) c1, c.Passes sep' c1 → (acc = [] → sep' = []) →
        (acc ≠ [] → ∃ comma : Token, comma.kind = .comma ∧ sep' = [comma]) →
        Spec AnyFailure (Parse.expect .string "A map key must be a string") d c1 fun key c2 =>
          Spec AnyFailure (Parse.expect .colon
            "A map key and value must be separated by a colon") d c2
            fun _ c3 => Spec AnyFailure (Parse.expression n) d c3 fun value c4 =>
              Spec AnyFailure (Parse.entries n ((⟨key.text, key.pos⟩, value) :: acc)) d c4
                fun es c5 => EntriesPlaced acc c es c5 := by
      intro sep' c1 passes first later
      refine expect_passes passes.sound (by decide) fun keyed past => ?_
      refine expect_passes past.sound (by decide) fun colon past2 => ?_
      refine (expression_placed n d c1.advance.advance past2.sound).mono fun value c4 read => ?_
      obtain ⟨span, passes4, placed⟩ := read
      refine (entries_placed n d c4 _ passes4.sound).mono fun es c5 read => ?_
      obtain ⟨span5, new, passes5, rfl, -, more⟩ := read
      refine ⟨sep' ++ c1.current :: c1.advance.current :: (span ++ span5),
        (⟨c1.current.text, c1.current.pos⟩, value) :: new,
        by simpa using passes.trans (past.trans (past2.trans (passes4.trans passes5))), by simp,
        fun empty => ?_, fun full => ?_⟩
      · simpa [first empty] using Expr.PlacedEntries.cons keyed colon placed
          (more (List.cons_ne_nil _ _))
      · obtain ⟨comma, kind, rfl⟩ := later full
        simpa using Expr.PlacedMoreEntries.cons kind keyed colon placed
          (more (List.cons_ne_nil _ _))
    split
    · exact ⟨[], [], Passes.refl sound, by simp, fun _ => .nil, fun _ => .nil⟩
    · split
      · rename_i full
        refine expect_passes sound (by decide) fun comma past => ?_
        exact entry _ _ past (fun empty => by simp [empty] at full) fun _ => ⟨_, comma, rfl⟩
      · rename_i empty
        exact entry [] c (Passes.refl sound) (fun _ => rfl) fun full => by simp_all

theorem arguments_placed : ∀ (n d : Nat) (c : Cursor), c.Sound →
    Spec AnyFailure (Parse.arguments n) d c fun args c' => ∃ (lp : Token) (as : List Token)
      (rp : Token), c.Passes (lp :: as ++ [rp]) c' ∧ lp.kind = .lparen ∧ rp.kind = .rparen ∧
        Expr.PlacedItems as args
  | 0, _, _, _ => trivial
  | n + 1, d, c, sound => by
    rw [Parse.arguments]
    refine frame_any ?_
    simp only [spec_bind, spec_discard, spec_pure]
    refine expect_passes sound (by decide) fun opened first => ?_
    refine (listed_placed n (d + 1) c.advance .rparen _ [] first.sound).mono
      fun args c1 read => ?_
    obtain ⟨span, new, passes, same, listed, -⟩ := read
    simp only [List.reverse_nil, List.nil_append] at same
    subst same
    refine expect_passes passes.sound (by decide) fun closed last => ?_
    exact ⟨_, _, _, by simpa using first.trans (passes.trans last), opened, closed, listed rfl⟩

end

/-- The statements of a program, up to the end of input, each ended by a semicolon but the last,
which the end of input may end instead. -/
theorem program_placed (n : Nat) : ∀ (d : Nat) (c : Cursor) (acc : List Stmt), c.Sound →
    Spec AnyFailure (Parse.program n acc) d c fun ss c' => ∃ span new, c.Passes span c' ∧
      c'.atEnd = true ∧ ss = acc.reverse ++ new ∧ Stmt.PlacedProgram span new ∧
      (c.atEnd = true → span = [] ∧ new = []) := by
  induction n with
  | zero => intro _ _ _ _; trivial
  | succ n ih =>
    intro d c acc sound
    rw [Parse.program]
    simp only [spec_bind, spec_get, spec_ite, spec_pure]
    split
    · rename_i stop
      exact ⟨[], [], Passes.refl sound, stop, by simp, .nil, fun _ => ⟨rfl, rfl⟩⟩
    · rename_i live
      refine (statement_placed n d c sound).mono fun s c1 read => ?_
      obtain ⟨span, placed, ⟨passes, ended⟩ | ⟨semi, semicolon, passes⟩⟩ := read
      · -- the input ended after the statement: it is the last, with no semicolon
        refine (ih d c1 (s :: acc) passes.sound).mono fun ss c2 read => ?_
        obtain ⟨span2, new, passes2, stop, rfl, -, nothing⟩ := read
        obtain ⟨rfl, rfl⟩ := nothing ended
        exact ⟨span, [s], by simpa using passes.trans passes2, stop, by simp, .last placed,
          fun stopped => absurd stopped live⟩
      · refine (ih d c1 (s :: acc) passes.sound).mono fun ss c2 read => ?_
        obtain ⟨span2, new, passes2, stop, rfl, listed, -⟩ := read
        exact ⟨span ++ semi :: span2, s :: new, by simpa using passes.trans passes2, stop,
          by simp, .cons placed semicolon listed, fun stopped => absurd stopped live⟩

/-- A whole program stands at the token where its parse starts. -/
theorem programAt_placed (n d : Nat) (c : Cursor) (sound : c.Sound) :
    Spec AnyFailure (Parse.programAt n) d c fun t c' => ∃ span, c.Passes span c' ∧
      c'.atEnd = true ∧ Stmt.PlacedProgram span t.body ∧ t.pos = c.current.pos := by
  rw [Parse.programAt]
  refine frame_any ?_
  simp only [spec_bind, spec_current, spec_pure]
  refine (program_placed n (d + 1) c [] sound).mono fun ss c' read => ?_
  obtain ⟨span, new, passes, stop, same, listed, -⟩ := read
  simp only [List.reverse_nil, List.nil_append] at same
  subst same
  exact ⟨span, passes, stop, listed, trivial⟩

/-- Tokens that end with their only end of input split at it. -/
theorem split_at_eof {front span rest : List Token} {t u : Token}
    (plain : ∀ x ∈ front, x.kind ≠ .eof) (ended : u.kind = .eof)
    (same : front ++ [t] = span ++ u :: rest) : span = front ∧ u = t ∧ rest = [] := by
  induction span generalizing front with
  | nil =>
    cases front with
    | nil =>
      simp only [List.nil_append, List.cons.injEq] at same
      exact ⟨rfl, same.1.symm, same.2.symm⟩
    | cons x xs =>
      simp only [List.cons_append, List.nil_append, List.cons.injEq] at same
      exact absurd (same.1 ▸ ended) (plain x (by simp))
  | cons y ys ih =>
    cases front with
    | nil =>
      simp only [List.nil_append, List.cons_append, List.cons.injEq] at same
      simp at same
    | cons x xs =>
      simp only [List.cons_append, List.cons.injEq] at same
      obtain ⟨rfl, rest'⟩ := same
      obtain ⟨rfl, rfl, rfl⟩ := ih (fun z mem => plain z (by simp [mem])) rest'
      exact ⟨rfl, rfl, rfl⟩

/-- Every node of a parsed program stands at the first of its own tokens that is no opening
parenthesis, so every node stands no later in the text than any node below it. -/
theorem parsed_nodes_placed (s : String) (t : Program) (parsed : parseProgram s = .ok t) :
    ∃ ts, scan s = .ok ts ∧ t.Placed (ts.filter (·.kind != .comment)) ∧ t.Ordered := by
  obtain ⟨ts, scanned, tree⟩ := parseProgram_ok parsed
  obtain ⟨front, last, rfl, ended, plain⟩ := scan_ends scanned
  have filtered : (front ++ [last]).filter (·.kind != .comment) =
      front.filter (·.kind != .comment) ++ [last] := by
    simp [List.filter_append, ended]
  have sound : (Cursor.ofTokens (front ++ [last])).Sound :=
    ⟨ofTokens_ends _, (Cursor.ofTokens (front ++ [last])).nonempty⟩
  have start : (Cursor.ofTokens (front ++ [last])).ahead = front.filter (·.kind != .comment) ++
    [last] := by
    simp [Cursor.ahead, Cursor.ofTokens, readable_of_eof ended]
  unfold parseTokens Parser.runFrom at tree
  rcases ran : Parser.exec (Parse.programAt (Parse.budget (Cursor.ofTokens (front ++ [last]))))
    Parse.textDepth (Cursor.ofTokens (front ++ [last])) with ⟨r, c'⟩
  have result : r = .ok t := by
    rw [← tree]
    exact (congrArg Prod.fst ran).symm
  subst result
  obtain ⟨span, passes, stop, listed, at_⟩ := (programAt_placed _ _ _ sound).post ran
  have split := split_at_eof (fun x mem => plain x (List.mem_of_mem_filter mem))
    (by simpa [Cursor.atEnd] using stop)
    (start.symm.trans (passes.2.2.trans (by rw [passes.sound.ahead_eq])))
  have first : (front.filter (·.kind != .comment) ++ [last]).head? =
      some (Cursor.ofTokens (front ++ [last])).current := by
    rw [← start, sound.ahead_eq]
    rfl
  have placed : t.Placed ((front ++ [last]).filter (·.kind != .comment)) := by
    rw [filtered]
    exact ⟨_, last, rfl, ended, split.1 ▸ listed, by simp [first, at_]⟩
  refine ⟨front ++ [last], scanned, placed, placed.ordered ?_⟩
  obtain ⟨ls, tokens, laws⟩ := (scan_partition s).1 _ scanned
  have ascending : Ascending (front ++ [last]) := by
    rw [← tokens]
    exact List.pairwise_map.mpr laws.ordered
  exact ascending.sublist List.filter_sublist

/-- `(a + b) * c`: the statement stands at the parenthesis, both operations at `a`. -/
theorem parsed_nodes_placed_grouped :
    ∃ t, parseProgram "(a + b) * c" = .ok t ∧
      t = ⟨[.expr (.binary .mul
        (.binary .add (.var "a" ⟨1, 2, 1⟩) (.var "b" ⟨1, 6, 5⟩) ⟨1, 2, 1⟩)
        (.var "c" ⟨1, 11, 10⟩) ⟨1, 2, 1⟩) ⟨1, 1, 0⟩], ⟨1, 1, 0⟩⟩ ∧
      ∃ ts, scan "(a + b) * c" = .ok ts ∧ t.Placed (ts.filter (·.kind != .comment)) ∧
        t.Ordered := by
  have parsed : parseProgram "(a + b) * c" = .ok ⟨[.expr (.binary .mul (.binary .add
      (.var "a" ⟨1, 2, 1⟩) (.var "b" ⟨1, 6, 5⟩) ⟨1, 2, 1⟩) (.var "c"
        ⟨1, 11, 10⟩) ⟨1, 2, 1⟩)
      ⟨1, 1, 0⟩], ⟨1, 1, 0⟩⟩ := by
    cbv
  exact ⟨_, parsed, rfl, parsed_nodes_placed _ _ parsed⟩

end Quill
