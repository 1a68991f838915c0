import Quill.Proofs.Reparse.Basic

set_option autoImplicit false

/- What the parser's methods do with the canonical text of one expression, stated with a
continuation for what the parser does next, since the methods that read a part of the text
return into loops that go on past it. -/
namespace Quill

open Scan Quill.Parser Quill.Parser.Spec Cursor

/-- A primary expression at depth `d` reads the text of `e` and hands the tree it built, `e` up
to `erase`, to the loop of suffixes two calls deeper. -/
def Expr.ChainReads (e : Expr) : Prop :=
  ∀ (n d : Nat) (c : Cursor) (rest : List (TokenKind × String)) (Q : Expr → Cursor → Prop),
    c.Shows (shapes e.words ++ rest) → e.LinkStops rest →
    d + 5 * e.height + 9 ≤ Parse.stackLimit →
    (∀ m x c', x.erase = e.erase → c'.Shows rest →
      Spec Spent (Parse.suffixes m x) (d + 2) c' Q) →
    Spec Spent (Parse.primary n) d c Q

/-- A primary expression at depth `dP` and then the loop of operations binding tighter than `p`
at depth `dL` read the text of `e`, which binds tighter than `p`: the loop goes on from `e`, up
to `erase`, wherever its text ends. -/
def Expr.SpineReads (e : Expr) : Prop :=
  ∀ (p n dP dL : Nat) (c : Cursor) (rest : List (TokenKind × String))
    (Q : Expr → Cursor → Prop),
    c.Shows (shapes e.words ++ rest) → e.parenAbove p = false → e.Closes rest →
    dP + 5 * e.height + 9 ≤ Parse.stackLimit → dL + 5 * e.height + 8 ≤ Parse.stackLimit →
    (∀ m x c', x.erase = e.erase → c'.Shows rest →
      Spec Spent (Parse.tighter m p x) dL c' Q) →
    Spec Spent (Parse.primary n) dP c fun y c' => ∀ m, Spec Spent (Parse.tighter m p y) dL c' Q

/-- The parser reads the canonical text of `e` back: as a chain when `e` is no binary
operation, and as the spine of operations it is. -/
structure Expr.Reads (e : Expr) : Prop where
  chain : e.binaryPrecedence? = none → e.ChainReads
  spine : e.SpineReads

theorem shapes_parenthesized (ws : List Word) (rest : List (TokenKind × String)) :
    shapes (parenthesized true ws) ++ rest = (.lparen,
      "(") :: (shapes ws ++ (.rparen, ")") :: rest) := by
  simp [parenthesized, Word.sym, TokenKind.symbol?]

namespace Expr.Reads

variable {e : Expr}

/-- The expression method reads the text of `e` whenever the stack has room for its height. -/
theorem readsAt (reads : e.Reads) {d : Nat} (room : d + 5 * e.height + 10 ≤ Parse.stackLimit) :
    e.ReadsAt d := by
  intro n c rest shows stops
  cases n with
  | zero => exact spec_throw.mpr rfl
  | succ n =>
    rw [Parse.expression, spec_frame_room (by omega), spec_bind]
    have done : ∀ m x c', x.erase = e.erase → c'.Shows rest →
        Spec Spent (Parse.tighter m 0 x) (d + 2) c' fun x c' => x.erase = e.erase ∧
          c'.Shows rest :=
      fun m x c' same shows' =>
        (tighter_stop shows' stops).mono fun _ _ stopped => by
          rw [stopped.1, stopped.2]
          exact ⟨same, shows'⟩
    refine (reads.spine 0 n (d + 1) (d + 2) c rest _ shows e.parenAbove_zero (stops.closes e)
      (by omega) (by omega) done).mono fun y c' loop => ?_
    simp only [spec_bind, spec_current]
    split
    · rw [spec_frame_room (by omega), spec_operations]
      exact loop n
    · rename_i plain
      exact (tighter_none (Option.not_isSome_iff_eq_none.mp plain)).mp (loop 1)

/-- A primary expression reads the text of `e`, in parentheses or bare (when `e` is no binary
operation), and hands the tree it built to the loop of suffixes. -/
theorem base (reads : e.Reads) {paren : Bool} {n d : Nat} {c : Cursor}
    {rest : List (TokenKind × String)} {Q : Expr → Cursor → Prop}
    (shows : c.Shows (shapes (parenthesized paren e.words) ++ rest))
    (bare : paren = false → e.binaryPrecedence? = none ∧ e.LinkStops rest)
    (room : d + 5 * e.height + 12 ≤ Parse.stackLimit)
    (next : ∀ m x c', x.erase = e.erase → c'.Shows rest →
      Spec Spent (Parse.suffixes m x) (d + 2) c' Q) :
    Spec Spent (Parse.primary n) d c Q := by
  cases paren with
  | false =>
    obtain ⟨alone, link⟩ := bare rfl
    exact reads.chain alone n d c rest Q shows link (by omega) next
  | true =>
    rw [shapes_parenthesized] at shows
    cases n with
    | zero => exact spec_throw.mpr rfl
    | succ n =>
      rw [Parse.primary, spec_frame_room (by omega)]
      simp only [spec_bind, spec_current, shows.kind]
      cases n with
      | zero => exact spec_throw.mpr rfl
      | succ n =>
        rw [Parse.paren, spec_frame_room (by omega)]
        simp only [spec_bind, spec_discard]
        refine expect_shows shows (by decide) fun _ c1 _ _ shows1 => ?_
        refine ((reads.readsAt (d := d + 2) (by omega)) n c1 _ shows1
          (stopsAt_closing _ _ (by simp) 0)).mono fun x c2 read => ?_
        obtain ⟨same, shows2⟩ := read
        refine expect_shows shows2 (by decide) fun _ c3 _ _ shows3 => ?_
        rw [spec_pure, spec_frame_room (by omega)]
        exact next (n + 1) x c3 same shows3

/-- A primary expression reads the text of `e`, in parentheses or bare, and stops where a token
that goes on no chain follows. -/
theorem primary (reads : e.Reads) {paren : Bool} {n d : Nat} {c : Cursor}
    {rest : List (TokenKind × String)}
    (shows : c.Shows (shapes (parenthesized paren e.words) ++ rest))
    (bare : paren = false → e.binaryPrecedence? = none) (stops : StopsChain rest)
    (room : d + 5 * e.height + 12 ≤ Parse.stackLimit) :
    Spec Spent (Parse.primary n) d c fun x c' => x.erase = e.erase ∧ c'.Shows rest :=
  reads.base shows (fun plain => ⟨bare plain, stops.linkStops e⟩) room fun _ x c' same shows' =>
    (suffixes_stop shows' stops).mono fun _ _ stopped => by
      rw [stopped.1, stopped.2]
      exact ⟨same, shows'⟩

/-- An operand of a binary operation, in parentheses or bare (when it binds tighter than the
loop), read by a primary expression and the loop. -/
theorem operand (reads : e.Reads) {paren : Bool} {p n dP dL : Nat} {c : Cursor}
    {rest : List (TokenKind × String)} {Q : Expr → Cursor → Prop}
    (shows : c.Shows (shapes (parenthesized paren e.words) ++ rest))
    (bare : paren = false → e.parenAbove p = false ∧ e.Closes rest) (stops : StopsChain rest)
    (roomP : dP + 5 * e.height + 12 ≤ Parse.stackLimit)
    (roomL : dL + 5 * e.height + 8 ≤ Parse.stackLimit)
    (next : ∀ m x c',
      x.erase = e.erase → c'.Shows rest → Spec Spent (Parse.tighter m p x) dL c' Q) :
    Spec Spent (Parse.primary n) dP c fun y c' => ∀ m,
      Spec Spent (Parse.tighter m p y) dL c' Q := by
  cases paren with
  | false =>
    obtain ⟨tight, closes⟩ := bare rfl
    exact reads.spine p n dP dL c rest Q shows tight closes (by omega) roomL next
  | true =>
    exact reads.base shows (by simp) roomP fun _ x c' same shows' =>
      (suffixes_stop shows' stops).mono fun _ _ stopped m => by
        rw [stopped.1, stopped.2]
        exact next m x c' same shows'

end Expr.Reads

/-- An expression that is no binary operation is read as a spine once it is read as a chain:
the chain ends where its text does, and the loop goes on from there. -/
theorem Expr.reads_of_chain {e : Expr} (chain : e.ChainReads) : e.Reads := by
  refine ⟨fun _ => chain, fun p n dP dL c rest Q shows _ closes roomP _ next => ?_⟩
  refine chain n dP c rest _ shows (closes.chain.linkStops e) roomP fun _ x c' same shows' => ?_
  have stops : StopsChain rest := closes.chain
  exact (suffixes_stop shows' stops).mono fun _ _ stopped m => by
    rw [stopped.1, stopped.2]
    exact next m x c' same shows'

section Suffixes

variable {m d : Nat} {c : Cursor} {x : Expr} {rest : List (TokenKind × String)}
  {Q : Expr → Cursor → Prop}

/-- An argument list reads its arguments back. -/
theorem arguments_reads {n : Nat} {args : List Expr} (reads : ∀ a ∈ args, a.ReadsAt (d + 1))
    (shows : c.Shows ((.lparen, "(") :: (shapes (Expr.listWords args) ++ (.rparen, ")") :: rest)))
    (room : d + 5 ≤ Parse.stackLimit) :
    Spec Spent (Parse.arguments n) d c fun xs c' =>
      xs.map Expr.erase = args.map Expr.erase ∧ c'.Shows rest := by
  cases n with
  | zero => exact spec_throw.mpr rfl
  | succ n =>
    rw [Parse.arguments, spec_frame_room room]
    simp only [spec_bind, spec_discard]
    refine expect_shows shows (by decide) fun _ c1 _ _ shows1 => ?_
    refine (listed_first (by simp) args n (d + 1) c1 rest reads shows1).mono
      fun xs c2 read => ?_
    obtain ⟨items, shows2⟩ := read
    exact expect_shows shows2 (by decide) fun _ c3 _ _ shows3 => ⟨items, shows3⟩

theorem suffixes_call {callee : Expr} {args : List Expr} (same : x.erase = callee.erase)
    (reads : ∀ a ∈ args, a.ReadsAt (d + 1))
    (shows : c.Shows ((.lparen, "(") :: (shapes (Expr.listWords args) ++ (.rparen, ")") :: rest)))
    (room : d + 5 ≤ Parse.stackLimit)
    (next : ∀ m y c', y.erase = (Expr.call callee args .unknown).erase → c'.Shows rest →
      Spec Spent (Parse.suffixes m y) d c' Q) :
    Spec Spent (Parse.suffixes m x) d c Q := by
  cases m with
  | zero => exact spec_throw.mpr rfl
  | succ m =>
    rw [Parse.suffixes]
    simp only [spec_bind, spec_current, shows.kind]
    refine (arguments_reads reads shows room).mono fun xs c' read =>
      next m _ c' ?_ read.2
    simp [Expr.erase, Expr.eraseList_eq_map, read.1, same]

theorem suffixes_member {obj : Expr} {name : String} (same : x.erase = obj.erase)
    (shows : c.Shows ((.dot, ".") :: (.ident, name) :: rest))
    (link : ∃ k ks, rest = k :: ks ∧ k.1 ≠ .lparen) (room : d + 5 ≤ Parse.stackLimit)
    (next : ∀ m y c',
      y.erase = (Expr.field obj name .unknown .unknown).erase → c'.Shows rest →
      Spec Spent (Parse.suffixes m y) d c' Q) :
    Spec Spent (Parse.suffixes m x) d c Q := by
  cases m with
  | zero => exact spec_throw.mpr rfl
  | succ m =>
    rw [Parse.suffixes]
    simp only [spec_bind, spec_current, shows.kind]
    cases m with
    | zero => exact spec_throw.mpr rfl
    | succ m =>
      rw [Parse.member, spec_frame_room room]
      simp only [spec_bind, spec_discard]
      refine expect_shows shows (by decide) fun _ c1 _ _ shows1 => ?_
      refine expect_shows shows1 (by decide) fun t c2 _ named shows2 => ?_
      obtain ⟨k, ks, rfl, plain⟩ := link
      simp only [spec_get, shows2.test, beq_iff_eq, plain, ↓reduceIte, spec_pure]
      exact next (m + 1) _ c2 (by simp [Expr.erase, same, named]) shows2

/-- A member access followed by parentheses calls the member. -/
theorem suffixes_memberCall {obj : Expr} {name : String} {args : List Expr}
    (same : x.erase = obj.erase) (reads : ∀ a ∈ args, a.ReadsAt (d + 2))
    (shows : c.Shows ((.dot, ".") :: (.ident, name) :: (.lparen, "(") ::
      (shapes (Expr.listWords args) ++ (.rparen, ")") :: rest)))
    (room : d + 6 ≤ Parse.stackLimit)
    (next : ∀ m y c',
      y.erase = (Expr.call (.field obj name .unknown .unknown) args .unknown).erase →
      c'.Shows rest → Spec Spent (Parse.suffixes m y) d c' Q) :
    Spec Spent (Parse.suffixes m x) d c Q := by
  cases m with
  | zero => exact spec_throw.mpr rfl
  | succ m =>
    rw [Parse.suffixes]
    simp only [spec_bind, spec_current, shows.kind]
    cases m with
    | zero => exact spec_throw.mpr rfl
    | succ m =>
      rw [Parse.member, spec_frame_room (by omega)]
      simp only [spec_bind, spec_discard]
      refine expect_shows shows (by decide) fun _ c1 _ _ shows1 => ?_
      refine expect_shows shows1 (by decide) fun t c2 _ named shows2 => ?_
      simp only [spec_get, shows2.test, beq_self_eq_true, ↓reduceIte, spec_bind]
      refine (arguments_reads reads shows2 (by omega)).mono fun xs c3 read =>
        next (m + 1) _ c3 ?_ read.2
      simp [Expr.erase, Expr.eraseList_eq_map, read.1, same, named]

theorem suffixes_index {obj key : Expr} (same : x.erase = obj.erase) (reads : key.ReadsAt (d + 1))
    (shows : c.Shows ((.lbracket, "[") :: (shapes key.words ++ (.rbracket, "]") :: rest)))
    (room : d + 5 ≤ Parse.stackLimit)
    (next : ∀ m y c', y.erase = (Expr.index obj key .unknown).erase → c'.Shows rest →
      Spec Spent (Parse.suffixes m y) d c' Q) :
    Spec Spent (Parse.suffixes m x) d c Q := by
  cases m with
  | zero => exact spec_throw.mpr rfl
  | succ m =>
    rw [Parse.suffixes]
    simp only [spec_bind, spec_current, shows.kind]
    cases m with
    | zero => exact spec_throw.mpr rfl
    | succ m =>
      rw [Parse.indexing, spec_frame_room room]
      simp only [spec_bind, spec_discard]
      refine expect_shows shows (by decide) fun _ c1 _ _ shows1 => ?_
      refine (reads m c1 _ shows1 (stopsAt_closing _ _ (by simp) 0)).mono
        fun k c2 read => ?_
      obtain ⟨keySame, shows2⟩ := read
      refine expect_shows shows2 (by decide) fun _ c3 _ _ shows3 => ?_
      exact next (m + 1) _ c3 (by simp [Expr.erase, same, keySame]) shows3

@[simp] theorem UpdateOp.ofToken?_kind (op : UpdateOp) : UpdateOp.ofToken? op.kind = some op := by
  cases op <;> rfl

theorem UpdateOp.kind_mem (op : UpdateOp) : op.kind ∈ [TokenKind.inc, .dec] := by
  cases op <;> simp [UpdateOp.kind]

/-- A postfix update applies to what the chain read, which may be updated as its tree may. -/
theorem suffixes_update {obj : Expr} {op : UpdateOp} (same : x.erase = obj.erase)
    (assignable : obj.assignable = true) (shows : c.Shows ((op.kind, op.symbol) :: rest))
    (room : d + 5 ≤ Parse.stackLimit)
    (next : ∀ m y c', y.erase = (Expr.update op obj false .unknown).erase → c'.Shows rest →
      Spec Spent (Parse.suffixes m y) d c' Q) :
    Spec Spent (Parse.suffixes m x) d c Q := by
  have kind := shows.kind
  have target : x.assignable = true := by
    rw [← Expr.assignable_erase, same, Expr.assignable_erase, assignable]
  cases m with
  | zero => exact spec_throw.mpr rfl
  | succ m =>
    rw [Parse.suffixes]
    simp only [spec_bind, spec_current, kind]
    have step : Spec Spent (Parse.updateAfter x) d c fun y c' => Spec Spent
      (Parse.suffixes m y) d c' Q := by
      rw [Parse.updateAfter, spec_frame_room room]
      simp only [spec_bind]
      refine expectOneOf_shows shows op.kind_mem (by cases op <;> simp [UpdateOp.kind])
        fun t c1 sort _ shows1 => ?_
      simp only [sort, UpdateOp.ofToken?_kind, target, spec_pure]
      exact next m _ c1 (by simp [Expr.erase, same]) shows1
    cases op <;> simpa only [UpdateOp.kind, spec_bind] using step

end Suffixes

end Quill
