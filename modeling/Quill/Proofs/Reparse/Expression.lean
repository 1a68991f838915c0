import Mathlib
import Quill.Proofs.Reparse.Reads

set_option autoImplicit false

/- The parser reads the canonical text of every expression a parse can build, by induction on
the height of the tree. -/
namespace Quill

open Scan Quill.Parser Quill.Parser.Spec Cursor

-- The equations of the heights are made once, here, before the lemmas below unfold them.
attribute [local simp] Expr.height Expr.listHeight Expr.entriesHeight in
theorem Expr.height_le_listHeight {a : Expr} {es : List Expr} (mem : a ∈ es) :
    a.height ≤ Expr.listHeight es := by
  induction es with
  | nil => cases mem
  | cons e rest ih =>
    simp only [Expr.listHeight]
    rcases List.mem_cons.mp mem with rfl | mem
    · omega
    · have := ih mem
      omega

theorem Expr.height_le_entriesHeight {kv : MapKey × Expr} {es : List (MapKey × Expr)}
    (mem : kv ∈ es) : kv.2.height ≤ Expr.entriesHeight es := by
  induction es with
  | nil => cases mem
  | cons e rest ih =>
    simp only [Expr.entriesHeight]
    rcases List.mem_cons.mp mem with rfl | mem
    · omega
    · have := ih mem
      omega

theorem Expr.ListParsable.mem {a : Expr} {es : List Expr} (wf : Expr.ListParsable es)
    (mem : a ∈ es) : a.Parsable := by
  induction es with
  | nil => cases mem
  | cons e rest ih =>
    rcases List.mem_cons.mp mem with rfl | mem
    · exact wf.1
    · exact ih wf.2 mem

theorem Expr.EntriesParsable.mem {kv : MapKey × Expr} {es : List (MapKey × Expr)}
    (wf : Expr.EntriesParsable es) (mem : kv ∈ es) : kv.2.Parsable := by
  induction es with
  | nil => cases mem
  | cons e rest ih =>
    rcases List.mem_cons.mp mem with rfl | mem
    · exact wf.1
    · exact ih wf.2 mem

@[simp] theorem UnaryOp.ofToken?_token (op : UnaryOp) : UnaryOp.ofToken? op.token = some op := by
  cases op <;> rfl

theorem Expr.linkStops_suffix {e : Expr} (alone : e.standsAlone = true) {k : TokenKind}
    (notCall : k ≠ .lparen) (text : String) (ks : List (TokenKind × String)) :
    e.LinkStops ((k, text) :: ks) := by
  cases e <;> simp_all [Expr.LinkStops, Expr.standsAlone]

theorem Expr.linkStops_call {e : Expr} (alone : e.standsAlone = true)
    (notField : ∀ obj name p p', e ≠ .field obj name p p') (rest : List (TokenKind × String)) :
    e.LinkStops rest := by
  cases e with
  | field obj name p p' => exact absurd rfl (notField obj name p p')
  | _ => simp_all [Expr.LinkStops, Expr.standsAlone]

/-- The keyword constants as canonical text writes them. -/
theorem keyword?_written : Parse.keyword? "true" = some (.bool true) ∧
    Parse.keyword? "false" = some (.bool false) ∧ Parse.keyword? "null" = some .null :=
  ⟨by cbv, by cbv, by cbv⟩

theorem toLower_written : "true".toLower = "true" ∧ "false".toLower = "false" ∧
    "null".toLower = "null" :=
  ⟨by cbv, by cbv, by cbv⟩

theorem parenthesized_false (ws : List Word) : parenthesized false ws = ws := rfl

/-- After a base that the match of a primary expression reads, the loop of suffixes two calls
deeper goes on. -/
theorem then_suffixes {n d : Nat} {E : Expr} {rest : List (TokenKind × String)}
    {Q : Expr → Cursor → Prop} (room : d + 5 ≤ Parse.stackLimit)
    (next : ∀ m x c',
      x.erase = E → c'.Shows rest → Spec Spent (Parse.suffixes m x) (d + 1) c' Q)
    (x : Expr) (c' : Cursor) (read : x.erase = E ∧ c'.Shows rest) :
    Spec Spent (Parse.frame (Parse.suffixes n x)) d c' Q :=
  (spec_frame_room room).mpr (next n x c' read.1 read.2)

theorem Expr.chain_literal {v : Data} {raw : String} {pos : Position}
    (wf : LiteralParsable v raw) : (Expr.literal v raw pos).ChainReads := by
  intro n d c rest Q shows _ room next
  cases n with
  | zero => exact spec_throw.mpr rfl
  | succ n =>
    rw [Parse.primary, spec_frame_room (by omega)]
    rcases wf with rfl | ⟨number, read⟩ | ⟨-, found⟩
    · simp only [Expr.words, literalWords, shapes_quoted, shapes_nil, List.cons_append,
        List.nil_append] at shows
      simp only [spec_bind, spec_current, shows.kind]
      refine ((spec_frame_room (by omega)).mpr ?_).mono (then_suffixes (by omega) next)
      simp only [spec_bind]
      refine take_shows shows (by simp) fun t c' shape shows' => ?_
      simp only [Token.shape, Prod.mk.injEq] at shape
      simp [shape.1, shape.2, spec_pure, Expr.erase, literalRaw, shows']
    · have words : literalWords v raw = [.token .number raw] := by
        rcases numberValue_ok read with ⟨n, rfl⟩ | ⟨x, rfl⟩ <;>
          simp [literalWords, isNumberText_of_isNumber number]
      simp only [Expr.words, words, shapes_token, shapes_nil, List.cons_append,
        List.nil_append] at shows
      simp only [spec_bind, spec_current, shows.kind]
      refine ((spec_frame_room (by omega)).mpr ?_).mono (then_suffixes (by omega) next)
      simp only [spec_bind]
      refine take_shows shows (by simp) fun t c' shape shows' => ?_
      simp only [Token.shape, Prod.mk.injEq] at shape
      simp [shape.1, shape.2, read, spec_pure, Expr.erase, shows']
    · rcases keyword?_some found with ⟨rfl, lower⟩ | ⟨rfl, lower⟩ | ⟨rfl, lower⟩ <;>
      · simp only [Expr.words, literalWords, shapes_token, shapes_nil, List.cons_append,
          List.nil_append, ↓reduceIte, Bool.false_eq_true] at shows
        simp only [spec_bind, spec_current, shows.kind]
        refine ((spec_frame_room (by omega)).mpr ?_).mono (then_suffixes (by omega) next)
        simp only [spec_bind]
        refine expect_shows shows (by decide) fun t c' kind named shows' => ?_
        simp [named, keyword?_written, toLower_written, spec_pure, Expr.erase, literalRaw, lower,
          shows']

theorem Expr.chain_var {name : String} {pos : Position} (unreserved : Parse.keyword? name = none) :
    (Expr.var name pos).ChainReads := by
  intro n d c rest Q shows _ room next
  cases n with
  | zero => exact spec_throw.mpr rfl
  | succ n =>
    rw [Parse.primary, spec_frame_room (by omega)]
    simp only [Expr.words, shapes_token, shapes_nil, List.cons_append, List.nil_append] at shows
    simp only [spec_bind, spec_current, shows.kind]
    refine ((spec_frame_room (by omega)).mpr ?_).mono (then_suffixes (by omega) next)
    simp only [spec_bind]
    refine expect_shows shows (by decide) fun t c' _ named shows' => ?_
    simp [named, unreserved, spec_pure, Expr.erase, shows']

theorem Expr.chain_array {items : List Expr} {pos : Position} (reads : ∀ a ∈ items, a.Reads) :
    (Expr.array items pos).ChainReads := by
  intro n d c rest Q shows _ room next
  simp only [Expr.height] at room
  cases n with
  | zero => exact spec_throw.mpr rfl
  | succ n =>
    rw [Parse.primary, spec_frame_room (by omega)]
    simp only [Expr.words, shapes_append, Word.sym, TokenKind.symbol?, Option.getD_some,
      shapes_token, shapes_nil, List.cons_append, List.nil_append, List.append_assoc] at shows
    simp only [spec_bind, spec_current, shows.kind]
    cases n with
    | zero => exact spec_throw.mpr rfl
    | succ n =>
      refine (?_ : Spec Spent (Parse.array (n + 1)) (d + 1) c _).mono
        (then_suffixes (by omega) next)
      rw [Parse.array, spec_frame_room (by omega)]
      simp only [spec_bind, spec_discard]
      refine expect_shows shows (by decide) fun start c1 _ _ shows1 => ?_
      have each : ∀ a ∈ items, a.ReadsAt (d + 2) := fun a mem =>
        (reads a mem).readsAt (by have := Expr.height_le_listHeight mem; omega)
      refine (listed_first (by simp) items n (d + 2) c1 rest each shows1).mono
        fun xs c2 read => ?_
      obtain ⟨same, shows2⟩ := read
      refine expect_shows shows2 (by decide) fun _ c3 _ _ shows3 => ?_
      exact ⟨by simp [Expr.erase, Expr.eraseList_eq_map, same], shows3⟩

theorem Expr.chain_map {entries : List (MapKey × Expr)} {pos : Position}
    (reads : ∀ kv ∈ entries, kv.2.Reads) : (Expr.map entries pos).ChainReads := by
  intro n d c rest Q shows _ room next
  simp only [Expr.height] at room
  cases n with
  | zero => exact spec_throw.mpr rfl
  | succ n =>
    rw [Parse.primary, spec_frame_room (by omega)]
    simp only [Expr.words, shapes_append, Word.sym, TokenKind.symbol?, Option.getD_some,
      shapes_token, shapes_nil, List.cons_append, List.nil_append, List.append_assoc] at shows
    simp only [spec_bind, spec_current, shows.kind]
    cases n with
    | zero => exact spec_throw.mpr rfl
    | succ n =>
      refine (?_ : Spec Spent (Parse.mapping (n + 1)) (d + 1) c _).mono
        (then_suffixes (by omega) next)
      rw [Parse.mapping, spec_frame_room (by omega)]
      simp only [spec_bind, spec_discard]
      refine expect_shows shows (by decide) fun start c1 _ _ shows1 => ?_
      have each : ∀ kv ∈ entries, kv.2.ReadsAt (d + 2) := fun kv mem =>
        (reads kv mem).readsAt (by have := Expr.height_le_entriesHeight mem; omega)
      refine (entries_first entries n (d + 2) c1 rest each shows1).mono
        fun xs c2 read => ?_
      obtain ⟨same, shows2⟩ := read
      refine expect_shows shows2 (by decide) fun _ c3 _ _ shows3 => ?_
      exact ⟨by simp [Expr.erase, same], shows3⟩

theorem Expr.chain_unary {op : UnaryOp} {arg : Expr} {pos : Position} (reads : arg.Reads) :
    (Expr.unary op arg pos).ChainReads := by
  intro n d c rest Q shows stops room next
  simp only [Expr.height] at room
  simp only [Expr.LinkStops] at stops
  simp only [Expr.words, shapes_token, List.cons_append] at shows
  have read : ∀ n, Spec Spent (Parse.unary n) (d + 1) c fun x c' =>
      x.erase = (Expr.unary op arg pos).erase ∧ c'.Shows rest := by
    intro n
    cases n with
    | zero => exact spec_throw.mpr rfl
    | succ n =>
      rw [Parse.unary, spec_frame_room (by omega)]
      simp only [spec_bind]
      refine take_shows shows (by cases op <;> simp [UnaryOp.token]) fun t c1 shape shows1 => ?_
      simp only [Token.shape, Prod.mk.injEq] at shape
      refine (reads.primary shows1 (fun plain => ?_) stops (by omega)).mono
        fun x c2 read => ?_
      · exact (by simpa [UnaryOp.parenArg] using plain : _ ∧ _).1
      obtain ⟨same, shows2⟩ := read
      · simp [shape.1, spec_pure, Expr.erase, same, shows2]
  cases n with
  | zero => exact spec_throw.mpr rfl
  | succ n =>
    rw [Parse.primary, spec_frame_room (by omega)]
    cases op <;> simp only [spec_bind, spec_current, shows.kind, UnaryOp.token] <;>
      exact (read n).mono (then_suffixes (by omega) next)

theorem Expr.chain_updateBefore {op : UpdateOp} {arg : Expr} {pos : Position} (reads : arg.Reads)
    (assignable : arg.assignable = true) : (Expr.update op arg true pos).ChainReads := by
  intro n d c rest Q shows stops room next
  simp only [Expr.height] at room
  simp only [Expr.LinkStops] at stops
  simp only [Expr.words, ↓reduceIte, shapes_token, List.cons_append] at shows
  have alone : arg.binaryPrecedence? = none := by
    cases arg <;> simp_all [Expr.assignable, Expr.binaryPrecedence?]
  have read : ∀ n, Spec Spent (Parse.updateBefore n) (d + 1) c fun x c' =>
      x.erase = (Expr.update op arg true pos).erase ∧ c'.Shows rest := by
    intro n
    cases n with
    | zero => exact spec_throw.mpr rfl
    | succ n =>
      rw [Parse.updateBefore, spec_frame_room (by omega)]
      simp only [spec_bind]
      refine expectOneOf_shows shows op.kind_mem (by cases op <;> simp [UpdateOp.kind])
        fun t c1 sort _ shows1 => ?_
      refine (@Expr.Reads.primary _ reads false _ _ _ _
        (by simpa [parenthesized_false] using shows1) (fun _ => alone) stops
        (by omega)).mono fun x c2 read => ?_
      obtain ⟨same, shows2⟩ := read
      have target : x.assignable = true := by
        rw [← Expr.assignable_erase, same, Expr.assignable_erase, assignable]
      simp [sort, target, spec_pure, Expr.erase, same, shows2]
  cases n with
  | zero => exact spec_throw.mpr rfl
  | succ n =>
    rw [Parse.primary, spec_frame_room (by omega)]
    cases op <;> simp only [spec_bind, spec_current, shows.kind, UpdateOp.kind] <;>
      exact (read n).mono (then_suffixes (by omega) next)

theorem Expr.chain_field {obj : Expr} {name : String} {pos pos' : Position} (reads : obj.Reads) :
    (Expr.field obj name pos pos').ChainReads := by
  intro n d c rest Q shows link room next
  simp only [Expr.height] at room
  simp only [Expr.words, shapes_append, Word.sym, TokenKind.symbol?, Option.getD_some,
    shapes_token, shapes_nil, List.cons_append, List.nil_append, List.append_assoc] at shows
  refine reads.base shows (fun plain => ?_) (by omega) fun m x c' same shows' => ?_
  · have alone : obj.standsAlone = true := by simpa using plain
    exact ⟨Expr.binaryPrecedence?_of_standsAlone alone,
      Expr.linkStops_suffix alone (by decide) _ _⟩
  · exact suffixes_member same shows' link (by omega) fun m y c'' same' shows'' =>
      next m y c'' (by simpa [Expr.erase] using same') shows''

theorem Expr.chain_index {obj key : Expr} {pos : Position} (reads : obj.Reads)
    (readsKey : key.Reads) : (Expr.index obj key pos).ChainReads := by
  intro n d c rest Q shows _ room next
  simp only [Expr.height] at room
  simp only [Expr.words, shapes_append, Word.sym, TokenKind.symbol?, Option.getD_some,
    shapes_token, shapes_nil, List.cons_append, List.nil_append, List.append_assoc] at shows
  refine reads.base shows (fun plain => ?_) (by omega) fun m x c' same shows' => ?_
  · have alone : obj.standsAlone = true := by simpa using plain
    exact ⟨Expr.binaryPrecedence?_of_standsAlone alone,
      Expr.linkStops_suffix alone (by decide) _ _⟩
  · exact suffixes_index same (readsKey.readsAt (by omega)) shows' (by omega)
      fun m y c'' same' shows'' => next m y c'' (by simpa [Expr.erase] using same') shows''

/-- A call of a member is read as the member's object and then one member step that takes the
arguments too; any other call as its callee and then the arguments. -/
theorem Expr.chain_call {callee : Expr} {args : List Expr} {pos : Position}
    (reads : callee.Reads) (readsArgs : ∀ a ∈ args, a.Reads)
    (readsObject : ∀ obj name p p', callee = .field obj name p p' → obj.Reads) :
    (Expr.call callee args pos).ChainReads := by
  intro n d c rest Q shows _ room next
  simp only [Expr.height] at room
  have each : ∀ k, d + k + 5 * Expr.listHeight args + 10 ≤ Parse.stackLimit →
      ∀ a ∈ args, a.ReadsAt (d + k) := fun k fits a mem =>
    (readsArgs a mem).readsAt (by have := Expr.height_le_listHeight mem; omega)
  by_cases member : ∃ obj name p p', callee = .field obj name p p'
  · obtain ⟨obj, name, p, p', rfl⟩ := member
    simp only [Expr.height] at room
    have fieldAlone : (Expr.field obj name p p').standsAlone = true := rfl
    simp only [Expr.words, shapes_append, Word.sym, TokenKind.symbol?, Option.getD_some,
      shapes_token, shapes_nil, List.cons_append, List.nil_append, List.append_assoc,
      fieldAlone, Bool.not_true, parenthesized_false] at shows
    refine (readsObject obj name p p' rfl).base shows (fun plain => ?_) (by omega)
      fun m x c' same shows' => ?_
    · have alone : obj.standsAlone = true := by simpa using plain
      exact ⟨Expr.binaryPrecedence?_of_standsAlone alone,
        Expr.linkStops_suffix alone (by decide) _ _⟩
    · exact suffixes_memberCall same (each 4 (by omega)) shows' (by omega)
        fun m y c'' same' shows'' => next m y c'' (by simpa [Expr.erase] using same') shows''
  · have notField : ∀ obj name p p', callee ≠ .field obj name p p' := fun obj name p p' same =>
      member ⟨obj, name, p, p', same⟩
    simp only [Expr.words, shapes_append, Word.sym, TokenKind.symbol?, Option.getD_some,
      shapes_token, shapes_nil, List.cons_append, List.nil_append, List.append_assoc] at shows
    refine reads.base shows (fun plain => ?_) (by omega) fun m x c' same shows' => ?_
    · have alone : callee.standsAlone = true := by simpa using plain
      exact ⟨Expr.binaryPrecedence?_of_standsAlone alone, Expr.linkStops_call alone notField _⟩
    · exact suffixes_call same (each 3 (by omega)) shows' (by omega)
        fun m y c'' same' shows'' => next m y c'' (by simpa [Expr.erase] using same') shows''

theorem Expr.chain_updateAfter {op : UpdateOp} {arg : Expr} {pos : Position} (reads : arg.Reads)
    (assignable : arg.assignable = true) : (Expr.update op arg false pos).ChainReads := by
  intro n d c rest Q shows _ room next
  simp only [Expr.height] at room
  have alone : arg.standsAlone = true := by
    cases arg <;> simp_all [Expr.assignable, Expr.standsAlone]
  simp only [Expr.words, Bool.false_eq_true, ↓reduceIte, shapes_append, shapes_token,
    shapes_nil, List.append_assoc, List.cons_append, List.nil_append] at shows
  refine @Expr.Reads.base _ reads false _ _ _ _ _ (by simpa [parenthesized] using shows)
    (fun _ => ?_)
    (by omega) fun m x c' same shows' => ?_
  · exact ⟨Expr.binaryPrecedence?_of_standsAlone alone,
      Expr.linkStops_suffix alone (by cases op <;> decide) _ _⟩
  · exact suffixes_update same assignable shows' (by omega)
      fun m y c'' same' shows'' => next m y c'' (by simpa [Expr.erase] using same') shows''

theorem Expr.spine_binary {op : BinaryOp} {lhs rhs : Expr} {pos : Position} (left : lhs.Reads)
    (right : rhs.Reads) : (Expr.binary op lhs rhs pos).SpineReads := by
  intro p n dP dL c rest Q shows above closes roomP roomL next
  simp only [Expr.height] at roomP roomL
  have tight : p < op.precedence := by
    simpa [Expr.parenAbove, Expr.binaryPrecedence?] using above
  have stops : StopsAt op.precedence rest := by
    simpa [Expr.Closes, Expr.binaryPrecedence?] using closes
  simp only [Expr.words, shapes_append, Word.space, shapes_gap, shapes_token,
    List.append_assoc, List.cons_append, List.nil_append] at shows
  refine left.operand shows (fun plain => ?_) (stopsAt_binary op _ (Nat.le_refl _)).chain
    (by omega) (by omega) fun m x c' same shows' => ?_
  · -- a bare left operand binds at least as tightly as the operator
    constructor
    · unfold Expr.parenAbove
      unfold BinaryOp.parenLeft at plain
      split at plain
      · rename_i q found
        simp only [found, decide_eq_false_iff_not, Nat.not_lt] at plain ⊢
        omega
      · rename_i found
        simp [found]
    · cases found : lhs.binaryPrecedence? with
      | some q =>
        simp only [BinaryOp.parenLeft, found, decide_eq_false_iff_not, Nat.not_lt] at plain
        simp only [Expr.Closes, found]
        exact stopsAt_binary op _ plain
      | none =>
        simp only [Expr.Closes, found]
        exact (stopsAt_binary op _ (Nat.le_refl _)).chain
  cases m with
  | zero => exact spec_throw.mpr rfl
  | succ m =>
    rw [Parse.tighter]
    simp only [spec_bind, spec_current, shows'.kind, BinaryOp.ofToken?_token, tight, ↓reduceIte]
    cases m with
    | zero => exact spec_throw.mpr rfl
    | succ m =>
      rw [Parse.operation, spec_frame_room (by omega)]
      simp only [spec_bind, spec_discard]
      refine take_shows shows' (by cases op <;> simp [BinaryOp.token]) fun _ c1 _ shows1 => ?_
      refine (right.operand shows1 (fun plain => ?_) stops.chain (by omega) (by omega)
        fun m2 x2 c2 same2 shows2 => ?_).mono fun r c3 loop => loop m
      · -- a bare right operand binds more tightly than the operator
        rw [BinaryOp.parenRight_eq] at plain
        refine ⟨plain, ?_⟩
        unfold Expr.Closes
        unfold Expr.parenAbove at plain
        split
        · rename_i q found
          simp only [found, decide_eq_false_iff_not, Nat.not_le] at plain
          exact stops.mono (Nat.le_of_lt plain)
        · exact stops.chain
      · refine (tighter_stop shows2 stops).mono fun _ _ read => ?_
        obtain ⟨stayed, moved⟩ := read
        rw [stayed, moved, spec_pure]
        exact next (m + 1) _ c2 (by simp [Expr.erase, same, same2]) shows2

/-- The parser reads back the canonical text of every parsable expression: by induction on the
height of the tree, each form from what its parts read. -/
theorem Expr.reads_of_parsable : (e : Expr) → e.Parsable → e.Reads := by
  suffices all : ∀ h (e : Expr), e.height = h → e.Parsable → e.Reads from
    fun e => all e.height e rfl
  intro h
  induction h using Nat.strongRecOn with
  | ind h ih =>
    intro e height wf
    have sub : ∀ e' : Expr, e'.height < e.height → e'.Parsable → e'.Reads := fun e' lower =>
      ih e'.height (height ▸ lower) e' rfl
    cases e with
    | literal v raw pos => exact Expr.reads_of_chain (Expr.chain_literal wf)
    | var name pos => exact Expr.reads_of_chain (Expr.chain_var wf.2)
    | field obj name pos pos' =>
      exact Expr.reads_of_chain (Expr.chain_field (sub obj (by simp [Expr.height]) wf.1))
    | index obj key pos =>
      exact Expr.reads_of_chain (Expr.chain_index
        (sub obj (by simp only [Expr.height]; omega) wf.1)
        (sub key (by simp only [Expr.height]; omega) wf.2))
    | call callee args pos =>
      refine Expr.reads_of_chain (Expr.chain_call
        (sub callee (by simp only [Expr.height]; omega) wf.1)
        (fun a mem => sub a
          (by have := Expr.height_le_listHeight mem; simp only [Expr.height]; omega)
          (wf.2.mem mem)) fun obj name p p' same => ?_)
      subst same
      exact sub obj (by simp only [Expr.height]; omega) wf.1.1
    | array items pos =>
      exact Expr.reads_of_chain (Expr.chain_array fun a mem => sub a
        (by have := Expr.height_le_listHeight mem; simp only [Expr.height]; omega) (wf.mem mem))
    | map entries pos =>
      exact Expr.reads_of_chain (Expr.chain_map fun kv mem => sub kv.2
        (by have := Expr.height_le_entriesHeight mem; simp only [Expr.height]; omega) (wf.mem mem))
    | binary op lhs rhs pos =>
      refine ⟨by simp [Expr.binaryPrecedence?],
        Expr.spine_binary (sub lhs ?_ wf.1) (sub rhs ?_ wf.2)⟩ <;>
        simp only [Expr.height] <;> omega
    | unary op arg pos =>
      exact Expr.reads_of_chain (Expr.chain_unary (sub arg (by simp [Expr.height]) wf))
    | update op arg before pos =>
      cases before with
      | true =>
        exact Expr.reads_of_chain
          (Expr.chain_updateBefore (sub arg (by simp [Expr.height]) wf.1) wf.2)
      | false =>
        exact Expr.reads_of_chain
          (Expr.chain_updateAfter (sub arg (by simp [Expr.height]) wf.1) wf.2)

end Quill
