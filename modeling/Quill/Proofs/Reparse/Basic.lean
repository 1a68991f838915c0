import Quill.Proofs.Parse.Shows
import Quill.Proofs.Format.Layout
import Quill.Proofs.Tree.Erase

set_option autoImplicit false

/- Reading canonical text back: what each parser method is asked to do with the tokens of a
canonical text, which may only run out of fuel, and the loops that stop where such text ends. -/
namespace Quill

open Scan Quill.Parser Quill.Parser.Spec Cursor

/-- The only failure a parse of canonical text may meet: running out of fuel. -/
def Spent (e : ParseFailure) : Prop := e = .exhausted

/-- The token kinds that go on a chain of calls, accesses and postfix updates. -/
def suffixKinds : List TokenKind := [.lparen, .dot, .lbracket, .inc, .dec]

/-- The token kinds an expression's text can start with. -/
def startKinds : List TokenKind :=
  [.string, .number, .ident, .lbracket, .lbrace, .lparen, .inc, .dec, .not, .add, .sub]

/-- Tokens that start with one that goes on no chain of suffixes. -/
def StopsChain (rest : List (TokenKind × String)) : Prop :=
  ∃ k ks, rest = k :: ks ∧ k.1 ∉ suffixKinds

/-- Tokens that start with one that goes on no chain of suffixes and is no binary operator
binding tighter than `p`. -/
def StopsAt (p : Nat) (rest : List (TokenKind × String)) : Prop :=
  ∃ k ks, rest = k :: ks ∧ k.1 ∉ suffixKinds ∧
    ∀ op, BinaryOp.ofToken? k.1 = some op → op.precedence ≤ p

theorem StopsAt.chain {p : Nat} {rest : List (TokenKind × String)} (stops : StopsAt p rest) :
    StopsChain rest := by
  obtain ⟨k, ks, rfl, plain, -⟩ := stops
  exact ⟨k, ks, rfl, plain⟩

theorem StopsAt.mono {p q : Nat} {rest : List (TokenKind × String)} (le : p ≤ q)
    (stops : StopsAt p rest) : StopsAt q rest := by
  obtain ⟨k, ks, rfl, plain, weaker⟩ := stops
  exact ⟨k, ks, rfl, plain, fun op found => Nat.le_trans (weaker op found) le⟩

/-- A closing bracket, a separator or the end of input stops every operand. -/
theorem stopsAt_closing {k : TokenKind} (text : String) (ks : List (TokenKind × String))
    (closing : k ∈ [.rparen, .rbracket, .rbrace, .comma, .semicolon, .colon, .eof]) (p : Nat) :
    StopsAt p ((k, text) :: ks) := by
  refine ⟨_, ks, rfl, ?_, fun op found => ?_⟩
  · simp only [List.mem_cons, List.not_mem_nil, or_false] at closing
    rcases closing with rfl | rfl | rfl | rfl | rfl | rfl | rfl <;> simp [suffixKinds]
  · simp only [List.mem_cons, List.not_mem_nil, or_false] at closing
    rcases closing with rfl | rfl | rfl | rfl | rfl | rfl | rfl <;> simp [BinaryOp.ofToken?,
      BinaryOp.all, BinaryOp.token] at found

/-- A binary operator stops every operand of an operator that binds at least as tightly. -/
theorem stopsAt_binary (op : BinaryOp) (ks : List (TokenKind × String)) {p : Nat}
    (le : op.precedence ≤ p) : StopsAt p ((op.token, op.symbol) :: ks) := by
  refine ⟨_, ks, rfl, by cases op <;> simp [suffixKinds, BinaryOp.token], fun op' found => ?_⟩
  obtain rfl : op' = op := by cases op <;> cases op' <;> simp_all [BinaryOp.ofToken?,
    BinaryOp.all, BinaryOp.token]
  exact le

@[simp] theorem BinaryOp.ofToken?_token (op : BinaryOp) : BinaryOp.ofToken? op.token = some op := by
  cases op <;> rfl

theorem BinaryOp.precedence_pos (op : BinaryOp) : 0 < op.precedence := by
  cases op <;> decide

/-- Whether an operand on the right of an operator of binding strength `p` takes parentheses:
when it is a binary operation that binds no tighter. -/
def Expr.parenAbove (p : Nat) (e : Expr) : Bool :=
  match e.binaryPrecedence? with
  | some q => decide (q ≤ p)
  | none => false

theorem Expr.binaryPrecedence?_pos {e : Expr} {q : Nat} (found : e.binaryPrecedence? = some q) :
    0 < q := by
  cases e <;> simp only [Expr.binaryPrecedence?, reduceCtorEq, Option.some.injEq] at found
  rw [← found]
  exact BinaryOp.precedence_pos _

theorem Expr.parenAbove_zero (e : Expr) : e.parenAbove 0 = false := by
  unfold Expr.parenAbove
  split
  · rename_i q found
    have := e.binaryPrecedence?_pos found
    simp only [decide_eq_false_iff_not, Nat.not_le]
    exact this
  · rfl

theorem Expr.binaryPrecedence?_of_standsAlone {e : Expr} (alone : e.standsAlone = true) :
    e.binaryPrecedence? = none := by
  cases e <;> simp_all [Expr.standsAlone, Expr.binaryPrecedence?]

theorem BinaryOp.parenRight_eq (op : BinaryOp) (e : Expr) :
    op.parenRight e.binaryPrecedence? = e.parenAbove op.precedence := by
  unfold BinaryOp.parenRight Expr.parenAbove
  cases e.binaryPrecedence? <;> rfl

/-- What may follow the text of `e` where nothing more is read into it: no suffix, and when `e`
is a binary operation no operator that binds tighter than its own. -/
def Expr.Closes (e : Expr) (rest : List (TokenKind × String)) : Prop :=
  match e.binaryPrecedence? with
  | some q => StopsAt q rest
  | none => StopsChain rest

theorem StopsAt.closes {rest : List (TokenKind × String)} (stops : StopsAt 0 rest) (e : Expr) :
    e.Closes rest := by
  unfold Expr.Closes
  split
  · exact stops.mono (Nat.zero_le _)
  · exact stops.chain

theorem Expr.Closes.chain {e : Expr} {rest : List (TokenKind × String)} (closes : e.Closes rest) :
    StopsChain rest := by
  unfold Expr.Closes at closes
  split at closes
  · exact closes.chain
  · exact closes

/-- What may follow the text of an expression that a chain of suffixes is read after: after a
unary operation or a prefix update no suffix, which would apply to their operand, and after a
member access no opening parenthesis, which would call the member. -/
def Expr.LinkStops (e : Expr) (rest : List (TokenKind × String)) : Prop :=
  match e with
  | .unary .. => StopsChain rest
  | .update _ _ true _ => StopsChain rest
  | .field .. => ∃ k ks, rest = k :: ks ∧ k.1 ≠ .lparen
  | _ => True

theorem StopsChain.linkStops {rest : List (TokenKind × String)} (stops : StopsChain rest)
    (e : Expr) : e.LinkStops rest := by
  obtain ⟨k, ks, rfl, plain⟩ := stops
  unfold Expr.LinkStops
  split
  · exact ⟨k, ks, rfl, plain⟩
  · exact ⟨k, ks, rfl, plain⟩
  · exact ⟨k, ks, rfl, fun same => by simp [same, suffixKinds] at plain⟩
  · trivial

/-- A frame with room for its reading of tokens runs its body one call deeper. -/
theorem spec_frame_room {α : Type} {allow : ParseFailure → Prop} {body : Parser α} {d : Nat}
    {c : Cursor} {Q : α → Cursor → Prop} (room : d + 5 ≤ Parse.stackLimit) :
    Spec allow (Parse.frame body) d c Q ↔ Spec allow body (d + 1) c Q := by
  rw [spec_frame, if_neg (by unfold Parse.leafReach; omega)]

theorem literalWords_head (v : Data) (raw : String) :
    ∃ k ks, shapes (literalWords v raw) = k :: ks ∧ k.1 ∈ startKinds := by
  unfold literalWords
  split <;> exact ⟨_, [], rfl, by simp [startKinds]⟩

theorem shapes_parenthesized_head {paren : Bool} {ws : List Word}
    (head : ∃ k ks, shapes ws = k :: ks ∧ k.1 ∈ startKinds) (more : List Word) :
    ∃ k ks, shapes (parenthesized paren ws ++ more) = k :: ks ∧ k.1 ∈ startKinds := by
  cases paren
  · obtain ⟨k, ks, same, start⟩ := head
    exact ⟨k, ks ++ shapes more, by simp [parenthesized, same], start⟩
  · exact ⟨_, _, rfl, by simp [startKinds]⟩

theorem Expr.words_head (e : Expr) : ∃ k ks, shapes e.words = k :: ks ∧ k.1 ∈ startKinds := by
  -- by recursion on the leftmost operand, whose text starts the expression's
  cases e with
  | literal v raw _ => exact literalWords_head v raw
  | var => exact ⟨_, [], rfl, by simp [startKinds]⟩
  | field obj _ _ _ =>
    rw [Expr.words]
    exact shapes_parenthesized_head obj.words_head _
  | index obj _ _ =>
    rw [Expr.words, List.append_assoc, List.append_assoc]
    exact shapes_parenthesized_head obj.words_head _
  | call callee _ _ =>
    rw [Expr.words, List.append_assoc, List.append_assoc]
    exact shapes_parenthesized_head callee.words_head _
  | array => exact ⟨_, _, rfl, by simp [startKinds]⟩
  | map => exact ⟨_, _, rfl, by simp [startKinds]⟩
  | binary _ lhs _ _ =>
    rw [Expr.words, List.append_assoc]
    exact shapes_parenthesized_head lhs.words_head _
  | unary op _ _ => exact ⟨_, _, rfl, by cases op <;> simp [startKinds, UnaryOp.token]⟩
  | update op arg before _ =>
    cases before
    · obtain ⟨k, ks, same, start⟩ := arg.words_head
      exact ⟨k, ks ++ [(op.kind, op.symbol)], by simp [Expr.words, same], start⟩
    · exact ⟨_, _, rfl, by cases op <;> simp [startKinds, UpdateOp.kind]⟩

/-- A loop that runs to a closing bracket or the end of input goes on at a token that starts an
expression. -/
theorem Cursor.Shows.testAny_start {c : Cursor} {k : TokenKind × String}
    {ks : List (TokenKind × String)}
    (shows : c.Shows (k :: ks)) (start : k.1 ∈ startKinds) {close : TokenKind}
    (closing : close ∈ [.rparen, .rbracket, .rbrace]) : c.testAny [close, .eof] = false := by
  simp only [shows.testAny, List.contains_cons, List.contains_nil, Bool.or_false,
    Bool.or_eq_false_iff, beq_eq_false_iff_ne]
  simp only [List.mem_cons, List.not_mem_nil, or_false] at closing
  constructor <;> intro same <;> rw [same] at start
  · rcases closing with rfl | rfl | rfl <;> simp [startKinds] at start
  · simp [startKinds] at start

theorem suffixes_stop {n d : Nat} {c : Cursor} {y : Expr} {rest : List (TokenKind × String)}
    (shows : c.Shows rest) (stops : StopsChain rest) :
    Spec Spent (Parse.suffixes n y) d c fun x c' => x = y ∧ c' = c := by
  cases n with
  | zero => exact spec_throw.mpr rfl
  | succ n =>
    obtain ⟨k, ks, rfl, plain⟩ := stops
    rw [Parse.suffixes]
    simp only [spec_bind, spec_current, shows.kind]
    split <;> simp_all [suffixKinds, spec_pure]

theorem tighter_stop {n d p : Nat} {c : Cursor} {y : Expr} {rest : List (TokenKind × String)}
    (shows : c.Shows rest) (stops : StopsAt p rest) :
    Spec Spent (Parse.tighter n p y) d c fun x c' => x = y ∧ c' = c := by
  cases n with
  | zero => exact spec_throw.mpr rfl
  | succ n =>
    obtain ⟨k, ks, rfl, -, weaker⟩ := stops
    rw [Parse.tighter]
    simp only [spec_bind, spec_current, shows.kind]
    split
    · rename_i op found
      have low := weaker op found
      simp [spec_pure, show ¬p < op.precedence by omega]
    · exact ⟨rfl, rfl⟩

theorem tighter_none {allow : ParseFailure → Prop} {n d p : Nat} {c : Cursor} {y : Expr}
    {Q : Expr → Cursor → Prop} (none : BinaryOp.ofToken? c.current.kind = none) :
    Spec allow (Parse.tighter (n + 1) p y) d c Q ↔ Q y c := by
  rw [Parse.tighter]
  simp only [spec_bind, spec_current, none, spec_pure]

/-- The loop of operations after a primary expression is the loop of those binding tighter than
nothing. -/
theorem operations_exec (n d : Nat) (c : Cursor) (x : Expr) :
    (Parse.operations n x).exec d c = (Parse.tighter n 0 x).exec d c := by
  induction n generalizing x c with
  | zero => rfl
  | succ n ih =>
    rw [Parse.operations, Parse.tighter]
    simp only [exec_bind, exec_current]
    split
    · rename_i op _
      simp only [op.precedence_pos, ↓reduceIte, exec_bind, ih]
    · rfl

theorem spec_operations {n d : Nat} {c : Cursor} {x : Expr} {Q : Expr → Cursor → Prop}
    {allow : ParseFailure → Prop} :
    Spec allow (Parse.operations n x) d c Q ↔ Spec allow (Parse.tighter n 0 x) d c Q := by
  unfold Spec
  rw [operations_exec]

/-- The expression method reads `e`'s text back at depth `d`, whatever follows that ends an
operand. -/
def Expr.ReadsAt (e : Expr) (d : Nat) : Prop :=
  ∀ (n : Nat) (c : Cursor) (rest : List (TokenKind × String)),
    c.Shows (shapes e.words ++ rest) →
    StopsAt 0 rest → Spec Spent (Parse.expression n) d c fun x c' => x.erase = e.erase ∧
      c'.Shows rest

/-- The tokens of the items of a separated list after the first: a comma before each. -/
def commaTokens : List Expr → List (TokenKind × String)
  | [] => []
  | e :: rest => (.comma, ",") :: shapes (Expr.listWords (e :: rest))

theorem shapes_listWords_cons (e : Expr) (rest : List Expr) :
    shapes (Expr.listWords (e :: rest)) = shapes e.words ++ commaTokens rest := by
  cases rest with
  | nil => simp [Expr.listWords, commaTokens]
  | cons e' rest =>
    simp only [Expr.listWords, commaTokens, shapes_append]
    simp [Word.sym, Word.space, TokenKind.symbol?]

/-- The tokens of the entries of a map after the first: a comma before each. -/
def entryTokens : List (MapKey × Expr) → List (TokenKind × String)
  | [] => []
  | e :: rest => (.comma, ",") :: shapes (Expr.entryWords (e :: rest))

theorem shapes_entryWords_cons (k : MapKey) (v : Expr) (rest : List (MapKey × Expr)) :
    shapes (Expr.entryWords ((k, v) :: rest)) =
      (.string, k.text) :: (.colon, ":") :: (shapes v.words ++ entryTokens rest) := by
  cases rest with
  | nil => simp [Expr.entryWords, entryTokens, Word.sym, Word.space, TokenKind.symbol?]
  | cons e' rest =>
    simp only [Expr.entryWords, entryTokens, shapes_append]
    simp [Word.sym, Word.space, TokenKind.symbol?]

section Listed

variable {close : TokenKind} {closeText sep : String}

theorem closing_mem (closing : close ∈ [.rparen, .rbracket]) :
    close ∈ [.rparen, .rbracket, .rbrace, .comma, .semicolon, .colon, .eof] := by
  simp only [List.mem_cons, List.not_mem_nil, or_false] at closing ⊢
  rcases closing with rfl | rfl <;> simp

theorem listed_more (closing : close ∈ [.rparen, .rbracket]) :
    ∀ (es acc : List Expr) (n d : Nat) (c : Cursor) (rest : List (TokenKind × String)),
      acc ≠ [] → (∀ e ∈ es, e.ReadsAt d) →
        c.Shows (commaTokens es ++ (close, closeText) :: rest) →
      Spec Spent (Parse.listed n close sep acc) d c fun xs c' =>
        xs.map Expr.erase = (acc.reverse ++ es).map Expr.erase ∧
          c'.Shows ((close, closeText) :: rest) := by
  intro es acc n d c rest full reads shows
  cases n with
  | zero => exact spec_throw.mpr rfl
  | succ n =>
  cases es with
  | nil =>
    have found : c.testAny [close, .eof] = true := by simp [shows.testAny]
    rw [Parse.listed]
    simp only [spec_bind, spec_get, found, ↓reduceIte, spec_pure, List.append_nil]
    exact ⟨by simp, shows⟩
  | cons e es =>
    have shows' : c.Shows ((.comma, ",") :: (shapes (Expr.listWords (e :: es)) ++
        (close, closeText) :: rest)) := by
      simpa [commaTokens] using shows
    have found : c.testAny [close, .eof] = false := by
      simp only [List.mem_cons, List.not_mem_nil, or_false] at closing
      rcases closing with rfl | rfl <;> simp [shows'.testAny]
    rw [Parse.listed]
    simp only [spec_bind, spec_get, found, Bool.false_eq_true, ↓reduceIte]
    rw [if_pos (by simpa using full)]
    simp only [spec_bind, spec_discard]
    refine expect_shows shows' (by decide) fun _ c1 _ _ after => ?_
    rw [shapes_listWords_cons, List.append_assoc] at after
    refine ((reads e (by simp)) n c1 _ after ?_).mono fun x c2 read => ?_
    · cases es with
      | nil => exact stopsAt_closing _ _ (closing_mem closing) 0
      | cons => exact stopsAt_closing _ _ (by simp) 0
    obtain ⟨same, shows2⟩ := read
    refine (listed_more closing es (x :: acc) n d c2 rest (by simp)
      (fun e' mem => reads e' (by simp [mem])) shows2).mono fun xs c3 read => ?_
    obtain ⟨items, closed⟩ := read
    refine ⟨?_, closed⟩
    rw [items]
    simp [same]

theorem listed_first (closing : close ∈ [.rparen, .rbracket]) (es : List Expr) (n d : Nat)
    (c : Cursor) (rest : List (TokenKind × String)) (reads : ∀ e ∈ es, e.ReadsAt d)
    (shows : c.Shows (shapes (Expr.listWords es) ++ (close, closeText) :: rest)) :
    Spec Spent (Parse.listed n close sep []) d c fun xs c' =>
      xs.map Expr.erase = es.map Expr.erase ∧ c'.Shows ((close, closeText) :: rest) := by
  cases n with
  | zero => exact spec_throw.mpr rfl
  | succ n =>
    cases es with
    | nil =>
      have found : c.testAny [close, .eof] = true := by simp [Expr.listWords] at shows; simp
        [shows.testAny]
      rw [Parse.listed]
      simp only [spec_bind, spec_get, found, ↓reduceIte, spec_pure]
      exact ⟨rfl, by simpa [Expr.listWords] using shows⟩
    | cons e es =>
      obtain ⟨k, ks, head, start⟩ := e.words_head
      rw [shapes_listWords_cons, List.append_assoc] at shows
      have shows' := shows
      rw [head, List.cons_append] at shows'
      have found : c.testAny [close, .eof] = false := by
        refine Cursor.Shows.testAny_start shows' start ?_
        simp only [List.mem_cons, List.not_mem_nil, or_false] at closing ⊢
        rcases closing with rfl | rfl <;> simp
      rw [Parse.listed]
      simp only [spec_bind, spec_get, found, Bool.false_eq_true, ↓reduceIte, List.isEmpty_nil,
        Bool.not_true]
      refine ((reads e (by simp)) n c _ shows ?_).mono fun x c2 read => ?_
      · cases es with
        | nil => exact stopsAt_closing _ _ (closing_mem closing) 0
        | cons => exact stopsAt_closing _ _ (by simp) 0
      obtain ⟨same, shows2⟩ := read
      refine (listed_more closing es [x] n d c2 rest (by simp)
        (fun e' mem => reads e' (by simp [mem])) shows2).mono fun xs c3 read => ?_
      obtain ⟨items, closed⟩ := read
      exact ⟨by rw [items]; simp [same], closed⟩

end Listed

section Entries

variable {closeText : String}

theorem entries_more : ∀ (es : List (MapKey × Expr)) (acc : List (MapKey × Expr)) (n d : Nat)
    (c : Cursor) (rest : List (TokenKind × String)),
    acc ≠ [] → (∀ kv ∈ es, kv.2.ReadsAt d) →
    c.Shows (entryTokens es ++ (.rbrace, closeText) :: rest) →
    Spec Spent (Parse.entries n acc) d c fun xs c' =>
      Expr.eraseEntries xs = Expr.eraseEntries (acc.reverse ++ es) ∧
        c'.Shows ((.rbrace, closeText) :: rest) := by
  intro es acc n d c rest full reads shows
  cases n with
  | zero => exact spec_throw.mpr rfl
  | succ n =>
  cases es with
  | nil =>
    have found : c.testAny [.rbrace, .eof] = true := by simp [shows.testAny]
    rw [Parse.entries]
    simp only [spec_bind, spec_get, found, ↓reduceIte, spec_pure, List.append_nil]
    exact ⟨by simp, shows⟩
  | cons kv es =>
    obtain ⟨k, v⟩ := kv
    have shows' : c.Shows ((.comma, ",") :: (.string, k.text) :: (.colon, ":") ::
        (shapes v.words ++ (entryTokens es ++ (.rbrace, closeText) :: rest))) := by
      simpa [entryTokens, shapes_entryWords_cons] using shows
    have found : c.testAny [.rbrace, .eof] = false := by simp [shows'.testAny]
    rw [Parse.entries]
    simp only [spec_bind, spec_get, found, Bool.false_eq_true, ↓reduceIte]
    rw [if_pos (by simpa using full)]
    simp only [spec_bind, spec_discard]
    refine expect_shows shows' (by decide) fun _ c1 _ _ shows1 => ?_
    refine expect_shows shows1 (by decide) fun key c2 _ keyText shows2 => ?_
    refine expect_shows shows2 (by decide) fun _ c3 _ _ shows3 => ?_
    refine ((reads (k, v) (by simp)) n c3 _ shows3 ?_).mono fun x c4 read => ?_
    · cases es with
      | nil => exact stopsAt_closing _ _ (by simp) 0
      | cons => exact stopsAt_closing _ _ (by simp) 0
    obtain ⟨same, shows4⟩ := read
    refine (entries_more es ((⟨key.text, key.pos⟩, x) :: acc) n d c4 rest (by simp)
      (fun kv mem => reads kv (by simp [mem])) shows4).mono fun xs c5 read => ?_
    obtain ⟨items, closed⟩ := read
    refine ⟨?_, closed⟩
    rw [items]
    simp [Expr.eraseEntries_eq_map, same, keyText]

theorem entries_first (es : List (MapKey × Expr)) (n d : Nat) (c : Cursor)
    (rest : List (TokenKind × String)) (reads : ∀ kv ∈ es, kv.2.ReadsAt d)
    (shows : c.Shows (shapes (Expr.entryWords es) ++ (.rbrace, closeText) :: rest)) :
    Spec Spent (Parse.entries n []) d c fun xs c' =>
      Expr.eraseEntries xs = Expr.eraseEntries es ∧ c'.Shows ((.rbrace, closeText) :: rest) := by
  cases n with
  | zero => exact spec_throw.mpr rfl
  | succ n =>
    cases es with
    | nil =>
      simp only [Expr.entryWords, shapes_nil, List.nil_append] at shows
      have found : c.testAny [.rbrace, .eof] = true := by simp [shows.testAny]
      rw [Parse.entries]
      simp only [spec_bind, spec_get, found, ↓reduceIte, spec_pure]
      exact ⟨rfl, shows⟩
    | cons kv es =>
      obtain ⟨k, v⟩ := kv
      rw [shapes_entryWords_cons] at shows
      simp only [List.cons_append, List.append_assoc] at shows
      have found : c.testAny [.rbrace, .eof] = false := by simp [shows.testAny]
      rw [Parse.entries]
      simp only [spec_bind, spec_get, found, Bool.false_eq_true, ↓reduceIte, List.isEmpty_nil,
        Bool.not_true, spec_discard]
      refine expect_shows shows (by decide) fun key c2 _ keyText shows2 => ?_
      refine expect_shows shows2 (by decide) fun _ c3 _ _ shows3 => ?_
      refine ((reads (k, v) (by simp)) n c3 _ shows3 ?_).mono fun x c4 read => ?_
      · cases es with
        | nil => exact stopsAt_closing _ _ (by simp) 0
        | cons => exact stopsAt_closing _ _ (by simp) 0
      obtain ⟨same, shows4⟩ := read
      refine (entries_more es [(⟨key.text, key.pos⟩, x)] n d c4 rest (by simp)
        (fun kv mem => reads kv (by simp [mem])) shows4).mono fun xs c5 read => ?_
      obtain ⟨items, closed⟩ := read
      refine ⟨?_, closed⟩
      rw [items]
      simp [Expr.eraseEntries_eq_map, same, keyText]

end Entries

end Quill
