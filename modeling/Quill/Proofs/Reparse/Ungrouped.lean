import Quill.Proofs.Format.Grouping
import Quill.Proofs.Tree.Erase

set_option autoImplicit false

/- Groupings the formatter writes are needed: the text of an expression with one of its pairs of
parentheses left out holds one grouping mark fewer than the tree has groupings, so no parse of
it gives the tree back. -/
namespace Quill

open Scan

mutual

/-- `vs` is the canonical text of `e` with one pair of grouping parentheses left out, a pair
the formatter puts around an operand: never the parentheses of a call's arguments. -/
inductive Expr.Ungrouped : Expr → List Word → Prop
  | field {obj : Expr} {vs : List Word} (name : String) (np pos : Position) :
      Expr.Regrouped (!obj.standsAlone) obj vs →
      Expr.Ungrouped (.field obj name np pos) (vs ++ [Word.sym .dot, .token .ident name])
  | indexed {obj : Expr} {vs : List Word} (key : Expr) (pos : Position) :
      Expr.Regrouped (!obj.standsAlone) obj vs →
      Expr.Ungrouped (.index obj key pos)
        (vs ++ [Word.sym .lbracket] ++ key.words ++ [Word.sym .rbracket])
  | key (obj : Expr) {key : Expr} {ws : List Word} (pos : Position) :
      Expr.Ungrouped key ws →
      Expr.Ungrouped (.index obj key pos)
        (parenthesized (!obj.standsAlone) obj.words ++ [Word.sym .lbracket] ++ ws ++
          [Word.sym .rbracket])
  | callee {callee : Expr} {vs : List Word} (args : List Expr) (pos : Position) :
      Expr.Regrouped (!callee.standsAlone) callee vs →
      Expr.Ungrouped (.call callee args pos)
        (vs ++ [Word.sym .lparen] ++ Expr.listWords args ++ [Word.sym .rparen])
  | arguments (callee : Expr) {args : List Expr} {ws : List Word} (pos : Position) :
      Expr.UngroupedList args ws →
      Expr.Ungrouped (.call callee args pos)
        (parenthesized (!callee.standsAlone) callee.words ++ [Word.sym .lparen] ++ ws ++
          [Word.sym .rparen])
  | array {items : List Expr} {ws : List Word} (pos : Position) :
      Expr.UngroupedList items ws →
      Expr.Ungrouped (.array items pos) ([Word.sym .lbracket] ++ ws ++ [Word.sym .rbracket])
  | map {entries : List (MapKey × Expr)} {ws : List Word} (pos : Position) :
      Expr.UngroupedEntries entries ws →
      Expr.Ungrouped (.map entries pos) ([Word.sym .lbrace] ++ ws ++ [Word.sym .rbrace])
  | left (op : BinaryOp) {lhs : Expr} {vs : List Word} (rhs : Expr) (pos : Position) :
      Expr.Regrouped (op.parenLeft lhs.binaryPrecedence?) lhs vs →
      Expr.Ungrouped (.binary op lhs rhs pos)
        (vs ++ [Word.space, .token op.token op.symbol, Word.space] ++
          parenthesized (op.parenRight rhs.binaryPrecedence?) rhs.words)
  | right (op : BinaryOp) (lhs : Expr) {rhs : Expr} {vs : List Word} (pos : Position) :
      Expr.Regrouped (op.parenRight rhs.binaryPrecedence?) rhs vs →
      Expr.Ungrouped (.binary op lhs rhs pos)
        (parenthesized (op.parenLeft lhs.binaryPrecedence?) lhs.words ++
          [Word.space, .token op.token op.symbol, Word.space] ++ vs)
  | unary (op : UnaryOp) {arg : Expr} {vs : List Word} (pos : Position) :
      Expr.Regrouped (op.parenArg arg) arg vs →
      Expr.Ungrouped (.unary op arg pos) (.token op.token op.symbol :: vs)
  | updateBefore (op : UpdateOp) {arg : Expr} {ws : List Word} (pos : Position) :
      Expr.Ungrouped arg ws →
      Expr.Ungrouped (.update op arg true pos) (.token op.kind op.symbol :: ws)
  | updateAfter (op : UpdateOp) {arg : Expr} {ws : List Word} (pos : Position) :
      Expr.Ungrouped arg ws →
      Expr.Ungrouped (.update op arg false pos) (ws ++ [.token op.kind op.symbol])

/-- `vs` is the text of the operand `e`, in parentheses when `paren` holds, with one grouping
left out: those parentheses themselves, or a grouping inside the operand. -/
inductive Expr.Regrouped : Bool → Expr → List Word → Prop
  | drop (e : Expr) : Expr.Regrouped true e e.words
  | inside (paren : Bool) {e : Expr} {ws : List Word} :
      Expr.Ungrouped e ws → Expr.Regrouped paren e (parenthesized paren ws)

/-- One grouping left out in one expression of a list separated by commas. -/
inductive Expr.UngroupedList : List Expr → List Word → Prop
  | single {e : Expr} {ws : List Word} : Expr.Ungrouped e ws → Expr.UngroupedList [e] ws
  | head {e : Expr} {ws : List Word} (e' : Expr) (more : List Expr) :
      Expr.Ungrouped e ws →
      Expr.UngroupedList (e :: e' :: more)
        (ws ++ [Word.sym .comma, Word.space] ++ Expr.listWords (e' :: more))
  | tail (e : Expr) {e' : Expr} {more : List Expr} {ws : List Word} :
      Expr.UngroupedList (e' :: more) ws →
      Expr.UngroupedList (e :: e' :: more) (e.words ++ [Word.sym .comma, Word.space] ++ ws)

/-- One grouping left out in one value of map entries. -/
inductive Expr.UngroupedEntries : List (MapKey × Expr) → List Word → Prop
  | single (k : MapKey) {v : Expr} {ws : List Word} :
      Expr.Ungrouped v ws →
      Expr.UngroupedEntries [(k, v)] ([.quoted k.text, Word.sym .colon, Word.space] ++ ws)
  | head (k : MapKey) {v : Expr} {ws : List Word} (e' : MapKey × Expr)
      (more : List (MapKey × Expr)) :
      Expr.Ungrouped v ws →
      Expr.UngroupedEntries ((k, v) :: e' :: more)
        ([.quoted k.text, Word.sym .colon, Word.space] ++ ws ++ [Word.sym .comma, Word.space] ++
          Expr.entryWords (e' :: more))
  | tail (k : MapKey) (v : Expr) {e' : MapKey × Expr} {more : List (MapKey × Expr)}
      {ws : List Word} :
      Expr.UngroupedEntries (e' :: more) ws →
      Expr.UngroupedEntries ((k, v) :: e' :: more)
        ([.quoted k.text, Word.sym .colon, Word.space] ++ v.words ++
          [Word.sym .comma, Word.space] ++ ws)

end

/-- Words after which no token makes a sign gap with what comes next, whatever came before
them. -/
def Quiet (A : List Word) : Prop := ∀ X p b, edge p (kinds (X ++ A)) b = 0

/-- A word that lexes alike before an opening parenthesis and before the text of an operand: a
blank, an opening parenthesis or bracket, an update operator, or `!`. -/
def Opener (a : Word) : Prop :=
  a = Word.space ∨ a = Word.sym .lparen ∨ a = Word.sym .lbracket ∨
    (∃ u : UpdateOp, a = .token u.kind u.symbol) ∨
      a = .token UnaryOp.not.token UnaryOp.not.symbol

/-- What stands before a grouping's opening parenthesis: nothing; an opener after which no sign
gap starts; or a sign, which may fuse with an operand that starts with the same sign. -/
def Before (A : List Word) : Prop :=
  A = [] ∨ (∃ A0 a, A = A0 ++ [a] ∧ Opener a ∧ Quiet A) ∨
    ∃ (A0 : List Word) (op : UnaryOp) (u : UpdateOp), op.twice = some u ∧
      A = A0 ++ [.token op.token op.symbol]

/-- Words `ws` hold a grouping of the operand `c` after the words `A` and before the words `B`,
and `vs` are `ws` without its two parentheses. -/
structure GroupAt (ws vs A : List Word) (c : Expr) (B : List Word) : Prop where
  whole : ws = A ++ Word.sym .lparen :: (c.words ++ Word.sym .rparen :: B)
  dropped : vs = A ++ (c.words ++ B)
  parsable : c.Parsable
  follows : ∀ rest, Follows rest → Follows (spellAll B ++ rest)
  before : Before A

section Sites

variable {A P K : List Word} {k k' : TokenKind}

theorem Quiet.prepend (quiet : Quiet A) (P : List Word) : Quiet (P ++ A) := by
  intro X p b
  rw [← List.append_assoc]
  exact quiet _ p b

theorem Before.prepend (before : Before A) (nonempty : A ≠ []) (P : List Word) :
    Before (P ++ A) := by
  rcases before with empty | ⟨A0, a, rfl, opener, quiet⟩ | ⟨A0, op, u, twice, rfl⟩
  · exact absurd empty nonempty
  · exact Or.inr (Or.inl ⟨P ++ A0, a, by simp, opener, quiet.prepend P⟩)
  · exact Or.inr (Or.inr ⟨P ++ A0, op, u, twice, by simp⟩)

/-- After a token that is no sign, no gap starts. -/
theorem quiet_of_last {l : List TokenKind} (same : kinds A = l ++ [k])
    (plain : ∀ k', k.signPair k' = false) : Quiet A := by
  intro X p b
  rw [kinds_append, same, ← List.append_assoc]
  exact edge_of_last plain

/-- After a binary operator written after an operand, no gap starts. -/
theorem quiet_after_end {l : List TokenKind} (same : kinds A = l ++ [k', k])
    (ends : k'.endsOperand = true) : Quiet A := by
  intro X p b
  rw [kinds_append, same, show kinds X ++ (l ++ [k', k]) = (kinds X ++ l ++ [k']) ++ [k] by simp,
    edge_concat, lastKind_concat]
  simp [opensOperand, ends]

theorem before_nil : Before [] := Or.inl rfl

theorem before_sym {o : TokenKind} (opening : o = .lparen ∨ o = .lbracket) (P : List Word) :
    Before (P ++ [Word.sym o]) := by
  refine Or.inr (Or.inl ⟨P, _, rfl, ?_, quiet_of_last (l := kinds P) (k := o) (by simp) ?_⟩)
  · rcases opening with rfl | rfl
    · exact Or.inr (Or.inl rfl)
    · exact Or.inr (Or.inr (Or.inl rfl))
  · rcases opening with rfl | rfl <;> exact TokenKind.signPair_of_unsigned (by decide) (by decide)

/-- After a comma or a colon and a blank. -/
theorem before_separator {s : TokenKind} (separator : s = .comma ∨ s = .colon) (P : List Word) :
    Before (P ++ [Word.sym s, Word.space]) := by
  refine Or.inr (Or.inl ⟨P ++ [Word.sym s], Word.space, by simp, Or.inl rfl,
    quiet_of_last (l := kinds P) (k := s) (by simp) ?_⟩)
  rcases separator with rfl | rfl <;> exact TokenKind.signPair_of_unsigned (by decide) (by decide)

theorem before_update (u : UpdateOp) : Before [.token u.kind u.symbol] :=
  Or.inr (Or.inl ⟨[], _, rfl, Or.inr (Or.inr (Or.inr (Or.inl ⟨u, rfl⟩))),
    quiet_of_last (l := []) rfl
      (by cases u <;> exact TokenKind.signPair_of_unsigned (by decide) (by decide))⟩)

theorem before_unary (op : UnaryOp) : Before [.token op.token op.symbol] := by
  cases twice : op.twice with
  | some u => exact Or.inr (Or.inr ⟨[], op, u, twice, rfl⟩)
  | none =>
    obtain rfl : op = .not := by cases op <;> simp_all [UnaryOp.twice]
    exact Or.inr (Or.inl ⟨[], _, rfl, Or.inr (Or.inr (Or.inr (Or.inr rfl))),
      quiet_of_last (l := []) rfl (TokenKind.signPair_of_unsigned (by decide) (by decide))⟩)

/-- After a binary operator: its left operand ends an operand. -/
theorem before_binary (op : BinaryOp) {lhs : Expr} (wf : lhs.Parsable) (paren : Bool) :
    Before (parenthesized paren lhs.words ++ [Word.space, .token op.token op.symbol,
      Word.space]) := by
  obtain ⟨front, last, same, ends⟩ := ((lhs.settled_words wf).parenthesized paren).ends
  refine Or.inr (Or.inl ⟨parenthesized paren lhs.words ++ [Word.space, .token op.token op.symbol],
    Word.space, by simp, Or.inl rfl, quiet_after_end (l := front) (k := op.token) ?_ ends⟩)
  simp [same]

end Sites

/-- A grouping inside words stands, with the same operand, inside longer words. -/
theorem GroupAt.embed {ws vs A B : List Word} {c : Expr} (site : GroupAt ws vs A c B)
    (P S : List Word) (after : ∀ rest, Follows rest → Follows (spellAll S ++ rest))
    (before : A = [] → Before P) {ws' vs' : List Word} (whole : ws' = P ++ ws ++ S)
    (dropped : vs' = P ++ vs ++ S) : GroupAt ws' vs' (P ++ A) c (B ++ S) where
  whole := by rw [whole, site.whole]; simp
  dropped := by rw [dropped, site.dropped]; simp
  parsable := site.parsable
  follows rest next := by
    rw [spellAll_append, List.append_assoc]
    exact site.follows _ (after rest next)
  before := by
    by_cases empty : A = []
    · rw [empty, List.append_nil]
      exact before empty
    · exact site.before.prepend empty P

theorem follows_nothing (rest : List Char) (next : Follows rest) : Follows (spellAll [] ++ rest) :=
  next

theorem follows_symbol {k : TokenKind} {s : String} (sym : k.symbol? = some s) {c : Char}
    {cs : List Char} (spelled : s.toList = c :: cs) (mem : c ∈ followers) (more : List Word) :
    ∀ rest, Follows rest → Follows (spellAll (Word.sym k :: more) ++ rest) := by
  intro rest _
  simp only [spellAll_cons, Word.sym_spell, sym, Option.getD_some, spelled, List.cons_append]
  exact follows_cons _ mem

mutual

/-- Every grouping left out of a parsable expression's text stands somewhere in that text. -/
theorem Expr.Ungrouped.site : {e : Expr} → {vs : List Word} → Expr.Ungrouped e vs →
    e.Parsable → ∃ A c B, GroupAt e.words vs A c B
  | .field _ name _ _, _, .field _ _ _ inner, ⟨wf, named⟩ => by
    obtain ⟨A, c, B, site⟩ := inner.site wf
    refine ⟨_, c, _, site.embed [] [Word.sym .dot, .token .ident name] ?_ (fun _ => before_nil)
      (by simp [Expr.words]) (by simp)⟩
    intro rest _
    simpa [TokenKind.symbol?] using IsName.follows named rest
  | .index _ key _, _, .indexed _ _ inner, ⟨wf, _⟩ => by
    obtain ⟨A, c, B, site⟩ := inner.site wf
    exact ⟨_, c, _, site.embed [] ([Word.sym .lbracket] ++ key.words ++ [Word.sym .rbracket])
      (follows_symbol rfl rfl (by decide) _) (fun _ => before_nil) (by simp [Expr.words])
      (by simp)⟩
  | .index obj _ _, _, .key _ _ inner, ⟨_, wf⟩ => by
    obtain ⟨A, c, B, site⟩ := inner.site wf
    exact ⟨_, c, _, site.embed
      (parenthesized (!obj.standsAlone) obj.words ++ [Word.sym .lbracket]) [Word.sym .rbracket]
      (follows_symbol rfl rfl (by decide) _)
      (fun _ => before_sym (.inr rfl) _) (by simp [Expr.words]) (by simp)⟩
  | .call _ args _, _, .callee _ _ inner, ⟨wf, _⟩ => by
    obtain ⟨A, c, B, site⟩ := inner.site wf
    exact ⟨_, c, _, site.embed []
      ([Word.sym .lparen] ++ Expr.listWords args ++ [Word.sym .rparen])
      (follows_symbol rfl rfl (by decide) _) (fun _ => before_nil) (by simp [Expr.words])
      (by simp)⟩
  | .call callee _ _, _, .arguments _ _ inner, ⟨_, wfs⟩ => by
    obtain ⟨A, c, B, site⟩ := inner.site wfs
    exact ⟨_, c, _, site.embed
      (parenthesized (!callee.standsAlone) callee.words ++ [Word.sym .lparen]) [Word.sym .rparen]
      (follows_symbol rfl rfl (by decide) _) (fun _ => before_sym (.inl rfl) _)
      (by simp [Expr.words]) (by simp)⟩
  | .array _ _, _, .array _ inner, wfs => by
    obtain ⟨A, c, B, site⟩ := inner.site wfs
    exact ⟨_, c, _, site.embed [Word.sym .lbracket] [Word.sym .rbracket]
      (follows_symbol rfl rfl (by decide) _) (fun _ => before_sym (P := []) (.inr rfl))
      (by simp [Expr.words]) (by simp)⟩
  | .map _ _, _, .map _ inner, wfs => by
    obtain ⟨A, c, B, site, nonempty⟩ := inner.site wfs
    exact ⟨_, c, _, site.embed [Word.sym .lbrace] [Word.sym .rbrace]
      (follows_symbol rfl rfl (by decide) _) (fun empty => absurd empty nonempty)
      (by simp [Expr.words]) (by simp)⟩
  | .binary op _ rhs _, _, .left _ _ _ inner, ⟨wf, _⟩ => by
    obtain ⟨A, c, B, site⟩ := inner.site wf
    exact ⟨_, c, _, site.embed [] ([Word.space, .token op.token op.symbol, Word.space] ++
      parenthesized (op.parenRight rhs.binaryPrecedence?) rhs.words)
      (fun rest _ => by simpa using follows_cons _ (by decide)) (fun _ => before_nil)
      (by simp [Expr.words]) (by simp)⟩
  | .binary op lhs _ _, _, .right _ _ _ inner, ⟨wl, wf⟩ => by
    obtain ⟨A, c, B, site⟩ := inner.site wf
    exact ⟨_, c, _, site.embed (parenthesized (op.parenLeft lhs.binaryPrecedence?) lhs.words ++
      [Word.space, .token op.token op.symbol, Word.space]) [] follows_nothing
      (fun _ => before_binary op wl _) (by simp [Expr.words]) (by simp)⟩
  | .unary op _ _, _, .unary _ _ inner, wf => by
    obtain ⟨A, c, B, site⟩ := inner.site wf
    exact ⟨_, c, _, site.embed [.token op.token op.symbol] [] follows_nothing
      (fun _ => before_unary op) (by simp [Expr.words]) (by simp)⟩
  | .update op _ _ _, _, .updateBefore _ _ inner, ⟨wf, _⟩ => by
    obtain ⟨A, c, B, site⟩ := inner.site wf
    exact ⟨_, c, _, site.embed [.token op.kind op.symbol] [] follows_nothing
      (fun _ => before_update op) (by simp [Expr.words]) (by simp)⟩
  | .update op _ _ _, _, .updateAfter _ _ inner, ⟨wf, _⟩ => by
    obtain ⟨A, c, B, site⟩ := inner.site wf
    exact ⟨_, c, _, site.embed [] [.token op.kind op.symbol]
      (fun rest _ => by simpa using op.symbol_follows rest) (fun _ => before_nil)
      (by simp [Expr.words]) (by simp)⟩

theorem Expr.Regrouped.site : {paren : Bool} → {e : Expr} → {vs : List Word} →
    Expr.Regrouped paren e vs → e.Parsable → ∃ A c B,
      GroupAt (parenthesized paren e.words) vs A c B
  | _, e, _, .drop _, wf => ⟨[], e, [], {
      whole := by simp [parenthesized]
      dropped := by simp
      parsable := wf
      follows := follows_nothing
      before := before_nil }⟩
  | paren, _, _, .inside _ inner, wf => by
    obtain ⟨A, c, B, site⟩ := inner.site wf
    cases paren
    · exact ⟨A, c, B, site⟩
    · exact ⟨_, c, _, site.embed [Word.sym .lparen] [Word.sym .rparen]
        (follows_symbol rfl rfl (by decide) _) (fun _ => before_sym (P := []) (.inl rfl))
        (by simp [parenthesized]) (by simp [parenthesized])⟩

theorem Expr.UngroupedList.site : {es : List Expr} →
    {vs : List Word} → Expr.UngroupedList es vs →
    Expr.ListParsable es → ∃ A c B, GroupAt (Expr.listWords es) vs A c B
  | [_], _, .single inner, ⟨wf, _⟩ => by
    obtain ⟨A, c, B, site⟩ := inner.site wf
    exact ⟨A, c, B, by simpa [Expr.listWords] using site⟩
  | _ :: e' :: more, _, .head _ _ inner, ⟨wf, _⟩ => by
    obtain ⟨A, c, B, site⟩ := inner.site wf
    exact ⟨_, c, _, site.embed [] ([Word.sym .comma, Word.space] ++ Expr.listWords (e' :: more))
      (follows_symbol rfl rfl (by decide) _) (fun _ => before_nil) (by simp [Expr.listWords])
      (by simp)⟩
  | e :: _ :: _, _, .tail _ inner, ⟨_, wfs⟩ => by
    obtain ⟨A, c, B, site⟩ := inner.site wfs
    exact ⟨_, c, _, site.embed (e.words ++ [Word.sym .comma, Word.space]) [] follows_nothing
      (fun _ => before_separator (.inl rfl) _) (by simp [Expr.listWords]) (by simp)⟩

theorem Expr.UngroupedEntries.site : {es : List (MapKey × Expr)} → {vs : List Word} →
    Expr.UngroupedEntries es vs → Expr.EntriesParsable es →
      ∃ A c B, GroupAt (Expr.entryWords es) vs A c B ∧ A ≠ []
  | [(k, _)], _, .single _ inner, ⟨wf, _⟩ => by
    obtain ⟨A, c, B, site⟩ := inner.site wf
    exact ⟨_, c, _, site.embed [.quoted k.text, Word.sym .colon, Word.space] [] follows_nothing
      (fun _ => before_separator (P := [.quoted k.text]) (.inr rfl))
      (by simp [Expr.entryWords]) (by simp), by simp⟩
  | (k, _) :: e' :: more, _, .head _ _ _ inner, ⟨wf, _⟩ => by
    obtain ⟨A, c, B, site⟩ := inner.site wf
    exact ⟨_, c, _, site.embed [.quoted k.text, Word.sym .colon, Word.space]
      ([Word.sym .comma, Word.space] ++ Expr.entryWords (e' :: more))
      (follows_symbol rfl rfl (by decide) _)
      (fun _ => before_separator (P := [.quoted k.text]) (.inr rfl))
      (by simp [Expr.entryWords]) (by simp), by simp⟩
  | (k, v) :: _ :: _, _, .tail _ _ inner, ⟨_, wfs⟩ => by
    obtain ⟨A, c, B, site, -⟩ := inner.site wfs
    exact ⟨_, c, _, site.embed ([.quoted k.text, Word.sym .colon, Word.space] ++ v.words ++
      [Word.sym .comma, Word.space]) [] follows_nothing
      (fun _ => before_separator (.inl rfl) _) (by simp [Expr.entryWords]) (by simp), by simp⟩

end

section Gaps

variable {p : Option TokenKind} {a b : List TokenKind} {k k' : TokenKind}

/-- After tokens with no gap that end an operand, the gaps are those of what follows, read
after a closing parenthesis. -/
theorem signGaps_append_ended (free : signGaps p a = 0)
    (ends : ∃ front k, a = front ++ [k] ∧ k.endsOperand = true) (b : List TokenKind) :
    signGaps p (a ++ b) = signGaps (some .rparen) b := by
  obtain ⟨front, k, rfl, ends⟩ := ends
  rw [signGaps_append, free, edge_of_last (TokenKind.signPair_of_endsOperand ends),
    lastKind_concat]
  simp only [Nat.zero_add]
  exact signGaps_congr (by rw [opensOperand, opensOperand, ends]; rfl)

/-- The gap where two runs meet depends on the second only through what pairs with its first
token. -/
theorem edge_head_congr (same : ∀ x : TokenKind, x.signPair k = x.signPair k')
    (a b b' : List TokenKind) :
    edge p a (k :: b) = edge p a (k' :: b') := by
  rcases List.eq_nil_or_concat a with rfl | ⟨front, last, rfl⟩
  · rfl
  · simp [edge_concat, same]

theorem ends_of_cons {ks : List TokenKind}
    (ends : ∃ front k', k :: ks = front ++ [k'] ∧ k'.endsOperand = true)
      (nonempty : ks ≠ []) :
    ∃ front k', ks = front ++ [k'] ∧ k'.endsOperand = true := by
  obtain ⟨front, k', same, ends⟩ := ends
  cases front with
  | nil =>
    simp only [List.nil_append, List.cons.injEq] at same
    exact absurd same.2 nonempty
  | cons _ front =>
    simp only [List.cons_append, List.cons.injEq] at same
    exact ⟨front, k', same.2, ends⟩

/-- A token that is no sign starts no gap, whatever came before it. -/
theorem signGaps_cons_of_unsigned (plain : ∀ k', k.signPair k' = false) :
    signGaps p (k :: a) = signGaps (some k) a := by
  rw [signGaps_cons]
  cases a <;> simp [plain]

theorem marks_append_eof : marks p (a ++ [.eof]) = marks p a := by
  unfold marks
  rw [signGaps_append, edge_unpaired
    (TokenKind.signPair_to_unsigned (by decide) (by decide) (by decide) (by decide))]
  simp [signGaps_cons]

end Gaps

theorem UnaryOp.signPair_twice {op : UnaryOp} {u : UpdateOp} (twice : op.twice = some u)
    (x : TokenKind) : x.signPair u.kind = x.signPair op.token := by
  cases op <;> simp only [UnaryOp.twice, Option.some.injEq, reduceCtorEq] at twice <;>
    subst twice <;> cases x <;> rfl

/-- Words that lex, spelled with neither a blank nor a sign first, start with a token that is no
sign. -/
theorem unsigned_head {ws : List Word} {rest : List Char} (lexed : Lex ws rest)
    (plain : NoSignStart (spellAll ws)) (leads : Leads (spellAll ws)) :
    ∃ k ks, kinds ws = k :: ks ∧ k ≠ .sub ∧ k ≠ .add := by
  obtain ⟨c, more, spelled, blank, -⟩ := leads
  cases ws with
  | nil => simp at spelled
  | cons w ws =>
    obtain ⟨lexes, -⟩ := lexed
    have first : w.spell.head? = some c := by
      rw [spellAll_cons] at spelled
      rw [← List.head?_append_of_ne_nil _ lexes.spell_ne_nil, spelled]
      rfl
    obtain ⟨plus, minus⟩ := plain c (by rw [spelled]; rfl)
    cases w with
    | token k text =>
      refine ⟨k, kinds ws, rfl, ?_, ?_⟩ <;> rintro rfl
      · rw [← lexes.symbol (s := "-") rfl] at first
        exact minus (by simpa using first.symm)
      · rw [← lexes.symbol (s := "+") rfl] at first
        exact plus (by simpa using first.symm)
    | quoted s => exact ⟨.string, kinds ws, rfl, by decide, by decide⟩
    | gap g =>
      obtain ⟨-, white, -⟩ := lexes
      obtain ⟨d, g', rfl⟩ : ∃ d g', g = d :: g' := by
        cases g with
        | nil => cases first
        | cons d g' => exact ⟨d, g', rfl⟩
      simp only [Word.spell, List.head?_cons, Option.some.injEq] at first
      subst first
      rw [white d (by simp)] at blank
      cases blank

/-- A word that may stand before a grouping lexes before any operand's text. -/
theorem Opener.lexes {a : Word} (opener : Opener a) {cs : List Char} (leads : Leads cs)
    (rest : List Char) : a.Lexes (cs ++ rest) := by
  rcases opener with rfl | rfl | rfl | ⟨u, rfl⟩ | rfl
  · exact space_lexes leads rest
  · exact sym_lexes (by decide) _
  · exact sym_lexes (by decide) _
  · exact update_lexes u _
  · obtain ⟨c, more, rfl, -, assign⟩ := leads
    refine unary_lexes .not fun d first => ⟨?_, fun sign => absurd sign (by decide)⟩
    simp only [List.cons_append, List.head?_cons, Option.some.injEq] at first
    exact first ▸ assign

theorem UnaryOp.symbol_spell (op : UnaryOp) :
    ∃ y s, (Word.token op.token op.symbol).spell = y :: s ∧ y ≠ '.' := by
  cases op
  · exact ⟨'!', [], rfl, by decide⟩
  · exact ⟨'+', [], rfl, by decide⟩
  · exact ⟨'-', [], rfl, by decide⟩

theorem Opener.spell {a : Word} (opener : Opener a) : ∃ y s, a.spell = y :: s ∧ y ≠ '.' := by
  rcases opener with rfl | rfl | rfl | ⟨u, rfl⟩ | rfl
  · exact ⟨' ', [], rfl, by decide⟩
  · exact ⟨'(', [], rfl, by decide⟩
  · exact ⟨'[', [], rfl, by decide⟩
  · cases u
    · exact ⟨'+', ['+'], rfl, by decide⟩
    · exact ⟨'-', ['-'], rfl, by decide⟩
  · exact ⟨'!', [], rfl, by decide⟩

/-- A sign lexes before any operand's text that starts with another character. -/
theorem sign_lexes (op : UnaryOp) {cs : List Char} (leads : Leads cs)
    (other : cs.head? ≠ op.symbol.toList.head?) (rest : List Char) :
    (Word.token op.token op.symbol).Lexes (cs ++ rest) := by
  obtain ⟨c, more, rfl, -, assign⟩ := leads
  refine unary_lexes op fun d first => ?_
  simp only [List.cons_append, List.head?_cons, Option.some.injEq] at first
  subst first
  refine ⟨assign, fun _ same => other ?_⟩
  rw [← same]
  rfl

/-- Words before a grouping lex as well before the operand's text as before the parenthesis,
when the last of them does. -/
theorem lex_last_swap {A0 : List Word} {a : Word} {R R' : List Char}
    (lexed : Lex (A0 ++ [a]) R) (spelled : ∃ y s, a.spell = y :: s ∧ y ≠ '.')
    (lexes : a.Lexes R') : Lex (A0 ++ [a]) R' := by
  obtain ⟨y, s, spell, point⟩ := spelled
  rw [lex_append] at lexed ⊢
  refine ⟨?_, by simpa using lexes⟩
  have front := lexed.1
  simp only [spellAll_cons, spellAll_nil, List.append_nil, spell, List.cons_append] at front ⊢
  exact front.of_head point

section Relex

variable {e c : Expr} {vs A B : List Word}

theorem GroupAt.lex_front (wf : e.Parsable) (site : GroupAt e.words vs A c B) :
    Lex A ('(' :: (spellAll c.words ++ ')' :: spellAll B)) := by
  have lexed := e.lex_words wf [] follows_nil
  rw [site.whole, lex_append] at lexed
  simpa [TokenKind.symbol?] using lexed.1

theorem GroupAt.lex_operand (site : GroupAt e.words vs A c B) : Lex c.words (spellAll B) := by
  simpa using c.lex_words site.parsable _ (site.follows [] follows_nil)

theorem GroupAt.lex_back (wf : e.Parsable) (site : GroupAt e.words vs A c B) : Lex B [] := by
  have lexed := e.lex_words wf [] follows_nil
  rw [site.whole, lex_append] at lexed
  have inner := lexed.2.2
  rw [lex_append] at inner
  exact inner.2.2

theorem GroupAt.gaps (wf : e.Parsable) (site : GroupAt e.words vs A c B) :
    signGaps none (kinds A ++ .lparen :: (kinds c.words ++ .rparen :: kinds B)) = 0 := by
  have free := (e.settled_words wf).free none
  rw [site.whole] at free
  simpa using free

theorem GroupAt.gaps_back (wf : e.Parsable) (site : GroupAt e.words vs A c B) :
    signGaps (some .rparen) (kinds B) = 0 := by
  have whole := site.gaps wf
  rw [show kinds A ++ .lparen :: (kinds c.words ++ .rparen :: kinds B) =
    (kinds A ++ .lparen :: kinds c.words ++ [.rparen]) ++ kinds B by simp] at whole
  have split := signGaps_append_le (p := none)
    (a := kinds A ++ .lparen :: kinds c.words ++ [.rparen])
    (b := kinds B)
  rw [lastKind_concat] at split
  omega

theorem GroupAt.parens_eq (site : GroupAt e.words vs A c B) :
    e.parens = (kinds A).count .lparen + (kinds c.words).count .lparen +
      (kinds B).count .lparen + 1 := by
  rw [Expr.parens, lparens_eq_count, site.whole]
  simp [List.count_append]
  omega

/-- Where no sign fuses with the operand, the text with the grouping left out lexes as the same
words, and keeps every mark but the parenthesis. -/
theorem GroupAt.kept (wf : e.Parsable) (site : GroupAt e.words vs A c B)
    (front : Lex A (spellAll c.words ++ spellAll B))
    (meeting : edge none (kinds A) (kinds c.words ++ kinds B) = 0) :
    Lex vs [] ∧ marks none (kinds vs) + 1 ≤ e.parens := by
  have settled := c.settled_words site.parsable
  refine ⟨?_, ?_⟩
  · rw [site.dropped, lex_append, lex_append]
    exact ⟨by simpa using front, by simpa using site.lex_operand, site.lex_back wf⟩
  · have gapsA : signGaps none (kinds A) = 0 := by
      have split := signGaps_append_le (p := none) (a := kinds A)
        (b := .lparen :: (kinds c.words ++ .rparen :: kinds B))
      have whole := site.gaps wf
      omega
    have gaps : signGaps none (kinds vs) = 0 := by
      rw [site.dropped, kinds_append, kinds_append, signGaps_append, gapsA, meeting,
        signGaps_append_ended (settled.free _) settled.ends, site.gaps_back wf]
    unfold marks
    rw [gaps, site.parens_eq, site.dropped]
    simp only [kinds_append, List.count_append]
    omega

/-- A sign before an operand that starts with the same sign fuses with it into an update
operator: one mark goes with the parenthesis and no gap comes. -/
theorem GroupAt.fused (wf : e.Parsable) {A0 : List Word} {op : UnaryOp} {u : UpdateOp}
    (twice : op.twice = some u)
    (site : GroupAt e.words vs (A0 ++ [.token op.token op.symbol]) c B)
    (head : (spellAll c.words).head? = op.symbol.toList.head?) :
    ∃ ws', spellAll ws' = spellAll vs ∧ Lex ws' [] ∧
      marks none (kinds ws') + 1 ≤ e.parens := by
  have settled := c.settled_words site.parsable
  obtain ⟨σ, single⟩ : ∃ σ, op.symbol.toList = [σ] := by
    cases op <;> simp_all [UnaryOp.twice, UnaryOp.symbol]
  have point : σ ≠ '.' := by
    cases op <;> simp_all [UnaryOp.twice, UnaryOp.symbol] <;> (subst single; decide)
  have front : ∀ rest, Lex A0 (σ :: rest) := by
    have lexed := site.lex_front wf
    rw [lex_append] at lexed
    intro rest
    have before := lexed.1
    simp only [spellAll_cons, spellAll_nil, List.append_nil, Word.token_spell, single,
      List.cons_append, List.nil_append] at before
    exact before.of_head point
  have doubled : u.symbol.toList = [σ, σ] := by
    rw [UnaryOp.twice_symbol twice, String.toList_append, single]
    rfl
  have whole := site.gaps wf
  simp only [kinds_append, kinds_token, kinds_nil, List.append_assoc, List.cons_append,
    List.nil_append] at whole
  rw [signGaps_append] at whole
  have gapsA0 : signGaps none (kinds A0) = 0 := by omega
  have meeting : ∀ more, edge none (kinds A0) (u.kind :: more) = 0 := by
    intro more
    rw [edge_head_congr (UnaryOp.signPair_twice twice) _ _
      (.lparen :: (kinds c.words ++ .rparen :: kinds B))]
    omega
  have count := site.parens_eq
  have noParen : (op.token == .lparen) = false ∧ (u.kind == .lparen) = false := by
    cases op <;> cases u <;> simp_all [UnaryOp.twice, UnaryOp.token, UpdateOp.kind]
  have updatePlain : ∀ k', u.kind.signPair k' = false := by
    cases u <;> exact TokenKind.signPair_of_unsigned (by decide) (by decide)
  have updateEnds : opensOperand (some u.kind) = false := by cases u <;> rfl
  obtain ⟨tail, words | words⟩ := c.sign_start site.parsable twice head
  · -- the operand starts with the sign: the two signs are the update operator
    have operand := site.lex_operand
    rw [words] at operand settled
    have nonempty : kinds tail ≠ [] := by
      intro empty
      obtain ⟨front, k, same, ends⟩ := settled.ends
      rw [kinds_token, empty] at same
      have last : k = op.token := by
        cases front with
        | nil =>
          simp only [List.nil_append, List.cons.injEq, and_true] at same
          exact same.symm
        | cons x xs => simp at same
      subst last
      cases op <;> simp_all [UnaryOp.twice, UnaryOp.token, TokenKind.endsOperand]
    refine ⟨A0 ++ .token u.kind u.symbol :: (tail ++ B), ?_, ?_, ?_⟩
    · rw [site.dropped, words]
      simp [doubled, single]
    · rw [lex_append]
      refine ⟨?_, update_lexes u _, ?_⟩
      · simpa [doubled] using front _
      · rw [lex_append]
        exact ⟨by simpa using operand.2, site.lex_back wf⟩
    · have free : signGaps (some u.kind) (kinds tail) = 0 := by
        have drop := signGaps_cons_le (p := none) (k := op.token) (l := kinds tail)
        have mono := signGaps_mono (p := some u.kind) (q := some op.token) (l := kinds tail)
          (fun opens => by rw [updateEnds] at opens; cases opens)
        have all := settled.free none
        rw [kinds_token] at all
        omega
      have gaps : signGaps none (kinds (A0 ++ .token u.kind u.symbol :: (tail ++ B))) = 0 := by
        rw [kinds_append, kinds_token, kinds_append, signGaps_append, gapsA0, meeting,
          signGaps_cons_of_unsigned updatePlain,
          signGaps_append_ended free (ends_of_cons settled.ends nonempty), site.gaps_back wf]
      unfold marks
      rw [gaps, count, words]
      simp [List.count_append, List.count_cons, noParen.1, noParen.2]
      omega
  · -- the operand starts with the update operator: it comes first, and then the sign
    have operand := site.lex_operand
    rw [words] at operand settled
    obtain ⟨plain, leads⟩ := c.update_head site.parsable u tail words
    obtain ⟨k, ks, first, sub, add⟩ := unsigned_head operand.2 plain leads
    have other : (spellAll tail).head? ≠ op.symbol.toList.head? := by
      obtain ⟨d, more, spelled, -⟩ := leads
      obtain ⟨plus, minus⟩ := plain d (by rw [spelled]; rfl)
      rw [spelled, single]
      intro same
      simp only [List.head?_cons, Option.some.injEq] at same
      subst same
      cases op <;> simp_all [UnaryOp.twice, UnaryOp.symbol]
    refine ⟨A0 ++ .token u.kind u.symbol :: .token op.token op.symbol :: (tail ++ B), ?_, ?_,
      ?_⟩
    · rw [site.dropped, words]
      simp [doubled, single]
    · rw [lex_append]
      refine ⟨?_, update_lexes u _, ?_, ?_⟩
      · simpa [doubled] using front _
      · simpa using sign_lexes op leads other (spellAll B)
      · rw [lex_append]
        exact ⟨by simpa using operand.2, site.lex_back wf⟩
    · have free : signGaps (some u.kind) (kinds tail) = 0 := by
        have drop := signGaps_cons_le (p := none) (k := u.kind) (l := kinds tail)
        have all := settled.free none
        rw [kinds_token] at all
        omega
      have after : signGaps (some op.token) (kinds tail ++ kinds B) =
          signGaps (some u.kind) (kinds tail ++ kinds B) := by
        rw [first, List.cons_append]
        exact signGaps_plain_head (TokenKind.signPair_of_unsigned sub add)
      have gaps : signGaps none
          (kinds (A0 ++ .token u.kind u.symbol :: .token op.token op.symbol :: (tail ++ B)))
            = 0 := by
        rw [kinds_append, kinds_token, kinds_token, kinds_append, signGaps_append, gapsA0, meeting,
          signGaps_cons_of_unsigned updatePlain, signGaps_cons, updateEnds, Bool.false_and,
          Bool.toNat_false, Nat.zero_add, after,
          signGaps_append_ended free
            (ends_of_cons settled.ends (by simp [first])), site.gaps_back wf]
      unfold marks
      rw [gaps, count, words]
      simp [List.count_append, List.count_cons, noParen.1, noParen.2]
      omega

/-- The text of a parsable expression with one grouping left out scans, with one grouping mark
fewer than the expression has groupings. -/
theorem GroupAt.relex (wf : e.Parsable) (site : GroupAt e.words vs A c B) :
    ∃ (toks : List Token) (pos : Position),
      scan (String.ofList (spellAll vs)) = .ok (toks ++ [⟨.eof, "", pos⟩]) ∧
      (∀ t ∈ toks, t.kind ≠ .comment) ∧
        marks none (toks.map (·.kind)) + 1 ≤ e.parens := by
  suffices reread : ∃ ws', spellAll ws' = spellAll vs ∧ Lex ws' [] ∧
      marks none (kinds ws') + 1 ≤ e.parens by
    obtain ⟨ws', spelled, lexed, fewer⟩ := reread
    obtain ⟨toks, pos, shaped, plain, scanned⟩ := scan_words lexed
    refine ⟨toks, pos, spelled ▸ scanned, plain, ?_⟩
    have same : toks.map (·.kind) = kinds ws' := by
      rw [kinds, ← shaped, List.map_map]
      rfl
    rw [same]
    exact fewer
  have leads := c.lead_words site.parsable
  rcases site.before with rfl | ⟨A0, a, rfl, opener, quiet⟩ | ⟨A0, op, u, twice, rfl⟩
  · -- the grouping starts the text
    obtain ⟨lexed, fewer⟩ := site.kept wf trivial rfl
    exact ⟨vs, rfl, lexed, fewer⟩
  · -- after an opener the words lex as they are
    have front : Lex (A0 ++ [a]) (spellAll c.words ++ spellAll B) :=
      lex_last_swap (site.lex_front wf) opener.spell (opener.lexes leads _)
    obtain ⟨lexed, fewer⟩ := site.kept wf front (by simpa using quiet [] none _)
    exact ⟨vs, rfl, lexed, fewer⟩
  · by_cases fuse : (spellAll c.words).head? = op.symbol.toList.head?
    · exact site.fused wf twice fuse
    · -- a sign before an operand that starts otherwise stays apart from it
      have front : Lex (A0 ++ [.token op.token op.symbol]) (spellAll c.words ++ spellAll B) :=
        lex_last_swap (site.lex_front wf) op.symbol_spell (sign_lexes op leads fuse _)
      have meeting : edge none (kinds (A0 ++ [.token op.token op.symbol]))
          (kinds c.words ++ kinds B) = 0 := by
        rw [kinds_append, kinds_token, kinds_nil, edge_concat]
        cases pair : (kinds c.words ++ kinds B).head?.any op.token.signPair
        · simp
        · exfalso
          obtain ⟨front, k, same, -⟩ := (c.settled_words site.parsable).ends
          have nonempty : kinds c.words ≠ [] := by simp [same]
          rw [List.head?_append_of_ne_nil _ nonempty] at pair
          obtain ⟨rest, spelled⟩ := (c.startsWith_iff op.symbol).mp
            (c.sign_of_kind site.parsable pair).2
          apply fuse
          rw [spelled, List.head?_append_of_ne_nil _ (by cases op <;> simp [UnaryOp.symbol])]
      obtain ⟨lexed, fewer⟩ := site.kept wf front meeting
      exact ⟨vs, rfl, lexed, fewer⟩

end Relex

/-- Parsable expressions with one canonical text have as many groupings. -/
theorem Expr.parens_eq_of_format {e e' : Expr} (wf : e.Parsable) (wf' : e'.Parsable)
    (same : e'.format = e.format) : e'.parens = e.parens := by
  obtain ⟨toks, pos, shaped, -, scanned⟩ := Expr.scan_format wf
  obtain ⟨toks', pos', shaped', -, scanned'⟩ := Expr.scan_format wf'
  rw [same, scanned, Except.ok.injEq] at scanned'
  have equal : toks = toks' := List.append_inj_left' scanned' rfl
  rw [Expr.parens, Expr.parens, lparens_eq_count, lparens_eq_count, kinds, kinds, ← shaped,
    ← shaped', equal]

/-- Every pair of parentheses the formatter puts around an operand is needed: leaving one out of
the text of a parsable expression, the text no longer reads back as that expression. -/
theorem formatted_groupings_needed {e : Expr} (wf : e.Parsable) {vs : List Word}
    (dropped : e.Ungrouped vs) :
    (∃ pre mid post, e.format.toList = pre ++ '(' :: (mid ++ ')' :: post) ∧
      spellAll vs = pre ++ (mid ++ post)) ∧
    ∀ e', parseExpression (String.ofList (spellAll vs)) = .ok e' → e'.erase ≠ e.erase := by
  obtain ⟨A, c, B, site⟩ := dropped.site wf
  refine ⟨⟨spellAll A, spellAll c.words, spellAll B, ?_, ?_⟩, ?_⟩
  · rw [← e.spell_words, site.whole]
    simp [TokenKind.symbol?]
  · rw [site.dropped]
    simp
  · intro e' parsed same
    obtain ⟨toks, pos, scanned, plain, fewer⟩ := site.relex wf
    obtain ⟨ts, scanned', counted⟩ := parens_le_marks parsed
    rw [scanned, Except.ok.injEq] at scanned'
    subst scanned'
    have kept : (toks ++ [(⟨.eof, "", pos⟩ : Token)]).filter (·.kind != .comment) =
        toks ++ [⟨.eof, "", pos⟩] := by
      rw [List.filter_eq_self]
      intro t mem
      simp only [List.mem_append, List.mem_singleton] at mem
      rcases mem with mem | rfl
      · simpa using plain t mem
      · rfl
    rw [kept, List.map_append, List.map_singleton, marks_append_eof] at counted
    have equal := Expr.parens_eq_of_format wf (parseExpression_parsable parsed)
      (Expr.format_eq_of_erase same)
    omega

/-- `a * (b + c)` without its parentheses is `a * b + c`, which reads as another tree. -/
theorem formatted_groupings_needed_product :
    parseExpression "a * (b + c)" = .ok (.binary .mul (.var "a" ⟨1, 1, 0⟩)
      (.binary .add (.var "b" ⟨1, 6, 5⟩) (.var "c" ⟨1, 10, 9⟩) ⟨1, 6, 5⟩)
        ⟨1, 1, 0⟩) ∧
    ∀ e', parseExpression "a * b + c" = .ok e' →
      e'.erase ≠ (Expr.binary .mul (.var "a" ⟨1, 1, 0⟩)
        (.binary .add (.var "b" ⟨1, 6, 5⟩) (.var "c" ⟨1, 10, 9⟩) ⟨1, 6, 5⟩)
          ⟨1, 1, 0⟩).erase := by
  have parsed : parseExpression "a * (b + c)" = .ok (.binary .mul (.var "a" ⟨1, 1, 0⟩)
      (.binary .add (.var "b" ⟨1, 6, 5⟩) (.var "c" ⟨1, 10, 9⟩) ⟨1, 6, 5⟩)
        ⟨1, 1, 0⟩) := by
    cbv
  refine ⟨parsed, ?_⟩
  have needed := (formatted_groupings_needed (parseExpression_parsable parsed)
    (.right .mul _ _ (.drop _))).2
  have text : String.ofList (spellAll ((Expr.var "a" ⟨1, 1, 0⟩).words ++
      [Word.space, .token BinaryOp.mul.token BinaryOp.mul.symbol, Word.space] ++
      (Expr.binary .add (.var "b" ⟨1, 6, 5⟩) (.var "c" ⟨1, 10, 9⟩) ⟨1, 6, 5⟩).words)) =
      "a * b + c" := by
    decide
  rw [← text]
  exact needed

end Quill
