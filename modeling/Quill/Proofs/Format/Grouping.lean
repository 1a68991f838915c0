import Quill.Proofs.Parse.Census

set_option autoImplicit false

/- Signs in canonical text: where an operand is expected, the formatter never writes a sign
straight before a token that starts with the same sign, so the tokens of the text have no sign
gap. -/
namespace Quill

open Scan

namespace Scan

/-- The kinds of the tokens that words scan as. -/
def kinds (ws : List Word) : List TokenKind := (shapes ws).map Prod.fst

@[simp] theorem kinds_nil : kinds [] = [] := rfl

@[simp] theorem kinds_append (ws vs : List Word) : kinds (ws ++ vs) = kinds ws ++ kinds vs := by
  simp [kinds]

@[simp] theorem kinds_token (k : TokenKind) (text : String) (ws : List Word) :
    kinds (.token k text :: ws) = k :: kinds ws := rfl

@[simp] theorem kinds_quoted (s : String) (ws : List Word) :
    kinds (.quoted s :: ws) = .string :: kinds ws := rfl

@[simp] theorem kinds_gap (w : List Char) (ws : List Word) : kinds (.gap w :: ws) = kinds ws := rfl

@[simp] theorem kinds_sym (k : TokenKind) (ws : List Word) :
    kinds (Word.sym k :: ws) = k :: kinds ws := rfl

@[simp] theorem kinds_space (ws : List Word) : kinds (Word.space :: ws) = kinds ws := rfl

theorem kinds_parenthesized_true (ws : List Word) :
    kinds (parenthesized true ws) = .lparen :: (kinds ws ++ [.rparen]) := by
  simp [parenthesized]

/-- What a word needs of the text after it is read off that text's first character, and off
its second after a point. -/
theorem Word.Lexes.of_head {w : Word} {x : Char} {s s' : List Char} (lexes : w.Lexes (x :: s))
    (point : x = '.' → s.head? = s'.head?) : w.Lexes (x :: s') := by
  cases w with
  | token k text =>
    rcases lexes with ⟨kind, name, ends⟩ | ⟨kind, number, ends⟩ | pair |
      ⟨single, sym, c, one, ends⟩
    · exact .inl ⟨kind, name, ends⟩
    · refine .inr (.inl ⟨kind, number, ends.1, ?_⟩)
      rintro d more ⟨⟩
      obtain ⟨d', more', rfl⟩ : ∃ d' more', s = d' :: more' := by
        cases s with
        | nil => simp at point
        | cons d' more' => exact ⟨d', more', rfl⟩
      have same : d' = d := by simpa using point rfl
      subst same
      exact ends.2 d' more' rfl
    · exact .inr (.inr (.inl pair))
    · exact .inr (.inr (.inr ⟨single, sym, c, one, ends⟩))
  | quoted => trivial
  | gap w => exact lexes

/-- Words lex alike before two texts that start with the same character, when it is no point. -/
theorem Lex.of_head {ws : List Word} {y : Char} {r r' : List Char} (lexed : Lex ws (y :: r))
    (point : y ≠ '.') : Lex ws (y :: r') := by
  induction ws with
  | nil => trivial
  | cons w ws ih =>
    obtain ⟨lexes, rest⟩ := lexed
    refine ⟨?_, ih rest⟩
    cases spelled : spellAll ws with
    | nil =>
      rw [spelled, List.nil_append] at lexes
      rw [List.nil_append]
      exact lexes.of_head fun same => absurd same point
    | cons z zs =>
      rw [spelled, List.cons_append] at lexes
      rw [List.cons_append]
      exact lexes.of_head fun _ => by cases zs <;> rfl

/-- A word that lexes is written with at least one character. -/
theorem Word.Lexes.spell_ne_nil {w : Word} {rest : List Char} (lexes : w.Lexes rest) :
    w.spell ≠ [] := by
  cases w with
  | token k text =>
    simp only [Word.spell]
    rcases lexes with ⟨-, name, -⟩ | ⟨-, number, -⟩ | ⟨-, sym⟩ | ⟨-, sym, -⟩
    · exact leads_ne_nil (IsName.leads name)
    · exact leads_ne_nil (IsNumber.leads number)
    all_goals
      cases k <;> simp only [TokenKind.symbol?, Option.some.injEq, reduceCtorEq] at sym <;>
        subst sym <;> simp
  | quoted s => simp [Word.spell, quoteString_toList]
  | gap g => exact lexes.1

/-- A token of a kind that has a symbol is written as that symbol. -/
theorem Word.Lexes.symbol {k : TokenKind} {text : String} {rest : List Char}
    (lexes : (Word.token k text).Lexes rest) {s : String}
      (has : k.symbol? = some s) : s = text := by
  rcases lexes with ⟨rfl, -⟩ | ⟨rfl, -⟩ | ⟨-, sym⟩ | ⟨-, sym, -⟩
  · simp [TokenKind.symbol?] at has
  · simp [TokenKind.symbol?] at has
  all_goals
    rw [has, Option.some.injEq] at sym
    exact sym

end Scan

theorem lparens_eq_count (ws : List Word) : lparens ws = (kinds ws).count .lparen := rfl

/-- The update operator written as a sign twice: `++` for `+`, `--` for `-`. -/
def UnaryOp.twice : UnaryOp → Option UpdateOp
  | .plus => some .inc
  | .minus => some .dec
  | .not => none

namespace UnaryOp

/-- A sign pairs with itself and with the update operator that doubles it, and nothing else
pairs with anything. -/
theorem twice_of_signPair {op : UnaryOp} {k : TokenKind} (pair : op.token.signPair k = true) :
    ∃ u, op.twice = some u ∧ (k = op.token ∨ k = u.kind) := by
  cases op <;> cases k <;> simp_all [token, twice, TokenKind.signPair, UpdateOp.kind]

theorem isSign_of_twice {op : UnaryOp} {u : UpdateOp} (twice : op.twice = some u) :
    op.isSign = true := by
  cases op <;> simp_all [UnaryOp.twice, isSign]

theorem twice_symbol {op : UnaryOp} {u : UpdateOp} (twice : op.twice = some u) :
    u.symbol = op.symbol ++ op.symbol := by
  cases op <;> simp only [UnaryOp.twice, Option.some.injEq, reduceCtorEq] at twice <;>
    subst twice <;> rfl

theorem token_symbol (op : UnaryOp) : op.token.symbol? = some op.symbol := by
  cases op <;> rfl

theorem symbol_head {op : UnaryOp} {u : UpdateOp} (twice : op.twice = some u) :
    op.symbol.toList.head? = some '+' ∨ op.symbol.toList.head? = some '-' := by
  cases op <;> simp_all [UnaryOp.twice, UnaryOp.symbol]

end UnaryOp

theorem UpdateOp.kind_symbol (u : UpdateOp) : u.kind.symbol? = some u.symbol := by
  cases u <;> rfl

/-- An operator whose symbol starts with a sign is that sign, or the update operator that
doubles it. -/
theorem TokenKind.sign_symbol {k : TokenKind} {text : String} {op : UnaryOp} {u : UpdateOp}
    (twice : op.twice = some u) (sym : k.symbol? = some text)
    (head : text.toList.head? = op.symbol.toList.head?) :
    (k = op.token ∧ text = op.symbol) ∨ (k = u.kind ∧ text = u.symbol) := by
  cases op <;> simp only [UnaryOp.twice, Option.some.injEq, reduceCtorEq] at twice <;>
    subst twice <;>
    cases k <;> simp only [TokenKind.symbol?, Option.some.injEq, reduceCtorEq] at sym <;>
    subst sym <;> simp_all [UnaryOp.symbol, UnaryOp.token, UpdateOp.kind, UpdateOp.symbol]

namespace Scan

/-- A word that lexes and starts with a sign is that sign, or the update operator that doubles
it. -/
theorem Word.Lexes.sign_start {w : Word} {rest : List Char} (lexes : w.Lexes rest)
    {op : UnaryOp} {u : UpdateOp} (twice : op.twice = some u)
    (head : w.spell.head? = op.symbol.toList.head?) :
    w = .token op.token op.symbol ∨ w = .token u.kind u.symbol := by
  obtain ⟨c, first, sign⟩ : ∃ c, w.spell.head? = some c ∧ (c = '+' ∨ c = '-') := by
    rcases UnaryOp.symbol_head twice with sign | sign <;> rw [sign] at head
    · exact ⟨'+', head, .inl rfl⟩
    · exact ⟨'-', head, .inr rfl⟩
  have unsigned : c ≠ '+' ∧ c ≠ '-' → False := fun ⟨plus, minus⟩ => sign.elim plus minus
  cases w with
  | token k text =>
    rcases lexes with ⟨-, name, -⟩ | ⟨-, number, -⟩ | ⟨-, sym⟩ | ⟨-, sym, -⟩
    · exact (unsigned (IsName.noSignStart name c first)).elim
    · exact (unsigned (IsNumber.noSignStart number c first)).elim
    all_goals
      rcases TokenKind.sign_symbol twice sym head with ⟨rfl, rfl⟩ | ⟨rfl, rfl⟩
      · exact .inl rfl
      · exact .inr rfl
  | quoted s =>
    simp only [Word.spell, quoteString_toList, List.cons_append, List.head?_cons,
      Option.some.injEq] at first
    subst first
    simp at sign
  | gap g =>
    obtain ⟨-, blank, -⟩ := lexes
    obtain ⟨g', rfl⟩ : ∃ g', g = c :: g' := by
      cases g with
      | nil => cases first
      | cons d g' =>
        simp only [Word.spell, List.head?_cons, Option.some.injEq] at first
        exact ⟨g', by rw [first]⟩
    have white := blank c (by simp)
    rcases sign with rfl | rfl <;> simp [isBlank] at white

end Scan

/-- The first word of a parsable expression's text lexes before the rest of that text, is
written with at least one character, and is no blank. -/
theorem Expr.head_word (e : Expr) (wf : e.Parsable) :
    ∃ w ws, e.words = w :: ws ∧ w.Lexes (spellAll ws) ∧ w.spell ≠ [] ∧ ∀ g,
      w ≠ .gap g := by
  obtain ⟨c, more, spelled, blank, -⟩ := e.lead_words wf
  have lexed := e.lex_words wf [] follows_nil
  cases words : e.words with
  | nil => simp [words] at spelled
  | cons w ws =>
    rw [words] at lexed spelled
    obtain ⟨lexes, -⟩ := lexed
    rw [List.append_nil] at lexes
    refine ⟨w, ws, rfl, lexes, lexes.spell_ne_nil, ?_⟩
    rintro g rfl
    obtain ⟨nonempty, white, -⟩ := lexes
    obtain ⟨d, g', rfl⟩ := List.exists_cons_of_ne_nil nonempty
    simp only [spellAll_cons, Word.spell, List.cons_append, List.cons.injEq] at spelled
    rw [← spelled.1, white d (by simp)] at blank
    cases blank

/-- A parsable expression's text starts with the characters of its first word. -/
theorem Expr.head_spell {e : Expr} {w : Word} {ws : List Word} (words : e.words = w :: ws)
    (written : w.spell ≠ []) : (spellAll e.words).head? = w.spell.head? := by
  rw [words, spellAll_cons, List.head?_append_of_ne_nil _ written]

/-- An expression whose text starts with a sign starts with that sign's token, or with the
update operator that doubles it. -/
theorem Expr.sign_start (e : Expr) (wf : e.Parsable) {op : UnaryOp} {u : UpdateOp}
    (twice : op.twice = some u) (head : (spellAll e.words).head? = op.symbol.toList.head?) :
    ∃ tail, e.words = .token op.token op.symbol :: tail ∨
      e.words = .token u.kind u.symbol :: tail := by
  obtain ⟨w, ws, words, lexes, written, -⟩ := e.head_word wf
  rw [e.head_spell words written] at head
  rcases lexes.sign_start twice head with rfl | rfl
  · exact ⟨ws, .inl words⟩
  · exact ⟨ws, .inr words⟩

/-- An expression whose first token pairs with a sign starts with that sign. -/
theorem Expr.sign_of_kind (e : Expr) (wf : e.Parsable) {op : UnaryOp}
    (pair : (kinds e.words).head?.any op.token.signPair = true) :
    op.isSign = true ∧ e.format.startsWith op.symbol = true := by
  obtain ⟨w, ws, words, lexes, -, plain⟩ := e.head_word wf
  rw [String.startsWith_string_iff, ← e.spell_words, words, spellAll_cons]
  cases w with
  | token k text =>
    simp only [words, kinds_token, List.head?_cons, Option.any_some] at pair
    obtain ⟨u, twice, same⟩ := UnaryOp.twice_of_signPair pair
    have sign := UnaryOp.isSign_of_twice twice
    refine ⟨sign, ?_⟩
    show op.symbol.toList <+: text.toList ++ spellAll ws
    rcases same with rfl | rfl
    · rw [← lexes.symbol op.token_symbol]
      exact List.prefix_append _ _
    · rw [← lexes.symbol u.kind_symbol, UnaryOp.twice_symbol twice, String.toList_append,
        List.append_assoc]
      exact List.prefix_append _ _
  | quoted s =>
    simp only [words, kinds_quoted, List.head?_cons, Option.any_some] at pair
    cases op <;> simp [UnaryOp.token, TokenKind.signPair] at pair
  | gap g => exact absurd rfl (plain g)

namespace TokenKind

/-- Only a sign starts a sign gap. -/
theorem signPair_of_unsigned {k : TokenKind} (sub : k ≠ .sub) (add : k ≠ .add)
    (k' : TokenKind) :
    k.signPair k' = false := by
  cases k <;> simp_all [signPair]

theorem signPair_cases {k k' : TokenKind} (pair : k.signPair k' = true) :
    (k = .sub ∧ (k' = .sub ∨ k' = .dec)) ∨ (k = .add ∧ (k' = .add ∨ k' = .inc)) := by
  by_cases sub : k = .sub
  · subst sub
    cases k' <;> simp_all [signPair]
  by_cases add : k = .add
  · subst add
    cases k' <;> simp_all [signPair]
  · rw [signPair_of_unsigned sub add] at pair
    cases pair

/-- Only a sign or an update operator ends a sign gap. -/
theorem signPair_to_unsigned {k' : TokenKind} (sub : k' ≠ .sub) (dec : k' ≠ .dec)
    (add : k' ≠ .add) (inc : k' ≠ .inc) (k : TokenKind) : k.signPair k' = false := by
  cases pair : k.signPair k' with
  | false => rfl
  | true =>
    rcases signPair_cases pair with ⟨-, rfl | rfl⟩ | ⟨-, rfl | rfl⟩ <;> contradiction

end TokenKind

/-- Token kinds in which no sign that stands for an operand is followed by a token that starts
with the same sign, whatever token came before them. -/
def SignFree (ks : List TokenKind) : Prop := ∀ p, signGaps p ks = 0

/-- The token kinds of an operand's canonical text: free of sign gaps, and ending with the end
of an operand. -/
structure Settled (ks : List TokenKind) : Prop where
  free : SignFree ks
  ends : ∃ front k, ks = front ++ [k] ∧ k.endsOperand = true

section Settled

variable {k : TokenKind} {ks a b : List TokenKind} {ws : List Word}

theorem signFree_nil : SignFree [] := fun _ => rfl

/-- A token that is no sign starts no gap. -/
theorem SignFree.cons (plain : ∀ k', k.signPair k' = false) (free : SignFree ks) :
    SignFree (k :: ks) := by
  intro p
  rw [signGaps_cons, free]
  cases ks <;> simp [plain]

/-- A token that no sign pairs with ends no gap. -/
theorem edge_unpaired (next : ∀ k' : TokenKind, k'.signPair k = false) (p : Option TokenKind)
    (a b : List TokenKind) : edge p a (k :: b) = 0 := by
  rcases List.eq_nil_or_concat a with rfl | ⟨front, last, rfl⟩
  · rfl
  · simp [edge_concat, next]

theorem SignFree.append_unpaired (free : SignFree a)
    (next : ∀ k' : TokenKind, k'.signPair k = false)
    (free' : SignFree (k :: b)) : SignFree (a ++ k :: b) := by
  intro p
  rw [signGaps_append, free, edge_unpaired next, free']

/-- After the end of an operand no gap starts where the next tokens meet it. -/
theorem Settled.append (s : Settled a) (free : SignFree b) : SignFree (a ++ b) := by
  intro p
  obtain ⟨front, k, rfl, ends⟩ := s.ends
  rw [signGaps_append, s.free, edge_of_last (TokenKind.signPair_of_endsOperand ends), free]

/-- After the end of an operand even a sign starts no gap: it is a binary operator. -/
theorem Settled.append_cons (s : Settled a) (free : SignFree b) (k : TokenKind) :
    SignFree (a ++ k :: b) := by
  intro p
  obtain ⟨front, k', rfl, ends⟩ := s.ends
  rw [signGaps_append, s.free, edge_of_last (TokenKind.signPair_of_endsOperand ends),
    lastKind_concat, signGaps_cons, free]
  simp [opensOperand, ends]

theorem Settled.then (s : Settled a) (k : TokenKind) (t : Settled b) : Settled (a ++ k :: b) := by
  obtain ⟨front, k', rfl, ends⟩ := t.ends
  exact ⟨s.append_cons t.free k, a ++ k :: front, k', by simp, ends⟩

theorem Settled.append_settled (s : Settled a) (t : Settled b) : Settled (a ++ b) := by
  obtain ⟨front, k', rfl, ends⟩ := t.ends
  exact ⟨s.append t.free, a ++ front, k', by simp, ends⟩

theorem Settled.cons (plain : ∀ k', k.signPair k' = false) (s : Settled ks) :
    Settled (k :: ks) := by
  obtain ⟨front, k', rfl, ends⟩ := s.ends
  exact ⟨SignFree.cons plain s.free, k :: front, k', rfl, ends⟩

theorem Settled.cons_unsigned (sub : k ≠ .sub) (add : k ≠ .add) (s : Settled ks) :
    Settled (k :: ks) :=
  s.cons (TokenKind.signPair_of_unsigned sub add)

theorem settled_single (ends : k.endsOperand = true) : Settled [k] :=
  ⟨SignFree.cons (TokenKind.signPair_of_endsOperand ends) signFree_nil, [], k, rfl, ends⟩

/-- Tokens between an opening bracket and a closing one. -/
theorem settled_wrap {o c : TokenKind} (opens : ∀ k', o.signPair k' = false)
    (ends : c.endsOperand = true) (next : ∀ k' : TokenKind, k'.signPair c = false)
    (free : SignFree ks) : Settled (o :: (ks ++ [c])) := by
  have inner := SignFree.append_unpaired free next (settled_single ends).free
  exact ⟨SignFree.cons opens inner, o :: ks, c, rfl, ends⟩

/-- Tokens between brackets. -/
theorem settled_brackets {o c : TokenKind} (opening : o ∈ [.lparen, .lbracket, .lbrace])
    (closing : c ∈ [.rparen, .rbracket, .rbrace]) (free : SignFree ks) :
    Settled (o :: (ks ++ [c])) := by
  have opens : ∀ k', o.signPair k' = false := by
    simp only [List.mem_cons, List.not_mem_nil, or_false] at opening
    rcases opening with rfl | rfl | rfl <;>
      exact TokenKind.signPair_of_unsigned (by decide) (by decide)
  simp only [List.mem_cons, List.not_mem_nil, or_false] at closing
  rcases closing with rfl | rfl | rfl <;>
    exact settled_wrap opens rfl
      (TokenKind.signPair_to_unsigned (by decide) (by decide) (by decide) (by decide)) free

theorem Settled.parenthesized (s : Settled (kinds ws)) (paren : Bool) :
    Settled (kinds (parenthesized paren ws)) := by
  cases paren
  · exact s
  · rw [kinds_parenthesized_true]
    exact settled_brackets (by simp) (by simp) s.free

end Settled

mutual

/-- The canonical text of a parsable expression has no sign gap, and ends with the end of an
operand. -/
theorem Expr.settled_words : (e : Expr) → e.Parsable → Settled (kinds e.words)
  | .literal v raw _, _ => by
    unfold Expr.words literalWords
    split <;> exact settled_single rfl
  | .var _ _, _ => settled_single rfl
  | .field obj _ _ _, ⟨wf, _⟩ => by
    simp only [Expr.words, kinds_append, kinds_sym, kinds_token, kinds_nil]
    exact ((obj.settled_words wf).parenthesized _).append_settled
      ((settled_single rfl).cons_unsigned (by decide) (by decide))
  | .index obj key _, ⟨wf, wf'⟩ => by
    simp only [Expr.words, kinds_append, kinds_sym, kinds_nil, List.append_assoc, List.cons_append,
      List.nil_append]
    exact ((obj.settled_words wf).parenthesized _).append_settled
      (settled_brackets (by simp) (by simp) (key.settled_words wf').free)
  | .call callee args _, ⟨wf, wfs⟩ => by
    simp only [Expr.words, kinds_append, kinds_sym, kinds_nil, List.append_assoc, List.cons_append,
      List.nil_append]
    exact ((callee.settled_words wf).parenthesized _).append_settled
      (settled_brackets (by simp) (by simp) (Expr.signFree_listWords args wfs))
  | .array items _, wfs => by
    simp only [Expr.words, kinds_append, kinds_sym, kinds_nil, List.cons_append, List.nil_append]
    exact settled_brackets (by simp) (by simp) (Expr.signFree_listWords items wfs)
  | .map entries _, wfs => by
    simp only [Expr.words, kinds_append, kinds_sym, kinds_nil, List.cons_append, List.nil_append]
    exact settled_brackets (by simp) (by simp) (Expr.signFree_entryWords entries wfs)
  | .binary op lhs rhs _, ⟨wl, wr⟩ => by
    simp only [Expr.words, kinds_append, kinds_space, kinds_token, List.append_assoc,
      List.cons_append, List.nil_append]
    exact ((lhs.settled_words wl).parenthesized _).then _ ((rhs.settled_words wr).parenthesized _)
  | .unary op arg _, wf => by
    simp only [Expr.words, kinds_token]
    have inner := (arg.settled_words wf).parenthesized (op.parenArg arg)
    obtain ⟨front, k, same, ends⟩ := inner.ends
    refine ⟨fun p => ?_, op.token :: front, k, by rw [same]; rfl, ends⟩
    have unpaired :
        (kinds (parenthesized (op.parenArg arg) arg.words)).head?.any op.token.signPair =
          false := by
      cases paren : op.parenArg arg
      · cases pair : (kinds arg.words).head?.any op.token.signPair with
        | false => exact pair
        | true =>
          obtain ⟨sign, starts⟩ := arg.sign_of_kind wf pair
          simp [UnaryOp.parenArg, sign, starts] at paren
      · rw [kinds_parenthesized_true]
        cases op <;> rfl
    rw [signGaps_cons, inner.free, unpaired, Bool.and_false]
    rfl
  | .update u arg before _, ⟨wf, _⟩ => by
    cases before
    · simp only [Expr.words, Bool.false_eq_true, ↓reduceIte, kinds_append, kinds_token,
        kinds_nil]
      exact (arg.settled_words wf).append_settled (settled_single (by cases u <;> rfl))
    · simp only [Expr.words, ↓reduceIte, kinds_token]
      exact (arg.settled_words wf).cons_unsigned (by cases u <;> decide) (by cases u <;> decide)

theorem Expr.signFree_listWords : (es : List Expr) → Expr.ListParsable es →
    SignFree (kinds (Expr.listWords es))
  | [], _ => signFree_nil
  | [e], ⟨wf, _⟩ => by
    rw [Expr.listWords]
    exact (e.settled_words wf).free
  | e :: e' :: more, ⟨wf, wfs⟩ => by
    simp only [Expr.listWords, kinds_append, kinds_sym, kinds_space, List.append_assoc,
      List.cons_append, List.nil_append]
    exact (e.settled_words wf).append (SignFree.cons
      (TokenKind.signPair_of_unsigned (by decide) (by decide)) (Expr.signFree_listWords _ wfs))

theorem Expr.signFree_entryWords : (es : List (MapKey × Expr)) → Expr.EntriesParsable es →
    SignFree (kinds (Expr.entryWords es))
  | [], _ => signFree_nil
  | [(_, v)], ⟨wf, _⟩ => by
    simp only [Expr.entryWords, kinds_quoted, kinds_sym, kinds_space,
      List.cons_append, List.nil_append]
    exact SignFree.cons (TokenKind.signPair_of_unsigned (by decide) (by decide))
      (SignFree.cons (TokenKind.signPair_of_unsigned (by decide) (by decide))
        (v.settled_words wf).free)
  | (_, v) :: e' :: more, ⟨wf, wfs⟩ => by
    simp only [Expr.entryWords, kinds_append, kinds_quoted, kinds_sym, kinds_space,
      List.append_assoc, List.cons_append, List.nil_append]
    exact SignFree.cons (TokenKind.signPair_of_unsigned (by decide) (by decide))
      (SignFree.cons (TokenKind.signPair_of_unsigned (by decide) (by decide))
        ((v.settled_words wf).append (SignFree.cons
          (TokenKind.signPair_of_unsigned (by decide) (by decide))
          (Expr.signFree_entryWords _ wfs))))

end

/-- Text written as `ws`, in parentheses or not, and then `rest` starts with an update operator
only where `ws` does, bare. -/
theorem update_head_append {u : UpdateOp} {b : Bool} {ws rest tail : List Word}
    (written : spellAll ws ≠ [])
    (inner : ∀ tail', ws = .token u.kind u.symbol :: tail' →
      NoSignStart (spellAll tail') ∧ Leads (spellAll tail'))
    (words : parenthesized b ws ++ rest = .token u.kind u.symbol :: tail) :
    NoSignStart (spellAll tail) ∧ Leads (spellAll tail) := by
  cases b
  · obtain ⟨tail', first, rfl⟩ :
        ∃ tail', ws = .token u.kind u.symbol :: tail' ∧ tail = tail' ++ rest := by
      cases ws with
      | nil => simp at written
      | cons w ws =>
        simp only [parenthesized, Bool.false_eq_true, ↓reduceIte, List.cons_append,
          List.cons.injEq] at words
        exact ⟨ws, by rw [words.1], words.2.symm⟩
    obtain ⟨plain, leads⟩ := inner tail' first
    rw [spellAll_append]
    exact ⟨noSignStart_append plain (leads_ne_nil leads) _, leads_append leads _⟩
  · simp only [parenthesized, ↓reduceIte, List.append_assoc, List.cons_append, List.nil_append,
      Word.sym, List.cons.injEq, Word.token.injEq] at words
    cases u <;> simp [UpdateOp.kind] at words

/-- After an update operator that starts a parsable expression's text comes the variable or
member it updates, which starts with no sign. -/
theorem Expr.update_head : (e : Expr) → e.Parsable → ∀ (u : UpdateOp) (tail : List Word),
    e.words = .token u.kind u.symbol :: tail → NoSignStart (spellAll tail) ∧
      Leads (spellAll tail)
  | .literal v raw _, _, u, tail, words => by
    unfold Expr.words literalWords at words
    split at words <;> cases u <;> simp [UpdateOp.kind] at words
  | .var _ _, _, u, tail, words => by cases u <;> simp [Expr.words, UpdateOp.kind] at words
  | .field obj _ _ _, ⟨wf, _⟩, u, tail, words => by
    rw [Expr.words] at words
    exact update_head_append (leads_ne_nil (obj.lead_words wf)) (obj.update_head wf u) words
  | .index obj _ _, ⟨wf, _⟩, u, tail, words => by
    rw [Expr.words, List.append_assoc, List.append_assoc] at words
    exact update_head_append (leads_ne_nil (obj.lead_words wf)) (obj.update_head wf u) words
  | .call callee _ _, ⟨wf, _⟩, u, tail, words => by
    rw [Expr.words, List.append_assoc, List.append_assoc] at words
    exact update_head_append (leads_ne_nil (callee.lead_words wf)) (callee.update_head wf u) words
  | .array _ _, _, u, tail, words => by
    cases u <;> simp [Expr.words, Word.sym, UpdateOp.kind] at words
  | .map _ _, _, u, tail, words => by
    cases u <;> simp [Expr.words, Word.sym, UpdateOp.kind] at words
  | .binary _ lhs _ _, ⟨wl, _⟩, u, tail, words => by
    rw [Expr.words, List.append_assoc] at words
    exact update_head_append (leads_ne_nil (lhs.lead_words wl)) (lhs.update_head wl u) words
  | .unary op _ _, _, u, tail, words => by
    cases op <;> cases u <;> simp [Expr.words, UnaryOp.token, UpdateOp.kind] at words
  | .update _ arg before _, ⟨wf, assignable⟩, u, tail, words => by
    cases before
    · simp only [Expr.words, Bool.false_eq_true, ↓reduceIte] at words
      exact update_head_append (b := false) (leads_ne_nil (arg.lead_words wf))
        (arg.update_head wf u) words
    · simp only [Expr.words, ↓reduceIte, List.cons.injEq] at words
      obtain ⟨-, rfl⟩ := words
      exact ⟨arg.alone_noSignStart wf (Expr.standsAlone_of_assignable assignable),
        arg.lead_words wf⟩

end Quill
