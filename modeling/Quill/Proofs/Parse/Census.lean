import Quill.Proofs.Parse.Positions

set_option autoImplicit false

/- A census of groupings: the canonical text of a tree writes an opening parenthesis for each
call and each operand that needs one, and a parse of any tokens finds a mark for each grouping of
the tree it builds, an opening parenthesis or a gap between two signs. -/
namespace Quill

open Quill.Parser Quill.Parser.Spec Cursor

namespace TokenKind

/-- Kinds that end an operand: after one of them a sign is a binary operator. -/
def endsOperand : TokenKind → Bool
  | ident | string | number | rparen | rbracket | rbrace | inc | dec => true
  | _ => false

/-- A sign followed by a token that starts with the same sign. -/
def signPair : TokenKind → TokenKind → Bool
  | sub, sub | sub, dec | add, add | add, inc => true
  | _, _ => false

theorem signPair_of_endsOperand {k : TokenKind} (ends : k.endsOperand = true) (k' : TokenKind) :
    k.signPair k' = false := by
  cases k <;> cases k' <;> simp_all [endsOperand, signPair]

end TokenKind

/-- Whether an operand is expected after a token of kind `p`, or at the start. -/
def opensOperand : Option TokenKind → Bool
  | none => true
  | some k => !k.endsOperand

/-- The kind of the last of the tokens `ks`, read after a token of kind `p`. -/
def lastKind : Option TokenKind → List TokenKind → Option TokenKind
  | p, [] => p
  | _, k :: ks => lastKind (some k) ks

/-- The places where a sign that stands for an operand, after a token of kind `p`, is followed by
a token that starts with the same sign. -/
def signGaps : Option TokenKind → List TokenKind → Nat
  | _, [] => 0
  | p, k :: ks => (opensOperand p && ks.head?.any k.signPair).toNat + signGaps (some k) ks

/-- The sign gap that the last of the tokens `ks`, read after a token of kind `p`, makes with the
tokens `more` that come next. -/
def edge : Option TokenKind → List TokenKind → List TokenKind → Nat
  | _, [], _ => 0
  | p, [k], more => (opensOperand p && more.head?.any k.signPair).toNat
  | _, k :: k' :: ks, more => edge (some k) (k' :: ks) more

/-- The marks of grouping among tokens read after a token of kind `p`: opening parentheses, and
sign gaps. -/
def marks (p : Option TokenKind) (ks : List TokenKind) : Nat := ks.count .lparen + signGaps p ks

section Gaps

variable {p q : Option TokenKind} {k : TokenKind} {l a b : List TokenKind}

@[simp] theorem signGaps_nil : signGaps p [] = 0 := rfl

theorem signGaps_cons :
    signGaps p (k :: l) = (opensOperand p && l.head?.any k.signPair).toNat +
      signGaps (some k) l := rfl

@[simp] theorem lastKind_nil : lastKind p [] = p := rfl

@[simp] theorem lastKind_cons : lastKind p (k :: l) = lastKind (some k) l := rfl

theorem lastKind_append : lastKind p (a ++ b) = lastKind (lastKind p a) b := by
  induction a generalizing p with
  | nil => rfl
  | cons k a ih => exact ih

theorem lastKind_concat : lastKind p (a ++ [k]) = some k := by
  rw [lastKind_append]
  rfl

/-- The gaps of two runs of tokens: those of each, and the one their meeting may make. -/
theorem signGaps_append :
    signGaps p (a ++ b) = signGaps p a + edge p a b + signGaps (lastKind p a) b := by
  induction a generalizing p with
  | nil => simp [edge]
  | cons k a ih =>
    cases a with
    | nil => simp [signGaps_cons, edge]
    | cons k' a =>
      have step := ih (p := some k)
      rw [List.cons_append, signGaps_cons, step, signGaps_cons (l := k' :: a)]
      simp only [List.cons_append, List.head?_cons, edge, lastKind_cons]
      omega

theorem edge_concat : edge p (a ++ [k]) b =
    (opensOperand (lastKind p a) && b.head?.any k.signPair).toNat := by
  induction a generalizing p with
  | nil => rfl
  | cons k' a ih =>
    cases a with
    | nil => rfl
    | cons k'' a => exact ih

/-- After a token that is no sign, no gap starts at the meeting. -/
theorem edge_of_last {k : TokenKind} (plain : ∀ k', k.signPair k' = false) :
    edge p (a ++ [k]) b = 0 := by
  rw [edge_concat]
  cases b <;> simp [plain]

theorem edge_nil_right : edge p a [] = 0 := by
  induction a generalizing p with
  | nil => rfl
  | cons k a ih =>
    cases a with
    | nil => simp [edge]
    | cons k' a => exact ih

theorem signGaps_append_le : signGaps p a + signGaps (lastKind p a) b ≤ signGaps p (a ++ b) := by
  rw [signGaps_append]
  omega

theorem signGaps_cons_le : signGaps (some k) l ≤ signGaps p (k :: l) := by
  rw [signGaps_cons]
  omega

/-- A gap needs an operand expected before the sign: where more is expected, more gaps count. -/
theorem signGaps_mono (opens : opensOperand p = true → opensOperand q = true) :
    signGaps p l ≤ signGaps q l := by
  cases l with
  | nil => rfl
  | cons k l =>
    simp only [signGaps_cons]
    cases hp : opensOperand p <;> simp_all

theorem signGaps_congr (same : opensOperand p = opensOperand q) : signGaps p l = signGaps q l :=
  Nat.le_antisymm (signGaps_mono fun h => same ▸ h) (signGaps_mono fun h => same.symm ▸ h)

/-- A token that is no sign starts no gap, whatever came before it. -/
theorem signGaps_plain_head (plain : ∀ k', k.signPair k' = false) :
    signGaps p (k :: l) = signGaps q (k :: l) := by
  cases l <;> simp [signGaps_cons, plain]

@[simp] theorem marks_nil : marks p [] = 0 := rfl

theorem marks_cons_le : marks (some k) l ≤ marks p (k :: l) := by
  unfold marks
  have := signGaps_cons_le (p := p) (k := k) (l := l)
  simp only [List.count_cons]
  omega

theorem marks_lparen : marks p (.lparen :: l) = marks (some .lparen) l + 1 := by
  unfold marks
  cases l <;> simp [signGaps_cons, TokenKind.signPair, List.count_cons]
  omega

theorem marks_append_le : marks p a + marks (lastKind p a) b ≤ marks p (a ++ b) := by
  unfold marks
  have := signGaps_append_le (p := p) (a := a) (b := b)
  simp only [List.count_append]
  omega

end Gaps

/-- The opening parentheses among the tokens of words. -/
def lparens (ws : List Scan.Word) : Nat := ((Scan.shapes ws).map Prod.fst).count .lparen

/-- The opening parentheses of an expression's canonical text: one for each call, and one for
each operand written in parentheses. -/
def Expr.parens (e : Expr) : Nat := lparens e.words

section Parens

open Scan

@[simp] theorem lparens_nil : lparens [] = 0 := rfl

@[simp] theorem lparens_append
    (ws vs : List Word) : lparens (ws ++ vs) = lparens ws + lparens vs := by
  simp [lparens, List.count_append]

@[simp] theorem lparens_token (k : TokenKind) (text : String) (ws : List Word) :
    lparens (.token k text :: ws) = (decide (k = .lparen)).toNat + lparens ws := by
  simp only [lparens, shapes_token, List.map_cons, List.count_cons]
  cases k <;> simp
  omega

@[simp] theorem lparens_quoted (s : String) (ws : List Word) :
    lparens (.quoted s :: ws) = lparens ws := by
  simp [lparens]

@[simp] theorem lparens_gap (w : List Char)
    (ws : List Word) : lparens (.gap w :: ws) = lparens ws := by
  simp [lparens]

@[simp] theorem lparens_sym (k : TokenKind) (ws : List Word) :
    lparens (Word.sym k :: ws) = (decide (k = .lparen)).toNat + lparens ws :=
  lparens_token _ _ _

@[simp] theorem lparens_space (ws : List Word) : lparens (Word.space :: ws) = lparens ws :=
  lparens_gap _ _

@[simp] theorem lparens_parenthesized (paren : Bool) (ws : List Word) :
    lparens (parenthesized paren ws) = paren.toNat + lparens ws := by
  cases paren <;> simp [parenthesized]

theorem lparens_literalWords (v : Data) (raw : String) : lparens (literalWords v raw) = 0 := by
  unfold literalWords
  split <;> simp

theorem lparens_listWords :
    (es : List Expr) → lparens (Expr.listWords es) = (es.map Expr.parens).sum := by
  intro es
  induction es with
  | nil => rfl
  | cons e more ih =>
    cases more with
    | nil => simp [Expr.listWords, Expr.parens]
    | cons e' more =>
      simp only [Expr.listWords, lparens_append, ih]
      simp [Expr.parens]

theorem lparens_entryWords : (es : List (MapKey × Expr)) →
    lparens (Expr.entryWords es) = (es.map (·.2.parens)).sum := by
  intro es
  induction es with
  | nil => rfl
  | cons entry more ih =>
    obtain ⟨k, v⟩ := entry
    cases more with
    | nil => simp [Expr.entryWords, Expr.parens]
    | cons e' more =>
      simp only [Expr.entryWords, lparens_append, ih]
      simp [Expr.parens]

end Parens

namespace Expr

variable {v : Data} {raw name : String} {obj key callee lhs rhs arg : Expr} {args items : List Expr}
  {entries : List (MapKey × Expr)} {np p : Position} {bop : BinaryOp} {uop : UnaryOp}
    {u : UpdateOp}
  {before : Bool}

@[simp] theorem parens_literal : (literal v raw p).parens = 0 := lparens_literalWords v raw

@[simp] theorem parens_var : (var name p).parens = 0 := by simp [parens, words]

@[simp] theorem parens_field :
    (field obj name np p).parens = (!obj.standsAlone).toNat + obj.parens := by
  simp [parens, words]

@[simp] theorem parens_index :
    (index obj key p).parens = (!obj.standsAlone).toNat + obj.parens + key.parens := by
  simp [parens, words]

@[simp] theorem parens_call : (call callee args p).parens =
    (!callee.standsAlone).toNat + callee.parens + 1 + (args.map parens).sum := by
  simp [parens, words, lparens_listWords]
  omega

@[simp] theorem parens_array : (array items p).parens = (items.map parens).sum := by
  simp [parens, words, lparens_listWords]

@[simp] theorem parens_map : (map entries p).parens = (entries.map (·.2.parens)).sum := by
  simp [parens, words, lparens_entryWords]

@[simp] theorem parens_binary : (binary bop lhs rhs p).parens =
    (bop.parenLeft lhs.binaryPrecedence?).toNat + lhs.parens +
      (bop.parenRight rhs.binaryPrecedence?).toNat + rhs.parens := by
  have plain : bop.token ≠ .lparen := by cases bop <;> simp [BinaryOp.token]
  simp [parens, words, plain]
  omega

@[simp] theorem parens_unary :
    (unary uop arg p).parens = (uop.parenArg arg).toNat + arg.parens := by
  have plain : uop.token ≠ .lparen := by cases uop <;> simp [UnaryOp.token]
  simp [parens, words, plain]

@[simp] theorem standsAlone_field : (field obj name np p).standsAlone = true := rfl

@[simp] theorem standsAlone_index : (index obj key p).standsAlone = true := rfl

@[simp] theorem standsAlone_call : (call callee args p).standsAlone = true := rfl

@[simp] theorem parens_update : (update u arg before p).parens = arg.parens := by
  cases u <;> cases before <;> simp [parens, words, UpdateOp.kind]

end Expr

/-- Text that starts with no sign. -/
def NoSignStart (cs : List Char) : Prop := ∀ c, cs.head? = some c → c ≠ '+' ∧ c ≠ '-'

theorem noSignStart_append {cs : List Char} (plain : NoSignStart cs) (nonempty : cs ≠ [])
    (more : List Char) : NoSignStart (cs ++ more) := by
  intro c first
  obtain ⟨d, ds, rfl⟩ := List.exists_cons_of_ne_nil nonempty
  exact plain c (by simpa using first)

theorem noSignStart_cons {c : Char} (more : List Char) (plus : c ≠ '+') (minus : c ≠ '-') :
    NoSignStart (c :: more) := by
  intro d first
  simp only [List.head?_cons, Option.some.injEq] at first
  exact first ▸ ⟨plus, minus⟩

theorem leads_ne_nil {cs : List Char} (leads : Leads cs) : cs ≠ [] := by
  obtain ⟨c, more, rfl, -⟩ := leads
  exact List.cons_ne_nil c more

theorem IsName.noSignStart {cs : List Char} (name : Scan.IsName cs) : NoSignStart cs := by
  obtain ⟨c, rest, rfl, start, -⟩ := name
  refine noSignStart_cons rest ?_ ?_ <;> rintro rfl <;> exact absurd start (by decide)

theorem IsNumber.noSignStart {cs : List Char} (number : Scan.IsNumber cs) : NoSignStart cs := by
  obtain ⟨ds, frac, rfl, nonempty, whole, -⟩ := number
  obtain ⟨d, ds, rfl⟩ := List.exists_cons_of_ne_nil nonempty
  have digit := whole d (by simp)
  refine noSignStart_cons _ ?_ ?_ <;> rintro rfl <;> exact absurd digit (by decide)

theorem literalWords_noSignStart {v : Data} {raw : String} (wf : LiteralParsable v raw) :
    NoSignStart (Scan.spellAll (literalWords v raw)) := by
  rcases wf with rfl | ⟨number, read⟩ | ⟨-, found⟩
  · simp only [literalWords, Scan.spellAll_cons, Scan.spellAll_nil, List.append_nil,
      Scan.Word.spell, Scan.quoteString_toList, List.cons_append]
    exact noSignStart_cons _ (by decide) (by decide)
  · have words : literalWords v raw = [.token .number raw] := by
      rcases numberValue_ok read with ⟨n, rfl⟩ | ⟨x, rfl⟩ <;>
        simp [literalWords, isNumberText_of_isNumber number]
    simpa [words, Scan.Word.spell] using IsNumber.noSignStart number
  · rcases keyword?_some found with ⟨rfl, -⟩ | ⟨rfl, -⟩ | ⟨rfl, -⟩
    · simpa [literalWords, Scan.Word.spell] using IsName.noSignStart (isName_keyword true)
    · simpa [literalWords, Scan.Word.spell] using IsName.noSignStart (isName_keyword false)
    · simpa [literalWords, Scan.Word.spell] using IsName.noSignStart isName_null

/-- The text of an operand of a call, an access or a postfix update starts with no sign when
the operand's own text does so whenever it stands alone: else it is in parentheses. -/
theorem Expr.operand_noSignStart (e : Expr)
    (alone : e.standsAlone = true → NoSignStart (Scan.spellAll e.words)) :
    NoSignStart (Scan.spellAll (parenthesized (!e.standsAlone) e.words)) := by
  cases h : e.standsAlone
  · simp only [parenthesized, Bool.not_false, ↓reduceIte, Scan.spellAll_append,
      Scan.spellAll_cons, Scan.spellAll_nil, Scan.Word.sym_spell, TokenKind.symbol?,
      Option.getD_some, String.reduceToList,
      List.append_nil, List.cons_append, List.nil_append]
    exact noSignStart_cons _ (by decide) (by decide)
  · simpa [parenthesized] using alone h

/-- Variables and members, which updates apply to, stand alone. -/
theorem Expr.standsAlone_of_assignable {e : Expr} (assignable : e.assignable = true) :
    e.standsAlone = true := by
  cases e <;> simp_all [Expr.assignable, Expr.standsAlone]

/-- The text of an expression that stands alone starts with no sign: it starts with a literal,
a name, a bracket, a brace or a parenthesis. -/
theorem Expr.alone_noSignStart : (e : Expr) → e.Parsable → e.standsAlone = true →
    NoSignStart (Scan.spellAll e.words)
  | .literal _ _ _, wf, _ => literalWords_noSignStart wf
  | .var _ _, ⟨name, _⟩, _ => by
    simpa [Expr.words, Scan.Word.spell] using IsName.noSignStart name
  | .field obj _ _ _, ⟨wf, _⟩, _ => by
    rw [Expr.words, Scan.spellAll_append]
    exact noSignStart_append (obj.operand_noSignStart (obj.alone_noSignStart wf)) (leads_ne_nil
      (leads_parenthesized _ (obj.lead_words wf))) _
  | .index obj _ _, ⟨wf, _⟩, _ => by
    rw [Expr.words, Scan.spellAll_append, Scan.spellAll_append, Scan.spellAll_append,
      List.append_assoc, List.append_assoc]
    exact noSignStart_append (obj.operand_noSignStart (obj.alone_noSignStart wf)) (leads_ne_nil
      (leads_parenthesized _ (obj.lead_words wf))) _
  | .call callee _ _, ⟨wf, _⟩, _ => by
    rw [Expr.words, Scan.spellAll_append, Scan.spellAll_append, Scan.spellAll_append,
      List.append_assoc, List.append_assoc]
    exact noSignStart_append (callee.operand_noSignStart (callee.alone_noSignStart wf))
      (leads_ne_nil (leads_parenthesized _ (callee.lead_words wf))) _
  | .array _ _, _, _ => by
    simp only [Expr.words, Scan.spellAll_append, Scan.spellAll_cons, Scan.spellAll_nil,
      Scan.Word.sym_spell, TokenKind.symbol?, Option.getD_some, String.reduceToList,
        List.cons_append,
      List.nil_append, List.append_nil]
    exact noSignStart_cons _ (by decide) (by decide)
  | .map _ _, _, _ => by
    simp only [Expr.words, Scan.spellAll_append, Scan.spellAll_cons, Scan.spellAll_nil,
      Scan.Word.sym_spell, TokenKind.symbol?, Option.getD_some, List.cons_append,
      List.nil_append, List.append_nil]
    exact noSignStart_cons _ (by decide) (by decide)
  | .update _ arg false _, ⟨wf, assignable⟩, _ => by
    rw [Expr.words]
    simp only [Bool.false_eq_true, ↓reduceIte, Scan.spellAll_append]
    exact noSignStart_append (arg.alone_noSignStart wf (Expr.standsAlone_of_assignable assignable))
      (leads_ne_nil (arg.lead_words wf)) _
  | .update _ _ true _, _, alone => by simp [Expr.standsAlone] at alone
  | .binary _ _ _ _, _, alone => by simp [Expr.standsAlone] at alone
  | .unary _ _ _, _, alone => by simp [Expr.standsAlone] at alone

theorem Parser.Spec.and {α : Type} {allow : ParseFailure → Prop} {p : Parser α} {d : Nat}
    {c : Cursor}
    {Q R : α → Cursor → Prop} (first : Spec allow p d c Q) (second : Spec allow p d c R) :
    Spec allow p d c fun a c' => Q a c' ∧ R a c' := by
  unfold Spec at *
  revert first second
  rcases p.exec d c with ⟨e | a, c'⟩
  · exact fun admitted _ => admitted
  · exact fun q r => ⟨q, r⟩

theorem Cursor.Classed.of_passes {c c' : Cursor} {span : List Token} (classed : c.Classed)
    (passes : c.Passes span c') : c'.Classed := fun t mem => classed t (passes.2.1 ▸ mem)

theorem BinaryOp.token_of_ofToken? {k : TokenKind} {op : BinaryOp}
    (found : BinaryOp.ofToken? k = some op) : op.token = k := by
  cases k <;> simp [BinaryOp.ofToken?, BinaryOp.all,
    BinaryOp.token] at found <;> subst found <;> rfl

theorem UnaryOp.token_of_ofToken? {k : TokenKind} {op : UnaryOp}
    (found : UnaryOp.ofToken? k = some op) : op.token = k := by
  cases k <;> simp [UnaryOp.ofToken?, UnaryOp.all, UnaryOp.token] at found <;> subst found <;> rfl

theorem UpdateOp.kind_of_ofToken? {k : TokenKind} {u : UpdateOp}
    (found : UpdateOp.ofToken? k = some u) : u.kind = k := by
  cases k <;> simp [UpdateOp.ofToken?] at found <;> subst found <;> rfl

/-- A binary operator expects an operand after it. -/
theorem BinaryOp.opens (op : BinaryOp) : opensOperand (some op.token) = true := by
  cases op <;> rfl

/-- A sign before an expression whose text starts with that sign finds its token first among
`span`: a gap marks the grouping there when the sign stands for an operand. -/
def SignLead (e : Expr) (span : List Token) : Prop :=
  ∀ op : UnaryOp, op.isSign = true → e.format.startsWith op.symbol = true →
    ∃ t rest, span = t :: rest ∧ op.token.signPair t.kind = true

/-- What the operation around an operand read from `span`, after a token of kind `p`, needs of
those tokens: a grouping to spare, as the operand's own parentheses give; or an operand that is
no binary operation, its own groupings marked, and its sign first if it does not stand alone. -/
def Counted (p : Option TokenKind) (span : List Token) (e : Expr) : Prop :=
  e.parens + 1 ≤ marks p (span.map (·.kind)) ∨
    (e.parens ≤ marks p (span.map (·.kind)) ∧ e.binaryPrecedence? = none ∧
      (e.standsAlone = false → SignLead e span))

/-- An expression read from `span` that the binary operator at `c`, if any, may take as its left
operand: where the operator writes it in parentheses, the tokens have a grouping to spare. -/
def Leftward (p : Option TokenKind) (span : List Token) (e : Expr) (c : Cursor) : Prop :=
  e.parens ≤ marks p (span.map (·.kind)) ∧ ∀ op,
    BinaryOp.ofToken? c.current.kind = some op →
    op.parenLeft e.binaryPrecedence? = true → e.parens + 1 ≤ marks p (span.map (·.kind))

/-- An expression read from `span` that an operator binding as tightly as `prec` may take as its
right operand: where a binary operation there is written in parentheses, the tokens have a
grouping to spare. -/
def Rightward (prec : Nat) (p : Option TokenKind) (span : List Token) (e : Expr) : Prop :=
  e.parens ≤ marks p (span.map (·.kind)) ∧ ∀ q, e.binaryPrecedence? = some q →
    q ≤ prec →
    e.parens + 1 ≤ marks p (span.map (·.kind))

/-- An expression read from `pre` that a chain of suffixes at `c` may extend: when a suffix
follows, an operand that does not stand alone has a grouping to spare. -/
def Ready (p : Option TokenKind) (pre : List Token) (e : Expr) (c : Cursor) : Prop :=
  Counted p pre e ∧ (c.current.kind ∈ suffixKinds →
    e.parens + (!e.standsAlone).toNat ≤ marks p (pre.map (·.kind)))

section Operands

variable {p : Option TokenKind} {span pre : List Token} {e : Expr} {c : Cursor}

theorem Counted.le (operand : Counted p span e) : e.parens ≤ marks p (span.map (·.kind)) := by
  rcases operand with room | ⟨le, -⟩
  · omega
  · exact le

theorem Counted.alone (le : e.parens ≤ marks p (span.map (·.kind)))
    (plain : e.binaryPrecedence? = none) (alone : e.standsAlone = true) : Counted p span e :=
  .inr ⟨le, plain, fun lone => by simp [alone] at lone⟩

theorem Counted.leftward (operand : Counted p span e) : Leftward p span e c := by
  refine ⟨operand.le, fun op _ paren => ?_⟩
  rcases operand with room | ⟨-, plain, -⟩
  · exact room
  · simp [plain, BinaryOp.parenLeft] at paren

theorem Counted.rightward (prec : Nat) (operand : Counted p span e) : Rightward prec p span e := by
  refine ⟨operand.le, fun q binary _ => ?_⟩
  rcases operand with room | ⟨-, plain, -⟩
  · exact room
  · simp [plain] at binary

theorem Counted.ready (operand : Counted p pre e)
    (alone : e.standsAlone = true) : Ready p pre e c :=
  ⟨operand, fun _ => by simpa [alone] using operand.le⟩

end Operands

section Tokens

variable {p : Option TokenKind} {a b : List Token}

theorem marks_tokens_prefix : marks p (a.map (·.kind)) ≤ marks p ((a ++ b).map (·.kind)) := by
  have := marks_append_le (p := p) (a := a.map (·.kind)) (b := b.map (·.kind))
  rw [List.map_append]
  omega

theorem marks_tokens_append (t : Token) (rest : List Token) :
    marks p (a.map (·.kind)) + marks (some t.kind) (rest.map (·.kind)) ≤
      marks p ((a ++ t :: rest).map (·.kind)) := by
  have whole := marks_append_le (p := p) (a := a.map (·.kind)) (b := (t :: rest).map (·.kind))
  have step := marks_cons_le (p := lastKind p (a.map (·.kind))) (k := t.kind)
    (l := rest.map (·.kind))
  rw [List.map_append]
  simp only [List.map_cons] at whole step ⊢
  omega

theorem marks_tokens_cons (t : Token) (rest : List Token) :
    marks (some t.kind) (rest.map (·.kind)) ≤ marks p ((t :: rest).map (·.kind)) := by
  simpa using marks_cons_le (p := p) (k := t.kind) (l := rest.map (·.kind))

/-- Tokens in parentheses mark one grouping more than those inside. -/
theorem marks_tokens_wrap {lp : Token} (rp : Token) (opened : lp.kind = .lparen)
    (inner : List Token) :
    marks (some .lparen) (inner.map (·.kind)) + 1 ≤ marks p
      ((lp :: inner ++ [rp]).map (·.kind)) := by
  have inside := marks_tokens_prefix (p := some .lparen) (a := inner) (b := [rp])
  simp only [List.map_cons, List.map_append, List.map_nil, List.cons_append, opened,
    marks_lparen] at inside ⊢
  omega

/-- Tokens in parentheses after others. -/
theorem marks_tokens_after {lp : Token} (rp : Token) (opened : lp.kind = .lparen)
    (inner : List Token) :
    marks p (a.map (·.kind)) + marks (some .lparen) (inner.map (·.kind)) + 1 ≤
      marks p ((a ++ lp :: (inner ++ [rp])).map (·.kind)) := by
  have whole := marks_append_le (p := p) (a := a.map (·.kind))
    (b := (lp :: inner ++ [rp]).map (·.kind))
  have wrap := marks_tokens_wrap (p := lastKind p (a.map (·.kind))) rp opened inner
  simp only [List.map_append, List.map_cons, List.cons_append] at whole wrap ⊢
  omega

/-- Tokens after others and an opening token of theirs. -/
theorem marks_tokens_inside (t : Token) (inner more : List Token) :
    marks p (a.map (·.kind)) + marks (some t.kind) (inner.map (·.kind)) ≤
      marks p ((a ++ t :: (inner ++ more)).map (·.kind)) := by
  have whole := marks_tokens_append (p := p) (a := a) t (inner ++ more)
  have inside := marks_tokens_prefix (p := some t.kind) (a := inner) (b := more)
  omega

end Tokens

theorem marks_cons {p : Option TokenKind} {k : TokenKind} {ks : List TokenKind}
    (plain : k ≠ .lparen) :
    marks p (k :: ks) = (opensOperand p && ks.head?.any k.signPair).toNat + marks (some k) ks := by
  simp [marks, signGaps_cons, plain]
  omega

theorem Expr.startsWith_iff (e : Expr) (s : String) :
    e.format.startsWith s = true ↔ ∃ rest, Scan.spellAll e.words = s.toList ++ rest := by
  rw [String.startsWith_string_iff, ← e.spell_words]
  exact ⟨fun ⟨t, same⟩ => ⟨t, same.symm⟩, fun ⟨t, same⟩ => ⟨t, same.symm⟩⟩

/-- A sign is never the start of an operand that stands alone. -/
theorem Expr.alone_not_startsWith {e : Expr} (wf : e.Parsable) (alone : e.standsAlone = true)
    {op : UnaryOp} (sign : op.isSign = true) : e.format.startsWith op.symbol = false := by
  rw [Bool.eq_false_iff]
  intro starts
  obtain ⟨rest, spelled⟩ := (Expr.startsWith_iff e op.symbol).mp starts
  have plain := e.alone_noSignStart wf alone
  rw [spelled] at plain
  cases op <;> simp [UnaryOp.isSign, UnaryOp.symbol, NoSignStart] at sign plain

theorem signLead_unary (op : UnaryOp) (arg : Expr) (pos : Position) {t : Token}
    (token : t.kind = op.token) (span : List Token) : SignLead (.unary op arg pos) (t :: span) := by
  intro op' sign starts
  obtain ⟨rest, spelled⟩ := (Expr.startsWith_iff _ _).mp starts
  simp only [Expr.words, Scan.spellAll_cons, Scan.Word.token_spell] at spelled
  refine ⟨t, span, rfl, ?_⟩
  rw [token]
  cases op <;> cases op' <;> simp_all
    [UnaryOp.isSign, UnaryOp.symbol, UnaryOp.token, TokenKind.signPair]

theorem signLead_update (u : UpdateOp) (arg : Expr) (pos : Position) {t : Token}
    (kind : t.kind = u.kind)
      (span : List Token) : SignLead (.update u arg true pos) (t :: span) := by
  intro op sign starts
  obtain ⟨rest, spelled⟩ := (Expr.startsWith_iff _ _).mp starts
  simp only [Expr.words, ↓reduceIte, Scan.spellAll_cons, Scan.Word.token_spell] at spelled
  refine ⟨t, span, rfl, ?_⟩
  rw [kind]
  cases u <;> cases op <;>
    simp_all [UnaryOp.isSign, UnaryOp.symbol, UnaryOp.token, UpdateOp.symbol, UpdateOp.kind,
      TokenKind.signPair]

/-- A unary operation counts its operand's parentheses, and one more where the operand needs
them, which a binary operand has to spare and a same-sign operand pays with a gap. -/
theorem Counted.unary {op : UnaryOp} {arg : Expr} {t : Token} {span : List Token}
    {p : Option TokenKind} (pos : Position) (token : t.kind = op.token)
      (opens : opensOperand p = true)
    (wf : arg.Parsable) (operand : Counted (some op.token) span arg) :
    Counted p (t :: span) (.unary op arg pos) := by
  have plain : op.token ≠ .lparen := by cases op <;> simp [UnaryOp.token]
  have after : marks p ((t :: span).map (·.kind)) =
      (opensOperand p && (span.map (·.kind)).head?.any op.token.signPair).toNat +
        marks (some op.token) (span.map (·.kind)) := by
    rw [List.map_cons, token, marks_cons plain]
  refine .inr ⟨?_, rfl, fun _ => signLead_unary op arg pos token span⟩
  rw [Expr.parens_unary, after]
  rcases operand with room | ⟨le, binary, lead⟩
  · have := Bool.toNat_le (op.parenArg arg)
    omega
  · cases paren : op.parenArg arg
    · simp only [Bool.toNat_false]
      omega
    · -- the operand is no binary operation, so it starts with the operation's own sign
      rw [Bool.toNat_true]
      simp only [UnaryOp.parenArg, binary, Option.isSome_none, Bool.false_or,
        Bool.and_eq_true] at paren
      obtain ⟨sign, starts⟩ := paren
      cases alone : arg.standsAlone
      · obtain ⟨t', rest, rfl, pair⟩ := lead alone op sign starts
        have gap : (opensOperand p &&
            ((t' :: rest).map (·.kind)).head?.any op.token.signPair).toNat = 1 := by
          simp [opens, pair]
        omega
      · rw [Expr.alone_not_startsWith wf alone sign] at starts
        cases starts

/-- An expression read from `pre` and then the tokens from `c` to `c'`, which stands alone and is
no binary operation, its groupings marked. -/
def Grown (p : Option TokenKind) (pre : List Token) (c : Cursor) (e : Expr) (c' : Cursor) : Prop :=
  ∃ span, c.Passes span c' ∧ e.parens ≤ marks p ((pre ++ span).map (·.kind)) ∧
    e.standsAlone = true ∧ e.binaryPrecedence? = none

section Leaves

variable {p : Option TokenKind} {pre : List Token} {c : Cursor} {d : Nat}

theorem literal_marked (sound : c.Sound) (kind : c.current.kind ∈ [.string, .number]) :
    Spec AnyFailure Parse.literal d c fun e c' =>
      ∃ span, c.Passes span c' ∧ Counted p span e ∧ e.standsAlone = true := by
  unfold Parse.literal
  refine frame_any ?_
  simp only [spec_bind, spec_take]
  simp only [List.mem_cons, List.not_mem_nil, or_false] at kind
  have live : c.current.kind ≠ .eof := by rcases kind with k | k <;> simp [k]
  have literal : ∀ (v : Data) (raw : String),
    Counted p [c.current] (.literal v raw c.current.pos) :=
    fun _ _ => Counted.alone (by simp) rfl rfl
  split
  · split
    · exact ⟨_, passes_advance sound live, literal _ _, rfl⟩
    · trivial
  · exact ⟨_, passes_advance sound live, literal _ _, rfl⟩

theorem identifier_marked (sound : c.Sound) :
    Spec AnyFailure Parse.identifier d c fun e c' =>
      ∃ span, c.Passes span c' ∧ Counted p span e ∧ e.standsAlone = true := by
  unfold Parse.identifier
  refine frame_any ?_
  simp only [spec_bind]
  refine expect_passes sound (by decide) fun _ passes => ?_
  split
  · exact ⟨_, passes, Counted.alone (by simp) rfl rfl, rfl⟩
  · exact ⟨_, passes, Counted.alone (by simp) rfl rfl, rfl⟩

theorem updateAfter_marked {arg : Expr} (sound : c.Sound)
    (le : arg.parens ≤ marks p (pre.map (·.kind))) :
    Spec AnyFailure (Parse.updateAfter arg) d c fun e c' => Grown p pre c e c' := by
  unfold Parse.updateAfter
  refine frame_any ?_
  simp only [spec_bind]
  refine expectOneOf_any fun kind => ?_
  have live : c.current.kind ≠ .eof := by
    simp only [List.mem_cons, List.not_mem_nil, or_false] at kind
    rcases kind with k | k <;> simp [k]
  split
  · have grown := marks_tokens_prefix (p := p) (a := pre) (b := [c.current])
    exact ⟨_, passes_advance sound live, by simp only [Expr.parens_update]; omega, rfl, rfl⟩
  · trivial

/-- A chain of suffixes stops at once before a token that goes on none. -/
theorem suffixes_stopped {n : Nat} {e : Expr} (sound : c.Sound)
    (stop : c.current.kind ∉ suffixKinds) :
    Spec AnyFailure (Parse.suffixes n e) d c fun e' c' => e' = e ∧ c' = c := by
  have stops : StopsChain (c.ahead.map Token.shape) :=
    ⟨c.current.shape, _, by rw [sound.ahead_eq, List.map_cons], stop⟩
  exact (suffixes_stop rfl stops).conseq (fun _ _ => trivial) fun _ _ same => same

end Leaves

theorem Leftward.operation {p : Option TokenKind} {pre : List Token} {e : Expr} {c : Cursor}
    {op : BinaryOp} (leftward : Leftward p pre e c)
      (found : BinaryOp.ofToken? c.current.kind = some op) :
    e.parens + (op.parenLeft e.binaryPrecedence?).toNat ≤ marks p (pre.map (·.kind)) := by
  cases paren : op.parenLeft e.binaryPrecedence?
  · simpa using leftward.1
  · simpa using leftward.2 op found paren

mutual

theorem expression_marked : ∀ (n d : Nat) (c : Cursor) (p : Option TokenKind), c.Sound →
    c.Classed → opensOperand p = true →
    Spec AnyFailure (Parse.expression n) d c fun e c' =>
      ∃ span, c.Passes span c' ∧ e.parens ≤ marks p (span.map (·.kind))
  | 0, _, _, _, _, _, _ => trivial
  | n + 1, d, c, p, sound, classed, opens => by
    rw [Parse.expression]
    refine frame_any ?_
    simp only [spec_bind, spec_current, spec_ite, spec_pure]
    refine (primary_marked n (d + 1) c p sound classed).mono fun e c1 read => ?_
    obtain ⟨span, passes, -, operand⟩ := read
    have operand := operand (.inl opens)
    split
    · exact frame_any ((operations_marked n (d + 2) c1 e span p passes.sound
        (classed.of_passes passes) operand.leftward).mono
          fun _ _ ⟨span2, passes2, le⟩ => ⟨span ++ span2, passes.trans passes2, le⟩)
    · exact ⟨span, passes, operand.le⟩

theorem operations_marked : ∀ (n d : Nat) (c : Cursor) (left : Expr) (pre : List Token)
    (p : Option TokenKind), c.Sound → c.Classed → Leftward p pre left c →
    Spec AnyFailure (Parse.operations n left) d c fun e c' =>
      ∃ span, c.Passes span c' ∧ e.parens ≤ marks p ((pre ++ span).map (·.kind))
  | 0, _, _, _, _, _, _, _, _ => trivial
  | n + 1, d, c, left, pre, p, sound, classed, leftward => by
    rw [Parse.operations]
    simp only [spec_bind, spec_current]
    split <;> simp only [spec_bind, spec_pure]
    · rename_i op found
      refine (operation_marked n d c op left pre p sound classed found
        (leftward.operation found)).mono fun l c1 read => ?_
      obtain ⟨span, passes, leftward1, -⟩ := read
      exact (operations_marked n d c1 l (pre ++ span) p passes.sound (classed.of_passes passes)
        leftward1).mono fun _ _ ⟨span2, passes2, le⟩ =>
          ⟨span ++ span2, passes.trans passes2, by simpa using le⟩
    · exact ⟨[], Passes.refl sound, by simpa using leftward.1⟩

/-- A binary operation counts its operands' parentheses, and one for each operand it writes in
parentheses, which the operands have to spare. -/
theorem operation_marked : ∀ (n d : Nat) (c : Cursor) (op : BinaryOp) (left : Expr)
    (pre : List Token) (p : Option TokenKind), c.Sound → c.Classed →
    BinaryOp.ofToken? c.current.kind = some op →
    left.parens + (op.parenLeft left.binaryPrecedence?).toNat ≤ marks p (pre.map (·.kind)) →
    Spec AnyFailure (Parse.operation n op left) d c fun e c' => ∃ span, c.Passes span c' ∧
      Leftward p (pre ++ span) e c' ∧ e.binaryPrecedence? = some op.precedence
  | 0, _, _, _, _, _, _, _, _, _, _ => trivial
  | n + 1, d, c, op, left, pre, p, sound, classed, found, le => by
    rw [Parse.operation]
    refine frame_any ?_
    simp only [spec_bind, spec_discard, spec_take, spec_pure]
    have first := passes_advance sound (ofToken_ne_eof found)
    have token := BinaryOp.token_of_ofToken? found
    refine (primary_marked n (d + 1) c.advance (some op.token) first.sound
      (classed.of_passes first)).mono fun r c1 read => ?_
    obtain ⟨span1, passes1, -, operand⟩ := read
    have operand := operand (.inl op.opens)
    refine (tighter_marked n (d + 1) c1 op.precedence r span1 (some op.token) passes1.sound
      (classed.of_passes (first.trans passes1)) operand.leftward (operand.rightward _)).mono
      fun e c2 read => ?_
    obtain ⟨span2, passes2, ⟨rle, rroom⟩, stop⟩ := read
    have right : e.parens + (op.parenRight e.binaryPrecedence?).toNat ≤
        marks (some op.token) ((span1 ++ span2).map (·.kind)) := by
      cases bp : e.binaryPrecedence? with
      | none => simpa [BinaryOp.parenRight] using rle
      | some q =>
        by_cases small : q ≤ op.precedence
        · simpa [BinaryOp.parenRight, small] using rroom q bp small
        · simpa [BinaryOp.parenRight, small] using rle
    have whole := marks_tokens_append (p := p) (a := pre) c.current (span1 ++ span2)
    rw [← token] at whole
    have parens : (Expr.binary op left e left.pos).parens ≤
        marks p ((pre ++ c.current :: (span1 ++ span2)).map (·.kind)) := by
      rw [Expr.parens_binary]
      omega
    refine ⟨c.current :: (span1 ++ span2), first.trans (passes1.trans passes2),
      ⟨by simpa using parens, fun op' found' paren => ?_⟩, rfl⟩
    have loose := stop op' found'
    simp [Expr.binaryPrecedence?, BinaryOp.parenLeft] at paren
    omega

theorem tighter_marked : ∀ (n d : Nat) (c : Cursor) (prec : Nat) (right : Expr) (pre : List Token)
    (p : Option TokenKind), c.Sound → c.Classed → Leftward p pre right c →
    Rightward prec p pre right →
    Spec AnyFailure (Parse.tighter n prec right) d c fun e c' => ∃ span, c.Passes span c' ∧
      Rightward prec p (pre ++ span) e ∧
        ∀ op, BinaryOp.ofToken? c'.current.kind = some op → op.precedence ≤ prec
  | 0, _, _, _, _, _, _, _, _, _, _ => trivial
  | n + 1, d, c, prec, right, pre, p, sound, classed, leftward, rightward => by
    rw [Parse.tighter]
    simp only [spec_bind, spec_current]
    split <;> simp only [spec_bind, spec_ite, spec_pure]
    · rename_i op found
      split
      · rename_i tight
        refine (operation_marked n d c op right pre p sound classed found
          (leftward.operation found)).mono fun r c1 read => ?_
        obtain ⟨span, passes, leftward1, binary⟩ := read
        have rightward1 : Rightward prec p (pre ++ span) r :=
          ⟨leftward1.1, fun q same small => by rw [binary] at same; cases same; omega⟩
        exact (tighter_marked n d c1 prec r (pre ++ span) p passes.sound (classed.of_passes passes)
          leftward1 rightward1).mono fun _ _ ⟨span2, passes2, right2, stop⟩ =>
            ⟨span ++ span2, passes.trans passes2, by simpa using right2, stop⟩
      · rename_i loose
        refine ⟨[], Passes.refl sound, by simpa using rightward, fun op' found' => ?_⟩
        rw [found] at found'
        cases found'
        omega
    · rename_i none
      refine ⟨[], Passes.refl sound, by simpa using rightward, fun op' found' => ?_⟩
      rw [none] at found'
      cases found'

theorem primary_marked : ∀ (n d : Nat) (c : Cursor)
    (p : Option TokenKind), c.Sound → c.Classed →
    Spec AnyFailure (Parse.primary n) d c fun e c' => ∃ span, c.Passes span c' ∧
      c'.current.kind ∉ suffixKinds ∧
        (opensOperand p = true ∨ e.assignable = true → Counted p span e)
  | 0, _, _, _, _, _ => trivial
  | n + 1, d, c, p, sound, classed => by
    rw [Parse.primary]
    refine frame_any ?_
    simp only [spec_bind, spec_current]
    have suffixed : ∀ e c1, (∃ span, c.Passes span c1 ∧ Ready p span e c1) →
        Spec AnyFailure (Parse.frame (Parse.suffixes n e)) (d + 1) c1 fun e' c2 =>
          ∃ span, c.Passes span c2 ∧ c2.current.kind ∉ suffixKinds ∧
            (opensOperand p = true ∨ e'.assignable = true → Counted p span e') := by
      intro e c1 ⟨span, passes, ready⟩
      exact frame_any ((suffixes_marked n (d + 2) c1 e span p passes.sound
        (classed.of_passes passes) ready).mono fun _ _ ⟨span2, passes2, stop, operand⟩ =>
          ⟨span ++ span2, passes.trans passes2, stop, fun _ => operand⟩)
    have alone : ∀ e c1,
      (∃ span, c.Passes span c1 ∧ Counted p span e ∧ e.standsAlone = true) →
        Spec AnyFailure (Parse.frame (Parse.suffixes n e)) (d + 1) c1 fun e' c2 =>
          ∃ span, c.Passes span c2 ∧ c2.current.kind ∉ suffixKinds ∧
            (opensOperand p = true ∨ e'.assignable = true → Counted p span e') :=
      fun e c1 ⟨span, passes, operand, lone⟩ => suffixed e c1
        ⟨span, passes, operand.ready lone⟩
    have stopped : ∀ e c1 span, c.Passes span c1 → c1.current.kind ∉ suffixKinds →
        Counted p span e → Spec AnyFailure (Parse.frame (Parse.suffixes n e)) (d + 1) c1
          fun e' c2 => ∃ span, c.Passes span c2 ∧ c2.current.kind ∉ suffixKinds ∧
            (opensOperand p = true ∨ e'.assignable = true → Counted p span e') :=
      fun e c1 span passes stop operand =>
        suffixed e c1 ⟨span, passes, operand, fun suffix => absurd suffix stop⟩
    split <;> simp only [spec_bind, spec_throw]
    · exact (literal_marked sound (by simp [*])).mono alone
    · exact (literal_marked sound (by simp [*])).mono alone
    · exact (identifier_marked sound).mono alone
    · exact (array_marked n (d + 1) c p sound classed).mono alone
    · exact (mapping_marked n (d + 1) c p sound classed).mono alone
    · exact (paren_marked n (d + 1) c p sound classed).mono fun e c1 ⟨span, passes, room⟩ =>
        suffixed e c1 ⟨span, passes, .inl room,
          fun _ => by have := Bool.toNat_le (!e.standsAlone); omega⟩
    · exact (updateBefore_marked n (d + 1) c p sound classed).mono
        fun e c1 ⟨span, passes, stop, operand, _⟩ => stopped e c1 span passes stop operand
    · exact (updateBefore_marked n (d + 1) c p sound classed).mono
        fun e c1 ⟨span, passes, stop, operand, _⟩ => stopped e c1 span passes stop operand
    all_goals first
      | trivial
      | refine (unary_marked n (d + 1) c p sound classed).mono
          fun e c1 read => ?_
        obtain ⟨span, passes, stop, operand, fixed⟩ := read
        by_cases opens : opensOperand p = true
        · exact stopped e c1 span passes stop (operand opens)
        · -- where no operand is expected the operation cannot be updated, and no suffix follows
          refine frame_any ((suffixes_stopped passes.sound stop).mono fun e' c2 read => ?_)
          obtain ⟨same, moved⟩ := read
          subst same moved
          refine ⟨span, passes, stop, fun either => ?_⟩
          rcases either with opened | assignable
          · exact absurd opened opens
          · rw [fixed] at assignable
            cases assignable

theorem suffixes_marked : ∀ (n d : Nat) (c : Cursor) (e : Expr) (pre : List Token)
    (p : Option TokenKind), c.Sound → c.Classed → Ready p pre e c →
    Spec AnyFailure (Parse.suffixes n e) d c fun e' c' => ∃ span, c.Passes span c' ∧
      c'.current.kind ∉ suffixKinds ∧ Counted p (pre ++ span) e'
  | 0, _, _, _, _, _, _, _, _ => trivial
  | n + 1, d, c, e, pre, p, sound, classed, ready => by
    rw [Parse.suffixes]
    simp only [spec_bind, spec_current]
    have chained : ∀ e1 c1, Grown p pre c e1 c1 →
        Spec AnyFailure (Parse.suffixes n e1) d c1 fun e' c2 => ∃ span, c.Passes span c2 ∧
          c2.current.kind ∉ suffixKinds ∧ Counted p (pre ++ span) e' := by
      intro e1 c1 ⟨span, passes, le, lone, plain⟩
      exact (suffixes_marked n d c1 e1 (pre ++ span) p passes.sound (classed.of_passes passes)
        ((Counted.alone le plain lone).ready lone)).mono fun _ _ ⟨span2, passes2, stop,
          operand⟩ =>
          ⟨span ++ span2, passes.trans passes2, stop, by simpa using operand⟩
    have room := ready.2
    split <;> simp only [spec_bind, spec_pure]
    · rename_i opened
      have le := room (by simp [opened, suffixKinds])
      refine (arguments_marked n d c sound classed).mono
        fun args c1 ⟨lp, as, rp, passes, lpk, inner⟩ => chained _ c1
          ⟨_, passes, ?_, rfl, rfl⟩
      have after := marks_tokens_after (p := p) (a := pre) rp lpk as
      simp only [Expr.parens_call, List.cons_append] at after ⊢
      omega
    · rename_i dotted
      exact (member_marked n d c e pre p sound classed (room (by simp [dotted, suffixKinds]))).mono
        chained
    · rename_i opened
      exact (indexing_marked n d c e pre p sound classed
        (room (by simp [opened, suffixKinds]))).mono chained
    · rename_i inc
      exact (updateAfter_marked sound (by have := room (by simp [inc, suffixKinds]); omega)).mono
        chained
    · rename_i dec
      exact (updateAfter_marked sound (by have := room (by simp [dec, suffixKinds]); omega)).mono
        chained
    · refine ⟨[], Passes.refl sound, ?_, by simpa using ready.1⟩
      simp only [suffixKinds, List.mem_cons, List.not_mem_nil, or_false]
      grind

/-- A member access, and a call right after it: the object's groupings, and a call's. -/
theorem member_marked : ∀ (n d : Nat) (c : Cursor) (obj : Expr) (pre : List Token)
    (p : Option TokenKind), c.Sound → c.Classed →
    obj.parens + (!obj.standsAlone).toNat ≤ marks p (pre.map (·.kind)) →
    Spec AnyFailure (Parse.member n obj) d c fun e c' => Grown p pre c e c'
  | 0, _, _, _, _, _, _, _, _ => trivial
  | n + 1, d, c, obj, pre, p, sound, classed, le => by
    rw [Parse.member]
    refine frame_any ?_
    simp only [spec_bind, spec_discard, spec_get, spec_ite, spec_pure]
    refine expect_passes sound (by decide) fun _ first => ?_
    refine expect_passes first.sound (by decide) fun _ second => ?_
    have read := marks_tokens_prefix (p := p) (a := pre) (b := [c.current] ++ [c.advance.current])
    split
    · refine (arguments_marked n (d + 1) c.advance.advance second.sound
        (classed.of_passes (first.trans second))).mono fun args c1 read => ?_
      obtain ⟨lp, as, rp, passes, lpk, inner⟩ := read
      refine ⟨_, first.trans (second.trans passes), ?_, rfl, rfl⟩
      have after := marks_tokens_after (p := p) (a := pre ++ [c.current, c.advance.current]) rp
        lpk as
      simp only [Expr.parens_call, Expr.parens_field, Expr.standsAlone_field, Bool.not_true,
        Bool.toNat_false, List.cons_append, List.append_assoc, List.nil_append] at after read ⊢
      omega
    · exact ⟨_, first.trans second, by simp only [Expr.parens_field]; omega, rfl, rfl⟩

theorem indexing_marked : ∀ (n d : Nat) (c : Cursor) (obj : Expr) (pre : List Token)
    (p : Option TokenKind), c.Sound → c.Classed →
    obj.parens + (!obj.standsAlone).toNat ≤ marks p (pre.map (·.kind)) →
    Spec AnyFailure (Parse.indexing n obj) d c fun e c' => Grown p pre c e c'
  | 0, _, _, _, _, _, _, _, _ => trivial
  | n + 1, d, c, obj, pre, p, sound, classed, le => by
    rw [Parse.indexing]
    refine frame_any ?_
    simp only [spec_bind, spec_discard, spec_pure]
    refine expect_passes sound (by decide) fun opened first => ?_
    refine (expression_marked n (d + 1) c.advance (some .lbracket) first.sound
      (classed.of_passes first) rfl).mono fun key c1 read => ?_
    obtain ⟨span, passes, keyed⟩ := read
    refine expect_passes passes.sound (by decide) fun _ last => ?_
    refine ⟨_, first.trans (passes.trans last), ?_, rfl, rfl⟩
    have inside := marks_tokens_inside (p := p) (a := pre) c.current span [c1.current]
    rw [opened] at inside
    simp only [Expr.parens_index, List.singleton_append] at inside ⊢
    omega

/-- A unary operation: its operand's groupings, and the one the operation writes around it. -/
theorem unary_marked : ∀ (n d : Nat) (c : Cursor)
    (p : Option TokenKind), c.Sound → c.Classed →
    Spec AnyFailure (Parse.unary n) d c fun e c' => ∃ span, c.Passes span c' ∧
      c'.current.kind ∉ suffixKinds ∧ (opensOperand p = true → Counted p span e) ∧
        e.assignable = false
  | 0, _, _, _, _, _ => trivial
  | n + 1, d, c, p, sound, classed => by
    rw [Parse.unary]
    refine frame_any ?_
    simp only [spec_bind, spec_take]
    refine ((primary_marked n (d + 1) c.advance (some c.current.kind) sound.advance
      classed.advance).and (primary_parsable n (d + 1) c.advance classed.advance)).mono
      fun arg c1 got => ?_
    obtain ⟨read, wf, _⟩ := got
    obtain ⟨span, passes, stop, operand⟩ := read
    split
    · rename_i op found
      have token := UnaryOp.token_of_ofToken? found
      have live : c.current.kind ≠ .eof := by
        intro ended
        simp [ended, UnaryOp.ofToken?, UnaryOp.all, UnaryOp.token] at found
      refine ⟨c.current :: span, (passes_advance sound live).trans passes, stop,
        fun opens => ?_, rfl⟩
      have opened : opensOperand (some c.current.kind) = true := by
        rw [← token]
        cases op <;> rfl
      rw [← token] at operand
      exact Counted.unary c.current.pos token.symm opens wf (operand (.inl (token ▸ opened)))
    · trivial

/-- A prefix update: its operand's groupings; the operand, which it may update, is no unary
operation. -/
theorem updateBefore_marked : ∀ (n d : Nat) (c : Cursor) (p : Option TokenKind), c.Sound →
    c.Classed → Spec AnyFailure (Parse.updateBefore n) d c fun e c' => ∃ span,
      c.Passes span c' ∧
      c'.current.kind ∉ suffixKinds ∧ Counted p span e ∧ e.assignable = false
  | 0, _, _, _, _, _ => trivial
  | n + 1, d, c, p, sound, classed => by
    rw [Parse.updateBefore]
    refine frame_any ?_
    simp only [spec_bind]
    refine expectOneOf_any fun kind => ?_
    have first := passes_advance sound (by simp at kind; rcases kind with k | k <;> simp [k])
    refine (primary_marked n (d + 1) c.advance (some c.current.kind) first.sound
      (classed.of_passes first)).mono fun arg c1 read => ?_
    obtain ⟨span, passes, stop, operand⟩ := read
    split
    · rename_i u found assignable
      have le := (operand (.inr assignable)).le
      have after := marks_tokens_cons (p := p) c.current span
      refine ⟨c.current :: span, first.trans passes, stop,
        .inr ⟨by simp only [Expr.parens_update]; omega, rfl, fun _ => ?_⟩, rfl⟩
      exact signLead_update u arg c.current.pos (UpdateOp.kind_of_ofToken? found).symm span
    · trivial

theorem paren_marked : ∀ (n d : Nat) (c : Cursor)
    (p : Option TokenKind), c.Sound → c.Classed →
    Spec AnyFailure (Parse.paren n) d c fun e c' =>
      ∃ span, c.Passes span c' ∧ e.parens + 1 ≤ marks p (span.map (·.kind))
  | 0, _, _, _, _, _ => trivial
  | n + 1, d, c, p, sound, classed => by
    rw [Parse.paren]
    refine frame_any ?_
    simp only [spec_bind, spec_discard, spec_pure]
    refine expect_passes sound (by decide) fun opened first => ?_
    refine (expression_marked n (d + 1) c.advance (some .lparen) first.sound
      (classed.of_passes first) rfl).mono fun e c1 read => ?_
    obtain ⟨span, passes, le⟩ := read
    refine expect_passes passes.sound (by decide) fun _ last => ?_
    have wrap := marks_tokens_wrap (p := p) c1.current opened span
    refine ⟨_, first.trans (passes.trans last), ?_⟩
    simp only [List.cons_append, List.nil_append] at wrap ⊢
    omega

theorem array_marked : ∀ (n d : Nat) (c : Cursor)
    (p : Option TokenKind), c.Sound → c.Classed →
    Spec AnyFailure (Parse.array n) d c fun e c' =>
      ∃ span, c.Passes span c' ∧ Counted p span e ∧ e.standsAlone = true
  | 0, _, _, _, _, _ => trivial
  | n + 1, d, c, p, sound, classed => by
    rw [Parse.array]
    refine frame_any ?_
    simp only [spec_bind, spec_discard, spec_pure]
    refine expect_passes sound (by decide) fun opened first => ?_
    refine (listed_marked n (d + 1) c.advance .rbracket _ [] (some .lbracket) first.sound
      (classed.of_passes first) fun _ => rfl).mono fun items c1 read => ?_
    obtain ⟨span, new, passes, same, le⟩ := read
    simp only [List.reverse_nil, List.nil_append] at same
    subst same
    refine expect_passes passes.sound (by decide) fun _ last => ?_
    have inside := marks_tokens_inside (p := p) (a := []) c.current span [c1.current]
    rw [opened] at inside
    refine ⟨_, first.trans (passes.trans last), Counted.alone ?_ rfl rfl, rfl⟩
    simp only [Expr.parens_array, List.nil_append, List.singleton_append, List.map_nil, marks_nil]
      at inside ⊢
    omega

theorem listed_marked : ∀ (n d : Nat) (c : Cursor) (close : TokenKind) (sep : String)
    (acc : List Expr) (q : Option TokenKind), c.Sound → c.Classed →
    (acc = [] → opensOperand q = true) →
    Spec AnyFailure (Parse.listed n close sep acc) d c fun es c' => ∃ span new,
      c.Passes span c' ∧
      es = acc.reverse ++ new ∧ (new.map Expr.parens).sum ≤ marks q (span.map (·.kind))
  | 0, _, _, _, _, _, _, _, _, _ => trivial
  | n + 1, d, c, close, sep, acc, q, sound, classed, opens => by
    rw [Parse.listed]
    simp only [spec_bind, spec_get, spec_ite, spec_discard, spec_pure]
    have item : ∀ (sep' : List Token) (p : Option TokenKind) c1, c.Passes sep' c1 →
        opensOperand p = true →
        (∀ ks, marks p ks ≤ marks q (sep'.map (·.kind) ++ ks)) →
        Spec AnyFailure (Parse.expression n) d c1 fun e c2 =>
          Spec AnyFailure (Parse.listed n close sep (e :: acc)) d c2 fun es c3 =>
            ∃ span new, c.Passes span c3 ∧ es = acc.reverse ++ new ∧
              (new.map Expr.parens).sum ≤ marks q (span.map (·.kind)) := by
      intro sep' p c1 passes opened bound
      refine (expression_marked n d c1 p passes.sound (classed.of_passes passes) opened).mono
        fun e c2 read => ?_
      obtain ⟨span, passes2, le⟩ := read
      refine (listed_marked n d c2 close sep (e :: acc)
        (lastKind q ((sep' ++ span).map (·.kind))) passes2.sound
        (classed.of_passes (passes.trans passes2)) fun empty => by cases empty).mono
        fun es c3 read => ?_
      obtain ⟨span3, new, passes3, same, le3⟩ := read
      refine ⟨sep' ++ (span ++ span3), e :: new, passes.trans (passes2.trans passes3),
        by simp [same], ?_⟩
      have whole := marks_append_le (p := q) (a := (sep' ++ span).map (·.kind))
        (b := span3.map (·.kind))
      have first := bound (span.map (·.kind))
      simp only [List.map_append, List.append_assoc, List.map_cons, List.sum_cons]
        at whole first le3 ⊢
      omega
    split
    · exact ⟨[], [], Passes.refl sound, by simp, by simp⟩
    · split
      · refine expect_passes sound (by decide) fun comma past => ?_
        exact item _ (some .comma) _ past rfl fun ks => by
          simpa [comma] using marks_cons_le (p := q) (k := TokenKind.comma) (l := ks)
      · rename_i empty
        exact item [] q c (Passes.refl sound) (opens (by simpa using empty)) fun ks => le_refl _

theorem mapping_marked : ∀ (n d : Nat) (c : Cursor)
    (p : Option TokenKind), c.Sound → c.Classed →
    Spec AnyFailure (Parse.mapping n) d c fun e c' =>
      ∃ span, c.Passes span c' ∧ Counted p span e ∧ e.standsAlone = true
  | 0, _, _, _, _, _ => trivial
  | n + 1, d, c, p, sound, classed => by
    rw [Parse.mapping]
    refine frame_any ?_
    simp only [spec_bind, spec_discard, spec_pure]
    refine expect_passes sound (by decide) fun opened first => ?_
    refine (entries_marked n (d + 1) c.advance [] (some .lbrace) first.sound
      (classed.of_passes first)).mono fun es c1 read => ?_
    obtain ⟨span, new, passes, same, le⟩ := read
    simp only [List.reverse_nil, List.nil_append] at same
    subst same
    refine expect_passes passes.sound (by decide) fun _ last => ?_
    have inside := marks_tokens_inside (p := p) (a := []) c.current span [c1.current]
    rw [opened] at inside
    refine ⟨_, first.trans (passes.trans last), Counted.alone ?_ rfl rfl, rfl⟩
    simp only [Expr.parens_map, List.nil_append, List.singleton_append, List.map_nil, marks_nil]
      at inside ⊢
    omega

theorem entries_marked : ∀ (n d : Nat) (c : Cursor) (acc : List (MapKey × Expr))
    (q : Option TokenKind), c.Sound → c.Classed →
    Spec AnyFailure (Parse.entries n acc) d c fun es c' => ∃ span new, c.Passes span c' ∧
      es = acc.reverse ++ new ∧ (new.map (·.2.parens)).sum ≤ marks q (span.map (·.kind))
  | 0, _, _, _, _, _, _ => trivial
  | n + 1, d, c, acc, q, sound, classed => by
    rw [Parse.entries]
    simp only [spec_bind, spec_get, spec_ite, spec_discard, spec_pure]
    have entry : ∀ (sep' : List Token) c1, c.Passes sep' c1 →
        Spec AnyFailure (Parse.expect .string "A map key must be a string") d c1 fun key c2 =>
          Spec AnyFailure (Parse.expect .colon
            "A map key and value must be separated by a colon") d c2
            fun _ c3 => Spec AnyFailure (Parse.expression n) d c3 fun value c4 =>
              Spec AnyFailure (Parse.entries n ((⟨key.text, key.pos⟩, value) :: acc)) d c4
                fun es c5 => ∃ span new, c.Passes span c5 ∧ es = acc.reverse ++ new ∧
                  (new.map (·.2.parens)).sum ≤ marks q (span.map (·.kind)) := by
      intro sep' c1 passes
      refine expect_passes passes.sound (by decide) fun _ past => ?_
      refine expect_passes past.sound (by decide) fun colon past2 => ?_
      have reached := passes.trans (past.trans past2)
      refine (expression_marked n d c1.advance.advance (some .colon) past2.sound
        (classed.of_passes reached) rfl).mono fun value c4 read => ?_
      obtain ⟨span, passes4, le⟩ := read
      refine (entries_marked n d c4 _
        (lastKind q ((sep' ++ [c1.current] ++ [c1.advance.current] ++ span).map (·.kind)))
        passes4.sound (classed.of_passes (reached.trans passes4))).mono
        fun es c5 read => ?_
      obtain ⟨span5, new, passes5, same, le5⟩ := read
      refine ⟨sep' ++ [c1.current] ++ [c1.advance.current] ++ span ++ span5,
        (⟨c1.current.text, c1.current.pos⟩, value) :: new, ?_, by simp [same], ?_⟩
      · simpa [List.append_assoc] using reached.trans (passes4.trans passes5)
      · have whole := marks_append_le (p := q)
          (a := (sep' ++ [c1.current] ++ [c1.advance.current] ++ span).map (·.kind))
          (b := span5.map (·.kind))
        have inside := marks_tokens_inside (p := q) (a := sep' ++ [c1.current]) c1.advance.current
          span []
        rw [colon] at inside
        simp only [List.map_append, List.append_assoc, List.map_cons, List.map_nil, List.append_nil,
          List.cons_append, List.nil_append, List.sum_cons] at whole inside le5 ⊢
        omega
    split
    · exact ⟨[], [], Passes.refl sound, by simp, by simp⟩
    · split
      · refine expect_passes sound (by decide) fun _ past => entry _ _ past
      · exact entry [] c (Passes.refl sound)

theorem arguments_marked : ∀ (n d : Nat) (c : Cursor), c.Sound → c.Classed →
    Spec AnyFailure (Parse.arguments n) d c fun args c' => ∃ (lp : Token) (as : List Token)
      (rp : Token), c.Passes (lp :: as ++ [rp]) c' ∧ lp.kind = .lparen ∧
        (args.map Expr.parens).sum ≤ marks (some .lparen) (as.map (·.kind))
  | 0, _, _, _, _ => trivial
  | n + 1, d, c, sound, classed => by
    rw [Parse.arguments]
    refine frame_any ?_
    simp only [spec_bind, spec_discard, spec_pure]
    refine expect_passes sound (by decide) fun opened first => ?_
    refine (listed_marked n (d + 1) c.advance .rparen _ [] (some .lparen) first.sound
      (classed.of_passes first) fun _ => rfl).mono fun args c1 read => ?_
    obtain ⟨span, new, passes, same, le⟩ := read
    simp only [List.reverse_nil, List.nil_append] at same
    subst same
    refine expect_passes passes.sound (by decide) fun _ last => ?_
    exact ⟨_, _, _, by simpa using first.trans (passes.trans last), opened, le⟩

end

/-- Every grouping of an expression parsed from a text is paid for by a mark of its tokens: an
opening parenthesis, or a sign written straight before a token that starts with the same sign. -/
theorem parens_le_marks {s : String} {e : Expr} (parsed : parseExpression s = .ok e) :
    ∃ ts, scan s = .ok ts ∧
      e.parens ≤ marks none ((ts.filter (·.kind != .comment)).map (·.kind)) := by
  obtain ⟨ts, scanned, tree⟩ := parseExpression_ok parsed
  obtain ⟨front, last, rfl, ended, -⟩ := scan_ends scanned
  have classed := Cursor.ofTokens_classed (scan_classed scanned)
  have sound : (Cursor.ofTokens (front ++ [last])).Sound :=
    ⟨ofTokens_ends _, (Cursor.ofTokens (front ++ [last])).nonempty⟩
  have start : (Cursor.ofTokens (front ++ [last])).ahead = (front ++ [last]).filter
    (·.kind != .comment) := by
    simp [Cursor.ahead, Cursor.ofTokens, readable_of_eof ended, List.filter_append, ended]
  unfold parseExpressionTokens Parser.runFrom at tree
  rcases ran : Parser.exec (Parse.soleExpression (Parse.budget (Cursor.ofTokens (front ++ [last]))))
    Parse.textDepth (Cursor.ofTokens (front ++ [last])) with ⟨r, c'⟩
  have spec : Spec AnyFailure
    (Parse.soleExpression (Parse.budget (Cursor.ofTokens (front ++ [last]))))
      Parse.textDepth (Cursor.ofTokens (front ++ [last])) fun e _ => ∃ span c1,
        (Cursor.ofTokens (front ++ [last])).Passes span c1 ∧
          e.parens ≤ marks none (span.map (·.kind)) := by
    rw [Parse.soleExpression]
    simp only [spec_bind, spec_discard, spec_pure]
    refine (expression_marked _ _ _ none sound classed rfl).mono fun _ c1 read => ?_
    obtain ⟨span, found⟩ := read
    exact expect_any fun _ => ⟨span, c1, found⟩
  have result : r = .ok e := by
    rw [← tree]
    exact (congrArg Prod.fst ran).symm
  subst result
  obtain ⟨span, c1, passes, le⟩ := spec.post ran
  have whole : (front ++ [last]).filter (·.kind != .comment) = span ++ c1.ahead := by
    rw [← start]
    exact passes.2.2
  refine ⟨front ++ [last], scanned, ?_⟩
  rw [whole]
  exact le.trans marks_tokens_prefix

end Quill
