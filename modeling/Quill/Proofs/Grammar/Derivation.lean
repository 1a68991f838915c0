import Quill.Proofs.Reparse.Basic

set_option autoImplicit false

/- The grammar of Quill over the kinds of tokens, as derivations: each nonterminal relates the
kinds from some point on to the kinds left once it is read. The first tokens of a derivation are
what a parser that looks ahead sees. -/
namespace Quill

namespace Grammar

/-- `binary_op`: the thirteen binary operators. -/
def binaryOps : List TokenKind :=
  [.or, .and, .eq, .neq, .lt, .gt, .lte, .gte, .add, .sub, .mul, .div, .mod]

mutual

/-- `primary_expr`: a string, a number, a name, an array, a map, a parenthesised expression, a
prefix update of a postfix expression, or a unary operator on a primary expression. -/
inductive Primary : List TokenKind → List TokenKind → Prop
  | string {r : List TokenKind} : Primary (.string :: r) r
  | number {r : List TokenKind} : Primary (.number :: r) r
  | ident {r : List TokenKind} : Primary (.ident :: r) r
  | array {ts r : List TokenKind} : Items ts (.rbracket :: r) → Primary (.lbracket :: ts) r
  | map {ts r : List TokenKind} : Entries ts (.rbrace :: r) → Primary (.lbrace :: ts) r
  | paren {ts r : List TokenKind} : Expression ts (.rparen :: r) → Primary (.lparen :: ts) r
  | update {k : TokenKind} {ts r : List TokenKind} : k = .inc ∨ k = .dec → Postfix ts r →
      Primary (k :: ts) r
  | unary {k : TokenKind} {ts r : List TokenKind} : k = .not ∨ k = .add ∨ k = .sub →
      Primary ts r → Primary (k :: ts) r

/-- `postfix_expr ::= primary_expr { suffix }`. -/
inductive Postfix : List TokenKind → List TokenKind → Prop
  | mk {ts m r : List TokenKind} : Primary ts m → Suffixes m r → Postfix ts r

/-- One of `call_suffix`, `member_suffix`, `index_suffix`, `'++'` and `'--'`. -/
inductive Suffix : List TokenKind → List TokenKind → Prop
  | call {ts r : List TokenKind} : Items ts (.rparen :: r) → Suffix (.lparen :: ts) r
  | member {r : List TokenKind} : Suffix (.dot :: .ident :: r) r
  | memberCall {ts r : List TokenKind} : Items ts (.rparen :: r) →
      Suffix (.dot :: .ident :: .lparen :: ts) r
  | index {ts r : List TokenKind} : Expression ts (.rbracket :: r) → Suffix (.lbracket :: ts) r
  | update {k : TokenKind} {r : List TokenKind} : k = .inc ∨ k = .dec → Suffix (k :: r) r

/-- `{ suffix }`. -/
inductive Suffixes : List TokenKind → List TokenKind → Prop
  | nil {r : List TokenKind} : Suffixes r r
  | cons {ts m r : List TokenKind} : Suffix ts m → Suffixes m r → Suffixes ts r

/-- `expression ::= postfix_expr { binary_op postfix_expr }`. -/
inductive Expression : List TokenKind → List TokenKind → Prop
  | mk {ts m r : List TokenKind} : Postfix ts m → Operations m r → Expression ts r

/-- `{ binary_op postfix_expr }`. -/
inductive Operations : List TokenKind → List TokenKind → Prop
  | nil {r : List TokenKind} : Operations r r
  | cons {k : TokenKind} {ts m r : List TokenKind} : k ∈ binaryOps → Postfix ts m →
      Operations m r → Operations (k :: ts) r

/-- `[ expression { ',' expression } ]`: the elements of an array, the arguments of a call. -/
inductive Items : List TokenKind → List TokenKind → Prop
  | nil {r : List TokenKind} : Items r r
  | cons {ts m r : List TokenKind} : Expression ts m → MoreItems m r → Items ts r

/-- `{ ',' expression }`. -/
inductive MoreItems : List TokenKind → List TokenKind → Prop
  | nil {r : List TokenKind} : MoreItems r r
  | cons {ts m r : List TokenKind} : Expression ts m → MoreItems m r →
      MoreItems (.comma :: ts) r

/-- `[ map_entry { ',' map_entry } ]`, where `map_entry ::= STRING ':' expression`. -/
inductive Entries : List TokenKind → List TokenKind → Prop
  | nil {r : List TokenKind} : Entries r r
  | cons {ts m r : List TokenKind} : Expression ts m → MoreEntries m r →
      Entries (.string :: .colon :: ts) r

/-- `{ ',' map_entry }`. -/
inductive MoreEntries : List TokenKind → List TokenKind → Prop
  | nil {r : List TokenKind} : MoreEntries r r
  | cons {ts m r : List TokenKind} : Expression ts m → MoreEntries m r →
      MoreEntries (.comma :: .string :: .colon :: ts) r

end

/-- `';' | <EOF>`: a semicolon is read, the end of input only looked at. -/
inductive Terminator : List TokenKind → List TokenKind → Prop
  | semicolon {r : List TokenKind} : Terminator (.semicolon :: r) r
  | eof {r : List TokenKind} : Terminator (.eof :: r) (.eof :: r)

mutual

/-- `assign_stmt | block_stmt | expression`, where `assign_stmt ::= IDENT '=' expression` and
`block_stmt ::= '{' { statement } '}'`. -/
inductive Body : List TokenKind → List TokenKind → Prop
  | assign {ts r : List TokenKind} : Expression ts r → Body (.ident :: .assign :: ts) r
  | block {ts r : List TokenKind} : Statements ts (.rbrace :: r) → Body (.lbrace :: ts) r
  | expression {ts r : List TokenKind} : Expression ts r → Body ts r

/-- `statement ::= ( assign_stmt | block_stmt | expression ) ( ';' | <EOF> )`. -/
inductive Statement : List TokenKind → List TokenKind → Prop
  | mk {ts m r : List TokenKind} : Body ts m → Terminator m r → Statement ts r

/-- `{ statement }`. -/
inductive Statements : List TokenKind → List TokenKind → Prop
  | nil {r : List TokenKind} : Statements r r
  | cons {ts m r : List TokenKind} : Statement ts m → Statements m r → Statements ts r

end

/-- `program ::= { statement } EOF`: the token kinds of a whole program, the end of input the
last of them. -/
def Program (ts : List TokenKind) : Prop := Statements ts [.eof]

theorem Suffixes.append {ts m r : List TokenKind} :
    Suffixes ts m → Suffixes m r → Suffixes ts r
  | .nil, more => more
  | .cons one rest, more => .cons one (rest.append more)

theorem Operations.append {ts m r : List TokenKind} :
    Operations ts m → Operations m r → Operations ts r
  | .nil, more => more
  | .cons binary operand rest, more => .cons binary operand (rest.append more)

theorem Postfix.suffixes {ts m r : List TokenKind} (operand : Postfix ts m)
    (more : Suffixes m r) : Postfix ts r := by
  obtain ⟨primary, chain⟩ := operand
  exact .mk primary (chain.append more)

/-- A unary operator before a postfix expression applies to its primary expression, and the
suffixes follow the operation. -/
theorem Postfix.unary {k : TokenKind} {ts r : List TokenKind}
    (op : k = .not ∨ k = .add ∨ k = .sub)
    (operand : Postfix ts r) : Postfix (k :: ts) r := by
  obtain ⟨primary, chain⟩ := operand
  exact .mk (.unary op primary) chain

theorem Postfix.ofPrimary {ts r : List TokenKind} (primary : Primary ts r) : Postfix ts r :=
  .mk primary .nil

theorem Expression.ofPostfix {ts r : List TokenKind} (operand : Postfix ts r) :
    Expression ts r :=
  .mk operand .nil

theorem binaryOps_iff (k : TokenKind) : k ∈ binaryOps ↔ (BinaryOp.ofToken? k).isSome := by
  cases k <;> decide

mutual

theorem Primary.suffix : {ts r : List TokenKind} → Primary ts r → r <:+ ts
  | _, _, .string | _, _, .number | _, _, .ident => List.suffix_cons _ _
  | _, _, .array items => (List.suffix_cons _ _).trans (items.suffix.trans (List.suffix_cons _ _))
  | _, _, .map entries =>
    (List.suffix_cons _ _).trans (entries.suffix.trans (List.suffix_cons _ _))
  | _, _, .paren inner => (List.suffix_cons _ _).trans (inner.suffix.trans (List.suffix_cons _ _))
  | _, _, .update _ arg => arg.suffix.trans (List.suffix_cons _ _)
  | _, _, .unary _ arg => arg.suffix.trans (List.suffix_cons _ _)

theorem Postfix.suffix : {ts r : List TokenKind} → Postfix ts r → r <:+ ts
  | _, _, .mk primary chain => chain.suffix.trans primary.suffix

theorem Suffix.suffix : {ts r : List TokenKind} → Suffix ts r → r <:+ ts
  | _, _, .call items => (List.suffix_cons _ _).trans (items.suffix.trans (List.suffix_cons _ _))
  | _, _, .member => (List.suffix_cons _ _).trans (List.suffix_cons _ _)
  | _, _, .memberCall items =>
    (List.suffix_cons _ _).trans (items.suffix.trans ((List.suffix_cons _ _).trans
      ((List.suffix_cons _ _).trans (List.suffix_cons _ _))))
  | _, _, .index key => (List.suffix_cons _ _).trans (key.suffix.trans (List.suffix_cons _ _))
  | _, _, .update _ => List.suffix_cons _ _

theorem Suffixes.suffix : {ts r : List TokenKind} → Suffixes ts r → r <:+ ts
  | _, _, .nil => List.suffix_refl _
  | _, _, .cons one rest => rest.suffix.trans one.suffix

theorem Expression.suffix : {ts r : List TokenKind} → Expression ts r → r <:+ ts
  | _, _, .mk first rest => rest.suffix.trans first.suffix

theorem Operations.suffix : {ts r : List TokenKind} → Operations ts r → r <:+ ts
  | _, _, .nil => List.suffix_refl _
  | _, _, .cons _ operand rest => rest.suffix.trans (operand.suffix.trans (List.suffix_cons _ _))

theorem Items.suffix : {ts r : List TokenKind} → Items ts r → r <:+ ts
  | _, _, .nil => List.suffix_refl _
  | _, _, .cons first rest => rest.suffix.trans first.suffix

theorem MoreItems.suffix : {ts r : List TokenKind} → MoreItems ts r → r <:+ ts
  | _, _, .nil => List.suffix_refl _
  | _, _, .cons first rest => rest.suffix.trans (first.suffix.trans (List.suffix_cons _ _))

theorem Entries.suffix : {ts r : List TokenKind} → Entries ts r → r <:+ ts
  | _, _, .nil => List.suffix_refl _
  | _, _, .cons first rest =>
    rest.suffix.trans (first.suffix.trans ((List.suffix_cons _ _).trans (List.suffix_cons _ _)))

theorem MoreEntries.suffix : {ts r : List TokenKind} → MoreEntries ts r → r <:+ ts
  | _, _, .nil => List.suffix_refl _
  | _, _, .cons first rest =>
    rest.suffix.trans (first.suffix.trans ((List.suffix_cons _ _).trans
      ((List.suffix_cons _ _).trans (List.suffix_cons _ _))))

end

theorem Terminator.suffix {ts r : List TokenKind} (stop : Terminator ts r) : r <:+ ts := by
  cases stop with
  | semicolon => exact List.suffix_cons _ _
  | eof => exact List.suffix_refl _

mutual

theorem Body.suffix : {ts r : List TokenKind} → Body ts r → r <:+ ts
  | _, _, .assign value =>
    value.suffix.trans ((List.suffix_cons _ _).trans (List.suffix_cons _ _))
  | _, _, .block body => (List.suffix_cons _ _).trans (body.suffix.trans (List.suffix_cons _ _))
  | _, _, .expression e => e.suffix

theorem Statement.suffix : {ts r : List TokenKind} → Statement ts r → r <:+ ts
  | _, _, .mk body ended => ended.suffix.trans body.suffix

theorem Statements.suffix : {ts r : List TokenKind} → Statements ts r → r <:+ ts
  | _, _, .nil => List.suffix_refl _
  | _, _, .cons first rest => rest.suffix.trans first.suffix

end

theorem Primary.head {ts r : List TokenKind} (primary : Primary ts r) :
    ∃ k rest, ts = k :: rest ∧ k ∈ startKinds := by
  cases primary with
  | update op => exact ⟨_, _, rfl, by rcases op with rfl | rfl <;> decide⟩
  | unary op => exact ⟨_, _, rfl, by rcases op with rfl | rfl | rfl <;> decide⟩
  | _ => exact ⟨_, _, rfl, by decide⟩

theorem Postfix.head {ts r : List TokenKind} (operand : Postfix ts r) :
    ∃ k rest, ts = k :: rest ∧ k ∈ startKinds := by
  obtain ⟨primary, -⟩ := operand
  exact primary.head

theorem Expression.head {ts r : List TokenKind} (e : Expression ts r) :
    ∃ k rest, ts = k :: rest ∧ k ∈ startKinds := by
  obtain ⟨first, -⟩ := e
  exact first.head

theorem Suffix.head {ts r : List TokenKind} (one : Suffix ts r) :
    ∃ k rest, ts = k :: rest ∧ k ∈ suffixKinds := by
  cases one with
  | update op => exact ⟨_, _, rfl, by rcases op with rfl | rfl <;> decide⟩
  | _ => exact ⟨_, _, rfl, by decide⟩

/-- A statement starts as an expression does: an assignment with a name, a block with `{`. -/
theorem Statement.head {ts r : List TokenKind} (s : Statement ts r) :
    ∃ k rest, ts = k :: rest ∧ k ∈ startKinds := by
  obtain ⟨body, -⟩ := s
  cases body with
  | assign => exact ⟨_, _, rfl, by decide⟩
  | block => exact ⟨_, _, rfl, by decide⟩
  | expression e => exact e.head

/-- Tokens that no suffix goes on to: the first of them starts no call, access, indexing or
postfix update. -/
def EndsChain (r : List TokenKind) : Prop := ∃ k rest, r = k :: rest ∧ k ∉ suffixKinds

/-- Tokens that no expression goes on to: the first of them starts neither a suffix nor a binary
operation. -/
def EndsExpression (r : List TokenKind) : Prop :=
  ∃ k rest, r = k :: rest ∧ k ∉ suffixKinds ∧ k ∉ binaryOps

theorem EndsExpression.chain {r : List TokenKind} (ends : EndsExpression r) : EndsChain r := by
  obtain ⟨k, rest, rfl, plain, -⟩ := ends
  exact ⟨k, rest, rfl, plain⟩

/-- A closing bracket, a separator or the end of input ends every expression. -/
theorem endsExpression_closing {k : TokenKind}
    (closing : k ∈ [.rparen, .rbracket, .rbrace, .comma, .semicolon, .eof])
      (rest : List TokenKind) :
    EndsExpression (k :: rest) := by
  simp only [List.mem_cons, List.not_mem_nil, or_false] at closing
  rcases closing with rfl | rfl | rfl | rfl | rfl | rfl <;>
    exact ⟨_, rest, rfl, by decide, by decide⟩

/-- A chain of suffixes reads nothing at a token that starts no suffix. -/
theorem Suffixes.eq_of_ends {ts r : List TokenKind} (chain : Suffixes ts r) (ends : EndsChain ts) :
    r = ts := by
  cases chain with
  | nil => rfl
  | cons one _ =>
    obtain ⟨k, rest, same, plain⟩ := ends
    obtain ⟨k', rest', rfl, mem⟩ := one.head
    cases same
    exact absurd mem plain

/-- A run of operations reads nothing at a token that is no binary operator. -/
theorem Operations.eq_of_head {k : TokenKind} {ts r : List TokenKind}
    (ops : Operations (k :: ts) r) (plain : k ∉ binaryOps) : r = k :: ts := by
  cases ops with
  | nil => rfl
  | cons binary _ _ => exact absurd binary plain

theorem binaryOps_not_suffix : ∀ k ∈ binaryOps, k ∉ suffixKinds := by decide

/-- Where no suffix goes on after a run of operations, none goes on before it: the run is empty or
starts with a binary operator. -/
theorem Operations.endsChain {m r : List TokenKind} (ops : Operations m r) (ends : EndsChain r) :
    EndsChain m := by
  cases ops with
  | nil => exact ends
  | cons binary _ _ => exact ⟨_, _, rfl, binaryOps_not_suffix _ binary⟩

theorem Terminator.endsExpression {m r : List TokenKind} (stop : Terminator m r) :
    EndsExpression m := by
  cases stop <;> exact endsExpression_closing (by decide) _

theorem MoreItems.endsExpression {m r : List TokenKind} {close : TokenKind}
    (more : MoreItems m (close :: r)) (closing : close = .rparen ∨ close = .rbracket) :
    EndsExpression m := by
  cases more with
  | nil => exact endsExpression_closing (by rcases closing with rfl | rfl <;> decide) _
  | cons => exact endsExpression_closing (by decide) _

theorem MoreEntries.endsExpression {m r : List TokenKind} (more : MoreEntries m (.rbrace :: r)) :
    EndsExpression m := by
  cases more <;> exact endsExpression_closing (by decide) _

/-- A kind that neither goes on from an expression's first token nor closes it: it starts no
expression, suffix or binary operation, and closes no empty array or map. -/
def Inert (k : TokenKind) : Prop :=
  k ∉ startKinds ∧ k ∉ suffixKinds ∧ k ∉ binaryOps ∧ k ≠ .rbracket ∧ k ≠ .rbrace

theorem inert_colon : Inert .colon := ⟨by decide, by decide, by decide, by decide, by decide⟩

theorem inert_assign : Inert .assign := ⟨by decide, by decide, by decide, by decide, by decide⟩

/-- The first token of a derivation that starts as an expression does. -/
theorem start_of_head {k : TokenKind} {rest : List TokenKind}
    (head : ∃ k' rest', k :: rest = k' :: rest' ∧ k' ∈ startKinds) : k ∈ startKinds := by
  obtain ⟨_, _, same, mem⟩ := head
  cases same
  exact mem

/-- A primary expression whose second token is inert is its first token alone. -/
theorem Primary.single {x k : TokenKind} {ts r : List TokenKind}
    (primary : Primary (x :: k :: ts) r)
    (inert : Inert k) : r = k :: ts := by
  obtain ⟨start, -, -, closes, opens⟩ := inert
  cases primary with
  | string | number | ident => rfl
  | array items =>
    cases items with
    | nil => exact absurd rfl closes
    | cons e _ => exact absurd (start_of_head e.head) start
  | map entries =>
    cases entries with
    | nil => exact absurd rfl opens
    | cons => exact absurd (by decide) start
  | paren e => exact absurd (start_of_head e.head) start
  | update _ arg => exact absurd (start_of_head arg.head) start
  | unary _ arg => exact absurd (start_of_head arg.head) start

theorem Expression.single {x k : TokenKind} {ts r : List TokenKind}
    (e : Expression (x :: k :: ts) r)
    (inert : Inert k) : r = k :: ts := by
  obtain ⟨⟨primary, chain⟩, ops⟩ := e
  have alone := primary.single inert
  subst alone
  have unchained := chain.eq_of_ends ⟨k, ts, rfl, inert.2.1⟩
  subst unchained
  exact ops.eq_of_head inert.2.2.1

/-- No statement has `:` for its second token. -/
theorem Statement.second_ne_colon {x : TokenKind} {ts r : List TokenKind}
    (s : Statement (x :: .colon :: ts) r) : False := by
  obtain ⟨body, stop⟩ := s
  cases body with
  | block body =>
    cases body with
    | cons first _ => exact absurd (start_of_head first.head) (by decide)
  | expression e =>
    have alone := e.single inert_colon
    subst alone
    cases stop

/-- No expression statement starts with a name and `=`. -/
theorem Expression.not_assign {ts m r : List TokenKind} (e : Expression (.ident :: .assign :: ts) m)
    (stop : Terminator m r) : False := by
  have alone := e.single inert_assign
  subst alone
  cases stop

/-- An expression that starts with `{` is a map: the brace is closed at once, or a key and `:`
follow it. -/
theorem Expression.brace {ts r : List TokenKind} (e : Expression (.lbrace :: ts) r) :
    (∃ rest, ts = .rbrace :: rest) ∨ ∃ rest, ts = .string :: .colon :: rest := by
  obtain ⟨⟨primary, -⟩, -⟩ := e
  cases primary with
  | map entries =>
    cases entries with
    | nil => exact .inl ⟨_, rfl⟩
    | cons => exact .inr ⟨_, rfl⟩
  | update op => obtain h | h := op <;> cases h
  | unary op => obtain h | h | h := op <;> cases h

/-- A block whose first token closes it holds no statement. -/
theorem Statements.eq_of_rbrace {ts r : List TokenKind} (ss : Statements (.rbrace :: ts) r) :
    r = .rbrace :: ts := by
  cases ss with
  | nil => rfl
  | cons first _ => exact absurd (start_of_head first.head) (by decide)

/-- A call right after a member access is read with it as one suffix. -/
theorem Suffix.member_call {ts r : List TokenKind} (call : Suffix ts r)
    (opened : ts.head? = some .lparen) : Suffix (.dot :: .ident :: ts) r := by
  cases call with
  | call items => exact .memberCall items
  | member | memberCall | index => cases opened
  | update op => obtain rfl | rfl := op <;> cases opened

/-- An empty map on its own. -/
theorem Expression.emptyMap (r : List TokenKind) : Expression (.lbrace :: .rbrace :: r) r :=
  .ofPostfix (.ofPrimary (.map .nil))

end Grammar

end Quill
