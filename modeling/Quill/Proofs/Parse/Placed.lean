import Quill.Proofs.Parse.WellFormed

set_option autoImplicit false

/- Where the nodes of a tree stand among the tokens they were read from: every node at the first
of its own tokens that is no opening parenthesis. On tokens in the order of the text, every node
so placed stands no later than any node below it. -/
namespace Quill

/-- Where an expression read from the tokens `ts` stands: at the first of them that is no
opening parenthesis. -/
def leadPos (ts : List Token) : Option Position := (ts.find? (·.kind != .lparen)).map (·.pos)

theorem leadPos_cons {t : Token} (ts : List Token) (plain : t.kind ≠ .lparen) :
    leadPos (t :: ts) = some t.pos := by
  simp [leadPos, plain]

theorem leadPos_cons_lparen {t : Token} (ts : List Token) (opening : t.kind = .lparen) :
    leadPos (t :: ts) = leadPos ts := by
  simp [leadPos, opening]

theorem leadPos_append {ts : List Token} {p : Position} (us : List Token)
    (lead : leadPos ts = some p) : leadPos (ts ++ us) = some p := by
  obtain ⟨t, found, rfl⟩ := Option.map_eq_some_iff.mp lead
  simp [leadPos, List.find?_append, found]

mutual

/-- The expression `e` is read from exactly the tokens `ts`, and each of its nodes stands at the
first of its own tokens that is no opening parenthesis. -/
inductive Expr.Placed : List Token → Expr → Prop
  /-- A string, a number, or a name that writes a constant. -/
  | literal {t : Token} {v : Data} {raw : String} {p : Position} :
      t.kind ∈ [.string, .number, .ident] → leadPos [t] = some p →
      Expr.Placed [t] (.literal v raw p)
  | var {t : Token} {name : String} {p : Position} :
      t.kind = .ident → leadPos [t] = some p → Expr.Placed [t] (.var name p)
  /-- A member chosen by name, the name at its own token. -/
  | field {ts : List Token} {obj : Expr} {dot name : Token} {p : Position} :
      Expr.Placed ts obj → dot.kind = .dot → name.kind = .ident →
      leadPos (ts ++ [dot, name]) = some p →
      Expr.Placed (ts ++ [dot, name]) (.field obj name.text name.pos p)
  | index {ts ks : List Token} {obj key : Expr} {lb rb : Token} {p : Position} :
      Expr.Placed ts obj → lb.kind = .lbracket → Expr.Placed ks key → rb.kind = .rbracket →
      leadPos (ts ++ lb :: ks ++ [rb]) = some p →
      Expr.Placed (ts ++ lb :: ks ++ [rb]) (.index obj key p)
  | call {ts as : List Token} {callee : Expr} {args : List Expr} {lp rp : Token} {p : Position} :
      Expr.Placed ts callee → lp.kind = .lparen → Expr.PlacedItems as args →
      rp.kind = .rparen → leadPos (ts ++ lp :: as ++ [rp]) = some p →
      Expr.Placed (ts ++ lp :: as ++ [rp]) (.call callee args p)
  | array {lb rb : Token} {ts : List Token} {items : List Expr} {p : Position} :
      lb.kind = .lbracket → Expr.PlacedItems ts items → rb.kind = .rbracket →
      leadPos (lb :: ts ++ [rb]) = some p → Expr.Placed (lb :: ts ++ [rb]) (.array items p)
  | map {lb rb : Token} {ts : List Token} {entries : List (MapKey × Expr)} {p : Position} :
      lb.kind = .lbrace → Expr.PlacedEntries ts entries → rb.kind = .rbrace →
      leadPos (lb :: ts ++ [rb]) = some p → Expr.Placed (lb :: ts ++ [rb]) (.map entries p)
  | binary {ls rs : List Token} {t : Token} {op : BinaryOp} {lhs rhs : Expr} {p : Position} :
      Expr.Placed ls lhs → BinaryOp.ofToken? t.kind = some op → Expr.Placed rs rhs →
      leadPos (ls ++ t :: rs) = some p → Expr.Placed (ls ++ t :: rs) (.binary op lhs rhs p)
  | unary {t : Token} {ts : List Token} {op : UnaryOp} {arg : Expr} {p : Position} :
      UnaryOp.ofToken? t.kind = some op → Expr.Placed ts arg → leadPos (t :: ts) = some p →
      Expr.Placed (t :: ts) (.unary op arg p)
  | updateBefore {t : Token} {ts : List Token} {op : UpdateOp} {arg : Expr} {p : Position} :
      UpdateOp.ofToken? t.kind = some op → Expr.Placed ts arg → leadPos (t :: ts) = some p →
      Expr.Placed (t :: ts) (.update op arg true p)
  | updateAfter {ts : List Token} {t : Token} {op : UpdateOp} {arg : Expr} {p : Position} :
      Expr.Placed ts arg → UpdateOp.ofToken? t.kind = some op → leadPos (ts ++ [t]) = some p →
      Expr.Placed (ts ++ [t]) (.update op arg false p)
  /-- A parenthesised expression is the expression it encloses. -/
  | paren {lp rp : Token} {ts : List Token} {e : Expr} :
      lp.kind = .lparen → Expr.Placed ts e → rp.kind = .rparen →
        Expr.Placed (lp :: ts ++ [rp]) e

/-- Expressions separated by commas: the items of an array, the arguments of a call. -/
inductive Expr.PlacedItems : List Token → List Expr → Prop
  | nil : Expr.PlacedItems [] []
  | cons {ts rest : List Token} {e : Expr} {es : List Expr} :
      Expr.Placed ts e → Expr.PlacedMore rest es → Expr.PlacedItems (ts ++ rest) (e :: es)

/-- Expressions each after a comma. -/
inductive Expr.PlacedMore : List Token → List Expr → Prop
  | nil : Expr.PlacedMore [] []
  | cons {comma : Token} {ts rest : List Token} {e : Expr} {es : List Expr} :
      comma.kind = .comma → Expr.Placed ts e → Expr.PlacedMore rest es →
      Expr.PlacedMore (comma :: ts ++ rest) (e :: es)

/-- Map entries separated by commas, each key at its string. -/
inductive Expr.PlacedEntries : List Token → List (MapKey × Expr) → Prop
  | nil : Expr.PlacedEntries [] []
  | cons {key colon : Token} {ts rest : List Token} {e : Expr} {es : List (MapKey × Expr)} :
      key.kind = .string → colon.kind = .colon → Expr.Placed ts e →
      Expr.PlacedMoreEntries rest es →
      Expr.PlacedEntries (key :: colon :: ts ++ rest) ((⟨key.text, key.pos⟩, e) :: es)

/-- Map entries each after a comma. -/
inductive Expr.PlacedMoreEntries : List Token → List (MapKey × Expr) → Prop
  | nil : Expr.PlacedMoreEntries [] []
  | cons {comma key colon : Token} {ts rest : List Token} {e : Expr} {es : List (MapKey × Expr)} :
      comma.kind = .comma → key.kind = .string → colon.kind = .colon → Expr.Placed ts e →
      Expr.PlacedMoreEntries rest es →
      Expr.PlacedMoreEntries (comma :: key :: colon :: ts ++ rest)
        ((⟨key.text, key.pos⟩, e) :: es)

end

mutual

/-- The statement `s` is read from exactly the tokens `ts`, its terminator apart: an assignment
stands at its name, a block at its brace, an expression statement at its first token. -/
inductive Stmt.Placed : List Token → Stmt → Prop
  | assign {name eq : Token} {ts : List Token} {value : Expr} :
      name.kind = .ident → eq.kind = .assign → Expr.Placed ts value →
      Stmt.Placed (name :: eq :: ts) (.assign name.text value name.pos)
  | block {lb rb : Token} {ts : List Token} {body : List Stmt} :
      lb.kind = .lbrace → Stmt.PlacedList ts body → rb.kind = .rbrace →
      Stmt.Placed (lb :: ts ++ [rb]) (.block body lb.pos)
  | expr {t : Token} {ts : List Token} {e : Expr} :
      Expr.Placed (t :: ts) e → Stmt.Placed (t :: ts) (.expr e t.pos)

/-- Statements each ended by a semicolon, as in a block. -/
inductive Stmt.PlacedList : List Token → List Stmt → Prop
  | nil : Stmt.PlacedList [] []
  | cons {ts rest : List Token} {semi : Token} {s : Stmt} {ss : List Stmt} :
      Stmt.Placed ts s → semi.kind = .semicolon → Stmt.PlacedList rest ss →
      Stmt.PlacedList (ts ++ semi :: rest) (s :: ss)

end

/-- The statements of a program: each ended by a semicolon, the last of them possibly by the end
of input instead. -/
inductive Stmt.PlacedProgram : List Token → List Stmt → Prop
  | nil : Stmt.PlacedProgram [] []
  | last {ts : List Token} {s : Stmt} : Stmt.Placed ts s → Stmt.PlacedProgram ts [s]
  | cons {ts rest : List Token} {semi : Token} {s : Stmt} {ss : List Stmt} :
      Stmt.Placed ts s → semi.kind = .semicolon → Stmt.PlacedProgram rest ss →
      Stmt.PlacedProgram (ts ++ semi :: rest) (s :: ss)

/-- The program `t` is read from the tokens `ts`, the end of input the last of them: its
statements from the others, and the program stands at the first token. -/
def Program.Placed (ts : List Token) (t : Program) : Prop :=
  ∃ body eof, ts = body ++ [eof] ∧ eof.kind = .eof ∧ Stmt.PlacedProgram body t.body ∧
    ts.head?.map (·.pos) = some t.pos

/-- The position of a statement. -/
def Stmt.pos : Stmt → Position
  | .assign _ _ p | .expr _ p | .block _ p => p

/-- `q` is a position held in `e`: that of `e` itself, of a member's name, of a map key, or one
held in a part of `e`. -/
inductive Expr.HasPos : Expr → Position → Prop
  | here (e : Expr) : Expr.HasPos e e.pos
  | name {obj : Expr} {name : String} {namePos p : Position} :
      Expr.HasPos (.field obj name namePos p) namePos
  | key {entries : List (MapKey × Expr)} {p : Position} {kv : MapKey × Expr} :
      kv ∈ entries → Expr.HasPos (.map entries p) kv.1.pos
  | part {e p : Expr} {q : Position} : p ∈ e.parts → Expr.HasPos p q → Expr.HasPos e q

/-- `q` is a position held in `s`: that of `s` itself, or one held in an expression or a
statement of it. -/
inductive Stmt.HasPos : Stmt → Position → Prop
  | here (s : Stmt) : Stmt.HasPos s s.pos
  | expr {s : Stmt} {e : Expr} {q : Position} : e ∈ s.exprs → e.HasPos q → Stmt.HasPos s q
  | part {s p : Stmt} {q : Position} : p ∈ s.parts → Stmt.HasPos p q → Stmt.HasPos s q

/-- Every node of `e` stands no later in the text than any position held below it. -/
def Expr.Ordered (e : Expr) : Prop :=
  ∀ e' : Expr, e'.NodeOf e → ∀ q, e'.HasPos q → e'.pos.offset ≤ q.offset

/-- Every statement of `s` stands no later in the text than any position held below it, and the
expressions it holds are ordered. -/
def Stmt.Ordered (s : Stmt) : Prop :=
  ∀ s' : Stmt, s'.NodeOf s → (∀ q, s'.HasPos q → s'.pos.offset ≤ q.offset) ∧
    ∀ e ∈ s'.exprs, e.Ordered

/-- The program stands no later in the text than any position held in it, and its statements
are ordered. -/
def Program.Ordered (t : Program) : Prop :=
  ∀ s ∈ t.body, (∀ q, s.HasPos q → t.pos.offset ≤ q.offset) ∧ s.Ordered

/-- Tokens in the order of the text: offsets strictly increase. -/
def Ascending (ts : List Token) : Prop := ts.Pairwise fun a b => a.pos.offset < b.pos.offset

theorem Ascending.inner {ts us : List Token} (ascending : Ascending ts) (within : us <:+: ts) :
    Ascending us :=
  ascending.sublist within.sublist

/-- The first token that passes a test stands no later than any other that passes it. -/
theorem Ascending.find?_le {ts : List Token} {test : Token → Bool} {a b : Token}
    (ascending : Ascending ts) (found : ts.find? test = some a) (mem : b ∈ ts) (passes : test b) :
    a.pos.offset ≤ b.pos.offset := by
  induction ts with
  | nil => cases mem
  | cons x xs ih =>
    have later := List.pairwise_cons.mp ascending
    by_cases first : test x
    · rw [List.find?_cons_of_pos first, Option.some.injEq] at found
      subst found
      rcases List.mem_cons.mp mem with rfl | mem
      · exact Int.le_refl _
      · exact Int.le_of_lt (later.1 b mem)
    · rw [List.find?_cons_of_neg first] at found
      rcases List.mem_cons.mp mem with rfl | mem
      · exact absurd passes first
      · exact ih later.2 found mem

theorem Ascending.head_le {ts : List Token} {a b : Token} (ascending : Ascending ts)
    (first : ts.head? = some a) (mem : b ∈ ts) : a.pos.offset ≤ b.pos.offset := by
  cases ts with
  | nil => cases first
  | cons x xs =>
    obtain rfl : x = a := by simpa using first
    rcases List.mem_cons.mp mem with rfl | mem
    · exact Int.le_refl _
    · exact Int.le_of_lt (List.rel_of_pairwise_cons ascending mem)

theorem infix_enclosed (l r : Token)
    (ts : List Token) : ts <:+: l :: ts ++ [r] := ⟨[l], [r], rfl⟩

theorem infix_after (pre : List Token) (l r : Token) (ts : List Token) :
    ts <:+: pre ++ l :: ts ++ [r] :=
  ⟨pre ++ [l], [r], by simp⟩

namespace Expr

theorem PlacedMore.mem : ∀ {ts : List Token} {es : List Expr}, PlacedMore ts es →
    ∀ a ∈ es, ∃ us, us <:+: ts ∧ a.Placed us
  | _, _, .nil => fun _ mem => absurd mem List.not_mem_nil
  | _, _, .cons _ head rest => fun a mem => by
    rcases List.mem_cons.mp mem with rfl | mem
    · exact ⟨_, ⟨[_], _, rfl⟩, head⟩
    · obtain ⟨us, within, inner⟩ := rest.mem a mem
      exact ⟨us, within.trans (List.suffix_append _ _).isInfix, inner⟩

theorem PlacedItems.mem {ts : List Token} {es : List Expr} (placed : PlacedItems ts es) :
    ∀ a ∈ es, ∃ us, us <:+: ts ∧ a.Placed us := by
  cases placed with
  | nil => exact List.forall_mem_nil _
  | cons head rest =>
    intro a mem
    rcases List.mem_cons.mp mem with rfl | mem
    · exact ⟨_, (List.prefix_append _ _).isInfix, head⟩
    · obtain ⟨us, within, inner⟩ := rest.mem a mem
      exact ⟨us, within.trans (List.suffix_append _ _).isInfix, inner⟩

theorem PlacedMoreEntries.mem : ∀ {ts : List Token} {es : List (MapKey × Expr)},
    PlacedMoreEntries ts es → ∀ kv ∈ es, (∃ us, us <:+: ts ∧ kv.2.Placed us) ∧
      ∃ t ∈ ts, t.kind = .string ∧ t.pos = kv.1.pos
  | _, _, .nil => fun _ mem => absurd mem List.not_mem_nil
  | _, _, .cons _ string _ value rest => fun kv mem => by
    rcases List.mem_cons.mp mem with rfl | mem
    · exact ⟨⟨_, ⟨[_, _, _], _, rfl⟩, value⟩, _, by simp, string, rfl⟩
    · obtain ⟨⟨us, within, inner⟩, t, found, keyed, at_⟩ := rest.mem kv mem
      exact ⟨⟨us, within.trans (List.suffix_append _ _).isInfix, inner⟩, t, by simp [found],
        keyed, at_⟩

theorem PlacedEntries.mem {ts : List Token} {es : List (MapKey × Expr)}
    (placed : PlacedEntries ts es) : ∀ kv ∈ es, (∃ us, us <:+: ts ∧ kv.2.Placed us) ∧
      ∃ t ∈ ts, t.kind = .string ∧ t.pos = kv.1.pos := by
  cases placed with
  | nil => exact List.forall_mem_nil _
  | cons string _ value rest =>
    intro kv mem
    rcases List.mem_cons.mp mem with rfl | mem
    · exact ⟨⟨_, ⟨[_, _], _, rfl⟩, value⟩, _, by simp, string, rfl⟩
    · obtain ⟨⟨us, within, inner⟩, t, found, keyed, at_⟩ := rest.mem kv mem
      exact ⟨⟨us, within.trans (List.suffix_append _ _).isInfix, inner⟩, t, by simp [found],
        keyed, at_⟩

namespace Placed

/-- A placed expression stands at the first of its tokens that is no opening parenthesis. -/
theorem lead : ∀ {ts : List Token} {e : Expr}, e.Placed ts → leadPos ts = some e.pos
  | _, _, .paren opening inner _ => by
    rw [List.cons_append, leadPos_cons_lparen _ opening]
    exact leadPos_append _ inner.lead
  | _, _, .literal _ lead | _, _, .var _ lead | _, _, .field _ _ _ lead
  | _, _, .index _ _ _ _ lead | _, _, .call _ _ _ _ lead | _, _, .array _ _ _ lead
  | _, _, .map _ _ _ lead | _, _, .binary _ _ _ lead | _, _, .unary _ _ lead
  | _, _, .updateBefore _ _ lead | _, _, .updateAfter _ _ lead => lead

/-- A member's name stands at a name among the member's tokens. -/
theorem name : ∀ {ts : List Token} {e : Expr}, e.Placed ts →
    ∀ {obj : Expr} {name : String} {namePos p : Position}, e = .field obj name namePos p →
      ∃ t ∈ ts, t.kind = .ident ∧ t.pos = namePos
  | _, _, .field _ _ named _ => fun same => by
    cases same
    exact ⟨_, by simp, named, rfl⟩
  | _, _, .paren _ inner _ => fun same => by
    obtain ⟨t, mem, named, at_⟩ := inner.name same
    exact ⟨t, by simp [mem], named, at_⟩
  | _, _, .literal .. | _, _, .var .. | _, _, .index .. | _, _, .call .. | _, _, .array ..
  | _, _, .map .. | _, _, .binary .. | _, _, .unary .. | _, _, .updateBefore ..
  | _, _, .updateAfter .. => fun same => by cases same

/-- Each key of a map stands at a string among the map's tokens. -/
theorem key : ∀ {ts : List Token} {e : Expr}, e.Placed ts →
    ∀ {entries : List (MapKey × Expr)} {p : Position}, e = .map entries p →
      ∀ kv ∈ entries, ∃ t ∈ ts, t.kind = .string ∧ t.pos = kv.1.pos
  | _, _, .map _ listed _ _ => fun same kv mem => by
    cases same
    obtain ⟨-, t, found, keyed, at_⟩ := listed.mem kv mem
    exact ⟨t, by simp [found], keyed, at_⟩
  | _, _, .paren _ inner _ => fun same kv mem => by
    obtain ⟨t, found, keyed, at_⟩ := inner.key same kv mem
    exact ⟨t, by simp [found], keyed, at_⟩
  | _, _, .literal .. | _, _, .var .. | _, _, .field .. | _, _, .index .. | _, _, .call ..
  | _, _, .array .. | _, _, .binary .. | _, _, .unary .. | _, _, .updateBefore ..
  | _, _, .updateAfter .. => fun same => by cases same

/-- Each part of a placed expression is placed, read from some of its tokens. -/
theorem parts : ∀ {ts : List Token} {e : Expr}, e.Placed ts →
    ∀ p ∈ e.parts, ∃ us, us <:+: ts ∧ p.Placed us
  | _, _, .literal .. | _, _, .var .. => List.forall_mem_nil _
  | _, _, .field obj _ _ _ => fun p mem => by
    obtain rfl := List.mem_singleton.mp mem
    exact ⟨_, (List.prefix_append _ _).isInfix, obj⟩
  | _, _, .index obj _ key _ _ => fun p mem => by
    rcases List.mem_pair.mp mem with rfl | rfl
    · exact ⟨_, (List.prefix_append _ _).isInfix.trans (List.prefix_append _ _).isInfix, obj⟩
    · exact ⟨_, infix_after _ _ _ _, key⟩
  | _, _, .call callee _ args _ _ => fun p mem => by
    rcases List.mem_cons.mp mem with rfl | mem
    · exact ⟨_, (List.prefix_append _ _).isInfix.trans (List.prefix_append _ _).isInfix,
        callee⟩
    · obtain ⟨us, within, inner⟩ := args.mem p mem
      exact ⟨us, within.trans (infix_after _ _ _ _), inner⟩
  | _, _, .array _ items _ _ => fun p mem => by
    obtain ⟨us, within, inner⟩ := items.mem p mem
    exact ⟨us, within.trans (infix_enclosed _ _ _), inner⟩
  | _, _, .map _ entries _ _ => fun p mem => by
    obtain ⟨kv, found, rfl⟩ := List.mem_map.mp mem
    obtain ⟨⟨us, within, inner⟩, -⟩ := entries.mem kv found
    exact ⟨us, within.trans (infix_enclosed _ _ _), inner⟩
  | _, _, .binary lhs _ rhs _ => fun p mem => by
    rcases List.mem_pair.mp mem with rfl | rfl
    · exact ⟨_, (List.prefix_append _ _).isInfix, lhs⟩
    · exact ⟨_, (List.suffix_cons _ _).isInfix.trans (List.suffix_append _ _).isInfix, rhs⟩
  | _, _, .unary _ arg _ | _, _, .updateBefore _ arg _ => fun p mem => by
    obtain rfl := List.mem_singleton.mp mem
    exact ⟨_, (List.suffix_cons _ _).isInfix, arg⟩
  | _, _, .updateAfter arg _ _ => fun p mem => by
    obtain rfl := List.mem_singleton.mp mem
    exact ⟨_, (List.prefix_append _ _).isInfix, arg⟩
  | _, _, .paren _ inner _ => fun p mem => by
    obtain ⟨us, within, found⟩ := inner.parts p mem
    exact ⟨us, within.trans (infix_enclosed _ _ _), found⟩

/-- Every position held in a placed expression is that of one of its tokens, never an opening
parenthesis. -/
theorem hasPos {ts : List Token} {e : Expr} {q : Position} (placed : e.Placed ts)
    (held : e.HasPos q) : ∃ t ∈ ts, t.kind ≠ .lparen ∧ t.pos = q := by
  induction held generalizing ts with
  | here e =>
    obtain ⟨t, found, at_⟩ := Option.map_eq_some_iff.mp placed.lead
    exact ⟨t, List.mem_of_find?_eq_some found, by simpa using List.find?_some found, at_⟩
  | name =>
    obtain ⟨t, mem, named, at_⟩ := placed.name rfl
    exact ⟨t, mem, by simp [named], at_⟩
  | key mem =>
    obtain ⟨t, found, keyed, at_⟩ := placed.key rfl _ mem
    exact ⟨t, found, by simp [keyed], at_⟩
  | part mem _ ih =>
    obtain ⟨us, within, inner⟩ := placed.parts _ mem
    obtain ⟨t, found, plain, at_⟩ := ih inner
    exact ⟨t, within.subset found, plain, at_⟩

/-- Every node of a placed expression is placed, read from some of its tokens. -/
theorem nodeOf {ts : List Token} {e e' : Expr} (placed : e.Placed ts) (node : e'.NodeOf e) :
    ∃ us, us <:+: ts ∧ e'.Placed us := by
  induction node generalizing ts with
  | self => exact ⟨ts, List.infix_refl ts, placed⟩
  | part mem _ ih =>
    obtain ⟨us, within, inner⟩ := placed.parts _ mem
    obtain ⟨vs, within', found⟩ := ih inner
    exact ⟨vs, within'.trans within, found⟩

/-- On tokens in the order of the text, every node of a placed expression stands no later than
any position held below it. -/
theorem ordered {ts : List Token} {e : Expr} (ascending : Ascending ts) (placed : e.Placed ts) :
    e.Ordered := by
  intro e' node q held
  obtain ⟨us, within, inner⟩ := placed.nodeOf node
  obtain ⟨t, mem, plain, rfl⟩ := inner.hasPos held
  obtain ⟨first, found, at_⟩ := Option.map_eq_some_iff.mp inner.lead
  rw [← at_]
  exact (ascending.inner within).find?_le found mem (by simpa using plain)

end Placed

end Expr

namespace Stmt

theorem PlacedList.mem : ∀ {ts : List Token} {ss : List Stmt}, PlacedList ts ss →
    ∀ s ∈ ss, ∃ us, us <:+: ts ∧ s.Placed us
  | _, _, .nil => fun _ mem => absurd mem List.not_mem_nil
  | _, _, .cons head _ rest => fun s mem => by
    rcases List.mem_cons.mp mem with rfl | mem
    · exact ⟨_, (List.prefix_append _ _).isInfix, head⟩
    · obtain ⟨us, within, inner⟩ := rest.mem s mem
      exact ⟨us, within.trans
        ((List.suffix_cons _ _).isInfix.trans (List.suffix_append _ _).isInfix), inner⟩

theorem PlacedProgram.mem {ts : List Token} {ss : List Stmt} (placed : PlacedProgram ts ss) :
    ∀ s ∈ ss, ∃ us, us <:+: ts ∧ s.Placed us := by
  induction placed with
  | nil => exact List.forall_mem_nil _
  | last head =>
    intro s mem
    obtain rfl := List.mem_singleton.mp mem
    exact ⟨_, List.infix_refl _, head⟩
  | cons head _ _ ih =>
    intro s mem
    rcases List.mem_cons.mp mem with rfl | mem
    · exact ⟨_, (List.prefix_append _ _).isInfix, head⟩
    · obtain ⟨us, within, inner⟩ := ih s mem
      exact ⟨us, within.trans
        ((List.suffix_cons _ _).isInfix.trans (List.suffix_append _ _).isInfix), inner⟩

namespace Placed

variable {ts : List Token} {s : Stmt}

/-- A placed statement stands at its first token. -/
theorem head (placed : s.Placed ts) : ts.head?.map (·.pos) = some s.pos := by
  cases placed <;> rfl

theorem parts (placed : s.Placed ts) : ∀ p ∈ s.parts, ∃ us, us <:+: ts ∧ p.Placed us := by
  cases placed with
  | block _ body _ =>
    intro p mem
    obtain ⟨us, within, inner⟩ := body.mem p mem
    exact ⟨us, within.trans (infix_enclosed _ _ _), inner⟩
  | assign | expr => exact List.forall_mem_nil _

theorem exprs (placed : s.Placed ts) : ∀ e ∈ s.exprs, ∃ us, us <:+: ts ∧ e.Placed us := by
  cases placed with
  | assign _ _ value =>
    intro e mem
    obtain rfl := List.mem_singleton.mp mem
    exact ⟨_, ((List.suffix_cons _ _).trans (List.suffix_cons _ _)).isInfix, value⟩
  | expr value =>
    intro e mem
    obtain rfl := List.mem_singleton.mp mem
    exact ⟨_, List.infix_refl _, value⟩
  | block => exact List.forall_mem_nil _

/-- Every position held in a placed statement is that of one of its tokens. -/
theorem hasPos {q : Position} (placed : s.Placed ts)
    (held : s.HasPos q) : ∃ t ∈ ts, t.pos = q := by
  induction held generalizing ts with
  | here s =>
    obtain ⟨t, first, at_⟩ := Option.map_eq_some_iff.mp placed.head
    exact ⟨t, List.mem_of_mem_head? first, at_⟩
  | expr mem held =>
    obtain ⟨us, within, inner⟩ := placed.exprs _ mem
    obtain ⟨t, found, -, at_⟩ := inner.hasPos held
    exact ⟨t, within.subset found, at_⟩
  | part mem _ ih =>
    obtain ⟨us, within, inner⟩ := placed.parts _ mem
    obtain ⟨t, found, at_⟩ := ih inner
    exact ⟨t, within.subset found, at_⟩

theorem nodeOf {s' : Stmt} (placed : s.Placed ts) (node : s'.NodeOf s) :
    ∃ us, us <:+: ts ∧ s'.Placed us := by
  induction node generalizing ts with
  | self => exact ⟨ts, List.infix_refl ts, placed⟩
  | part mem _ ih =>
    obtain ⟨us, within, inner⟩ := placed.parts _ mem
    obtain ⟨vs, within', found⟩ := ih inner
    exact ⟨vs, within'.trans within, found⟩

/-- On tokens in the order of the text, every statement of a placed statement stands no later
than any position held below it, and every expression it holds is ordered. -/
theorem ordered (ascending : Ascending ts) (placed : s.Placed ts) : s.Ordered := by
  intro s' node
  obtain ⟨us, within, inner⟩ := placed.nodeOf node
  have inside := ascending.inner within
  refine ⟨fun q held => ?_, fun e mem => ?_⟩
  · obtain ⟨t, mem, rfl⟩ := inner.hasPos held
    obtain ⟨first, found, at_⟩ := Option.map_eq_some_iff.mp inner.head
    rw [← at_]
    exact inside.head_le found mem
  · obtain ⟨vs, within', value⟩ := inner.exprs e mem
    exact value.ordered (inside.inner within')

end Placed

end Stmt

/-- On tokens in the order of the text, a placed program stands no later than any position held
in it, and each of its statements is ordered. -/
theorem Program.Placed.ordered {ts : List Token} {t : Program} (ascending : Ascending ts)
    (placed : t.Placed ts) : t.Ordered := by
  obtain ⟨body, eof, rfl, -, listed, first⟩ := placed
  have within : body <:+: body ++ [eof] := (List.prefix_append _ _).isInfix
  intro s mem
  obtain ⟨us, within', inner⟩ := listed.mem s mem
  refine ⟨fun q held => ?_, inner.ordered (ascending.inner (within'.trans within))⟩
  obtain ⟨x, found, rfl⟩ := inner.hasPos held
  obtain ⟨start, head, at_⟩ := Option.map_eq_some_iff.mp first
  rw [← at_]
  exact ascending.head_le head (within'.trans within |>.subset found)

end Quill
