import Quill.Tree.Rules
import Quill.Proofs.Cursor.Reachable
import Quill.Proofs.Parse.Budget

set_option autoImplicit false

/- The parser halts on every list of tokens: each rule returns a tree or fails on the tokens, on
a number's text or on the depth of its calls, never for want of fuel. A long enough run of unary
operators before a name passes the limit of the stack. -/
namespace Quill

open Quill.Parser Quill.Parser.Spec Cursor

/-- How a rule may fail: as every grammar method may (`Genuine`), and the unary rule also for
want of an operator, at a token that writes none. -/
def Rule.Fails (r : Rule) (e : ParseFailure) : Prop :=
  Genuine e ∨ (r = .unary ∧ ∃ k, UnaryOp.ofToken? k = none ∧ e = .notUnary k)

/-- The tokens a cursor over `ts` reads before the first end of input are those of `ts`, comments
dropped, before their first end of input. -/
theorem ofTokens_unread (ts : List Token) :
    (Cursor.ofTokens ts).unread =
      ((ts.filter (·.kind != .comment)).takeWhile (·.kind != .eof)).length := by
  simp only [Cursor.unread, Cursor.ofTokens, List.drop_zero, readable]
  generalize ts.filter (·.kind != .comment) = kept
  -- an added end of input lies past every token the run before the first end takes
  have added : ∀ (front : List Token) (t : Token), t.kind = .eof →
      (front ++ [t]).takeWhile (·.kind != .eof) = front.takeWhile (·.kind != .eof) := by
    intro front t ended
    induction front with
    | nil => simp [ended]
    | cons x rest ih =>
      simp only [List.cons_append, List.takeWhile_cons]
      split
      · rw [ih]
      · rfl
  split
  · split
    · rfl
    · rw [added _ _ rfl]
  · rename_i none
    rw [List.getLast?_eq_none_iff.mp none]
    rfl

/-- An update operator with nothing before it fails, whatever follows. -/
theorem updateAlone_halts {d : Nat} {c : Cursor} {Q : Expr → Cursor → Prop} :
    Spec Genuine Parse.updateAlone d c Q := by
  unfold Parse.updateAlone
  refine frame_halts ?_
  simp only [spec_bind, spec_throw]
  rw [spec_expectOneOf]
  exact ⟨fun _ => trivial, fun _ => trivial⟩

/-- Every rule halts: with eight units of fuel for each token before the next end of input and
sixteen more, a rule returns or fails as `Rule.Fails` admits, and keeps the tokens. -/
theorem Rule.halts (r : Rule) {n d : Nat} {c : Cursor} (ends : c.Ends)
    (fuel : 8 * c.unread + 16 ≤ n) :
    Spec r.Fails (r.parser n) d c fun _ c' => c'.items = c.items := by
  have genuine : ∀ e, Genuine e → r.Fails e := fun _ failed => .inl failed
  have kept : ∀ {α : Type} (a : α) c', Within c c' → c'.items = c.items := fun _ _ within =>
    within.1
  cases r with
  | program =>
    refine spec_map.mpr ?_
    unfold Parse.programAt
    refine (frame_halts ?_).conseq genuine fun _ _ same => same
    simp only [spec_bind, spec_current, spec_pure]
    exact (program_halts n (d + 1) c [] ends (by omega)).mono fun _ => kept ()
  | statement =>
    exact spec_map.mpr ((statement_halts n d c ends (by omega)).conseq genuine fun _ c' past =>
      past.1)
  | block =>
    exact spec_map.mpr ((block_halts n d c ends (by omega)).conseq genuine fun _ c' past => past.1)
  | assignment =>
    exact spec_map.mpr ((assignment_halts n d c ends (by omega)).conseq genuine fun _ c' past =>
      past.1)
  | expression =>
    exact spec_map.mpr ((expression_halts n d c ends (by omega)).conseq genuine fun _ c' past =>
      past.1)
  | primary =>
    exact spec_map.mpr ((primary_halts n d c ends (by omega)).conseq genuine fun _ c' past =>
      past.1)
  | literal =>
    exact spec_map.mpr (literal_halts.conseq genuine fun _ c' moved => by simp [moved])
  | identifier =>
    exact spec_map.mpr ((identifier_halts ends).conseq genuine fun _ c' past => past.1)
  | unary =>
    refine spec_map.mpr ((unary_halts n d c ends (by omega)).conseq ?_ fun _ c' past => past.1)
    rintro e (failed | ⟨none, rfl⟩)
    · exact .inl failed
    · exact .inr ⟨rfl, _, none, rfl⟩
  | updateBefore =>
    exact spec_map.mpr ((updateBefore_halts n d c ends (by omega)).conseq genuine
      fun _ c' past => past.1)
  | updateAfter => exact spec_map.mpr (updateAlone_halts.conseq genuine fun _ _ => False.elim)
  | paren =>
    exact spec_map.mpr ((paren_halts n d c ends (by omega)).conseq genuine fun _ c' past => past.1)
  | array =>
    exact spec_map.mpr ((array_halts n d c ends (by omega)).conseq genuine fun _ c' past => past.1)
  | map =>
    exact spec_map.mpr ((mapping_halts n d c ends (by omega)).conseq genuine fun _ c' past =>
      past.1)
  | arguments =>
    exact spec_map.mpr ((arguments_halts n d c ends (by omega)).conseq genuine fun _ c' past =>
      past.1)

/-- The parser halts on every list of tokens: each rule fails only as `Rule.Fails` admits, and
never runs out of fuel. -/
theorem parser_halts (ts : List Token) (r : Rule) (d : Nat) :
    (∀ n, 8 * ((ts.filter (·.kind != .comment)).takeWhile (·.kind != .eof)).length + 16
        ≤ n →
      ∀ e c', (r.parser n).exec d (Cursor.ofTokens ts) = (.error e, c') → r.Fails e) ∧
    ∀ e, (Parser.runFrom r.parser d (Cursor.ofTokens ts)).1 = .error e → r.Fails e := by
  have ends := ofTokens_ends ts
  have fails : ∀ n, 8 * (Cursor.ofTokens ts).unread + 16 ≤ n →
      ∀ e c', (r.parser n).exec d (Cursor.ofTokens ts) = (.error e, c') → r.Fails e := by
    intro n fuel e c' ran
    have spec := r.halts (d := d) ends fuel
    unfold Spec at spec
    rw [ran] at spec
    exact spec
  refine ⟨fun n fuel => fails n (by rw [ofTokens_unread]; exact fuel), fun e ran => ?_⟩
  have room : 8 * (Cursor.ofTokens ts).unread + 16 ≤ Parse.budget (Cursor.ofTokens ts) := by
    have := unread_le_left ends
    simp only [Cursor.left, Parse.budget] at *
    omega
  exact fails _ room e _ (Prod.ext ran rfl)

/-- A lone name read as a program, with the twenty-four units of fuel its one token calls for. -/
theorem parser_halts_name :
    8 * ((([⟨.ident, "a", ⟨1, 1, 0⟩⟩] : List Token).filter (·.kind != .comment)).takeWhile
      (·.kind != .eof)).length + 16 ≤ 24 ∧
    ∀ e c', (Rule.program.parser 24).exec 0 (Cursor.ofTokens [⟨.ident, "a", ⟨1, 1, 0⟩⟩]) =
      (.error e, c') → Rule.program.Fails e :=
  ⟨by decide, (parser_halts _ .program 0).1 24 (by decide)⟩

/-- Past a token that does not end the input, the tokens ahead are those after it. -/
theorem peek_advance {c : Cursor} (live : c.atEnd = false) (i : Nat) :
    c.advance.peek i = c.peek (i + 1) := by
  simp [Cursor.advance, live, Cursor.peek, Cursor.last, Nat.add_assoc, Nat.add_comm 1 i]

/-- A run of `k` unary operators nests `2 * k` calls: where the innermost primary method fails for
want of stack, so does the primary method called before them. -/
theorem unary_chain_overflows (k : Nat) :
    ∀ (n d : Nat) (c : Cursor), (∀ i < k, (c.peek i).kind ∈ [.not, .add, .sub]) →
      2 * k + 1 ≤ n →
      (∀ (m : Nat) (c' : Cursor), 1 ≤ m → c'.current = c.peek k →
        Spec (· = .tooDeep) (Parse.primary m) (d + 2 * k) c' fun _ _ => False) →
      Spec (· = .tooDeep) (Parse.primary n) d c fun _ _ => False := by
  induction k with
  | zero =>
    intro n d c _ fuel innermost
    exact innermost n c (by omega) rfl
  | succ k ih =>
    intro n d c ops fuel innermost
    obtain ⟨m, rfl⟩ : ∃ m, n = m + 1 := ⟨n - 1, by omega⟩
    obtain ⟨m', rfl⟩ : ∃ m', m = m' + 1 := ⟨m - 1, by omega⟩
    have head : c.current.kind ∈ [.not, .add, .sub] := ops 0 (by omega)
    have live : c.atEnd = false := by
      simp only [List.mem_cons, List.not_mem_nil, or_false] at head
      rcases head with same | same | same <;> simp [Cursor.atEnd, same]
    have operand : Spec (· = .tooDeep) (Parse.primary m') (d + 2) c.advance fun _ _ => False := by
      refine ih m' (d + 2) c.advance
        (fun i below => by rw [peek_advance live]; exact ops (i + 1) (by omega)) (by omega) ?_
      intro m'' c' pos same
      rw [show d + 2 + 2 * k = d + 2 * (k + 1) by omega]
      exact innermost m'' c' pos (same.trans (peek_advance live k))
    have unary : ∀ {Q : Expr → Cursor → Prop},
        Spec (· = .tooDeep) (Parse.unary (m' + 1)) (d + 1) c Q := by
      intro Q
      rw [Parse.unary, spec_frame]
      split
      · rfl
      · simp only [spec_bind, spec_take]
        exact operand.mono fun _ _ none => none.elim
    rw [Parse.primary, spec_frame]
    split
    · rfl
    · simp only [spec_bind, spec_current]
      simp only [List.mem_cons, List.not_mem_nil, or_false] at head
      rcases head with same | same | same <;> simp only [same] <;> exact spec_bind.mpr unary

/-- The primary method, called at depth `d` before `k` unary operators, fails for want of stack
once `d + 2 * k` leaves no room for one more frame. -/
theorem primary_overflows (k : Nat) :
    ∀ (n d : Nat) (c : Cursor), (∀ i < k, (c.peek i).kind ∈ [.not, .add, .sub]) →
      Parse.stackLimit < d + 2 * k + Parse.leafReach + 1 → 2 * k + 1 ≤ n →
      Spec (· = .tooDeep) (Parse.primary n) d c fun _ _ => False := by
  intro n d c ops deep fuel
  refine unary_chain_overflows k n d c ops fuel fun m c' pos _ => ?_
  obtain ⟨m, rfl⟩ : ∃ m', m = m' + 1 := ⟨m - 1, by omega⟩
  rw [Parse.primary, spec_frame, if_pos (by omega)]

/-- A program whose first token is no name, no brace and no end of input reads its primary
expression three calls deeper: where that fails, so does the program. -/
theorem programAt_primary {allow : ParseFailure → Prop} {n d : Nat} {c : Cursor}
    (room : d + 3 + Parse.leafReach ≤ Parse.stackLimit)
    (plain : c.current.kind ≠ .ident ∧ c.current.kind ≠ .lbrace ∧ c.current.kind ≠ .eof)
    (fails : Spec allow (Parse.primary n) (d + 3) c fun _ _ => False) :
    Spec allow (Parse.programAt (n + 3)) d c fun _ _ => False := by
  obtain ⟨named, opened, live⟩ := plain
  unfold Parse.programAt
  rw [spec_frame, if_neg (by omega)]
  simp only [spec_bind, spec_current]
  rw [Parse.program]
  simp only [spec_bind, spec_get, spec_ite]
  rw [if_neg (by simp [Cursor.atEnd, live]), Parse.statement, spec_frame, if_neg (by omega)]
  simp only [spec_bind, spec_get]
  rw [if_neg (by simp [named]), if_neg (by simp [opened]), spec_bind, Parse.expression, spec_frame,
    if_neg (by omega)]
  simp only [spec_bind]
  exact fails.mono fun _ _ none => none.elim

/-- Five hundred `!` before a name, each token at its place on one line. -/
def manyNegations : List Token :=
  (List.range 500).map (fun i => ⟨.not, "!", ⟨1, i + 1, i⟩⟩) ++
    [⟨.ident, "x", ⟨1, 501, 500⟩⟩]

/-- The cursor over `manyNegations` holds them and an end of input after the name. -/
theorem manyNegations_items :
    (Cursor.ofTokens manyNegations).items.toList =
      manyNegations ++ [eofAfter (some ⟨.ident, "x", ⟨1, 501, 500⟩⟩)] := by
  have plain : manyNegations.filter (·.kind != .comment) = manyNegations := by
    refine List.filter_eq_self.mpr fun t mem => ?_
    simp only [manyNegations, List.mem_append, List.mem_map, List.mem_range,
      List.mem_singleton] at mem
    rcases mem with ⟨i, -, rfl⟩ | rfl <;> rfl
  simp only [Cursor.ofTokens, readable, plain, List.toList_toArray]
  simp [manyNegations]

theorem manyNegations_length : manyNegations.length = 501 := by simp [manyNegations]

theorem manyNegations_size : (Cursor.ofTokens manyNegations).items.size = 502 := by
  rw [← Array.length_toList, manyNegations_items, List.length_append, manyNegations_length]
  rfl

/-- The first five hundred tokens the cursor over `manyNegations` reads are negations. -/
theorem manyNegations_peek (i : Nat) (below : i < 500) :
    ((Cursor.ofTokens manyNegations).peek i).kind = .not := by
  have size := manyNegations_size
  have length := manyNegations_length
  have index : (Cursor.ofTokens manyNegations).index = 0 := rfl
  have inside : (Cursor.ofTokens manyNegations).index + i <
      (Cursor.ofTokens manyNegations).items.size := by omega
  have entry : (Cursor.ofTokens manyNegations).items[(Cursor.ofTokens manyNegations).index + i] =
      ⟨.not, "!", ⟨1, i + 1, i⟩⟩ := by
    rw [← Array.getElem_toList]
    simp only [manyNegations_items, index, Nat.zero_add]
    rw [List.getElem_append_left (by omega)]
    simp [manyNegations, List.getElem_append_left, below]
  simp [Cursor.peek, inside, entry]

/-- Five hundred negations before a name nest more calls than the stack holds: the program rule
neither returns a tree nor fails on the tokens, it fails for want of stack. -/
theorem negations_overflow :
    (Parser.runFrom Rule.program.parser Rule.callDepth (Cursor.ofTokens manyNegations)).1 =
      .error .tooDeep := by
  have fuel : Parse.budget (Cursor.ofTokens manyNegations) = 4029 + 3 := by
    simp only [Parse.budget, manyNegations_size]
  have kinds := manyNegations_peek
  generalize Cursor.ofTokens manyNegations = c at fuel kinds ⊢
  have head : c.current.kind = .not := kinds 0 (by decide)
  -- the statement's primary expression sits at depth seven, under five hundred operators
  have spec : Spec (· = .tooDeep) (Rule.program.parser (Parse.budget c)) Rule.callDepth c
      fun _ _ => False := by
    rw [fuel, Rule.parser, spec_map]
    exact programAt_primary (by decide) (by simp [head])
      (primary_overflows 500 4029 (Rule.callDepth + 3) c
        (fun i below => by simp [kinds i below]) (by decide) (by decide))
  obtain ⟨c', ran⟩ : ∃ c', Parser.runFrom Rule.program.parser Rule.callDepth c =
      (.error .tooDeep, c') := by
    rcases spec.exec_cases with ⟨_, _, _, none⟩ | ⟨e, c', ran, deep⟩
    · exact none.elim
    · exact ⟨c', deep ▸ ran⟩
  rw [ran]

end Quill
