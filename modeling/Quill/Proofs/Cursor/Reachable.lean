import Quill.Cursor

set_option autoImplicit false

/- The cursor as a state machine: only its index moves, and only when a token is read. Along
any sequence of queries it holds the readable tokens of what it was made from, its index never
passes the first end of input, and its current token is the one at its index. -/
namespace Quill

/-- `items` are the tokens `ts` without their comments, followed by one end-of-input token
when those do not already end with one. -/
def ReadsAs (ts items : List Token) : Prop :=
  let kept := ts.filter (·.kind != .comment)
  (kept.getLast?.map (·.kind) = some .eof ∧ items = kept) ∨
    (kept.getLast?.map (·.kind) ≠ some .eof ∧ ∃ t : Token,
      t.kind = .eof ∧ items = kept ++ [t])

theorem readable_readsAs (ts : List Token) : ReadsAs ts (readable ts) := by
  unfold ReadsAs readable
  dsimp only
  generalize ts.filter (·.kind != .comment) = kept
  cases last : kept.getLast? with
  | none =>
    have empty : kept = [] := List.getLast?_eq_none_iff.mp last
    exact .inr ⟨by simp, eofAfter none, rfl, by simp [empty]⟩
  | some t =>
    by_cases ended : t.kind = .eof
    · exact .inl ⟨by simp [ended], by simp [ended]⟩
    · exact .inr ⟨by simp [ended], eofAfter (some t), rfl, by simp [ended]⟩

namespace ReadsAs

variable {ts items : List Token}

theorem no_comment (reads : ReadsAs ts items) : ∀ t ∈ items, t.kind ≠ .comment := by
  have kept : ∀ t ∈ ts.filter (·.kind != .comment), t.kind ≠ .comment := by
    intro t mem
    simpa using (List.mem_filter.mp mem).2
  rcases reads with ⟨-, rfl⟩ | ⟨-, last, ended, rfl⟩
  · exact kept
  · intro t mem
    rcases List.mem_append.mp mem with mem | mem
    · exact kept t mem
    · rw [List.mem_singleton.mp mem, ended]
      decide

theorem last_eof (reads : ReadsAs ts items) : items.getLast?.map (·.kind) = some .eof := by
  rcases reads with ⟨ended, rfl⟩ | ⟨-, last, ended, rfl⟩
  · exact ended
  · simp [ended]

theorem ne_nil (reads : ReadsAs ts items) : items ≠ [] := by
  intro empty
  simpa [empty] using reads.last_eof

/-- The first end-of-input token is one of the tokens: the last one is such a token. -/
theorem firstEnd_lt (reads : ReadsAs ts items) :
    items.findIdx (·.kind == .eof) < items.length := by
  obtain ⟨last, found, ended⟩ := Option.map_eq_some_iff.mp reads.last_eof
  exact List.findIdx_lt_length_of_exists ⟨last, List.mem_of_getLast? found, by simp [ended]⟩

end ReadsAs

namespace Cursor

variable {c : Cursor}

/-- The index of the first end-of-input token among the cursor's tokens. -/
def firstEnd (c : Cursor) : Nat := c.items.toList.findIdx (·.kind == .eof)

/-- The index after reading the current token: one further on, unless that token ends the
input. -/
def readIndex (c : Cursor) : Nat := if c.current.kind = .eof then c.index else c.index + 1

/-- The outcome `out` of expecting a token of one of the kinds `ks` at `c`: the current token
and the index past it when its kind is one of them, and otherwise an expectation failure at the
current token that names `ks`, with the index where it was. -/
def Expects (c : Cursor) (ks : List TokenKind) (out : CursorAnswer × Cursor) : Prop :=
  (c.current.kind ∈ ks ∧ out.1 = .token c.current ∧ out.2.index = c.readIndex) ∨
    (c.current.kind ∉ ks ∧ out.2.index = c.index ∧ ∃ e : ParseError, out.1 = .failed e ∧
      e.kind = .expectationFailure ∧ e.found = c.current ∧ e.pos = c.current.pos ∧
      e.expected = ks)

/-- What the query `q` does to the cursor `c`: the tokens stay, `next` reads the current token,
an expectation reads it or fails as `Expects` says, and every other query leaves the index
where it is. -/
def Steps (c : Cursor) (q : CursorQuery) : Prop :=
  (c.ask q).2.items = c.items ∧
    match q with
    | .next => (c.ask q).1 = .token c.current ∧ (c.ask q).2.index = c.readIndex
    | .expect k _ => c.Expects [k] (c.ask q)
    | .expectOneOf ks _ => c.Expects ks (c.ask q)
    | _ => (c.ask q).2.index = c.index

-- The equations of the queries are made once, here, before the lemmas below unfold them.
attribute [local simp] ask Cursor.expect Cursor.expectOneOf test testAny next in
@[simp] theorem advance_items : c.advance.items = c.items := by
  unfold advance
  split <;> rfl

@[simp] theorem advance_index : c.advance.index = c.readIndex := by
  unfold advance readIndex atEnd
  by_cases ended : c.current.kind = .eof <;> simp [ended]

theorem expect_expects (k : TokenKind) (reason : String) :
    c.Expects [k] (c.ask (.expect k reason)) := by
  by_cases found : c.current.kind = k
  · refine .inl ⟨by simp [found], ?_, ?_⟩ <;>
      simp [ask, Cursor.expect, test, found, next]
  · refine .inr ⟨by simpa using found, ?_, ?_⟩
    · simp [ask, Cursor.expect, test, found]
    · refine ⟨c.missing (if reason.isEmpty then "Expected " ++ k.name else reason) [k], ?_, rfl,
        rfl, rfl, rfl⟩
      simp [ask, Cursor.expect, test, found]

theorem expectOneOf_expects (ks : List TokenKind) (reason : String) :
    c.Expects ks (c.ask (.expectOneOf ks reason)) := by
  by_cases found : c.current.kind ∈ ks
  · refine .inl ⟨found, ?_, ?_⟩ <;>
      simp [ask, Cursor.expectOneOf, testAny, found, next]
  · refine .inr ⟨found, ?_, ?_⟩
    · simp [ask, Cursor.expectOneOf, testAny, found]
    · refine ⟨c.missing (if reason.isEmpty then
        "Expected one of " ++ ", ".intercalate (ks.map TokenKind.name) else reason) ks, ?_, rfl,
        rfl, rfl, rfl⟩
      simp [ask, Cursor.expectOneOf, testAny, found]

/-- No query changes the tokens. -/
@[simp] theorem ask_items (c : Cursor) (q : CursorQuery) : (c.ask q).2.items = c.items := by
  cases q with
  | expect k reason => by_cases found : c.test k <;> simp [ask, Cursor.expect, found, next]
  | expectOneOf ks reason =>
    by_cases found : c.testAny ks <;> simp [ask, Cursor.expectOneOf, found, next]
  | _ => simp [ask]

/-- One step of the machine: what each query does, at any cursor. -/
theorem ask_steps (c : Cursor) (q : CursorQuery) : c.Steps q := by
  refine ⟨c.ask_items q, ?_⟩
  cases q with
  | next => exact ⟨rfl, by simp [ask]⟩
  | expect k reason => exact expect_expects k reason
  | expectOneOf ks reason => exact expectOneOf_expects ks reason
  | current | look | atEnd | test | testAny | isBinary | precedence | label | positionLabel => rfl

/-- A query moves the index to where reading the current token would, or not at all. -/
theorem ask_index (c : Cursor) (q : CursorQuery) :
    (c.ask q).2.index = c.index ∨ (c.ask q).2.index = c.readIndex := by
  have steps := c.ask_steps q
  cases q with
  | next => exact .inr steps.2.2
  | expect k reason =>
    rcases steps.2 with ⟨-, -, read⟩ | ⟨-, stay, -⟩
    · exact .inr read
    · exact .inl stay
  | expectOneOf ks reason =>
    rcases steps.2 with ⟨-, -, read⟩ | ⟨-, stay, -⟩
    · exact .inr read
    · exact .inl stay
  | current | look | atEnd | test | testAny | isBinary | precedence | label | positionLabel =>
    exact .inl steps.2

/-- Up to the first end of input, the index points at a token, and that token is the current
one. -/
theorem getElem?_index (bounded : c.index ≤ c.firstEnd)
    (ended : c.firstEnd < c.items.size) : c.items[c.index]? = some c.current := by
  have inside : c.index < c.items.size := Nat.lt_of_le_of_lt bounded ended
  simp [current, peek, inside]

/-- The token at the first end of input is an end-of-input token. -/
theorem firstEnd_kind (ended : c.firstEnd < c.items.size) :
    ∃ t, c.items[c.firstEnd]? = some t ∧ t.kind = .eof := by
  have inside : c.firstEnd < c.items.toList.length := ended
  have stop := List.findIdx_getElem (w := inside)
  refine ⟨c.items.toList[c.firstEnd], ?_, beq_iff_eq.mp stop⟩
  rw [← Array.getElem?_toList]
  exact List.getElem?_eq_getElem inside

/-- Reading a token that does not end the input keeps the index within the first end of
input: that token stands before it. -/
theorem readIndex_le_firstEnd (bounded : c.index ≤ c.firstEnd)
    (ended : c.firstEnd < c.items.size) : c.readIndex ≤ c.firstEnd := by
  unfold readIndex
  split
  · exact bounded
  · rename_i live
    have before : c.index ≠ c.firstEnd := by
      intro same
      obtain ⟨t, found, stop⟩ := firstEnd_kind ended
      have current := getElem?_index bounded ended
      rw [same, found, Option.some.injEq] at current
      exact live (current ▸ stop)
    omega

/-- The cursors a parse of the tokens `ts` can hold: the one it starts with, and every cursor
a query leaves. -/
inductive Reachable (ts : List Token) : Cursor → Prop
  | start : Reachable ts (ofTokens ts)
  | ask {c : Cursor} (q : CursorQuery) : Reachable ts c → Reachable ts (c.ask q).2

/-- Along every run the tokens stay the readable tokens of `ts`, and the index stays within
the first end of input. -/
theorem Reachable.bounded {ts : List Token} (reach : c.Reachable ts) :
    c.items.toList = readable ts ∧ c.index ≤ c.firstEnd := by
  induction reach with
  | start => exact ⟨by simp [ofTokens], Nat.zero_le _⟩
  | @ask c q _ ih =>
    obtain ⟨items, bounded⟩ := ih
    have same : (c.ask q).2.items = c.items := (c.ask_steps q).1
    have ended : c.firstEnd < c.items.size := by
      have lt := (readable_readsAs ts).firstEnd_lt
      rw [← items, Array.length_toList] at lt
      exact lt
    refine ⟨by rw [same, items], ?_⟩
    have unmoved : (c.ask q).2.firstEnd = c.firstEnd := by simp only [firstEnd, same]
    rw [unmoved]
    rcases c.ask_index q with stay | read
    · exact stay ▸ bounded
    · exact read ▸ readIndex_le_firstEnd bounded ended

/-- After any sequence of queries the cursor holds the readable tokens of `ts`, its index has not
passed the first end of input, its current token is the one at its index, and each query steps. -/
theorem reachable_invariant {ts : List Token} (reach : c.Reachable ts) :
    ReadsAs ts c.items.toList ∧ c.items.toList ≠ [] ∧
      (∀ t ∈ c.items.toList, t.kind ≠ .comment) ∧
      c.items.toList.getLast?.map (·.kind) = some .eof ∧
      c.index ≤ c.firstEnd ∧ c.items[c.index]? = some c.current ∧ ∀ q, c.Steps q := by
  obtain ⟨items, bounded⟩ := reach.bounded
  have reads : ReadsAs ts c.items.toList := items ▸ readable_readsAs ts
  have ended : c.firstEnd < c.items.size := by
    have lt := reads.firstEnd_lt
    rw [Array.length_toList] at lt
    exact lt
  exact ⟨reads, reads.ne_nil, reads.no_comment, reads.last_eof, bounded,
    getElem?_index bounded ended, c.ask_steps⟩

/-- A name and a comment with no end of input, read twice: the comment is dropped, an end of
input is added, and the second read stays on it. -/
theorem reachable_invariant_twice_read :
    (((ofTokens [⟨.ident, "a", ⟨1, 1, 0⟩⟩,
      ⟨.comment, "// c", ⟨1, 3, 2⟩⟩]).ask .next).2.ask .next).2.Reachable
      [⟨.ident, "a", ⟨1, 1, 0⟩⟩, ⟨.comment, "// c", ⟨1, 3, 2⟩⟩] ∧
    let c := (((ofTokens [⟨.ident, "a", ⟨1, 1, 0⟩⟩,
      ⟨.comment, "// c", ⟨1, 3, 2⟩⟩]).ask .next).2.ask .next).2
    ReadsAs [⟨.ident, "a", ⟨1, 1, 0⟩⟩,
      ⟨.comment, "// c", ⟨1, 3, 2⟩⟩] c.items.toList ∧
      c.items.toList ≠ [] ∧ (∀ t ∈ c.items.toList, t.kind ≠ .comment) ∧
      c.items.toList.getLast?.map (·.kind) = some .eof ∧
      c.index ≤ c.firstEnd ∧ c.items[c.index]? = some c.current ∧ ∀ q, c.Steps q := by
  exact ⟨(Reachable.start.ask .next).ask .next,
    reachable_invariant ((Reachable.start.ask .next).ask .next)⟩

end Cursor

end Quill
