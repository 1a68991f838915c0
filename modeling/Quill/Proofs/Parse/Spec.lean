import Quill.Tree.Parse

set_option autoImplicit false

/- Specifications of parsers: a run returns a value and a cursor satisfying the postcondition, or
fails in a way the specification admits. The rules follow the parser's binds, frames and token
readers, so a proof about a grammar method follows the method's own text. -/
namespace Quill

namespace Parser

variable {α β : Type} {d : Nat} {c : Cursor}

/-- The outcome of running `p` at depth `d` from `c`, and the cursor where it stopped. -/
def exec (p : Parser α) (d : Nat) (c : Cursor) : Except ParseFailure α × Cursor :=
  ((p.run d).run).run c

@[simp] theorem exec_pure (a : α) : (pure a : Parser α).exec d c = (.ok a, c) := rfl

@[simp] theorem exec_throw (e : ParseFailure) : (throw e : Parser α).exec d c = (.error e, c) :=
  rfl

@[simp] theorem exec_get : (get : Parser Cursor).exec d c = (.ok c, c) := rfl

@[simp] theorem exec_set (c' : Cursor) : (set c' : Parser PUnit).exec d c = (.ok ⟨⟩, c') := rfl

@[simp] theorem exec_read : (read : Parser Nat).exec d c = (.ok d, c) := rfl

@[simp] theorem exec_withReader (f : Nat → Nat) (p : Parser α) :
    (withReader f p).exec d c = p.exec (f d) c := rfl

theorem exec_bind (p : Parser α) (f : α → Parser β) :
    (p >>= f).exec d c = match p.exec d c with
      | (.ok a, c') => (f a).exec d c'
      | (.error e, c') => (.error e, c') := by
  show ((p d).run >>= ExceptT.bindCont (fun a => f a d)) c = _
  simp only [Parser.exec, ReaderT.run]
  generalize p d = q
  change StateT.bind (ExceptT.run q) _ c = _
  simp only [StateT.bind, StateT.run]
  rcases q.run c with ⟨r | r, c'⟩ <;> rfl

theorem exec_map (f : α → β) (p : Parser α) :
    (f <$> p).exec d c = match p.exec d c with
      | (.ok a, c') => (.ok (f a), c')
      | (.error e, c') => (.error e, c') := by
  rw [map_eq_pure_bind, exec_bind]
  rcases p.exec d c with ⟨r | r, c'⟩ <;> rfl

theorem exec_discard (p : Parser α) :
    (discard p).exec d c = match p.exec d c with
      | (.ok _, c') => (.ok ⟨⟩, c')
      | (.error e, c') => (.error e, c') := by
  rw [Functor.discard, LawfulFunctor.map_const, Function.comp_apply, exec_map]

theorem exec_frame (body : Parser α) :
    (Parse.frame body).exec d c =
      if Parse.stackLimit < d + 1 + Parse.leafReach then (.error .tooDeep, c)
      else body.exec (d + 1) c := by
  unfold Parse.frame
  simp only [exec_bind, exec_read]
  split <;> simp_all [exec_bind]

theorem exec_current : Parse.current.exec d c = (.ok c.current, c) := by
  simp [Parse.current, exec_map]

theorem exec_take : Parse.take.exec d c = (.ok c.current, c.advance) := by
  simp [Parse.take, exec_bind, exec_map, Cursor.next]

theorem exec_expect (k : TokenKind) (reason : String) :
    (Parse.expect k reason).exec d c = match c.expect k reason with
      | .ok (t, c') => (.ok t, c')
      | .error e => (.error (.grammar e), c) := by
  unfold Parse.expect
  rcases found : c.expect k reason with e | ⟨t, c'⟩ <;> simp [found, exec_bind, exec_map]

theorem exec_expectOneOf (ks : List TokenKind) :
    (Parse.expectOneOf ks).exec d c = match c.expectOneOf ks with
      | .ok (t, c') => (.ok t, c')
      | .error e => (.error (.grammar e), c) := by
  unfold Parse.expectOneOf
  rcases found : c.expectOneOf ks with e | ⟨t, c'⟩ <;> simp [found, exec_bind, exec_map]

/-- A run of `p` at depth `d` from `c` returns a value and cursor satisfying `Q`, or fails with
a failure that `allow` admits. -/
def Spec (allow : ParseFailure → Prop) (p : Parser α) (d : Nat) (c : Cursor)
    (Q : α → Cursor → Prop) : Prop :=
  match p.exec d c with
  | (.ok a, c') => Q a c'
  | (.error e, _) => allow e

namespace Spec

variable {allow : ParseFailure → Prop} {Q Q' : α → Cursor → Prop}

theorem of_exec {p : Parser α} {a : α} {c' : Cursor} (ran : p.exec d c = (.ok a, c'))
    (h : Q a c') : Spec allow p d c Q := by
  simp only [Spec, ran]
  exact h

theorem of_exec_error {p : Parser α} {e : ParseFailure} {c' : Cursor}
    (ran : p.exec d c = (.error e, c')) (h : allow e) : Spec allow p d c Q := by
  simp only [Spec, ran]
  exact h

/-- What a specification says of a run: its result, and the failures it admits. -/
theorem exec_cases {p : Parser α} (h : Spec allow p d c Q) :
    (∃ a c', p.exec d c = (.ok a, c') ∧ Q a c') ∨
      (∃ e c', p.exec d c = (.error e, c') ∧ allow e) := by
  unfold Spec at h
  rcases ran : p.exec d c with ⟨a | a, c'⟩ <;> rw [ran] at h
  · exact .inr ⟨a, c', rfl, h⟩
  · exact .inl ⟨a, c', rfl, h⟩

theorem conseq {p : Parser α} {allow' : ParseFailure → Prop} (h : Spec allow p d c Q)
    (more : ∀ e, allow e → allow' e) (weaker : ∀ a c', Q a c' → Q' a c') :
    Spec allow' p d c Q' := by
  unfold Spec at *
  revert h
  rcases p.exec d c with ⟨e | a, c'⟩
  · exact more e
  · exact weaker a c'

theorem mono {p : Parser α} (h : Spec allow p d c Q) (weaker : ∀ a c', Q a c' → Q' a c') :
    Spec allow p d c Q' :=
  conseq h (fun _ admitted => admitted) weaker

theorem pure {a : α} (h : Q a c) : Spec allow (Pure.pure a) d c Q := h

theorem throw {e : ParseFailure} (h : allow e) : Spec allow
    (MonadExcept.throw e : Parser α) d c Q :=
  h

theorem bind {p : Parser α} {f : α → Parser β} {R : β → Cursor → Prop}
    (h : Spec allow p d c fun a c' => Spec allow (f a) d c' R) : Spec allow (p >>= f) d c R := by
  unfold Spec at *
  rw [exec_bind]
  revert h
  rcases p.exec d c with ⟨e | a, c'⟩ <;> exact id

theorem map {p : Parser α} {f : α → β} {R : β → Cursor → Prop}
    (h : Spec allow p d c fun a c' => R (f a) c') : Spec allow (f <$> p) d c R := by
  unfold Spec at *
  rw [exec_map]
  revert h
  rcases p.exec d c with ⟨e | a, c'⟩ <;> exact id

theorem get {R : Cursor → Cursor → Prop} (h : R c c) :
    Spec allow (MonadState.get : Parser Cursor) d c R := h

theorem set {c' : Cursor} {R : PUnit → Cursor → Prop} (h : R ⟨⟩ c') :
    Spec allow (MonadStateOf.set c' : Parser PUnit) d c R := h

theorem spec_pure {a : α} : Spec allow (Pure.pure a) d c Q ↔ Q a c := Iff.rfl

theorem spec_throw {e : ParseFailure} : Spec allow
    (MonadExcept.throw e : Parser α) d c Q ↔ allow e :=
  Iff.rfl

theorem spec_get {R : Cursor → Cursor → Prop} :
    Spec allow (MonadState.get : Parser Cursor) d c R ↔ R c c := Iff.rfl

theorem spec_read {R : Nat → Cursor → Prop} :
    Spec allow (MonadReader.read : Parser Nat) d c R ↔ R d c := Iff.rfl

theorem spec_withReader {f : Nat → Nat} {p : Parser α} :
    Spec allow (withReader f p) d c Q ↔ Spec allow p (f d) c Q := Iff.rfl

theorem spec_ite {b : Prop} [Decidable b] {p q : Parser α} :
    Spec allow (if b then p else q) d c Q ↔
      if b then Spec allow p d c Q else Spec allow q d c Q := by
  by_cases h : b <;> simp only [h, ↓reduceIte]

theorem spec_bind {p : Parser α} {f : α → Parser β} {R : β → Cursor → Prop} :
    Spec allow (p >>= f) d c R ↔ Spec allow p d c fun a c' => Spec allow (f a) d c' R := by
  unfold Spec
  rw [exec_bind]
  rcases p.exec d c with ⟨e | a, c'⟩ <;> exact Iff.rfl

theorem spec_map {p : Parser α} {f : α → β} {R : β → Cursor → Prop} :
    Spec allow (f <$> p) d c R ↔ Spec allow p d c fun a c' => R (f a) c' := by
  unfold Spec
  rw [exec_map]
  rcases p.exec d c with ⟨e | a, c'⟩ <;> exact Iff.rfl

theorem spec_discard {p : Parser α} {R : PUnit → Cursor → Prop} :
    Spec allow (discard p) d c R ↔ Spec allow p d c fun _ c' => R ⟨⟩ c' := by
  unfold Spec
  rw [exec_discard]
  rcases p.exec d c with ⟨e | a, c'⟩ <;> exact Iff.rfl

/-- A frame fails for want of stack, or runs its body one call deeper. -/
theorem spec_frame {body : Parser α} :
    Spec allow (Parse.frame body) d c Q ↔
      if Parse.stackLimit < d + 1 + Parse.leafReach then allow .tooDeep
      else Spec allow body (d + 1) c Q := by
  unfold Spec
  rw [exec_frame]
  by_cases deep : Parse.stackLimit < d + 1 + Parse.leafReach <;> simp only [deep, ↓reduceIte]

theorem spec_current {R : Token → Cursor → Prop} :
    Spec allow Parse.current d c R ↔ R c.current c := by
  unfold Spec
  rw [exec_current]

theorem spec_take {R : Token → Cursor → Prop} :
    Spec allow Parse.take d c R ↔ R c.current c.advance := by
  unfold Spec
  rw [exec_take]

theorem spec_expect {k : TokenKind} {reason : String} {R : Token → Cursor → Prop} :
    Spec allow (Parse.expect k reason) d c R ↔
      (c.test k → R c.current c.advance) ∧
      (c.test k = false →
        allow (.grammar
          (c.missing (if reason.isEmpty then "Expected " ++ k.name else reason) [k]))) := by
  unfold Spec
  rw [exec_expect]
  unfold Cursor.expect
  by_cases found : c.test k <;> simp [found, Cursor.next]

theorem spec_expectOneOf {ks : List TokenKind} {R : Token → Cursor → Prop} :
    Spec allow (Parse.expectOneOf ks) d c R ↔
      (c.testAny ks → R c.current c.advance) ∧
      (c.testAny ks = false →
        allow (.grammar
          (c.missing ("Expected one of " ++ ", ".intercalate (ks.map TokenKind.name)) ks))) := by
  unfold Spec
  rw [exec_expectOneOf]
  unfold Cursor.expectOneOf
  by_cases found : c.testAny ks <;> simp [found, Cursor.next]

end Spec

end Parser

namespace Cursor

variable {c c' c'' : Cursor}

/-- How many tokens lie ahead of the current one before the last. -/
def left (c : Cursor) : Nat := c.items.size - 1 - c.index

/-- How many tokens lie ahead, from the current one up to the next end of input. A reader
never passes an end of input, so this is what a parse from here can still consume. -/
def unread (c : Cursor) : Nat := ((c.items.toList.drop c.index).takeWhile (·.kind != .eof)).length

/-- The last token ends the input, as it does for every cursor over readable tokens. -/
def Ends (c : Cursor) : Prop := c.last.kind = .eof

/-- `c'` reads the same tokens as `c`, with no more of them ahead before the next end of
input. -/
def Within (c c' : Cursor) : Prop := c'.items = c.items ∧ c'.unread ≤ c.unread

/-- `c'` reads the same tokens as `c`, with fewer of them ahead before the next end of input. -/
def Past (c c' : Cursor) : Prop := c'.items = c.items ∧ c'.unread < c.unread

theorem Within.refl (c : Cursor) : Within c c := ⟨rfl, Nat.le_refl _⟩

theorem Within.trans (first : Within c c') (second : Within c' c'') : Within c c'' :=
  ⟨second.1.trans first.1, Nat.le_trans second.2 first.2⟩

theorem Past.within (past : Past c c') : Within c c' := ⟨past.1, Nat.le_of_lt past.2⟩

theorem Past.trans_within (first : Past c c') (second : Within c' c'') : Past c c'' :=
  ⟨second.1.trans first.1, Nat.lt_of_le_of_lt second.2 first.2⟩

theorem Within.trans_past (first : Within c c') (second : Past c' c'') : Past c c'' :=
  ⟨second.1.trans first.1, Nat.lt_of_lt_of_le second.2 first.2⟩

theorem Ends.of_items (ends : c.Ends) (same : c'.items = c.items) : c'.Ends := by
  unfold Ends last at *
  simp only [same]
  exact ends

theorem Within.ends (within : Within c c') (ends : c.Ends) : c'.Ends := ends.of_items within.1

theorem advance_eq_of_atEnd (stop : c.atEnd = true) : c.advance = c := by
  simp [advance, stop]

/-- Short of the end of input the index points at a token: the last token ends the input. -/
theorem index_lt_of_live (ends : c.Ends) (live : c.atEnd = false) : c.index < c.items.size := by
  by_cases inside : c.index < c.items.size
  · exact inside
  · have last : c.current = c.last := by simp [current, peek, inside]
    unfold Ends at ends
    simp [atEnd, last, ends] at live

/-- Reading a token that does not end the input leaves one token fewer ahead. -/
theorem unread_advance (ends : c.Ends) (live : c.atEnd = false) :
    c.advance.unread + 1 = c.unread := by
  have inside := index_lt_of_live ends live
  have going : c.advance = { c with index := c.index + 1 } := by simp [advance, live]
  have head : c.items[c.index].kind ≠ .eof := by
    have same : c.current = c.items[c.index] := by simp [current, peek, inside]
    simpa [atEnd, same] using live
  rw [going]
  unfold unread
  rw [List.drop_eq_getElem_cons (i := c.index) (by simpa using inside)]
  simp [head]

/-- A run of tokens taken while a test holds stops before any token that fails it. -/
theorem length_takeWhile_lt {p : Token → Bool} {l : List Token} {x : Token} (mem : x ∈ l)
    (fails : p x = false) : (l.takeWhile p).length < l.length := by
  induction l with
  | nil => cases mem
  | cons y ys ih =>
    rw [List.takeWhile_cons]
    split
    · rcases List.mem_cons.mp mem with rfl | mem
      · simp_all
      · simpa using ih mem
    · simp

/-- The tokens ahead before the next end of input are among those before the last. -/
theorem unread_le_left (ends : c.Ends) : c.unread ≤ c.left := by
  unfold unread left
  by_cases inside : c.index < c.items.size
  · -- the last token ends the input, so the tokens taken before an end stop short of it
    have final : c.items.size - 1 - c.index < (c.items.toList.drop c.index).length := by
      simp only [List.length_drop, Array.length_toList]
      omega
    have mem : c.last ∈ c.items.toList.drop c.index := by
      have same : (c.items.toList.drop c.index)[c.items.size - 1 - c.index] = c.last := by
        simp only [List.getElem_drop, Array.getElem_toList, last]
        congr 1
        omega
      exact same ▸ List.getElem_mem final
    have stops := length_takeWhile_lt (p := (·.kind != .eof)) mem
      (by unfold Ends at ends; simp [ends])
    simp only [List.length_drop, Array.length_toList] at stops
    omega
  · have beyond : c.items.toList.drop c.index = [] := List.drop_eq_nil_of_le (by simp; omega)
    simp [beyond]

/-- Past the current token when it is not the end. -/
theorem past_advance (ends : c.Ends) (live : c.atEnd = false) : Past c c.advance := by
  have going : c.advance.items = c.items := by simp [advance, live]
  exact ⟨going, by have := unread_advance ends live; omega⟩

theorem atEnd_false_of_test {k : TokenKind} (found : c.test k = true) (live : k ≠ .eof) :
    c.atEnd = false := by
  simp only [test, beq_iff_eq] at found
  simp [atEnd, found, live]

theorem atEnd_false_of_testAny {ks : List TokenKind} (found : c.testAny ks = true)
    (live : TokenKind.eof ∉ ks) : c.atEnd = false := by
  simp only [testAny, List.contains_iff_mem] at found
  have : c.current.kind ≠ .eof := fun same => live (same ▸ found)
  simp [atEnd, this]

end Cursor

end Quill
