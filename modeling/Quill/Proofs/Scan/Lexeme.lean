import Quill.Token.Scan

set_option autoImplicit false

/- What one scanning step consumes: a nonempty lexeme at the head of the text, all blanks or
spelling its token. -/
namespace Quill.Scan

/-- A string body for the quote `q`: units that are one character other than `q`, a backslash
or a line feed, or a backslash and the character it escapes. -/
inductive StringBody (q : Char) : List Char → Prop
  | nil : StringBody q []
  | plain {c : Char} {rest : List Char} :
      c ≠ q → c ≠ '\\' → c ≠ '\n' → StringBody q rest → StringBody q (c :: rest)
  | escape (c : Char) {rest : List Char} : StringBody q rest → StringBody q ('\\' :: c :: rest)

/-- The source text `w` spells a token of kind `k` with text `text`. -/
def Spells (k : TokenKind) (text : String) (w : List Char) : Prop :=
  if k = .string then
    ∃ q body, (q = '"' ∨ q = '\'') ∧ StringBody q body ∧ w = q :: body ++ [q] ∧
      text = String.ofList (unescape body)
  else w = text.toList

/-- What the source text `w` of a lexeme is: blanks, or the spelling of a token that is not
the end of input. -/
def Lexeme.Covers : Lexeme → List Char → Prop
  | .blank, w => ∀ x ∈ w, isBlank x
  | .token k text, w => k ≠ .eof ∧ Spells k text w

theorem stringBody_append (q : Char) (l : List Char) :
    (stringBody q l).1 ++ (stringBody q l).2 = l := by
  fun_induction stringBody q l <;> simp_all

theorem stringBody_body (q : Char) (l : List Char) : StringBody q (stringBody q l).1 := by
  fun_induction stringBody q l with
  | case1 | case2 | case3 => exact .nil
  | case4 d ds body rest split _ ih =>
    rw [split] at ih
    exact .escape d ih
  | case5 c cs stop plain body rest split ih =>
    rw [split] at ih
    simp only [not_or] at stop
    exact .plain stop.1 plain stop.2 ih

theorem blockTail_append {l tail rest : List Char} (found : blockTail l = some (tail, rest)) :
    tail ++ rest = l := by
  fun_induction blockTail l generalizing tail with
  | case1 =>
    simp only [Option.some.injEq, Prod.mk.injEq] at found
    obtain ⟨rfl, rfl⟩ := found
    rfl
  | case2 c cs _ ih =>
    obtain ⟨⟨inner, after⟩, inner_found, same⟩ := Option.map_eq_some_iff.mp found
    simp only [Prod.mk.injEq] at same
    obtain ⟨rfl, rfl⟩ := same
    simp [ih inner_found]
  | case3 => simp at found

theorem numberSpan_append (cs : List Char) : (numberSpan cs).1 ++ (numberSpan cs).2 = cs := by
  have whole : cs.takeWhile isDigit ++ cs.dropWhile isDigit = cs := List.takeWhile_append_dropWhile
  unfold numberSpan
  split
  · rename_i d more after
    split
    · simp only [List.append_assoc, List.cons_append, List.takeWhile_append_dropWhile]
      rw [← after, whole]
    · rw [← after, whole]
  · exact whole

theorem numberSpan_head {c : Char} (digit : isDigit c) (cs : List Char) :
    ∃ tail, (numberSpan (c :: cs)).1 = c :: tail := by
  unfold numberSpan
  rw [List.takeWhile_cons_of_pos digit]
  split
  · split <;> exact ⟨_, rfl⟩
  · exact ⟨_, rfl⟩

/-- An operator found at the head is one of the pairs, two characters long, or one of the
single characters. -/
theorem operatorAt_kind {c : Char} {cs : List Char} {k : TokenKind} {n : Nat}
    (found : operatorAt c cs = some (k, n)) :
    (k ∈ TokenKind.pairOperators ∧ n = 2) ∨ (k ∈ TokenKind.singleOperators ∧ n = 1) := by
  unfold operatorAt at found
  cases cs with
  | nil =>
    obtain ⟨k', found', same⟩ := Option.map_eq_some_iff.mp found
    simp only [Prod.mk.injEq] at same
    obtain ⟨rfl, rfl⟩ := same
    exact .inr ⟨List.mem_of_find?_eq_some found', rfl⟩
  | cons d more =>
    simp only at found
    split at found
    · rename_i pair_found
      simp only [Option.some.injEq, Prod.mk.injEq] at found
      obtain ⟨rfl, rfl⟩ := found
      exact .inl ⟨List.mem_of_find?_eq_some pair_found, rfl⟩
    · obtain ⟨k', found', same⟩ := Option.map_eq_some_iff.mp found
      simp only [Prod.mk.injEq] at same
      obtain ⟨rfl, rfl⟩ := same
      exact .inr ⟨List.mem_of_find?_eq_some found', rfl⟩

theorem operatorAt_plain {c : Char} {cs : List Char} {k : TokenKind} {n : Nat}
    (found : operatorAt c cs = some (k, n)) : k ≠ .eof ∧ k ≠ .string ∧ 0 < n := by
  have pairs : ∀ k ∈ TokenKind.pairOperators, k ≠ .eof ∧ k ≠ .string := by decide
  have singles : ∀ k ∈ TokenKind.singleOperators, k ≠ .eof ∧ k ≠ .string := by decide
  rcases operatorAt_kind found with ⟨mem, rfl⟩ | ⟨mem, rfl⟩
  · exact ⟨(pairs k mem).1, (pairs k mem).2, by decide⟩
  · exact ⟨(singles k mem).1, (singles k mem).2, by decide⟩

/-- Everything a successful step does: the lexeme starts with the head character, the rest
follows it, and the lexeme is blanks or the spelling of its token. -/
theorem step_ok {c : Char} {cs taken rest : List Char} {lx : Lexeme}
    (stepped : step c cs = .ok (lx, taken, rest)) :
    (∃ tail, taken = c :: tail ∧ tail ++ rest = cs) ∧ lx.Covers taken := by
  unfold step at stepped
  split at stepped
  · rename_i blank
    simp only [Except.ok.injEq, Prod.mk.injEq] at stepped
    obtain ⟨rfl, rfl, rfl⟩ := stepped
    refine ⟨⟨_, rfl, List.takeWhile_append_dropWhile⟩, ?_⟩
    intro x mem
    simp only [List.mem_cons] at mem
    rcases mem with rfl | mem
    · exact blank
    · exact List.all_eq_true.mp List.all_takeWhile x mem
  split at stepped
  · simp only [Except.ok.injEq, Prod.mk.injEq] at stepped
    obtain ⟨rfl, rfl, rfl⟩ := stepped
    exact ⟨⟨_, rfl, List.takeWhile_append_dropWhile⟩, by decide, by simp [Spells]⟩
  split at stepped
  · rename_i opening
    split at stepped
    · rename_i tail after found
      simp only [Except.ok.injEq, Prod.mk.injEq] at stepped
      obtain ⟨rfl, rfl, rfl⟩ := stepped
      obtain ⟨rfl, opens⟩ := opening
      obtain ⟨d, more, rfl⟩ : ∃ d more, cs = d :: more := by
        cases cs with
        | nil => simp at opens
        | cons d more => exact ⟨d, more, rfl⟩
      simp only [List.head?_cons, Option.some.injEq] at opens
      subst opens
      exact ⟨⟨_, rfl, by simpa using blockTail_append found⟩, by decide, by simp [Spells]⟩
    · cases stepped
  split at stepped
  · rename_i quote
    split at stepped
    · rename_i body q after split_eq
      split at stepped
      · rename_i closes
        subst closes
        simp only [Except.ok.injEq, Prod.mk.injEq] at stepped
        obtain ⟨rfl, rfl, rfl⟩ := stepped
        have whole := stringBody_append q cs
        have units := stringBody_body q cs
        rw [split_eq] at whole units
        refine ⟨⟨_, rfl, by simpa using whole⟩, by decide, ?_⟩
        simp only [Spells, if_pos]
        exact ⟨q, body, quote, units, rfl, rfl⟩
      · cases stepped
    · cases stepped
  split at stepped
  · rename_i digit
    split at stepped
    rename_i text after split_eq
    simp only [Except.ok.injEq, Prod.mk.injEq] at stepped
    obtain ⟨rfl, rfl, rfl⟩ := stepped
    have whole := numberSpan_append (c :: cs)
    obtain ⟨tail, starts⟩ := numberSpan_head digit cs
    rw [split_eq] at whole starts
    subst starts
    exact ⟨⟨tail, rfl, by simpa using whole⟩, by decide, by simp [Spells]⟩
  split at stepped
  · simp only [Except.ok.injEq, Prod.mk.injEq] at stepped
    obtain ⟨rfl, rfl, rfl⟩ := stepped
    exact ⟨⟨_, rfl, List.takeWhile_append_dropWhile⟩, by decide, by simp [Spells]⟩
  split at stepped
  · rename_i k n found
    simp only [Except.ok.injEq, Prod.mk.injEq] at stepped
    obtain ⟨rfl, rfl, rfl⟩ := stepped
    obtain ⟨not_eof, not_string, wide⟩ := operatorAt_plain found
    obtain ⟨m, rfl⟩ : ∃ m, n = m + 1 := ⟨n - 1, by omega⟩
    refine ⟨⟨cs.take m, by simp, by simp⟩, not_eof, ?_⟩
    simp [Spells, not_string]
  · cases stepped

theorem step_shorter {c : Char} {cs taken rest : List Char} {lx : Lexeme}
    (stepped : step c cs = .ok (lx, taken, rest)) : rest.length < (c :: cs).length := by
  obtain ⟨⟨tail, -, split⟩, -⟩ := step_ok stepped
  rw [← split]
  simp only [List.length_cons, List.length_append]
  omega

end Quill.Scan
