import Quill.Proofs.Scan.Words

set_option autoImplicit false

/- Scanning makes a name token only of a name and a number token only of digits with at most one
point inside them, so every token of a successful scan is of its class. -/
namespace Quill

open Scan

/-- A token of its class: a name token's text is a name and a number token's text a number. -/
def Token.Classed (t : Token) : Prop :=
  (t.kind = .ident → IsName t.text.toList) ∧ (t.kind = .number → IsNumber t.text.toList)

namespace Scan

theorem isNumber_numberSpan {c : Char} (digit : isDigit c = true) (cs : List Char) :
    IsNumber (numberSpan (c :: cs)).1 := by
  have digits : ∀ l : List Char, ∀ x ∈ l.takeWhile isDigit, isDigit x = true := fun l x mem =>
    List.all_eq_true.mp List.all_takeWhile x mem
  unfold numberSpan
  split
  · rename_i d more after
    split
    · rename_i fractional
      refine ⟨_, _, rfl, ?_, digits _, .inr ⟨_, rfl, ?_, digits _⟩⟩
      · simp [List.takeWhile_cons_of_pos digit]
      · simp [List.takeWhile_cons_of_pos fractional]
    · exact ⟨(c :: cs).takeWhile isDigit, [], by simp,
        by simp [List.takeWhile_cons_of_pos digit], digits _, .inl rfl⟩
  · exact ⟨(c :: cs).takeWhile isDigit, [], by simp, by simp [List.takeWhile_cons_of_pos digit],
      digits _, .inl rfl⟩

/-- A token of a kind other than a name or a number is of its class, whatever its text. -/
theorem classed_of_kind {k : TokenKind} {text : String} (notName : k ≠ .ident)
    (notNumber : k ≠ .number) :
    (k = .ident → IsName text.toList) ∧ (k = .number → IsNumber text.toList) :=
  ⟨fun same => absurd same notName, fun same => absurd same notNumber⟩

/-- A step makes a name token only of a name, and a number token only of a number. -/
theorem step_classes {c : Char} {cs taken rest : List Char} {k : TokenKind} {text : String}
    (stepped : step c cs = .ok (.token k text, taken, rest)) :
    (k = .ident → IsName text.toList) ∧ (k = .number → IsNumber text.toList) := by
  unfold step at stepped
  split at stepped
  · cases stepped
  split at stepped
  · simp only [Except.ok.injEq, Prod.mk.injEq, Lexeme.token.injEq] at stepped
    obtain ⟨⟨rfl, -⟩, -⟩ := stepped
    exact classed_of_kind (by decide) (by decide)
  split at stepped
  · split at stepped
    · simp only [Except.ok.injEq, Prod.mk.injEq, Lexeme.token.injEq] at stepped
      obtain ⟨⟨rfl, -⟩, -⟩ := stepped
      exact classed_of_kind (by decide) (by decide)
    · cases stepped
  split at stepped
  · split at stepped
    · split at stepped
      · simp only [Except.ok.injEq, Prod.mk.injEq, Lexeme.token.injEq] at stepped
        obtain ⟨⟨rfl, -⟩, -⟩ := stepped
        exact classed_of_kind (by decide) (by decide)
      · cases stepped
    · cases stepped
  split at stepped
  · rename_i digit
    simp only [Except.ok.injEq, Prod.mk.injEq, Lexeme.token.injEq] at stepped
    obtain ⟨⟨rfl, rfl⟩, -⟩ := stepped
    refine ⟨fun same => absurd same (by decide), fun _ => ?_⟩
    rw [String.toList_ofList]
    exact isNumber_numberSpan digit cs
  split at stepped
  · rename_i start
    simp only [Except.ok.injEq, Prod.mk.injEq, Lexeme.token.injEq] at stepped
    obtain ⟨⟨rfl, rfl⟩, -⟩ := stepped
    refine ⟨fun _ => ?_, fun same => absurd same (by decide)⟩
    rw [String.toList_ofList]
    exact ⟨c, _, rfl, start, fun x mem => List.all_eq_true.mp List.all_takeWhile x mem⟩
  split at stepped
  · rename_i k' n found
    simp only [Except.ok.injEq, Prod.mk.injEq, Lexeme.token.injEq] at stepped
    obtain ⟨⟨rfl, -⟩, -⟩ := stepped
    have operator := operatorAt_kind found
    refine ⟨fun same => ?_, fun same => ?_⟩ <;> subst same <;>
      simp [TokenKind.pairOperators, TokenKind.singleOperators] at operator
  · cases stepped

/-- Every token a run of the scanner adds is of its class. -/
theorem run_classed {p : Place} {acc : List Token} {cs : List Char} {ts : List Token}
    (scanned : run p acc cs = .ok ts)
      (before : ∀ t ∈ acc, t.Classed) : ∀ t ∈ ts, t.Classed := by
  fun_induction run p acc cs with
  | case1 p acc =>
    simp only [Except.ok.injEq] at scanned
    subst scanned
    intro t mem
    simp only [List.reverse_cons, List.mem_append, List.mem_reverse, List.mem_singleton] at mem
    rcases mem with mem | rfl
    · exact before t mem
    · exact classed_of_kind (by simp) (by simp)
  | case2 => cases scanned
  | case3 p acc c cs lexeme taken rest stepped shorter acc' ih =>
    refine ih scanned fun t mem => ?_
    cases lexeme with
    | blank => exact before t mem
    | token k text =>
      simp only [acc', List.mem_cons] at mem
      rcases mem with rfl | mem
      · exact step_classes stepped
      · exact before t mem
  | case4 p acc c cs lexeme taken rest stepped longer =>
    simp only [Except.ok.injEq] at scanned
    subst scanned
    intro t mem
    simp only [List.reverse_cons, List.mem_append, List.mem_reverse, List.mem_singleton] at mem
    rcases mem with mem | rfl
    · exact before t mem
    · exact classed_of_kind (by simp) (by simp)

end Scan

/-- Every token of a successful scan is of its class. -/
theorem scan_classed {s : String} {ts : List Token} (scanned : scan s = .ok ts) :
    ∀ t ∈ ts, t.Classed :=
  Scan.run_classed scanned (List.forall_mem_nil _)

end Quill
