import Mathlib
import Quill.Proofs.Scan.Classes

set_option autoImplicit false

/- Longest match: scanning tries its classes in a fixed order, yet what it takes is always the
longest piece at the head of the text that belongs to any lexical class, and that class is
unique. -/
namespace Quill.Scan

/-- The lexical classes: runs of blanks, line and block comments, quoted strings, numbers,
names, and the symbol of each operator kind. -/
inductive LexClass where
  | blanks
  | lineComment
  | blockComment
  | quoted
  | number
  | name
  | symbol (k : TokenKind)
deriving DecidableEq, Repr

/-- The texts of each class. A block comment ends at the first closing mark after its
opening, and a quoted string at the first quote of its kind that no backslash takes. -/
def LexClass.Holds : LexClass → List Char → Prop
  | blanks, w => w ≠ [] ∧ ∀ x ∈ w, isBlank x = true
  | lineComment, w => ∃ body, w = '/' :: '/' :: body ∧ '\n' ∉ body
  | blockComment, w => ∃ body, w = '/' :: '*' :: (body ++ ['*', '/']) ∧ ¬['*', '/'] <:+: body
  | quoted, w => ∃ q body, (q = '"' ∨ q = '\'') ∧ StringBody q body ∧ w = q :: body ++ [q]
  | number, w => IsNumber w
  | name, w => IsName w
  | symbol k, w => ∃ text, k.symbol? = some text ∧ w = text.toList

/-- The lexeme a text of the class makes: blanks make none, a string makes its body with the
escapes resolved, and every other class a token of its kind with the text itself. -/
def LexClass.lexeme : LexClass → List Char → Lexeme
  | blanks, _ => .blank
  | lineComment, w | blockComment, w => .token .comment (String.ofList w)
  | quoted, w => .token .string (String.ofList (unescape (w.drop 1).dropLast))
  | number, w => .token .number (String.ofList w)
  | name, w => .token .ident (String.ofList w)
  | symbol k, w => .token k (String.ofList w)

/-- `w` is a longest piece at the head of `s` that belongs to a lexical class: no longer piece
at the head belongs to any. -/
def IsLongest (s w : List Char) : Prop :=
  w <+: s ∧ ∀ v, v <+: s → ∀ cls : LexClass, cls.Holds v → v.length ≤ w.length

/-- The text opens a block comment that no closing mark ends. -/
def UnclosedComment (s : List Char) : Prop :=
  ∃ t, s = '/' :: '*' :: t ∧ ¬['*', '/'] <:+: t

/-- The text opens a string with a quote, and no piece at its head is a quoted string. -/
def UnclosedString (s : List Char) : Prop :=
  (∃ q t, s = q :: t ∧ (q = '"' ∨ q = '\'')) ∧ ∀ v, v <+: s → ¬LexClass.quoted.Holds v

/-- The text does not open a string, and no piece at its head belongs to any class. -/
def Unmatched (s : List Char) : Prop :=
  (∀ q, s.head? = some q → q ≠ '"' ∧ q ≠ '\'') ∧ ∀ v, v <+: s → ∀ cls : LexClass,
    ¬cls.Holds v

theorem blockTail_cons {x : Char} {m : List Char} (open_ : ¬(x = '*' ∧ m.head? = some '/')) :
    blockTail (x :: m) = (blockTail m).map fun (text, rest) => (x :: text, rest) := by
  rw [blockTail.eq_def]
  split
  · rename_i rest same
    simp only [List.cons.injEq] at same
    obtain ⟨rfl, rfl⟩ := same
    simp at open_
  · simp only [List.cons.injEq] at *
    rename_i c cs _ same
    obtain ⟨rfl, rfl⟩ := same
    rfl
  · simp at *

theorem blockTail_complete {mid : List Char} (open_ : ¬['*', '/'] <:+: mid) (rest : List Char) :
    blockTail (mid ++ '*' :: '/' :: rest) = some (mid ++ ['*', '/'], rest) := by
  induction mid with
  | nil => rfl
  | cons x mid ih =>
    -- the head cannot start a closing mark, since the mark would then lie in `x :: mid`
    have head : ¬(x = '*' ∧ (mid ++ '*' :: '/' :: rest).head? = some '/') := by
      rintro ⟨rfl, starts⟩
      cases mid with
      | nil => simp at starts
      | cons y more =>
        simp only [List.cons_append, List.head?_cons, Option.some.injEq] at starts
        subst starts
        exact open_ (List.prefix_append _ _).isInfix
    rw [List.cons_append, blockTail_cons head, ih (fun inner => open_ (List.infix_cons inner))]
    rfl

theorem blockTail_sound {l tail rest : List Char} (found : blockTail l = some (tail, rest)) :
    ∃ mid, l = mid ++ '*' :: '/' :: rest ∧ tail = mid ++ ['*', '/'] ∧
      ¬['*', '/'] <:+: mid := by
  fun_induction blockTail l generalizing tail with
  | case1 more =>
    simp only [Option.some.injEq, Prod.mk.injEq] at found
    obtain ⟨rfl, rfl⟩ := found
    exact ⟨[], rfl, rfl, by simp⟩
  | case2 c cs early ih =>
    obtain ⟨⟨inner, after⟩, inner_found, same⟩ := Option.map_eq_some_iff.mp found
    simp only [Prod.mk.injEq] at same
    obtain ⟨rfl, rfl⟩ := same
    obtain ⟨mid, rfl, rfl, open_⟩ := ih inner_found
    refine ⟨c :: mid, rfl, rfl, fun closes => ?_⟩
    rcases List.infix_cons_iff.mp closes with starts | inner
    · -- a mark at the head would have been the first equation
      obtain ⟨rfl, next⟩ := List.cons_prefix_cons.mp starts
      cases mid with
      | nil => simp at next
      | cons y more =>
        obtain ⟨rfl, -⟩ := List.cons_prefix_cons.mp next
        exact early _ rfl rfl
    · exact open_ inner
  | case3 => simp at found

theorem blockTail_isSome {l : List Char} (closes : ['*', '/'] <:+: l) : (blockTail l).isSome := by
  induction l with
  | nil => simp at closes
  | cons x l ih =>
    by_cases head : x = '*' ∧ l.head? = some '/'
    · obtain ⟨rfl, starts⟩ := head
      obtain ⟨r, rfl⟩ : ∃ r, l = '/' :: r := by
        cases l with
        | nil => simp at starts
        | cons y r =>
          simp only [List.head?_cons, Option.some.injEq] at starts; exact ⟨r, by rw [starts]⟩
      rfl
    · rw [blockTail_cons head, Option.isSome_map]
      rcases List.infix_cons_iff.mp closes with starts | inner
      · obtain ⟨rfl, next⟩ := List.cons_prefix_cons.mp starts
        cases l with
        | nil => simp at next
        | cons y r =>
          obtain ⟨rfl, -⟩ := List.cons_prefix_cons.mp next
          exact absurd ⟨rfl, rfl⟩ head
      · exact ih inner

theorem blockTail_eq_none_iff (l : List Char) : blockTail l = none ↔ ¬['*', '/'] <:+: l := by
  constructor
  · intro missing closes
    simpa [missing] using blockTail_isSome closes
  · intro open_
    cases found : blockTail l with
    | none => rfl
    | some split =>
      obtain ⟨tail, rest⟩ := split
      obtain ⟨mid, rfl, -, -⟩ := blockTail_sound found
      exact absurd (by simpa using List.infix_append mid ['*', '/'] rest) open_

theorem stringBody_complete {q : Char} {body : List Char} (quote : q ≠ '\\')
    (units : StringBody q body) (rest : List Char) :
    stringBody q (body ++ q :: rest) = (body, q :: rest) := by
  induction units with
  | nil =>
    rw [List.nil_append, stringBody.eq_def]
    simp
  | plain other plain line _ ih =>
    rw [List.cons_append, stringBody.eq_def]
    simp [other, plain, line, ih]
  | escape c _ ih =>
    rw [List.cons_append, List.cons_append, stringBody.eq_def]
    simp [Ne.symm quote, ih]

theorem length_le_takeWhile {p : Char → Bool} {v s : List Char} (all : ∀ x ∈ v, p x = true)
    (pre : v <+: s) : v.length ≤ (s.takeWhile p).length := by
  obtain ⟨t, rfl⟩ := pre
  rw [List.takeWhile_append_of_pos all, List.length_append]
  omega

theorem takeWhile_prefix_numberSpan (s : List Char) : s.takeWhile isDigit <+: (numberSpan s).1 := by
  unfold numberSpan
  split
  · split
    · exact List.prefix_append _ _
    · exact List.prefix_rfl
  · exact List.prefix_rfl

theorem numberSpan_longest {v s : List Char} (number : IsNumber v) (pre : v <+: s) :
    v.length ≤ (numberSpan s).1.length := by
  obtain ⟨ds, frac, rfl, -, digits, fraction⟩ := number
  obtain ⟨t, rfl⟩ := pre
  rcases fraction with rfl | ⟨fs, rfl, nonempty, fraction⟩
  · calc (ds ++ []).length
        ≤ ((ds ++ [] ++ t).takeWhile isDigit).length :=
          length_le_takeWhile (by simpa using digits) (List.prefix_append _ _)
      _ ≤ (numberSpan (ds ++ [] ++ t)).1.length := (takeWhile_prefix_numberSpan _).length_le
  · -- with a fraction the digits before the point are the whole run, and the fraction follows
    obtain ⟨f, fs, rfl⟩ := List.exists_cons_of_ne_nil nonempty
    have point : ∀ x, ('.' :: (f :: fs ++ t)).head? = some x → isDigit x = false := by
      intro x head
      simp only [List.head?_cons, Option.some.injEq] at head
      subst head
      decide
    obtain ⟨took, dropped⟩ := span_stop digits point
    have leading : isDigit f = true := fraction f (by simp)
    have after := length_le_takeWhile (s := f :: fs ++ t) fraction (List.prefix_append _ _)
    simp only [List.cons_append] at took dropped after
    simp only [numberSpan, List.append_assoc, List.cons_append, took, dropped, leading,
      ↓reduceIte, List.length_append, List.length_cons] at after ⊢
    omega

theorem symbol_find {k : TokenKind} {text : String} (sym : k.symbol? = some text) :
    TokenKind.all.find? (·.symbol? == some text) = some k := by
  cases k <;> simp only [TokenKind.symbol?, Option.some.injEq, reduceCtorEq] at sym <;>
    subst sym <;> decide

theorem symbol_injective {k k' : TokenKind} {text : String} (sym : k.symbol? = some text)
    (sym' : k'.symbol? = some text) : k = k' :=
  Option.some.inj ((symbol_find sym).symm.trans (symbol_find sym'))

theorem symbol_mem {k : TokenKind} {text : String} (sym : k.symbol? = some text) :
    k ∈ TokenKind.pairOperators ∨ k ∈ TokenKind.singleOperators := by
  cases k <;> simp [TokenKind.symbol?, TokenKind.pairOperators,
    TokenKind.singleOperators] at sym ⊢

/-- What the operator search finds at the head is the symbol of its kind. -/
theorem operatorAt_symbol {c : Char} {cs : List Char} {k : TokenKind} {n : Nat}
    (found : operatorAt c cs = some (k, n)) :
    k.symbol? = some (String.ofList ((c :: cs).take n)) := by
  unfold operatorAt at found
  cases cs with
  | nil =>
    obtain ⟨k', single, same⟩ := Option.map_eq_some_iff.mp found
    simp only [Prod.mk.injEq] at same
    obtain ⟨rfl, rfl⟩ := same
    simpa using List.find?_some single
  | cons d more =>
    simp only at found
    split at found
    · rename_i pair
      simp only [Option.some.injEq, Prod.mk.injEq] at found
      obtain ⟨rfl, rfl⟩ := found
      simpa using List.find?_some pair
    · obtain ⟨k', single, same⟩ := Option.map_eq_some_iff.mp found
      simp only [Prod.mk.injEq] at same
      obtain ⟨rfl, rfl⟩ := same
      simpa using List.find?_some single

/-- Every symbol at the head is found, and what is found is at least as long. -/
theorem operatorAt_longest {c : Char} {cs : List Char} {k : TokenKind} {text : String}
    (sym : k.symbol? = some text) (pre : text.toList <+: c :: cs) :
    ∃ k' n, operatorAt c cs = some (k', n) ∧ text.toList.length ≤ n := by
  rcases symbol_mem sym with pair | single
  · obtain ⟨a, b, spelled, -, -, found⟩ := pair_spelled pair sym
    rw [spelled] at pre ⊢
    obtain ⟨rfl, next⟩ := List.cons_prefix_cons.mp pre
    obtain ⟨more, rfl⟩ : ∃ more, cs = b :: more := by
      obtain ⟨more, same⟩ := next
      exact ⟨more, same.symm⟩
    exact ⟨k, 2, found more, by simp⟩
  · obtain ⟨a, spelled, -, -⟩ := single_spelled single sym
    rw [spelled] at pre ⊢
    obtain ⟨rfl, -⟩ := List.cons_prefix_cons.mp pre
    have named : text = a.toString := String.toList_inj.mp (by simp [spelled])
    have searched : (TokenKind.singleOperators.find? fun k => k.symbol? == some
      a.toString).isSome :=
      List.find?_isSome.mpr ⟨k, single, by simp [sym, named]⟩
    obtain ⟨k', found⟩ := Option.isSome_iff_exists.mp searched
    unfold operatorAt
    cases cs with
    | nil => exact ⟨k', 1, by dsimp only; rw [found]; rfl, by simp⟩
    | cons d more =>
      dsimp only
      split
      · exact ⟨_, 2, rfl, by simp⟩
      · exact ⟨k', 1, by rw [found]; rfl, by simp⟩

/-- How the texts of each class start: with a blank, with `//` or `/*`, with a quote, a
digit, a name start, or a character of no other class (for `/` only the symbol itself). -/
def LexClass.Starts : LexClass → Char → List Char → Prop
  | blanks, x, _ => isBlank x = true
  | lineComment, x, r => x = '/' ∧ r.head? = some '/'
  | blockComment, x, r => x = '/' ∧ r.head? = some '*'
  | quoted, x, _ => x = '"' ∨ x = '\''
  | number, x, _ => isDigit x = true
  | name, x, _ => isNameStart x = true
  | symbol _, x, r => OperatorChar x ∧ (x = '/' → r = [])

theorem LexClass.Holds.ne_nil {cls : LexClass} {w : List Char}
    (holds : cls.Holds w) : w ≠ [] := by
  cases cls with
  | blanks => exact holds.1
  | lineComment | blockComment =>
    obtain ⟨body, rfl, -⟩ := holds
    simp
  | quoted =>
    obtain ⟨q, body, -, -, rfl⟩ := holds
    simp
  | number =>
    obtain ⟨ds, frac, rfl, nonempty, -⟩ := holds
    simp [nonempty]
  | name =>
    obtain ⟨x, rest, rfl, -⟩ := holds
    simp
  | symbol k =>
    obtain ⟨text, sym, rfl⟩ := holds
    rcases symbol_mem sym with pair | single
    · obtain ⟨a, b, spelled, -⟩ := pair_spelled pair sym
      simp [spelled]
    · obtain ⟨a, spelled, -⟩ := single_spelled single sym
      simp [spelled]

theorem LexClass.Holds.starts {cls : LexClass} {x : Char} {r : List Char}
    (holds : cls.Holds (x :: r)) : cls.Starts x r := by
  cases cls with
  | blanks => exact holds.2 x (by simp)
  | lineComment | blockComment =>
    obtain ⟨body, same, -⟩ := holds
    simp only [List.cons.injEq] at same
    obtain ⟨rfl, rfl⟩ := same
    exact ⟨rfl, rfl⟩
  | quoted =>
    obtain ⟨q, body, quote, -, same⟩ := holds
    simp only [List.cons_append, List.cons.injEq] at same
    obtain ⟨rfl, -⟩ := same
    exact quote
  | number =>
    obtain ⟨ds, frac, same, nonempty, digits, -⟩ := holds
    obtain ⟨d, ds, rfl⟩ := List.exists_cons_of_ne_nil nonempty
    simp only [List.cons_append, List.cons.injEq] at same
    obtain ⟨rfl, -⟩ := same
    exact digits x (by simp)
  | name =>
    obtain ⟨y, rest, same, start, -⟩ := holds
    simp only [List.cons.injEq] at same
    obtain ⟨rfl, -⟩ := same
    exact start
  | symbol k =>
    obtain ⟨text, sym, spelled⟩ := holds
    rcases symbol_mem sym with pair | single
    · obtain ⟨a, b, spelled', operator, slash, -⟩ := pair_spelled pair sym
      rw [spelled'] at spelled
      simp only [List.cons.injEq] at spelled
      obtain ⟨rfl, -⟩ := spelled
      exact ⟨operator, fun same => absurd same slash⟩
    · obtain ⟨a, spelled', operator, -⟩ := single_spelled single sym
      rw [spelled'] at spelled
      simp only [List.cons.injEq] at spelled
      obtain ⟨rfl, rfl⟩ := spelled
      exact ⟨operator, fun _ => rfl⟩

section Starts

variable {cls : LexClass} {x : Char} {r : List Char}

theorem LexClass.eq_blanks (blank : isBlank x = true) (starts : cls.Starts x r) :
    cls = .blanks := by
  cases cls with
  | blanks => rfl
  | lineComment | blockComment =>
    obtain ⟨rfl, -⟩ := starts
    simp [isBlank] at blank
  | quoted => rcases starts with rfl | rfl <;> simp [isBlank] at blank
  | number => simp [(isDigit_classes starts).1] at blank
  | name => simp [(isNameStart_classes starts).1] at blank
  | symbol k => simp [starts.1.1] at blank

theorem LexClass.eq_quoted (quote : x = '"' ∨ x = '\'') (starts : cls.Starts x r) :
    cls = .quoted := by
  cases cls with
  | quoted => rfl
  | blanks => rcases quote with rfl | rfl <;> simp [LexClass.Starts, isBlank] at starts
  | lineComment | blockComment => rcases quote with rfl | rfl <;> simp [LexClass.Starts] at starts
  | number => rcases quote with rfl | rfl <;> simp [LexClass.Starts, isDigit] at starts
  | name => rcases quote with rfl | rfl <;> simp [LexClass.Starts, isNameStart] at starts
  | symbol k => rcases quote with rfl | rfl <;> simp [LexClass.Starts, OperatorChar] at starts

theorem LexClass.eq_number (digit : isDigit x = true) (starts : cls.Starts x r) :
    cls = .number := by
  obtain ⟨blank, slash, quote, tick⟩ := isDigit_classes digit
  cases cls with
  | number => rfl
  | blanks => simp [LexClass.Starts, blank] at starts
  | lineComment | blockComment => exact absurd starts.1 slash
  | quoted => simp [LexClass.Starts, quote, tick] at starts
  | name => simp [(isNameStart_classes starts).2.1] at digit
  | symbol k => simp [starts.1.2.1] at digit

theorem LexClass.eq_name (start : isNameStart x = true) (starts : cls.Starts x r) :
    cls = .name := by
  obtain ⟨blank, digit, slash, quote, tick⟩ := isNameStart_classes start
  cases cls with
  | name => rfl
  | blanks => simp [LexClass.Starts, blank] at starts
  | lineComment | blockComment => exact absurd starts.1 slash
  | quoted => simp [LexClass.Starts, quote, tick] at starts
  | number => simp [LexClass.Starts, digit] at starts
  | symbol k => simp [starts.1.2.2.1] at start

/-- A text that starts with `/` is a line comment, a block comment, or the symbol itself. -/
theorem LexClass.starts_slash (starts : cls.Starts '/' r) :
    (cls = .lineComment ∧ r.head? = some '/') ∨ (cls = .blockComment ∧ r.head? = some '*') ∨
      ∃ k, cls = .symbol k ∧ r = [] := by
  cases cls with
  | lineComment => exact .inl ⟨rfl, starts.2⟩
  | blockComment => exact .inr (.inl ⟨rfl, starts.2⟩)
  | symbol k => exact .inr (.inr ⟨k, rfl, starts.2 rfl⟩)
  | blanks | quoted | number | name =>
    simp [LexClass.Starts, isBlank, isDigit, isNameStart] at starts

theorem LexClass.starts_operator (op : OperatorChar x) (slash : x ≠ '/')
    (starts : cls.Starts x r) : ∃ k, cls = .symbol k := by
  obtain ⟨blank, digit, name, quote, tick⟩ := op
  cases cls with
  | symbol k => exact ⟨k, rfl⟩
  | blanks => simp [LexClass.Starts, blank] at starts
  | lineComment | blockComment => exact absurd starts.1 slash
  | quoted => simp [LexClass.Starts, quote, tick] at starts
  | number => simp [LexClass.Starts, digit] at starts
  | name => simp [LexClass.Starts, name] at starts

end Starts

theorem LexClass.symbol_unique {k k' : TokenKind} {w : List Char} (holds : (symbol k).Holds w)
    (holds' : (symbol k').Holds w) : k' = k := by
  obtain ⟨text, sym, rfl⟩ := holds
  obtain ⟨text', sym', same⟩ := holds'
  rw [String.toList_inj.mp same] at sym
  exact symbol_injective sym' sym

/-- The lexical classes are disjoint: a text belongs to at most one. -/
theorem LexClass.holds_unique {cls cls' : LexClass} {w : List Char} (holds : cls.Holds w)
    (holds' : cls'.Holds w) : cls' = cls := by
  obtain ⟨x, r, rfl⟩ := List.exists_cons_of_ne_nil holds.ne_nil
  have starts := holds.starts
  have starts' := holds'.starts
  cases cls with
  | blanks => exact LexClass.eq_blanks starts starts'
  | quoted => exact LexClass.eq_quoted starts starts'
  | number => exact LexClass.eq_number starts starts'
  | name => exact LexClass.eq_name starts starts'
  | lineComment | blockComment =>
    obtain ⟨rfl, second⟩ := starts
    rcases LexClass.starts_slash starts' with ⟨rfl, second'⟩ | ⟨rfl, second'⟩ |
      ⟨k, rfl, rfl⟩ <;>
      simp_all
  | symbol k =>
    by_cases slash : x = '/'
    · subst slash
      have alone := starts.2 rfl
      subst alone
      rcases LexClass.starts_slash starts' with ⟨-, second'⟩ | ⟨-, second'⟩ |
        ⟨k', rfl, -⟩
      · simp at second'
      · simp at second'
      · rw [LexClass.symbol_unique holds holds']
    · obtain ⟨k', rfl⟩ := LexClass.starts_operator starts.1 slash starts'
      rw [LexClass.symbol_unique holds holds']

theorem step_blank {c : Char} (blank : isBlank c = true) (cs : List Char) :
    step c cs = .ok (.blank, c :: cs.takeWhile isBlank, cs.dropWhile isBlank) := by
  simp [step, blank]

theorem step_line (more : List Char) :
    step '/' ('/' :: more) = .ok
      (.token .comment (String.ofList ('/' :: '/' :: more.takeWhile (· != '\n'))),
      '/' :: '/' :: more.takeWhile (· != '\n'), more.dropWhile (· != '\n')) := by
  simp [step, isBlank]

theorem step_block_closed {t tail rest : List Char} (found : blockTail t = some (tail, rest)) :
    step '/' ('*' :: t) =
      .ok (.token .comment (String.ofList ('/' :: '*' :: tail)), '/' :: '*' :: tail, rest) := by
  simp [step, isBlank, found]

theorem step_block_open {t : List Char} (missing : blockTail t = none) :
    step '/' ('*' :: t) = .error .openComment := by
  simp [step, isBlank, missing]

theorem step_quote_closed {c : Char} {cs body rest : List Char} (quote : c = '"' ∨ c = '\'')
    (split : stringBody c cs = (body, c :: rest)) :
    step c cs = .ok (.token .string (String.ofList (unescape body)), c :: body ++ [c], rest) := by
  rcases quote with rfl | rfl <;> simp [step, isBlank, split]

theorem step_quote_open {c : Char} {cs : List Char} (quote : c = '"' ∨ c = '\'')
    (open_ : ∀ body rest, stringBody c cs ≠ (body, c :: rest)) :
    ∃ b, step c cs = .error (.openString b) := by
  cases split : stringBody c cs with
  | mk body after =>
    cases after with
    | nil => exact ⟨false, by rcases quote with rfl | rfl <;> simp [step, isBlank, split]⟩
    | cons q rest =>
      have differ : q ≠ c := fun same => open_ body rest (by rw [split, same])
      exact ⟨q = '\n', by rcases quote with rfl | rfl <;> simp [step, isBlank, split, differ]⟩

theorem step_digit {c : Char} (digit : isDigit c = true) (cs : List Char) :
    step c cs = .ok (.token .number (String.ofList (numberSpan (c :: cs)).1),
      (numberSpan (c :: cs)).1, (numberSpan (c :: cs)).2) := by
  obtain ⟨blank, slash, quote, tick⟩ := isDigit_classes digit
  simp [step, blank, slash, quote, tick, digit]

theorem step_nameStart {c : Char} (start : isNameStart c = true) (cs : List Char) :
    step c cs = .ok (.token .ident (String.ofList (c :: cs.takeWhile isNameChar)),
      c :: cs.takeWhile isNameChar, cs.dropWhile isNameChar) := by
  obtain ⟨blank, digit, slash, quote, tick⟩ := isNameStart_classes start
  simp [step, blank, digit, slash, quote, tick, start]

theorem operatorChar_slash : OperatorChar '/' := by
  unfold OperatorChar
  decide

/-- At a `/` a step reads a comment or the symbol, or finds a block comment never closed. -/
theorem step_slash (cs : List Char) :
    (∃ r, step '/' cs = .ok r) ∨ step '/' cs = .error .openComment := by
  have symbol : ∀ {cs : List Char}, (cs.head? ≠ some '/' ∧ cs.head? ≠ some '*') →
      ∃ r, step '/' cs = .ok r := by
    intro cs comment
    obtain ⟨k, n, found, -⟩ :=
      operatorAt_longest (k := .div) rfl (by simp : "/".toList <+: '/' :: cs)
    exact ⟨_, step_operator operatorChar_slash (fun _ => comment) found⟩
  cases cs with
  | nil => exact .inl (symbol (by simp))
  | cons d more =>
    by_cases line : d = '/'
    · subst line
      exact .inl ⟨_, step_line more⟩
    by_cases block : d = '*'
    · subst block
      cases found : blockTail more with
      | none => exact .inr (step_block_open found)
      | some split => exact .inl ⟨_, step_block_closed found⟩
    · exact .inl (symbol (by simp [line, block]))

/-- Every piece at the head that belongs to a class is covered by what a step takes, unless the
step finds a block comment that is never closed. -/
theorem step_covers {c : Char} {cs v : List Char} {cls : LexClass} (holds : cls.Holds v)
    (pre : v <+: c :: cs) :
    (∃ lx taken rest, step c cs = .ok (lx, taken, rest) ∧ v.length ≤ taken.length) ∨
      step c cs = .error .openComment := by
  obtain ⟨x, r, rfl⟩ := List.exists_cons_of_ne_nil holds.ne_nil
  obtain ⟨rfl, after⟩ := List.cons_prefix_cons.mp pre
  cases cls with
  | blanks =>
    have blanks := length_le_takeWhile (fun y mem => holds.2 y (List.mem_cons_of_mem x mem)) after
    exact .inl ⟨_, _, _, step_blank holds.starts cs, by simpa using blanks⟩
  | lineComment =>
    obtain ⟨body, same, newline⟩ := holds
    simp only [List.cons.injEq] at same
    obtain ⟨rfl, rfl⟩ := same
    obtain ⟨more, rfl⟩ : ∃ more, cs = '/' :: more := by
      obtain ⟨more, rfl⟩ := after
      exact ⟨body ++ more, rfl⟩
    have inside : ∀ y ∈ body, (y != '\n') = true := by
      intro y mem
      have other : y ≠ '\n' := by
        rintro rfl
        exact newline mem
      simpa using other
    have longest := length_le_takeWhile inside (List.cons_prefix_cons.mp after).2
    exact .inl ⟨_, _, _, step_line more, by simpa using longest⟩
  | blockComment =>
    obtain ⟨body, same, open_⟩ := holds
    simp only [List.cons.injEq] at same
    obtain ⟨rfl, rfl⟩ := same
    obtain ⟨rest, rfl⟩ := after
    simp only [List.cons_append, List.append_assoc, List.nil_append] at *
    exact .inl ⟨_, _, _, step_block_closed (blockTail_complete open_ rest), by simp⟩
  | quoted =>
    obtain ⟨q, body, quote, units, same⟩ := holds
    simp only [List.cons_append, List.cons.injEq] at same
    obtain ⟨rfl, rfl⟩ := same
    obtain ⟨rest, rfl⟩ := after
    have quote' : x ≠ '\\' := by rcases quote with rfl | rfl <;> decide
    have split := stringBody_complete quote' units rest
    simp only [List.append_assoc, List.cons_append, List.nil_append] at split ⊢
    exact .inl ⟨_, _, _, step_quote_closed quote split, by simp⟩
  | number => exact .inl ⟨_, _, _, step_digit holds.starts cs, numberSpan_longest holds pre⟩
  | name =>
    obtain ⟨y, rest, same, start, chars⟩ := holds
    simp only [List.cons.injEq] at same
    obtain ⟨rfl, rfl⟩ := same
    exact .inl ⟨_, _, _, step_nameStart start cs,
      by simpa using length_le_takeWhile chars after⟩
  | symbol k =>
    have starts := holds.starts
    by_cases slash : x = '/'
    · -- the only symbol at a `/` is `/` itself, and every step takes at least one character
      subst slash
      obtain rfl := starts.2 rfl
      rcases step_slash cs with ⟨⟨lx, taken, rest⟩, stepped⟩ | opened
      · obtain ⟨⟨tail, rfl, -⟩, -⟩ := step_ok stepped
        exact .inl ⟨lx, _, rest, stepped, by simp⟩
      · exact .inr opened
    · obtain ⟨text, sym, spelled⟩ := holds
      rw [spelled] at pre
      obtain ⟨k', n, found, longer⟩ := operatorAt_longest sym pre
      refine .inl ⟨_, _, _, step_operator starts.1 (fun same => absurd same slash) found, ?_⟩
      rw [spelled]
      exact (List.prefix_take_iff.mpr ⟨pre, longer⟩).length_le

/-- What a step takes belongs to a class, and the lexeme it makes is that class's. -/
theorem step_class {c : Char} {cs taken rest : List Char} {lx : Lexeme}
    (stepped : step c cs = .ok (lx, taken, rest)) :
    ∃ cls : LexClass, cls.Holds taken ∧ lx = cls.lexeme taken := by
  unfold step at stepped
  split at stepped
  · rename_i blank
    simp only [Except.ok.injEq, Prod.mk.injEq] at stepped
    obtain ⟨rfl, rfl, rfl⟩ := stepped
    refine ⟨.blanks, ⟨by simp, ?_⟩, rfl⟩
    intro x mem
    rcases List.mem_cons.mp mem with rfl | mem
    · exact blank
    · exact List.all_eq_true.mp List.all_takeWhile x mem
  split at stepped
  · rename_i line
    obtain ⟨rfl, opens⟩ := line
    obtain ⟨more, rfl⟩ : ∃ more, cs = '/' :: more := by
      cases cs with
      | nil => simp at opens
      | cons d more =>
        simp only [List.head?_cons, Option.some.injEq] at opens; exact ⟨more, by rw [opens]⟩
    simp only [Except.ok.injEq, Prod.mk.injEq] at stepped
    obtain ⟨rfl, rfl, rfl⟩ := stepped
    refine ⟨.lineComment, ⟨more.takeWhile (· != '\n'), by simp, fun mem => ?_⟩,
      by simp [LexClass.lexeme]⟩
    simpa using List.all_eq_true.mp List.all_takeWhile _ mem
  split at stepped
  · split at stepped
    · rename_i tail after found
      simp only [Except.ok.injEq, Prod.mk.injEq] at stepped
      obtain ⟨rfl, rfl, rfl⟩ := stepped
      obtain ⟨mid, -, rfl, open_⟩ := blockTail_sound found
      exact ⟨.blockComment, ⟨mid, rfl, open_⟩, rfl⟩
    · cases stepped
  split at stepped
  · rename_i quote
    split at stepped
    · rename_i body q after split_eq
      split at stepped
      · rename_i closes
        subst closes
        simp only [Except.ok.injEq, Prod.mk.injEq] at stepped
        obtain ⟨rfl, rfl, rfl⟩ := stepped
        have units := stringBody_body q cs
        rw [split_eq] at units
        exact ⟨.quoted, ⟨q, body, quote, units, rfl⟩, by simp [LexClass.lexeme]⟩
      · cases stepped
    · cases stepped
  split at stepped
  · rename_i digit
    simp only [Except.ok.injEq, Prod.mk.injEq] at stepped
    obtain ⟨rfl, rfl, rfl⟩ := stepped
    exact ⟨.number, isNumber_numberSpan digit cs, rfl⟩
  split at stepped
  · rename_i start
    simp only [Except.ok.injEq, Prod.mk.injEq] at stepped
    obtain ⟨rfl, rfl, rfl⟩ := stepped
    exact ⟨.name, ⟨c, _, rfl, start,
      fun x mem => List.all_eq_true.mp List.all_takeWhile x mem⟩, rfl⟩
  split at stepped
  · rename_i k n found
    simp only [Except.ok.injEq, Prod.mk.injEq] at stepped
    obtain ⟨rfl, rfl, rfl⟩ := stepped
    exact ⟨.symbol k, ⟨_, operatorAt_symbol found, by simp⟩, rfl⟩
  · cases stepped

/-- The three ways a step fails: a block comment never closed, a string never closed, and a
character that starts no class. -/
theorem step_error {c : Char} {cs : List Char} {f : ScanFault} (failed : step c cs = .error f) :
    (f = .openComment ∧ UnclosedComment (c :: cs)) ∨
      ((∃ b, f = .openString b) ∧ (c = '"' ∨ c = '\'') ∧
        ∀ body rest, stringBody c cs ≠ (body, c :: rest)) ∨
      (f = .unexpected c ∧ OperatorChar c ∧
        (c = '/' → cs.head? ≠ some '/' ∧ cs.head? ≠ some '*') ∧
        operatorAt c cs = none) := by
  unfold step at failed
  split at failed
  · cases failed
  rename_i blank
  split at failed
  · cases failed
  rename_i line
  split at failed
  · rename_i opening
    split at failed
    · cases failed
    · rename_i missing
      obtain ⟨rfl, opens⟩ := opening
      obtain ⟨t, rfl⟩ : ∃ t, cs = '*' :: t := by
        cases cs with
        | nil => simp at opens
        | cons d t =>
          simp only [List.head?_cons, Option.some.injEq] at opens; exact ⟨t, by rw [opens]⟩
      simp only [Except.error.injEq] at failed
      exact .inl ⟨failed.symm, t, rfl, (blockTail_eq_none_iff t).mp missing⟩
  rename_i block
  split at failed
  · rename_i quote
    have open_ : ∀ body rest, stringBody c cs ≠ (body, c :: rest) := by
      intro body rest closes
      rw [closes] at failed
      simp at failed
    split at failed
    · split at failed
      · cases failed
      · simp only [Except.error.injEq] at failed
        exact .inr (.inl ⟨⟨_, failed.symm⟩, quote, open_⟩)
    · simp only [Except.error.injEq] at failed
      exact .inr (.inl ⟨⟨_, failed.symm⟩, quote, open_⟩)
  rename_i other
  split at failed
  · cases failed
  rename_i digit
  split at failed
  · cases failed
  rename_i start
  split at failed
  · cases failed
  · rename_i missing
    simp only [Except.error.injEq] at failed
    refine .inr (.inr ⟨failed.symm,
      ⟨by simpa using blank, by simpa using digit, by simpa using start,
        fun same => other (.inl same), fun same => other (.inr same)⟩,
      fun slash => ⟨?_, ?_⟩, missing⟩)
    · exact fun head => line ⟨slash, head⟩
    · exact fun head => block ⟨slash, head⟩

/-- What a step takes is a longest piece at the head that belongs to a class. -/
theorem step_longest {c : Char} {cs taken rest : List Char} {lx : Lexeme}
    (stepped : step c cs = .ok (lx, taken, rest)) : IsLongest (c :: cs) taken := by
  obtain ⟨⟨tail, rfl, split⟩, -⟩ := step_ok stepped
  refine ⟨⟨rest, by simp [split]⟩, fun v pre cls holds => ?_⟩
  rcases step_covers holds pre with ⟨lx', taken', rest', stepped', longer⟩ | opened
  · rw [stepped] at stepped'
    simp only [Except.ok.injEq, Prod.mk.injEq] at stepped'
    rw [stepped'.2.1]
    exact longer
  · rw [stepped] at opened
    cases opened

theorem step_openComment_iff (c : Char) (cs : List Char) :
    step c cs = .error .openComment ↔ UnclosedComment (c :: cs) := by
  constructor
  · intro failed
    rcases step_error failed with ⟨-, unclosed⟩ | ⟨⟨b, same⟩, -⟩ | ⟨same, -⟩
    · exact unclosed
    · cases same
    · cases same
  · rintro ⟨t, same, open_⟩
    simp only [List.cons.injEq] at same
    obtain ⟨rfl, rfl⟩ := same
    exact step_block_open ((blockTail_eq_none_iff t).mpr open_)

theorem step_openString_iff (c : Char) (cs : List Char) :
    (∃ b, step c cs = .error (.openString b)) ↔ UnclosedString (c :: cs) := by
  constructor
  · rintro ⟨b, failed⟩
    rcases step_error failed with ⟨same, -⟩ | ⟨-, quote, open_⟩ | ⟨same, -⟩
    · cases same
    · -- a closed string at the head would have been read up to its closing quote
      refine ⟨⟨c, cs, rfl, quote⟩, fun v pre holds => ?_⟩
      obtain ⟨q, body, -, units, rfl⟩ := holds
      obtain ⟨rfl, rest, rfl⟩ := List.cons_prefix_cons.mp pre
      have quote' : q ≠ '\\' := by rcases quote with rfl | rfl <;> decide
      exact open_ body rest (by simpa using stringBody_complete quote' units rest)
    · cases same
  · rintro ⟨⟨q, t, same, quote⟩, never⟩
    simp only [List.cons.injEq] at same
    obtain ⟨rfl, rfl⟩ := same
    refine step_quote_open quote fun body rest closes => never (c :: body ++ [c]) ?_ ?_
    · have whole := stringBody_append c cs
      rw [closes] at whole
      exact ⟨rest, by simp [← whole]⟩
    · have units := stringBody_body c cs
      rw [closes] at units
      exact ⟨c, body, quote, units, rfl⟩

theorem step_unexpected_iff (c : Char) (cs : List Char) (x : Char) :
    step c cs = .error (.unexpected x) ↔ x = c ∧ Unmatched (c :: cs) := by
  constructor
  · intro failed
    rcases step_error failed with ⟨same, -⟩ | ⟨⟨b, same⟩, -⟩ | ⟨same, op, -, -⟩
    · cases same
    · cases same
    · simp only [ScanFault.unexpected.injEq] at same
      subst same
      refine ⟨rfl, fun q head => ?_, fun v pre cls holds => ?_⟩
      · simp only [List.head?_cons, Option.some.injEq] at head
        subst head
        exact ⟨op.2.2.2.1, op.2.2.2.2⟩
      · -- a piece of some class at the head would have made the step succeed
        rcases step_covers holds pre with ⟨lx, taken, rest, stepped, -⟩ | opened
        · rw [stepped] at failed
          cases failed
        · rw [opened] at failed
          cases failed
  · rintro ⟨rfl, quotes, never⟩
    cases result : step x cs with
    | ok r =>
      obtain ⟨lx, taken, rest⟩ := r
      obtain ⟨cls, holds, -⟩ := step_class result
      exact absurd holds (never taken (step_longest result).1 cls)
    | error f =>
      rcases step_error result with ⟨rfl, t, same, -⟩ | ⟨-, quote, -⟩ | ⟨rfl, -⟩
      · -- a block comment never closed starts with the symbol `/`
        simp only [List.cons.injEq] at same
        obtain ⟨rfl, rfl⟩ := same
        exact absurd ⟨"/", rfl, rfl⟩ (never ['/'] (by simp) (.symbol .div))
      · obtain ⟨quote', tick⟩ := quotes x rfl
        rcases quote with same | same
        · exact absurd same quote'
        · exact absurd same tick
      · rfl

/-- Scanning is longest-match lexing: a step takes the longest piece at the head that belongs to
any lexical class, whose class is unique, and fails exactly where no such piece is whole. -/
theorem step_longest_match (c : Char) (cs : List Char) :
    (∀ lx taken rest, step c cs = .ok (lx, taken, rest) →
      taken ++ rest = c :: cs ∧ IsLongest (c :: cs) taken ∧
        ∃ cls : LexClass, cls.Holds taken ∧
          (∀ cls' : LexClass, cls'.Holds taken → cls' = cls) ∧
          lx = cls.lexeme taken) ∧
    (step c cs = .error .openComment ↔ UnclosedComment (c :: cs)) ∧
    ((∃ b, step c cs = .error (.openString b)) ↔ UnclosedString (c :: cs)) ∧
    (∀ x, step c cs = .error (.unexpected x) ↔ x = c ∧ Unmatched (c :: cs)) := by
  refine ⟨fun lx taken rest stepped => ?_, step_openComment_iff c cs, step_openString_iff c cs,
    step_unexpected_iff c cs⟩
  obtain ⟨⟨tail, rfl, split⟩, -⟩ := step_ok stepped
  obtain ⟨cls, holds, made⟩ := step_class stepped
  exact ⟨by simp [split], step_longest stepped, cls, holds,
    fun cls' holds' => LexClass.holds_unique holds holds', made⟩

/-- Two characters before one: `+++` scans as `++` first. -/
example : step '+' ['+', '+'] = .ok (.token .inc "++", ['+', '+'], ['+']) := by decide

/-- The closing mark of a block comment starts after its opening: `/*/` is never closed. -/
example : step '/' ['*', '/'] = .error .openComment := by decide

end Quill.Scan
