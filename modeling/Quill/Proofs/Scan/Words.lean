import Quill.Tree.Format
import Quill.Token.Scan
import Quill.Proofs.Scan.Lexeme

set_option autoImplicit false

/- Scanning text put together from words: when each word is followed by text that cannot extend
it, scanning the words gives back their tokens one for one. -/
namespace Quill

/-- The kind and text of a token, without its position. -/
def Token.shape (t : Token) : TokenKind × String := (t.kind, t.text)

namespace Scan

/-- A piece of written text that scans as one lexeme. -/
inductive Word where
  /-- A token written as its text: a name, a number or an operator. -/
  | token (k : TokenKind) (text : String)
  /-- A string token, written in double quotes. -/
  | quoted (s : String)
  /-- A run of blanks. -/
  | gap (w : List Char)

/-- The characters of a string written in double quotes, without the quotes. -/
def escaped (s : List Char) : List Char := s.flatMap fun c => (stringChar c).toList

namespace Word

/-- How a word is written. -/
def spell : Word → List Char
  | token _ text => text.toList
  | quoted s => (quoteString s).toList
  | gap w => w

/-- The lexeme a word scans as. -/
def lexeme : Word → Lexeme
  | token k text => .token k text
  | quoted s => .token .string s
  | gap _ => .blank

/-- The token a word stands for, if it is not blanks. -/
def shape? : Word → Option (TokenKind × String)
  | token k text => some (k, text)
  | quoted s => some (.string, s)
  | gap _ => none

end Word

/-- The text of a list of words. -/
def spellAll (ws : List Word) : List Char := ws.flatMap Word.spell

/-- The tokens of a list of words. -/
def shapes (ws : List Word) : List (TokenKind × String) := ws.filterMap Word.shape?

@[simp] theorem spellAll_nil : spellAll [] = [] := rfl

@[simp] theorem spellAll_cons (w : Word) (ws : List Word) :
    spellAll (w :: ws) = w.spell ++ spellAll ws := rfl

@[simp] theorem spellAll_append (ws vs : List Word) :
    spellAll (ws ++ vs) = spellAll ws ++ spellAll vs := by
  simp [spellAll]

@[simp] theorem shapes_nil : shapes [] = [] := rfl

@[simp] theorem shapes_append (ws vs : List Word) : shapes (ws ++ vs) = shapes ws ++ shapes vs := by
  simp [shapes]

@[simp] theorem shapes_token (k : TokenKind) (text : String) (ws : List Word) :
    shapes (.token k text :: ws) = (k, text) :: shapes ws := rfl

@[simp] theorem shapes_quoted (s : String) (ws : List Word) :
    shapes (.quoted s :: ws) = (.string, s) :: shapes ws := rfl

@[simp] theorem shapes_gap (w : List Char) (ws : List Word) :
    shapes (.gap w :: ws) = shapes ws := rfl

/-- A name: a name start and name characters. -/
def IsName (cs : List Char) : Prop :=
  ∃ c rest, cs = c :: rest ∧ isNameStart c = true ∧ ∀ x ∈ rest, isNameChar x = true

/-- A number: digits, and possibly a point and more digits. -/
def IsNumber (cs : List Char) : Prop :=
  ∃ ds frac, cs = ds ++ frac ∧ ds ≠ [] ∧ (∀ x ∈ ds, isDigit x = true) ∧
    (frac = [] ∨ ∃ fs, frac = '.' :: fs ∧ fs ≠ [] ∧ ∀ x ∈ fs, isDigit x = true)

/-- Text that does not go on with a name character. -/
def NameEnds (rest : List Char) : Prop := ∀ x, rest.head? = some x → isNameChar x = false

/-- Text that goes on neither with a digit nor with a point and a digit. -/
def NumberEnds (rest : List Char) : Prop :=
  (∀ x, rest.head? = some x → isDigit x = false) ∧ ∀ d more, rest = '.' :: d :: more →
    isDigit d = false

/-- Text that, after the one-character operator `c`, makes no two-character operator and no
comment. -/
def SingleEnds (c : Char) (rest : List Char) : Prop :=
  ∀ d, rest.head? = some d →
    ¬(c = '+' ∧ d = '+') ∧ ¬(c = '-' ∧ d = '-') ∧ ¬(c = '=' ∧ d = '=') ∧
      ¬(c = '!' ∧ d = '=') ∧
    ¬(c = '<' ∧ d = '=') ∧ ¬(c = '>' ∧ d = '=') ∧ ¬(c = '/' ∧ (d = '/' ∨ d = '*'))

/-- Text that does not go on with a blank. -/
def BlankEnds (rest : List Char) : Prop := ∀ x, rest.head? = some x → isBlank x = false

/-- The word is well written and `rest`, the text after it, does not extend it. -/
def Word.Lexes : Word → List Char → Prop
  | .token k text, rest =>
    (k = .ident ∧ IsName text.toList ∧ NameEnds rest) ∨
    (k = .number ∧ IsNumber text.toList ∧ NumberEnds rest) ∨
    (k ∈ TokenKind.pairOperators ∧ k.symbol? = some text) ∨
    (k ∈ TokenKind.singleOperators ∧ k.symbol? = some text ∧
      ∃ c, text.toList = [c] ∧ SingleEnds c rest)
  | .quoted _, _ => True
  | .gap w, rest => w ≠ [] ∧ (∀ x ∈ w, isBlank x = true) ∧ BlankEnds rest

/-- Every word of the list is well written and not extended by what follows it. -/
def Lex : List Word → List Char → Prop
  | [], _ => True
  | w :: ws, rest => w.Lexes (spellAll ws ++ rest) ∧ Lex ws rest

/-- A character is written as itself, or as a backslash and a letter that stands for it. -/
theorem stringChar_toList (c : Char) :
    (∃ e, (stringChar c).toList = ['\\', e] ∧ escapeValue e = [c]) ∨
      ((stringChar c).toList = [c] ∧ c ≠ '\\' ∧ c ≠ '"' ∧ c ≠ '\n') := by
  unfold stringChar
  split
  · exact .inl ⟨'\\', rfl, rfl⟩
  · exact .inl ⟨'"', rfl, rfl⟩
  · exact .inl ⟨'n', rfl, rfl⟩
  · exact .inl ⟨'t', rfl, rfl⟩
  · exact .inl ⟨'r', rfl, rfl⟩
  · exact .inl ⟨'0', rfl, rfl⟩
  · rename_i n1 n2 n3 _ _ _
    exact .inr ⟨by simp, n1, n2, n3⟩

theorem stringBody_close (rest : List Char) : stringBody '"' ('"' :: rest) = ([], '"' :: rest) := by
  rw [stringBody.eq_def]
  simp

theorem stringBody_escape (e : Char) (rest : List Char) :
    stringBody '"' ('\\' :: e :: rest) =
      ('\\' :: e :: (stringBody '"' rest).1, (stringBody '"' rest).2) := by
  rw [stringBody.eq_def]
  simp

theorem stringBody_plain {c : Char} (rest : List Char) (n1 : c ≠ '\\') (n2 : c ≠ '"')
    (n3 : c ≠ '\n') :
    stringBody '"' (c :: rest) = (c :: (stringBody '"' rest).1, (stringBody '"' rest).2) := by
  rw [stringBody.eq_def]
  simp only [n1, n2, n3, or_self, ↓reduceIte]

/-- The body of a written string runs up to its closing quote. -/
theorem stringBody_escaped (s rest : List Char) :
    stringBody '"' (escaped s ++ '"' :: rest) = (escaped s, '"' :: rest) := by
  induction s with
  | nil => exact stringBody_close rest
  | cons c cs ih =>
    simp only [escaped, List.flatMap_cons, List.append_assoc] at ih ⊢
    rcases stringChar_toList c with ⟨e, spelled, -⟩ | ⟨spelled, n1, n2, n3⟩
    · rw [spelled, List.cons_append, List.cons_append, List.nil_append, stringBody_escape, ih]
      rfl
    · rw [spelled, List.cons_append, List.nil_append, stringBody_plain _ n1 n2 n3, ih]
      rfl

theorem unescape_plain {c : Char} (rest : List Char) (n1 : c ≠ '\\') :
    unescape (c :: rest) = c :: unescape rest := by
  cases rest <;> simp [unescape, n1]

/-- Resolving the escapes of a written string gives back its text. -/
theorem unescape_escaped (s : List Char) : unescape (escaped s) = s := by
  induction s with
  | nil => rfl
  | cons c cs ih =>
    simp only [escaped, List.flatMap_cons] at ih ⊢
    rcases stringChar_toList c with ⟨e, spelled, value⟩ | ⟨spelled, n1, -, -⟩
    · rw [spelled, List.cons_append, List.cons_append, List.nil_append, unescape, value, ih]
      rfl
    · rw [spelled, List.cons_append, List.nil_append, unescape_plain _ n1, ih]

theorem quoteString_toList
    (s : String) : (quoteString s).toList = '"' :: escaped s.toList ++ ['"'] := by
  simp [quoteString, escaped, String.toList_join, List.flatMap_map]

theorem isNameStart_classes {c : Char} (start : isNameStart c = true) :
    isBlank c = false ∧ isDigit c = false ∧ c ≠ '/' ∧ c ≠ '"' ∧ c ≠ '\'' := by
  revert start
  simp only [isNameStart, isBlank, isDigit, Char.le_def, UInt32.le_iff_toNat_le]
  simp [← Char.toNat_inj]
  omega

theorem isDigit_classes {c : Char} (digit : isDigit c = true) :
    isBlank c = false ∧ c ≠ '/' ∧ c ≠ '"' ∧ c ≠ '\'' := by
  revert digit
  simp only [isBlank, isDigit, Char.le_def, UInt32.le_iff_toNat_le]
  simp [← Char.toNat_inj]
  omega

/-- Characters that all pass `p`, followed by text that does not start with one, are the
longest run that passes it. -/
theorem span_stop {p : Char → Bool} {cs rest : List Char} (all : ∀ x ∈ cs, p x = true)
    (stop : ∀ x, rest.head? = some x → p x = false) :
    (cs ++ rest).takeWhile p = cs ∧ (cs ++ rest).dropWhile p = rest := by
  induction cs with
  | nil =>
    cases rest with
    | nil => simp
    | cons r more => simp [stop r rfl]
  | cons c cs ih =>
    obtain ⟨took, dropped⟩ := ih (fun x mem => all x (by simp [mem]))
    simp [all c (by simp), took, dropped]

theorem step_name {c : Char} {cs rest : List Char} (start : isNameStart c = true)
    (chars : ∀ x ∈ cs, isNameChar x = true) (ends : NameEnds rest) :
    step c (cs ++ rest) = .ok (.token .ident (String.ofList (c :: cs)), c :: cs, rest) := by
  obtain ⟨blank, digit, slash, quote, tick⟩ := isNameStart_classes start
  obtain ⟨took, dropped⟩ := span_stop chars ends
  simp [step, blank, digit, slash, quote, tick, start, took, dropped]

theorem numberSpan_number {ds frac rest : List Char} (whole : ∀ x ∈ ds, isDigit x = true)
    (fraction : frac = [] ∨ ∃ fs, frac = '.' :: fs ∧ fs ≠ [] ∧ ∀ x ∈ fs,
      isDigit x = true)
    (ends : NumberEnds rest) :
    numberSpan (ds ++ frac ++ rest) = (ds ++ frac, rest) := by
  obtain ⟨no_digit, no_fraction⟩ := ends
  rcases fraction with rfl | ⟨fs, rfl, nonempty, digits⟩
  · obtain ⟨took, dropped⟩ := span_stop whole no_digit
    simp only [List.append_nil, numberSpan, took, dropped]
    split
    · rw [if_neg (by rw [no_fraction _ _ rfl]; simp)]
    · rfl
  · obtain ⟨f, fs, rfl⟩ := List.exists_cons_of_ne_nil nonempty
    have point : ∀ x, ('.' :: (f :: fs ++ rest)).head? = some x → isDigit x = false := by
      rintro x ⟨⟩
      decide
    obtain ⟨took, dropped⟩ := span_stop whole point
    obtain ⟨took', dropped'⟩ := span_stop digits no_digit
    have leading : isDigit f = true := digits f (by simp)
    simp only [List.cons_append] at took dropped took' dropped'
    simp only [numberSpan, List.append_assoc, List.cons_append]
    rw [dropped, took]
    simp only [leading, ↓reduceIte]
    rw [took', dropped']

theorem step_number {c : Char} {cs frac rest : List Char} (digit : isDigit c = true)
    (whole : ∀ x ∈ cs, isDigit x = true)
    (fraction : frac = [] ∨ ∃ fs, frac = '.' :: fs ∧ fs ≠ [] ∧ ∀ x ∈ fs,
      isDigit x = true)
    (ends : NumberEnds rest) :
    step c (cs ++ frac ++ rest) =
      .ok (.token .number (String.ofList (c :: cs ++ frac)), c :: cs ++ frac, rest) := by
  obtain ⟨blank, slash, quote, tick⟩ := isDigit_classes digit
  have span := @numberSpan_number (c :: cs) frac rest (by simpa [digit] using whole) fraction ends
  rw [step, if_neg (by simp [blank]), if_neg (by simp [slash]), if_neg (by simp [slash]),
    if_neg (by simp [quote, tick]), if_pos digit, List.append_assoc, ← List.cons_append,
    ← List.append_assoc, span]

theorem step_quoted (s : String) (rest : List Char) :
    step '"' (escaped s.toList ++ '"' :: rest) =
      .ok (.token .string s, '"' :: escaped s.toList ++ ['"'], rest) := by
  simp [step, isBlank, stringBody_escaped, unescape_escaped]

theorem step_gap {c : Char} {cs rest : List Char} (blank : isBlank c = true)
    (blanks : ∀ x ∈ cs, isBlank x = true) (ends : BlankEnds rest) :
    step c (cs ++ rest) = .ok (.blank, c :: cs, rest) := by
  obtain ⟨took, dropped⟩ := span_stop blanks ends
  simp [step, blank, took, dropped]

/-- A character that starts no blank, number, name or string, so that scanning tries the
operators on it. -/
def OperatorChar (c : Char) : Prop :=
  isBlank c = false ∧ isDigit c = false ∧ isNameStart c = false ∧ c ≠ '"' ∧ c ≠ '\''

theorem beq_ofList (s : String) (l : List Char) :
    (some s == some (String.ofList l)) = (s.toList == l) := by
  by_cases same : s.toList = l
  · subst same
    simp
  · have differ : s ≠ String.ofList l := fun e => same (by rw [e]; simp)
    rw [beq_eq_false_iff_ne.mpr (by simpa using differ), beq_eq_false_iff_ne.mpr same]

theorem pair_beq_false {a b c d : Char}
    (differ : ¬(c = a ∧ d = b)) : (a == c && b == d) = false := by
  cases ha : (a == c) <;> cases hb : (b == d) <;> simp_all

/-- No two-character operator starts with `c` and goes on with `d`. -/
theorem pair_none {c d : Char}
    (ends : ¬(c = '+' ∧ d = '+') ∧ ¬(c = '-' ∧ d = '-') ∧ ¬(c = '=' ∧ d = '=') ∧
      ¬(c = '!' ∧ d = '=') ∧ ¬(c = '<' ∧ d = '=') ∧ ¬(c = '>' ∧ d = '='))
    (amp : c ≠ '&') (bar : c ≠ '|') :
    TokenKind.pairOperators.find? (fun k => k.symbol? == some (String.ofList [c, d])) = none := by
  obtain ⟨plus, minus, eq, ne, le, ge⟩ := ends
  have and : ¬(c = '&' ∧ d = '&') := fun both => amp both.1
  have or : ¬(c = '|' ∧ d = '|') := fun both => bar both.1
  simp only [TokenKind.pairOperators, List.find?_cons, TokenKind.symbol?, List.find?_nil,
    beq_ofList]
  simp only [String.reduceToList, List.cons_beq_cons, List.nil_beq_eq, List.isEmpty_nil,
    Bool.and_true, pair_beq_false plus, pair_beq_false minus, pair_beq_false eq,
    pair_beq_false ne, pair_beq_false le, pair_beq_false ge, pair_beq_false and,
    pair_beq_false or]

/-- A two-character operator is found as itself, whatever follows it. -/
theorem pair_spelled {k : TokenKind} {text : String} (pair : k ∈ TokenKind.pairOperators)
    (symbol : k.symbol? = some text) :
    ∃ a b, text.toList = [a, b] ∧ OperatorChar a ∧ a ≠ '/' ∧
      ∀ rest, operatorAt a (b :: rest) = some (k, 2) := by
  simp only [TokenKind.pairOperators, List.mem_cons, List.not_mem_nil, or_false] at pair
  rcases pair with rfl | rfl | rfl | rfl | rfl | rfl | rfl | rfl <;>
  · simp only [TokenKind.symbol?, Option.some.injEq] at symbol
    subst symbol
    exact ⟨_, _, rfl, by unfold OperatorChar; decide, by decide, fun _ => rfl⟩

/-- A one-character operator is found as itself when what follows makes no two-character one. -/
theorem single_spelled {k : TokenKind} {text : String} (single : k ∈ TokenKind.singleOperators)
    (symbol : k.symbol? = some text) :
    ∃ c, text.toList = [c] ∧ OperatorChar c ∧
      ∀ rest, SingleEnds c rest → operatorAt c rest = some (k, 1) := by
  have found : ∀ {c : Char}, c ≠ '&' → c ≠ '|' →
      TokenKind.singleOperators.find? (fun k => k.symbol? == some c.toString) = some k →
      ∀ rest, SingleEnds c rest → operatorAt c rest = some (k, 1) := by
    intro c amp bar single rest ends
    cases rest with
    | nil =>
      unfold operatorAt
      simp only [single]
      rfl
    | cons d more =>
      obtain ⟨plus, minus, eq, ne, le, ge, -⟩ := ends d rfl
      unfold operatorAt
      simp only [pair_none ⟨plus, minus, eq, ne, le, ge⟩ amp bar, single]
      rfl
  simp only [TokenKind.singleOperators, List.mem_cons, List.not_mem_nil, or_false] at single
  rcases single with rfl | rfl | rfl | rfl | rfl | rfl | rfl | rfl | rfl | rfl | rfl | rfl |
    rfl | rfl | rfl | rfl | rfl | rfl | rfl <;>
  · simp only [TokenKind.symbol?, Option.some.injEq] at symbol
    subst symbol
    exact ⟨_, rfl, by unfold OperatorChar; decide, found (by decide) (by decide) rfl⟩

theorem step_operator {c : Char} {cs : List Char} {k : TokenKind} {n : Nat}
    (classes : OperatorChar c)
      (comment : c = '/' → cs.head? ≠ some '/' ∧ cs.head? ≠ some '*')
    (found : operatorAt c cs = some (k, n)) :
    step c cs =
      .ok (.token k (String.ofList ((c :: cs).take n)), (c :: cs).take n, (c :: cs).drop n) := by
  obtain ⟨blank, digit, name, quote, tick⟩ := classes
  have line : ¬(c = '/' ∧ cs.head? = some '/') := fun both => (comment both.1).1 both.2
  have block : ¬(c = '/' ∧ cs.head? = some '*') := fun both => (comment both.1).2 both.2
  rw [step, if_neg (by simp [blank]), if_neg line, if_neg block, if_neg (by simp [quote, tick]),
    if_neg (by simp [digit]), if_neg (by simp [name]), found]

theorem run_step {p : Place} {acc : List Token} {c : Char} {cs taken rest : List Char}
    {lx : Lexeme} (stepped : step c cs = .ok (lx, taken, rest)) :
    run p acc (c :: cs) = run (p.advance taken) (match lx with
      | .blank => acc
      | .token k text => ⟨k, text, p.pos⟩ :: acc) rest := by
  rw [run]
  simp only [stepped, step_shorter stepped, dite_true]
  cases lx <;> rfl

theorem comment_of_singleEnds {c : Char} {rest : List Char} (ends : SingleEnds c rest)
    (slash : c = '/') :
    rest.head? ≠ some '/' ∧ rest.head? ≠ some '*' := by
  constructor <;> intro next
  · exact (ends _ next).2.2.2.2.2.2 ⟨slash, .inl rfl⟩
  · exact (ends _ next).2.2.2.2.2.2 ⟨slash, .inr rfl⟩

/-- A word followed by text that does not extend it is scanned in one step, as its lexeme. -/
theorem step_word {w : Word} {rest : List Char} (lexes : w.Lexes rest) :
    ∃ c cs, w.spell = c :: cs ∧ step c (cs ++ rest) = .ok (w.lexeme, c :: cs, rest) := by
  cases w with
  | token k text =>
    rcases lexes with ⟨rfl, ⟨c, cs, spelled, start, chars⟩, ends⟩ |
      ⟨rfl, ⟨ds, frac, spelled, nonempty, whole, fraction⟩, ends⟩ | ⟨pair, symbol⟩ |
      ⟨single, symbol, c, spelled, ends⟩
    · refine ⟨c, cs, spelled, ?_⟩
      rw [step_name start chars ends, ← spelled, String.ofList_toList]
      rfl
    · obtain ⟨c, ds, rfl⟩ := List.exists_cons_of_ne_nil nonempty
      refine ⟨c, ds ++ frac, by simp [Word.spell, spelled], ?_⟩
      have digits : ∀ x ∈ ds, isDigit x = true := fun x mem => whole x (by simp [mem])
      rw [step_number (whole c (by simp)) digits fraction ends, ← List.cons_append, ← spelled,
        String.ofList_toList]
      rfl
    · obtain ⟨a, b, spelled, classes, slash, found⟩ := pair_spelled pair symbol
      refine ⟨a, [b], by simp [Word.spell, spelled], ?_⟩
      rw [List.singleton_append, step_operator classes (fun h => absurd h slash) (found rest)]
      simp [Word.lexeme, ← spelled]
    · obtain ⟨c', spelled', classes, found⟩ := single_spelled single symbol
      obtain rfl : c = c' := by simpa [spelled] using spelled'
      refine ⟨c, [], by simp [Word.spell, spelled], ?_⟩
      rw [List.nil_append, step_operator classes (comment_of_singleEnds ends) (found rest ends)]
      simp [Word.lexeme, ← spelled]
  | quoted s =>
    refine ⟨'"', escaped s.toList ++ ['"'], quoteString_toList s, ?_⟩
    rw [List.append_assoc, List.singleton_append, step_quoted]
    rfl
  | gap w =>
    obtain ⟨nonempty, blanks, ends⟩ := lexes
    obtain ⟨c, cs, rfl⟩ := List.exists_cons_of_ne_nil nonempty
    exact ⟨c, cs, rfl,
      step_gap (blanks c (by simp)) (fun x mem => blanks x (by simp [mem])) ends⟩

/-- Scanning words that do not extend one another reads their tokens one for one, and then
goes on with the text after them. -/
theorem run_words {ws : List Word} {rest : List Char} (lexed : Lex ws rest) (p : Place)
    (acc : List Token) :
    ∃ (p' : Place) (toks : List Token), toks.map Token.shape = shapes ws ∧
      run p acc (spellAll ws ++ rest) = run p' (toks.reverse ++ acc) rest := by
  induction ws generalizing p acc with
  | nil => exact ⟨p, [], rfl, rfl⟩
  | cons w ws ih =>
    obtain ⟨lexes, lexed⟩ := lexed
    obtain ⟨c, cs, spelled, stepped⟩ := step_word lexes
    rw [spellAll_cons, spelled, List.cons_append, List.cons_append, List.append_assoc,
      run_step stepped]
    cases w with
    | token k text =>
      obtain ⟨p', toks, shaped, ran⟩ :=
        ih lexed (p.advance (c :: cs)) (⟨k, text, p.pos⟩ :: acc)
      refine ⟨p', ⟨k, text, p.pos⟩ :: toks, by simp [shaped, Token.shape], ?_⟩
      simp only [List.reverse_cons, List.append_assoc, List.singleton_append]
      exact ran
    | quoted s =>
      obtain ⟨p', toks, shaped, ran⟩ :=
        ih lexed (p.advance (c :: cs)) (⟨.string, s, p.pos⟩ :: acc)
      refine ⟨p', ⟨.string, s, p.pos⟩ :: toks, by simp [shaped, Token.shape], ?_⟩
      simp only [List.reverse_cons, List.append_assoc, List.singleton_append]
      exact ran
    | gap w =>
      obtain ⟨p', toks, shaped, ran⟩ := ih lexed (p.advance (c :: cs)) acc
      exact ⟨p', toks, by simpa using shaped, ran⟩

/-- Words that lex are no comments. -/
theorem Lex.plain {ws : List Word} {rest : List Char} (lexed : Lex ws rest) :
    ∀ k ∈ shapes ws, k.1 ≠ .comment := by
  induction ws with
  | nil =>
    intro k mem
    simp at mem
  | cons w ws ih =>
    obtain ⟨lexes, lexed⟩ := lexed
    cases w with
    | token kind text =>
      intro k mem
      simp only [shapes_token, List.mem_cons] at mem
      rcases mem with rfl | mem
      · rcases lexes with ⟨rfl, -⟩ | ⟨rfl, -⟩ | ⟨pair, -⟩ | ⟨single, -⟩
        · simp
        · simp
        · intro same
          simp only at same
          subst same
          simp [TokenKind.pairOperators] at pair
        · intro same
          simp only at same
          subst same
          simp [TokenKind.singleOperators] at single
      · exact ih lexed k mem
    | quoted s =>
      intro k mem
      simp only [shapes_quoted, List.mem_cons] at mem
      rcases mem with rfl | mem
      · simp
      · exact ih lexed k mem
    | gap w => simpa using ih lexed

/-- Text made of words that do not extend one another scans as their tokens, none of them a
comment, and the end of input. -/
theorem scan_words {ws : List Word} (lexed : Lex ws []) :
    ∃ (toks : List Token) (pos : Position), toks.map Token.shape = shapes ws ∧
      (∀ t ∈ toks, t.kind ≠ .comment) ∧
      scan (String.ofList (spellAll ws)) = .ok (toks ++ [⟨.eof, "", pos⟩]) := by
  obtain ⟨p, toks, shaped, ran⟩ := run_words lexed .start []
  refine ⟨toks, p.pos, shaped, fun t mem => ?_, ?_⟩
  · have shown : t.shape ∈ shapes ws := by
      rw [← shaped]
      exact List.mem_map_of_mem mem
    exact lexed.plain _ shown
  rw [scan, String.toList_ofList, ← List.append_nil (spellAll ws), ran, List.append_nil, run]
  simp

theorem lex_append {ws vs : List Word} {rest : List Char} :
    Lex (ws ++ vs) rest ↔ Lex ws (spellAll vs ++ rest) ∧ Lex vs rest := by
  induction ws with
  | nil => simp [Lex]
  | cons w ws ih => simp [Lex, ih, and_assoc]

end Scan

end Quill
