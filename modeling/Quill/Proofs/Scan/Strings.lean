import Quill.Proofs.Scan.Layout
import Quill.Proofs.Scan.Words

set_option autoImplicit false

/- String literals: a string the formatter writes scans back as one token with its text, and a
raw line feed stands inside a string token only when a backslash escapes it. -/
namespace Quill.Scan

/-- The offsets at which scanning starts a lexeme: the start of the text, and the end of each
lexeme that a step reads from such an offset. -/
inductive LexemeStart (s : List Char) : Nat → Prop
  | zero : LexemeStart s 0
  | next {p : Nat} {c : Char} {cs taken rest : List Char} {lx : Lexeme} :
      LexemeStart s p → s.drop p = c :: cs → step c cs = .ok (lx, taken, rest) →
      LexemeStart s (p + taken.length)

theorem take_add_of_drop {s u v : List Char} {p : Nat} (split : s.drop p = u ++ v) :
    s.take (p + u.length) = s.take p ++ u ∧ s.drop (p + u.length) = v := by
  constructor
  · rw [List.take_add, split, List.take_left]
  · rw [← List.drop_drop, split, List.drop_left]

theorem length_take_of_drop {s cs : List Char} {p : Nat} {c : Char} (split : s.drop p = c :: cs) :
    (s.take p).length = p := by
  rcases Nat.lt_or_ge p s.length with inside | beyond
  · simp only [List.length_take]
    omega
  · rw [List.drop_eq_nil_of_le beyond] at split
    cases split

/-- Scanning a text reaches each lexeme start with the place the text before it leads to; what
it returns is what scanning from there returns, after the tokens found before. -/
theorem LexemeStart.run {s : List Char} {p : Nat} (start : LexemeStart s p) :
    ∃ acc, Scan.run .start [] s = Scan.run (Place.after (s.take p)) acc (s.drop p) := by
  induction start with
  | zero => exact ⟨[], by simp [Place.after_nil]⟩
  | @next p c cs taken rest lx _ split stepped ih =>
    obtain ⟨acc, ran⟩ := ih
    obtain ⟨⟨tail, rfl, rest_eq⟩, -⟩ := step_ok stepped
    have whole : s.drop p = (c :: tail) ++ rest := by rw [split, ← rest_eq, List.cons_append]
    obtain ⟨before, after⟩ := take_add_of_drop whole
    rw [before, after, ran, split, run_step stepped, Place.advance_after]
    exact ⟨_, rfl⟩

theorem run_step_error {p : Place} {acc : List Token} {c : Char} {cs : List Char} {f : ScanFault}
    (failed : step c cs = .error f) : Scan.run p acc (c :: cs) = .error ⟨f, p.pos⟩ := by
  rw [Scan.run]
  simp only [failed]

/-- A step that fails at a lexeme start makes the whole scan fail, at the line and column of
that offset. -/
theorem LexemeStart.error {s cs : List Char} {p : Nat} {c : Char} {f : ScanFault}
    (start : LexemeStart s p) (split : s.drop p = c :: cs) (failed : step c cs = .error f) :
    scan (String.ofList s) = .error ⟨f, posAt s p⟩ := by
  obtain ⟨acc, ran⟩ := start.run
  have placed : (Place.after (s.take p)).pos = posAt s p := by
    have at_ := Place.after_pos (s.take p) (s.drop p)
    rwa [List.take_append_drop, length_take_of_drop split] at at_
  rw [scan, String.toList_ofList, ran, split, run_step_error failed, placed]

theorem stringBody_stops {q x : Char} {body : List Char} (quote : q ≠ '\\')
    (stop : x = q ∨ x = '\n') (units : StringBody q body) (rest : List Char) :
    stringBody q (body ++ x :: rest) = (body, x :: rest) := by
  induction units with
  | nil =>
    rw [List.nil_append, stringBody.eq_def]
    simp [stop]
  | plain other plain line _ ih =>
    rw [List.cons_append, stringBody.eq_def]
    simp [other, plain, line, ih]
  | escape c _ ih =>
    rw [List.cons_append, List.cons_append, stringBody.eq_def]
    simp [Ne.symm quote, ih]

/-- A raw line feed inside a string body, or right before its closing quote, is the character
of an escape: what stands before it is whole units and a backslash. -/
theorem StringBody.feed {q : Char} {body : List Char} (units : StringBody q body)
    (quote : q ≠ '\n') :
    ∀ {u v : List Char}, body ++ [q] = u ++ '\n' :: v → ∃ w, u = w ++ ['\\'] ∧
      StringBody q w := by
  induction units with
  | nil =>
    intro u v split
    cases u with
    | nil => exact absurd (List.cons.inj split).1 quote
    | cons a u => simp at split
  | @plain c rest other plain line _ ih =>
    intro u v split
    cases u with
    | nil => exact absurd (List.cons.inj split).1 line
    | cons a u =>
      simp only [List.cons_append, List.cons.injEq] at split
      obtain ⟨rfl, inner⟩ := split
      obtain ⟨w, rfl, units⟩ := ih inner
      exact ⟨c :: w, rfl, .plain other plain line units⟩
  | @escape c rest _ ih =>
    intro u v split
    match u, split with
    | [], split => simp at split
    | [_], split =>
      simp only [List.cons_append, List.cons.injEq, List.nil_append] at split
      obtain ⟨rfl, rfl, -⟩ := split
      exact ⟨[], rfl, .nil⟩
    | a :: b :: u, split =>
      simp only [List.cons_append, List.cons.injEq] at split
      obtain ⟨rfl, rfl, inner⟩ := split
      obtain ⟨w, rfl, units⟩ := ih inner
      exact ⟨'\\' :: c :: w, rfl, .escape c units⟩

theorem escaped_no_feed (s : List Char) : (escaped s).count '\n' = 0 := by
  induction s with
  | nil => rfl
  | cons c cs ih =>
    simp only [escaped, List.flatMap_cons, List.count_append] at ih ⊢
    rcases stringChar_toList c with ⟨e, spelled, value⟩ | ⟨spelled, -, -, line⟩
    · -- an escape letter stands for one character, so it is never the line feed itself
      have letter : e ≠ '\n' := by
        rintro rfl
        simp [escapeValue] at value
      rw [spelled, ih]
      simp [letter]
    · rw [spelled, ih]
      simp [line]

theorem quoteString_no_feed (v : String) : (quoteString v).toList.count '\n' = 0 := by
  rw [quoteString_toList]
  simp [escaped_no_feed]

end Quill.Scan

namespace Quill

open Scan

/-- Escaping and scanning are inverse: a text written in double quotes scans as one string token
with that text, followed on the same line by the end of input. -/
theorem scan_quoteString (v : String) :
    scan (quoteString v) = .ok [⟨.string, v, ⟨1, 1, 0⟩⟩,
      ⟨.eof, "", ⟨1, (quoteString v).length + 1, (quoteString v).length⟩⟩] := by
  have line : ('"' :: escaped v.toList ++ ['"']).count '\n' = 0 := by
    rw [← quoteString_toList]
    exact quoteString_no_feed v
  have long : ('"' :: escaped v.toList ++ ['"']).length = (quoteString v).length := by
    rw [← quoteString_toList, String.length_toList]
  rw [scan, quoteString_toList, List.cons_append, run_step (step_quoted v []), Scan.run]
  simp only [Place.advance, line, ↓reduceIte, Place.start, Place.pos, long]
  simp

/-- A string literal stops at a raw line feed that no backslash takes, and a raw line feed inside
a string token is always the character of an escape. -/
theorem string_line_feeds (s : String) :
    (∀ p q body rest, LexemeStart s.toList p → (q = '"' ∨ q = '\'') → StringBody q body →
      s.toList.drop p = q :: body ++ '\n' :: rest →
      scan s = .error ⟨.openString true, posAt s.toList p⟩) ∧
    (∀ ts, scan s = .ok ts → ∃ ls : List (Token × List Char), ls.map Prod.fst = ts ∧
      ∀ x ∈ ls, x.1.kind = .string → ∀ u v, x.2 = u ++ '\n' :: v →
        ∃ q w, u = q :: w ++ ['\\'] ∧ StringBody q w) := by
  constructor
  · intro p q body rest start quote units split
    have backslash : q ≠ '\\' := by rcases quote with rfl | rfl <;> decide
    have stops := stringBody_stops backslash (.inr rfl) units rest
    have failed : step q (body ++ '\n' :: rest) = .error (.openString true) := by
      rcases quote with rfl | rfl <;> simp [step, isBlank, stops]
    rw [List.cons_append] at split
    simpa using start.error split failed
  · intro ts scanned
    obtain ⟨ls, shape, laws⟩ := (scan_partition s).1 ts scanned
    refine ⟨ls, shape, fun x mem string u v split => ?_⟩
    obtain ⟨q, body, quote, units, spans, -⟩ := laws.quoted x mem string
    have line : q ≠ '\n' := by rcases quote with rfl | rfl <;> decide
    rw [spans, List.cons_append] at split
    cases u with
    | nil => exact absurd (List.cons.inj split).1 line
    | cons a u =>
      simp only [List.cons_append, List.cons.injEq] at split
      obtain ⟨rfl, inner⟩ := split
      obtain ⟨w, rfl, units⟩ := units.feed line inner
      exact ⟨q, w, rfl, units⟩

/-- A line feed after an opening quote ends the string with the newline error, while a line feed
after a backslash is taken into the string token, with the backslash. -/
theorem string_line_feeds_samples :
    scan "\"a\nb\"" = .error ⟨.openString true, ⟨1, 1, 0⟩⟩ ∧
    scan "'\\\n'" = .ok [⟨.string, "\\\n", ⟨1, 1, 0⟩⟩, ⟨.eof, "", ⟨2, 2, 4⟩⟩] ∧
    ∃ ls : List (Token × List Char),
      ls.map Prod.fst = [⟨.string, "\\\n", ⟨1, 1, 0⟩⟩, ⟨.eof, "", ⟨2, 2, 4⟩⟩] ∧
      ∀ x ∈ ls, x.1.kind = .string → ∀ u v, x.2 = u ++ '\n' :: v →
        ∃ q w, u = q :: w ++ ['\\'] ∧ StringBody q w := by
  have stopped := (string_line_feeds "\"a\nb\"").1 0 '"' ['a'] ['b', '"'] .zero (.inl rfl)
    (.plain (by decide) (by decide) (by decide) .nil) (by decide)
  have scanned : scan "'\\\n'" =
      .ok [⟨.string, "\\\n", ⟨1, 1, 0⟩⟩, ⟨.eof, "", ⟨2, 2, 4⟩⟩] := by cbv
  exact ⟨by simpa [posAt, lastFeed?] using stopped, scanned,
    (string_line_feeds "'\\\n'").2 _ scanned⟩

/-- A backslash before a raw line feed keeps a string literal open: a quote, a backslash, a line
feed and a quote scan as one string token, and the line after it holds only the end of input. -/
theorem scan_escaped_line_feed :
    scan "\"\\\n\"" = .ok
      [⟨.string, "\\\n", ⟨1, 1, 0⟩⟩, ⟨.eof, "", ⟨2, 2, 4⟩⟩] := by
  cbv

end Quill
