import Quill.Proofs.Scan.Lexeme

set_option autoImplicit false

/- How a scanned text lays out: its lexemes cover it, the tokens stand at increasing offsets, and
the line and column of every token and scan error are those the text before its offset gives. -/
namespace Quill.Scan

theorem findIdx?_takeWhile {α : Type} (p : α → Bool) (r : List α) :
    (r.findIdx? p = some (r.takeWhile (fun x => !p x)).length ∧
        (r.takeWhile (fun x => !p x)).length < r.length) ∨
      (r.findIdx? p = none ∧ (r.takeWhile (fun x => !p x)).length = r.length) := by
  induction r with
  | nil => simp
  | cons x xs ih =>
    by_cases hx : p x
    · simp [List.findIdx?_cons, hx]
    · rcases ih with ⟨found, shorter⟩ | ⟨none_found, all⟩ <;> simp_all [List.findIdx?_cons]

/-- The length of the last line of `u`: the characters after its last line feed. -/
def lastLineLength (u : List Char) : Nat := (u.reverse.takeWhile (· != '\n')).length

theorem lastLineLength_le (u : List Char) : lastLineLength u ≤ u.length := by
  have sub : (u.reverse.takeWhile (· != '\n')).Sublist u.reverse := List.takeWhile_sublist _
  simpa [lastLineLength] using sub.length_le

theorem lastLineLength_append_of_no_feed (u w : List Char) (none : w.count '\n' = 0) :
    lastLineLength (u ++ w) = w.length + lastLineLength u := by
  have plain : ∀ x ∈ w.reverse, (x != '\n') = true := by
    intro x mem
    have absent := List.count_eq_zero.mp none
    simp only [List.mem_reverse] at mem
    simp only [bne_iff_ne, ne_eq]
    rintro rfl
    exact absent mem
  simp [lastLineLength, List.takeWhile_append_of_pos plain]

theorem lastLineLength_append_of_feed (u w : List Char) (feeds : w.count '\n' ≠ 0) :
    lastLineLength (u ++ w) = lastLineLength w := by
  have feed : '\n' ∈ w.reverse := by simpa using List.count_pos_iff.mp (Nat.pos_of_ne_zero feeds)
  -- the last line ends inside `w`, so the reversed text stops being taken within `w`
  have stops : (w.reverse.takeWhile (· != '\n')).length ≠ w.reverse.length := by
    intro all
    have whole : w.reverse.takeWhile (· != '\n') = w.reverse :=
      (List.takeWhile_prefix (· != '\n')).eq_of_length all
    have taken : (w.reverse.takeWhile (· != '\n')).all (· != '\n') = true := List.all_takeWhile
    rw [whole] at taken
    have := List.all_eq_true.mp taken _ feed
    simp at this
  simp only [lastLineLength, List.reverse_append, List.takeWhile_append, if_neg stops]

/-- The index of the last line feed of `u`, if it has one. -/
def lastFeed? (u : List Char) : Option Nat :=
  (u.reverse.findIdx? (· == '\n')).map (u.length - 1 - ·)

/-- The position of offset `o` in the text `cs`: its line is one more than the number of line
feeds before it, and its column counts from the last of them, or from the start of the text
when there is none. -/
def posAt (cs : List Char) (o : Nat) : Position :=
  ⟨1 + ((cs.take o).count '\n' : Int),
    match lastFeed? (cs.take o) with
    | some i => (o : Int) - i
    | none => (o : Int) + 1,
    o⟩

theorem column_of_lastFeed (u : List Char) :
    (match lastFeed? u with
      | some i => (u.length : Int) - i
      | none => (u.length : Int) + 1) = (lastLineLength u : Int) + 1 := by
  have same : (fun x => !(x == '\n')) = (· != '\n') := rfl
  unfold lastFeed? lastLineLength
  rcases findIdx?_takeWhile (· == '\n') u.reverse with ⟨found, shorter⟩ | ⟨none_found, all⟩
  · rw [found]
    simp only [Option.map_some, List.length_reverse, same] at shorter ⊢
    generalize (u.reverse.takeWhile (· != '\n')).length = b at shorter ⊢
    show (u.length : Int) - ((u.length - 1 - b : Nat) : Int) = (b : Int) + 1
    omega
  · rw [none_found]
    simp only [Option.map_none, List.length_reverse, same] at all ⊢
    generalize (u.reverse.takeWhile (· != '\n')).length = b at all ⊢
    show (u.length : Int) + 1 = (b : Int) + 1
    omega

/-- The place reached after scanning the text `u`. -/
def Place.after (u : List Char) : Place :=
  ⟨1 + u.count '\n', u.length - lastLineLength u, u.length⟩

theorem Place.after_nil : Place.after [] = Place.start := rfl

theorem Place.advance_after (u w : List Char) :
    (Place.after u).advance w = Place.after (u ++ w) := by
  have bound := lastLineLength_le u
  unfold Place.advance Place.after
  by_cases none : w.count '\n' = 0
  · simp only [none, if_pos, List.count_append, List.length_append,
      lastLineLength_append_of_no_feed u w none, Place.mk.injEq]
    exact ⟨by omega, by omega, trivial⟩
  · simp only [none, if_neg, not_false_eq_true, List.count_append, List.length_append,
      lastLineLength_append_of_feed u w none, Place.mk.injEq]
    exact ⟨by omega, rfl, trivial⟩

theorem Place.after_pos (u v : List Char) : (Place.after u).pos = posAt (u ++ v) u.length := by
  have bound := lastLineLength_le u
  have column := column_of_lastFeed u
  simp only [Place.pos, Place.after, posAt, List.take_left, Position.mk.injEq]
  refine ⟨by push_cast; rfl, ?_, trivial⟩
  rw [column]
  omega

theorem Place.after_offset (u : List Char) : (Place.after u).pos.offset = u.length := rfl

/-- How the text from place `p` on lays out: runs of blanks between the tokens, each token
paired with its source span and placed where that span starts, and the end-of-input token, with
an empty span, where the text ends. -/
inductive Layout : Place → List Char → List (Token × List Char) → Prop
  | last (p : Place) : Layout p [] [(⟨.eof, "", p.pos⟩, [])]
  | blank {p : Place} {w rest : List Char} {ls : List (Token × List Char)} :
      w ≠ [] → (∀ x ∈ w, isBlank x) → Layout (p.advance w) rest ls →
        Layout p (w ++ rest) ls
  | token {p : Place} {w rest : List Char} {ls : List (Token × List Char)} {k : TokenKind}
      {text : String} :
      w ≠ [] → k ≠ .eof → Spells k text w → Layout (p.advance w) rest ls →
      Layout p (w ++ rest) ((⟨k, text, p.pos⟩, w) :: ls)

/-- A successful scan from a place lays the rest of the text out; the tokens it returns are
those found before, then those of the layout. -/
theorem run_layout {p : Place} {acc : List Token} {cs : List Char} {ts : List Token}
    (scanned : run p acc cs = .ok ts) :
    ∃ ls, ts = acc.reverse ++ ls.map Prod.fst ∧ Layout p cs ls := by
  fun_induction run p acc cs with
  | case1 p acc =>
    simp only [Except.ok.injEq] at scanned
    exact ⟨_, by simp [← scanned], .last p⟩
  | case2 => cases scanned
  | case3 p acc c cs lexeme taken rest stepped shorter acc' ih =>
    obtain ⟨ls, rfl, laid⟩ := ih scanned
    obtain ⟨⟨tail, rfl, split⟩, covers⟩ := step_ok stepped
    rw [← split, ← List.cons_append]
    cases lexeme with
    | blank => exact ⟨ls, rfl, .blank (by simp) covers laid⟩
    | token k text =>
      exact ⟨(⟨k, text, p.pos⟩, c :: tail) :: ls, by simp [acc'],
        .token (by simp) covers.1 covers.2 laid⟩
  | case4 p acc c cs lexeme taken rest stepped longer =>
    exact absurd (step_shorter stepped) longer

/-- A failed scan from a place stops at a lexeme whose step fails, at the place the text before
it leads to. -/
theorem run_error {pre cs : List Char} {acc : List Token} {e : ScanError}
    (failed : run (Place.after pre) acc cs = .error e) :
    ∃ u c rest, cs = u ++ c :: rest ∧ step c rest = .error e.fault ∧
      e.pos = (Place.after (pre ++ u)).pos := by
  generalize start : Place.after pre = p at failed
  fun_induction run p acc cs generalizing pre with
  | case1 => cases failed
  | case2 p acc c cs f stepped =>
    simp only [Except.error.injEq] at failed
    subst failed
    exact ⟨[], c, cs, rfl, stepped, by simp [start]⟩
  | case3 p acc c cs lexeme taken rest stepped shorter acc' =>
    rename_i ih
    obtain ⟨⟨tail, rfl, split⟩, -⟩ := step_ok stepped
    have next : Place.after (pre ++ c :: tail) = p.advance (c :: tail) := by
      rw [← start, Place.advance_after]
    obtain ⟨u, d, more, rfl, bad, at_⟩ := ih next failed
    refine ⟨c :: tail ++ u, d, more, by simp [← split], bad, ?_⟩
    simpa using at_
  | case4 => cases failed

section Laws

variable {pre cs : List Char} {ls : List (Token × List Char)}

theorem next_place {p : Place} {w : List Char} (start : Place.after pre = p) :
    Place.after (pre ++ w) = p.advance w := by
  rw [← start, Place.advance_after]

/-- Only the last token is the end of input, and it stands where the text ends. -/
theorem Layout.ends (laid : Layout (Place.after pre) cs ls) :
    ∃ front, ls = front ++ [(⟨.eof, "", (Place.after (pre ++ cs)).pos⟩, [])] ∧
      ∀ x ∈ front, x.1.kind ≠ .eof := by
  generalize start : Place.after pre = p at laid
  induction laid generalizing pre with
  | last p => exact ⟨[], by simp [← start], by simp⟩
  | @blank p w rest ls _ _ _ ih =>
    obtain ⟨front, rfl, plain⟩ := ih (next_place start)
    exact ⟨front, by simp, plain⟩
  | @token p w rest ls k text _ not_eof _ _ ih =>
    obtain ⟨front, rfl, plain⟩ := ih (next_place start)
    refine ⟨(⟨k, text, p.pos⟩, w) :: front, by simp, ?_⟩
    intro x mem
    simp only [List.mem_cons] at mem
    rcases mem with rfl | mem
    · exact not_eof
    · exact plain x mem

/-- Every token stands where its span starts, at the place the text before leads to. -/
theorem Layout.placed (laid : Layout (Place.after pre) cs ls) :
    ∀ x ∈ ls, ∃ u v, cs = u ++ x.2 ++ v ∧ x.1.pos = (Place.after (pre ++ u)).pos := by
  generalize start : Place.after pre = p at laid
  induction laid generalizing pre with
  | last p =>
    intro x mem
    simp only [List.mem_singleton] at mem
    subst mem
    exact ⟨[], [], rfl, by simp [← start]⟩
  | @blank p w rest ls _ _ _ ih =>
    intro x mem
    obtain ⟨u, v, rfl, at_⟩ := ih (next_place start) x mem
    exact ⟨w ++ u, v, by simp, by simpa using at_⟩
  | @token p w rest ls k text _ _ _ _ ih =>
    intro x mem
    simp only [List.mem_cons] at mem
    rcases mem with rfl | mem
    · exact ⟨[], rest, by simp, by simp [← start]⟩
    · obtain ⟨u, v, rfl, at_⟩ := ih (next_place start) x mem
      exact ⟨w ++ u, v, by simp, by simpa using at_⟩

theorem Layout.offset_ge (laid : Layout (Place.after pre) cs ls) :
    ∀ x ∈ ls, (pre.length : Int) ≤ x.1.pos.offset := by
  intro x mem
  obtain ⟨u, v, -, at_⟩ := laid.placed x mem
  rw [at_, Place.after_offset]
  simp only [List.length_append]
  omega

/-- Every token but the end of input spells its nonempty span. -/
theorem Layout.spelled {p : Place} (laid : Layout p cs ls) :
    ∀ x ∈ ls, x.1.kind ≠ .eof → x.2 ≠ [] ∧ Spells x.1.kind x.1.text x.2 := by
  induction laid with
  | last p =>
    intro x mem not_eof
    simp only [List.mem_singleton] at mem
    subst mem
    exact absurd rfl not_eof
  | blank _ _ _ ih => exact ih
  | token nonempty _ spells _ ih =>
    intro x mem not_eof
    simp only [List.mem_cons] at mem
    rcases mem with rfl | mem
    · exact ⟨nonempty, spells⟩
    · exact ih x mem not_eof

/-- Offsets strictly increase along the tokens. -/
theorem Layout.ordered (laid : Layout (Place.after pre) cs ls) :
    ls.Pairwise (fun a b => a.1.pos.offset < b.1.pos.offset) := by
  generalize start : Place.after pre = p at laid
  induction laid generalizing pre with
  | last p => simp
  | @blank p w rest ls _ _ _ ih => exact ih (next_place start)
  | @token p w rest ls k text nonempty _ _ tail ih =>
    have next : Place.after (pre ++ w) = p.advance w := next_place start
    refine List.Pairwise.cons ?_ (ih next)
    intro x mem
    have later := (next ▸ tail).offset_ge x mem
    have wide : 0 < w.length := List.length_pos_iff.mpr nonempty
    simp only [← start, Place.after_offset, List.length_append] at later ⊢
    omega

/-- Every character that no token span covers is a blank. -/
theorem Layout.blanks (laid : Layout (Place.after pre) cs ls) :
    ∀ j c, pre.length ≤ j → (pre ++ cs)[j]? = some c →
      (∀ x ∈ ls, ¬ (x.1.pos.offset ≤ j ∧ (j : Int) < x.1.pos.offset + x.2.length)) →
      isBlank c := by
  generalize start : Place.after pre = p at laid
  induction laid generalizing pre with
  | last p =>
    intro j c after found _
    simp only [List.append_nil] at found
    have := (List.getElem?_eq_some_iff.mp found).1
    omega
  | @blank p w rest ls _ all_blank _ ih =>
    intro j c after found uncovered
    by_cases inside : j < pre.length + w.length
    · rw [← List.append_assoc, List.getElem?_append_left (by simp; omega),
        List.getElem?_append_right (by omega)] at found
      exact all_blank c (List.mem_of_getElem? found)
    · exact ih (next_place start) j c (by simp; omega)
        (by simpa using found) uncovered
  | @token p w rest ls k text _ _ _ _ ih =>
    intro j c after found uncovered
    have head := uncovered _ List.mem_cons_self
    simp only [← start, Place.after_offset] at head
    refine ih (next_place start) j c ?_
      (by simpa using found) (fun x mem => uncovered x (List.mem_cons_of_mem _ mem))
    simp only [List.length_append]
    omega

end Laws

/-- The laws of a scan of the text `cs`, stated of its tokens paired with the source spans they
cover. -/
structure ScanLaws (cs : List Char) (ls : List (Token × List Char)) : Prop where
  /-- The last token, and only it, is the end of input, with empty text and span, at the end of
  the text. -/
  ends : ∃ front, ls = front ++ [(⟨.eof, "", posAt cs cs.length⟩, [])] ∧
    ∀ x ∈ front, x.1.kind ≠ .eof
  /-- Offsets strictly increase. -/
  ordered : ls.Pairwise (fun a b => a.1.pos.offset < b.1.pos.offset)
  /-- A token's span is the text at its offset, and its line and column are those of that
  offset. -/
  placed : ∀ x ∈ ls, ∃ o : Nat, x.1.pos = posAt cs o ∧ x.2 <+: cs.drop o
  /-- A token other than a string covers exactly its text. -/
  spelled : ∀ x ∈ ls, x.1.kind ≠ .string → x.2 = x.1.text.toList
  /-- A string covers a quote, a body running to the matching closing quote, and that quote;
  its text is the body with its escapes resolved. -/
  quoted : ∀ x ∈ ls, x.1.kind = .string → ∃ q body, (q = '"' ∨ q = '\'') ∧
    StringBody q body ∧
    x.2 = q :: body ++ [q] ∧ x.1.text = String.ofList (unescape body)
  /-- Every character outside the token spans is a blank. -/
  blanks : ∀ (j : Nat) (c : Char), cs[j]? = some c →
    (∀ x ∈ ls, ¬ (x.1.pos.offset ≤ j ∧ (j : Int) < x.1.pos.offset + x.2.length)) →
      isBlank c

theorem Layout.laws {cs : List Char} {ls : List (Token × List Char)}
    (laid : Layout Place.start cs ls) : ScanLaws cs ls := by
  rw [← Place.after_nil] at laid
  obtain ⟨front, shape, plain⟩ := laid.ends
  have last_pos : (Place.after ([] ++ cs)).pos = posAt cs cs.length := by
    simpa using Place.after_pos cs []
  refine ⟨⟨front, by rw [shape, last_pos], plain⟩, laid.ordered, ?_, ?_, ?_, ?_⟩
  · intro x mem
    obtain ⟨u, v, rfl, at_⟩ := laid.placed x mem
    refine ⟨u.length, ?_, by simp⟩
    simpa [List.append_assoc] using at_.trans (Place.after_pos u (x.2 ++ v))
  · intro x mem not_string
    by_cases eof : x.1.kind = .eof
    · -- the end of input is the last token, with empty text and span
      rw [shape] at mem
      rcases List.mem_append.mp mem with mem | mem
      · exact absurd eof (plain x mem)
      · simp only [List.mem_singleton] at mem
        subst mem
        rfl
    · have spells := (laid.spelled x mem eof).2
      simpa [Spells, not_string] using spells
  · intro x mem string
    have not_eof : x.1.kind ≠ .eof := by rw [string]; decide
    have spells := (laid.spelled x mem not_eof).2
    simpa [Spells, string] using spells
  · intro j c found uncovered
    exact laid.blanks j c (Nat.zero_le j) (by simpa using found) uncovered

end Quill.Scan

namespace Quill

/-- Scanning partitions the text: a successful scan lays its tokens over the text by the
`ScanLaws`, and a failed scan reports the line and column where the failing lexeme starts. -/
theorem scan_partition (s : String) :
    (∀ ts, scan s = .ok ts → ∃ ls, ls.map Prod.fst = ts ∧ Scan.ScanLaws s.toList ls) ∧
    (∀ e, scan s = .error e → ∃ o c rest, s.toList.drop o = c :: rest ∧
      Scan.step c rest = .error e.fault ∧ e.pos = Scan.posAt s.toList o) := by
  constructor
  · intro ts scanned
    obtain ⟨ls, rfl, laid⟩ := Scan.run_layout scanned
    exact ⟨ls, by simp, laid.laws⟩
  · intro e failed
    rw [scan, ← Scan.Place.after_nil] at failed
    obtain ⟨u, c, rest, split, bad, at_⟩ := Scan.run_error failed
    refine ⟨u.length, c, rest, by simp [split], bad, ?_⟩
    rw [at_, split]
    simpa using Scan.Place.after_pos u (c :: rest)

/-- `a = "x"` scans to a name, an equals sign, a string and the end, each placed by its offset. -/
theorem scan_partition_sample :
    scan "a = \"x\"" = .ok [⟨.ident, "a", ⟨1, 1, 0⟩⟩, ⟨.assign, "=", ⟨1, 3, 2⟩⟩,
      ⟨.string, "x", ⟨1, 5, 4⟩⟩, ⟨.eof, "", ⟨1, 8, 7⟩⟩] ∧
    ∃ ls, ls.map Prod.fst = [⟨.ident, "a", ⟨1, 1, 0⟩⟩, ⟨.assign, "=", ⟨1, 3, 2⟩⟩,
      ⟨.string, "x", ⟨1, 5, 4⟩⟩, ⟨.eof, "",
        ⟨1, 8, 7⟩⟩] ∧ Scan.ScanLaws "a = \"x\"".toList ls := by
  have scanned : scan "a = \"x\"" = .ok
      [⟨.ident, "a", ⟨1, 1, 0⟩⟩, ⟨.assign, "=", ⟨1, 3, 2⟩⟩,
      ⟨.string, "x", ⟨1, 5, 4⟩⟩, ⟨.eof, "", ⟨1, 8, 7⟩⟩] := by cbv
  exact ⟨scanned, (scan_partition _).1 _ scanned⟩

end Quill
