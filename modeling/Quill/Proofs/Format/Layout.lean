import Quill.Proofs.Format.Spelling

set_option autoImplicit false

/- The canonical text of a program as words: each line indented to its depth, a line feed and
the next indentation scanning as one run of blanks, so the text scans back to the tokens of the
statements' words. -/
namespace Quill

open Scan

mutual

/-- The words of a statement, without line feeds and indentation. -/
def Stmt.words : Stmt → List Word
  | .assign name value _ =>
    [.token .ident name, Word.space, Word.sym .assign, Word.space] ++ value.words ++
      [Word.sym .semicolon]
  | .expr e _ => e.words ++ [Word.sym .semicolon]
  | .block body _ =>
    [Word.sym .lbrace] ++ Stmt.listWords body ++ [Word.sym .rbrace, Word.sym .semicolon]

/-- The words of statements one after the other. -/
def Stmt.listWords : List Stmt → List Word
  | [] => []
  | s :: rest => s.words ++ Stmt.listWords rest

end

mutual

/-- The lines of a statement at nesting depth `depth`: the depth of each, and its words after the
indentation. -/
def Stmt.wordLines (depth : Nat) : Stmt → List (Nat × List Word)
  | .assign name value _ =>
    [(depth, [.token .ident name, Word.space, Word.sym .assign, Word.space] ++ value.words ++
      [Word.sym .semicolon])]
  | .expr e _ => [(depth, e.words ++ [Word.sym .semicolon])]
  | .block body _ =>
    if body.isEmpty then [(depth, [Word.sym .lbrace, Word.sym .rbrace, Word.sym .semicolon])]
    else [(depth, [Word.sym .lbrace])] ++ Stmt.wordLinesList (depth + 1) body ++
      [(depth, [Word.sym .rbrace, Word.sym .semicolon])]

/-- The lines of statements at nesting depth `depth`. -/
def Stmt.wordLinesList (depth : Nat) : List Stmt → List (Nat × List Word)
  | [] => []
  | s :: rest => s.wordLines depth ++ Stmt.wordLinesList depth rest

end

mutual

/-- A statement as a parse builds it: its expressions parsable, the target of an assignment a
name, and every block with a statement in it. -/
def Stmt.Parsable : Stmt → Prop
  | .assign name value _ => IsName name.toList ∧ value.Parsable
  | .expr e _ => e.Parsable
  | .block body _ => body ≠ [] ∧ Stmt.ListParsable body

/-- Every statement of the list is parsable. -/
def Stmt.ListParsable : List Stmt → Prop
  | [] => True
  | s :: rest => s.Parsable ∧ Stmt.ListParsable rest

end

/-- The indentation of a line at depth `k`. -/
def indentation (unit : String) (k : Nat) : String := String.join (List.replicate k unit)

/-- A line of text: its indentation, then its words. -/
def renderLine (unit : String) (line : Nat × List Word) : String :=
  indentation unit line.1 ++ String.ofList (spellAll line.2)

/-- The words of lines after the first line's indentation: each line's words, then a line feed
and the next line's indentation as one run of blanks, and a line feed after the last. -/
def linesWords (unit : String) : List (Nat × List Word) → List Word
  | [] => [.gap ['\n']]
  | [(_, ws)] => ws ++ [.gap ['\n']]
  | (_, ws) :: (k, ws') :: rest =>
    ws ++ [.gap ('\n' :: (indentation unit k).toList)] ++ linesWords unit ((k, ws') :: rest)

mutual

theorem Stmt.lines_eq (unit : String) (depth : Nat) : (s : Stmt) →
    s.lines unit depth = (s.wordLines depth).map (renderLine unit)
  | .assign name value _ => by
    simp [Stmt.lines, Stmt.wordLines, renderLine, indentation, value.spell_words,
      String.append_assoc, TokenKind.symbol?]
    simp only [← String.append_assoc, String.reduceAppend]
  | .expr e _ => by
    simp [Stmt.lines, Stmt.wordLines, renderLine, indentation, e.spell_words,
      String.append_assoc, TokenKind.symbol?]
  | .block body _ => by
    by_cases empty : body.isEmpty
    · simp [Stmt.lines, Stmt.wordLines, empty, renderLine, indentation, TokenKind.symbol?]
    · simp only [Stmt.lines, Stmt.wordLines, empty, Bool.false_eq_true, ↓reduceIte,
        List.map_append, Stmt.linesList_eq unit (depth + 1) body]
      simp [renderLine, indentation, TokenKind.symbol?]

theorem Stmt.linesList_eq (unit : String) (depth : Nat) : (ss : List Stmt) →
    Stmt.linesList unit depth ss = (Stmt.wordLinesList depth ss).map (renderLine unit)
  | [] => rfl
  | s :: rest => by
    rw [Stmt.linesList, Stmt.wordLinesList, List.map_append, s.lines_eq unit depth,
      Stmt.linesList_eq unit depth rest]

end

mutual

theorem Stmt.wordLines_words (depth : Nat) : (s : Stmt) →
    (s.wordLines depth).flatMap Prod.snd = s.words
  | .assign .. | .expr .. => by simp [Stmt.wordLines, Stmt.words]
  | .block body _ => by
    by_cases empty : body.isEmpty
    · rw [List.isEmpty_iff] at empty
      subst empty
      simp [Stmt.wordLines, Stmt.words, Stmt.listWords]
    · simp only [Stmt.wordLines, empty, Bool.false_eq_true, ↓reduceIte, List.flatMap_append,
        Stmt.wordLinesList_words (depth + 1) body, Stmt.words]
      simp

theorem Stmt.wordLinesList_words (depth : Nat) : (ss : List Stmt) →
    (Stmt.wordLinesList depth ss).flatMap Prod.snd = Stmt.listWords ss
  | [] => rfl
  | s :: rest => by
    rw [Stmt.wordLinesList, List.flatMap_append, s.wordLines_words depth,
      Stmt.wordLinesList_words depth rest, Stmt.listWords]

end

/-- A statement's first line stands at the statement's depth. -/
theorem Stmt.wordLines_head (depth : Nat) (s : Stmt) :
    ∃ ws rest, s.wordLines depth = (depth, ws) :: rest := by
  cases s with
  | assign | expr => exact ⟨_, [], rfl⟩
  | block body =>
    by_cases empty : body.isEmpty
    · exact ⟨[Word.sym .lbrace, Word.sym .rbrace, Word.sym .semicolon], [],
        by simp [Stmt.wordLines, empty]⟩
    · exact ⟨[Word.sym .lbrace],
        Stmt.wordLinesList (depth + 1) body ++ [(depth, [Word.sym .rbrace, Word.sym .semicolon])],
        by simp [Stmt.wordLines, empty]⟩

theorem linesWords_spell (unit : String) (k : Nat) (ws : List Word)
    (rest : List (Nat × List Word)) :
    ("\n".intercalate (((k, ws) :: rest).map (renderLine unit)) ++ "\n").toList =
      (indentation unit k).toList ++ spellAll (linesWords unit ((k, ws) :: rest)) := by
  induction rest generalizing k ws with
  | nil => simp [renderLine, linesWords, Word.spell]
  | cons line rest ih =>
    obtain ⟨k', ws'⟩ := line
    rw [List.map_cons, List.map_cons, String.intercalate_cons_cons, String.append_assoc,
      String.toList_append, String.toList_append, ← List.map_cons, ih]
    simp [renderLine, linesWords, Word.spell]

theorem shapes_linesWords (unit : String) (ls : List (Nat × List Word)) :
    shapes (linesWords unit ls) = shapes (ls.flatMap Prod.snd) := by
  induction ls with
  | nil => rfl
  | cons line rest ih =>
    obtain ⟨k, ws⟩ := line
    cases rest with
    | nil => simp [linesWords]
    | cons line' rest =>
      obtain ⟨k', ws'⟩ := line'
      rw [linesWords, shapes_append, shapes_append, ih]
      simp

/-- A line whose words do not extend one another up to the line feed after them, and which
starts with a character that is neither a blank nor `=`. -/
def LineLexes (ws : List Word) :
    Prop := (∀ more, Scan.Lex ws ('\n' :: more)) ∧ Leads (spellAll ws)

theorem lex_linesWords (unit : String)
    (blank : ∀ k, ∀ x ∈ (indentation unit k).toList, isBlank x = true)
    (ls : List (Nat × List Word)) (lexes : ∀ l ∈ ls, LineLexes l.2) :
    Scan.Lex (linesWords unit ls) [] := by
  -- by induction on the lines: each line but the last ends with a feed before the next line's
  -- indentation, and the next line's first word is no blank
  induction ls with
  | nil => simp [linesWords, Word.Lexes, isBlank, BlankEnds]
  | cons first more ih =>
    obtain ⟨k₀, ws⟩ := first
    have line := lexes (k₀, ws) List.mem_cons_self
    have tail := ih fun l mem => lexes l (List.mem_cons_of_mem _ mem)
    cases more with
    | nil =>
      rw [linesWords, lex_append]
      exact ⟨line.1 [], by simp [Scan.Lex, Word.Lexes, isBlank, BlankEnds]⟩
    | cons second rest =>
      obtain ⟨k, ws'⟩ := second
      have next := (lexes (k, ws') (by simp)).2
      obtain ⟨c, more, spelled, notBlank, -⟩ := next
      rw [linesWords, lex_append, lex_append]
      simp only [spellAll_cons, spellAll_nil, Word.spell, List.append_nil, List.cons_append,
        lex_singleton]
      refine ⟨⟨line.1 _, by simp, ?_, ?_⟩, tail⟩
      · intro x mem
        simp only [List.mem_cons] at mem
        rcases mem with rfl | mem
        · rfl
        · exact blank k x mem
      · intro x first
        obtain ⟨tailWords, words⟩ : ∃ t, linesWords unit ((k, ws') :: rest) = ws' ++ t := by
          cases rest with
          | nil => exact ⟨_, rfl⟩
          | cons l rest => exact ⟨_, by rw [linesWords, List.append_assoc]⟩
        simp only [words, spellAll_append, spelled, List.cons_append, List.head?_cons,
          Option.some.injEq] at first
        rw [← first]
        exact notBlank

theorem space_lexes_of {c : Char} (blank : isBlank c = false) (more : List Char) :
    Word.space.Lexes (c :: more) := by
  refine ⟨by simp, by simp [isBlank], ?_⟩
  rintro x ⟨⟩
  exact blank

theorem assign_lexes (more : List Char) : (Word.sym .assign).Lexes (' ' :: more) := by
  refine .inr (.inr (.inr ⟨by decide, rfl, '=', rfl, ?_⟩))
  rintro d ⟨⟩
  simp

theorem line_lexes_sym {ks : List TokenKind}
    (plain : ∀ k ∈ ks,
      k ∈ [TokenKind.dot, .comma, .colon, .semicolon, .lparen, .rparen, .lbracket, .rbracket,
      .lbrace, .rbrace]) (more : List Char) : Scan.Lex (ks.map Word.sym) more := by
  induction ks with
  | nil => trivial
  | cons k ks ih =>
    exact ⟨sym_lexes (plain k (by simp)) _, ih (fun k mem => plain k (by simp [mem]))⟩

mutual

theorem Stmt.lines_lex (depth : Nat) : (s : Stmt) → s.Parsable →
    ∀ l ∈ s.wordLines depth, LineLexes l.2
  | .assign _ value _, ⟨name, wf⟩, l, mem => by
    simp only [Stmt.wordLines, List.mem_singleton] at mem
    subst mem
    refine ⟨fun more => ?_, ?_⟩
    · simp only [lex_append, Scan.Lex, spellAll_cons, spellAll_nil, spellAll_append,
        Word.space_spell, Word.sym_spell, TokenKind.symbol?, Option.getD_some, String.reduceToList,
        List.append_nil, List.cons_append, List.nil_append, List.append_assoc, and_true]
      exact ⟨.inl ⟨rfl, name, (follows_cons _ (by decide)).nameEnds⟩,
        space_lexes_of (by decide) _, assign_lexes _, space_lexes (value.lead_words wf) _,
        value.lex_words wf _ (follows_cons _ (by decide)), sym_lexes (by decide) _⟩
    · simp only [spellAll_append, spellAll_cons, Word.token_spell, List.append_assoc]
      exact leads_append (IsName.leads name) _
  | .expr e _, wf, l, mem => by
    simp only [Stmt.wordLines, List.mem_singleton] at mem
    subst mem
    refine ⟨fun more => ?_,
      by simpa only [spellAll_append] using leads_append (e.lead_words wf) _⟩
    rw [lex_append]
    exact ⟨e.lex_words wf _ (follows_cons _ (by decide)),
      by simpa using sym_lexes (by decide) _⟩
  | .block body _, ⟨_, wfs⟩, l, mem => by
    have braces : ∀ ks : List TokenKind, ks ≠ [] →
        (∀ k ∈ ks, k ∈ [TokenKind.dot, .comma, .colon, .semicolon, .lparen, .rparen,
          .lbracket, .rbracket, .lbrace, .rbrace]) →
        ks.head? = some .lbrace ∨ ks.head? = some .rbrace →
        LineLexes (ks.map Word.sym) := by
      intro ks nonempty plain first
      obtain ⟨k, ks, rfl⟩ := List.exists_cons_of_ne_nil nonempty
      refine ⟨fun more => line_lexes_sym plain _, ?_⟩
      simp only [List.head?_cons, Option.some.injEq] at first
      rcases first with rfl | rfl <;>
      · simp only [List.map_cons, spellAll_cons, Word.sym_spell, TokenKind.symbol?,
          Option.getD_some, String.reduceToList, List.cons_append, List.nil_append]
        exact leads_cons _ (by decide) (by decide)
    by_cases empty : body.isEmpty
    · simp only [Stmt.wordLines, empty, ↓reduceIte, List.mem_singleton] at mem
      subst mem
      exact braces [.lbrace, .rbrace, .semicolon] (by simp) (by decide) (by simp)
    · simp only [Stmt.wordLines, empty, Bool.false_eq_true, ↓reduceIte, List.mem_append,
        List.mem_singleton] at mem
      rcases mem with (rfl | mem) | rfl
      · exact braces [.lbrace] (by simp) (by decide) (by simp)
      · exact Stmt.linesList_lex (depth + 1) body wfs l mem
      · exact braces [.rbrace, .semicolon] (by simp) (by decide) (by simp)

theorem Stmt.linesList_lex (depth : Nat) : (ss : List Stmt) → Stmt.ListParsable ss →
    ∀ l ∈ Stmt.wordLinesList depth ss, LineLexes l.2
  | [], _, _, mem => by simp [Stmt.wordLinesList] at mem
  | s :: rest, ⟨wf, wfs⟩, l, mem => by
    rw [Stmt.wordLinesList, List.mem_append] at mem
    rcases mem with mem | mem
    · exact s.lines_lex depth wf l mem
    · exact Stmt.linesList_lex depth rest wfs l mem

end

theorem indentation_blank (width : Int) (k : Nat) :
    ∀ x ∈ (indentation (indentUnit width) k).toList, isBlank x = true := by
  intro x mem
  simp only [indentation, String.toList_join, List.mem_flatMap, List.mem_replicate] at mem
  obtain ⟨u, ⟨_, rfl⟩, mem⟩ := mem
  simp only [indentUnit, String.toList_ofList, List.mem_replicate] at mem
  rw [mem.2]
  rfl

/-- A program's text is its lines' words. -/
theorem Program.format_toList (p : Program) (width : Int) :
    (p.format width).toList =
      spellAll (linesWords (indentUnit width) (Stmt.wordLinesList 0 p.body)) := by
  cases body : p.body with
  | nil => simp [Program.format, body, Stmt.linesList, Stmt.wordLinesList, linesWords, Word.spell]
  | cons s rest =>
    obtain ⟨ws, more, first⟩ := s.wordLines_head 0
    rw [Program.format, body, Stmt.linesList_eq, Stmt.wordLinesList, first, List.cons_append,
      linesWords_spell]
    simp [indentation]

/-- The canonical text of a parsable program scans as the tokens of its statements' words, none
of them a comment, and the end of input, whatever the indentation width. -/
theorem Program.scan_format {p : Program} (wf : Stmt.ListParsable p.body) (width : Int) :
    ∃ (toks : List Token) (pos : Position),
      toks.map Token.shape = shapes (Stmt.listWords p.body) ∧
      (∀ t ∈ toks, t.kind ≠ .comment) ∧
        scan (p.format width) = .ok (toks ++ [⟨.eof, "", pos⟩]) := by
  have text : p.format width =
      String.ofList (spellAll (linesWords (indentUnit width) (Stmt.wordLinesList 0 p.body))) := by
    rw [← p.format_toList width, String.ofList_toList]
  rw [text, ← Stmt.wordLinesList_words 0 p.body, ← shapes_linesWords (indentUnit width)]
  exact scan_words (lex_linesWords _ (indentation_blank width) _
    (Stmt.linesList_lex 0 p.body wf))

end Quill
