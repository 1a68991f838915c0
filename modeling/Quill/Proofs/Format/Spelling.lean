import Quill.Proofs.Scan.Words
import Quill.Tree.Parse

set_option autoImplicit false

/- The canonical text of an expression as words: every token of the text is a word of its own,
and the words of a parsable tree do not extend one another, so scanning the text gives back
their tokens. -/
namespace Quill

open Scan

namespace Scan.Word

/-- The operator or punctuation token `k`, written as its symbol. -/
def sym (k : TokenKind) : Word := .token k (k.symbol?.getD "")

/-- A single space. -/
def space : Word := .gap [' ']

end Scan.Word

/-- The words `ws`, in parentheses when `paren` holds. -/
def parenthesized (paren : Bool) (ws : List Word) : List Word :=
  if paren then [Word.sym .lparen] ++ ws ++ [Word.sym .rparen] else ws

/-- The token kind that writes an update operator. -/
def UpdateOp.kind : UpdateOp → TokenKind
  | .inc => .inc
  | .dec => .dec

/-- The words of a literal: a keyword as a name, a string in quotes, or a number. -/
def literalWords (v : Data) (raw : String) : List Word :=
  match v with
  | .null => [.token .ident "null"]
  | .bool b => [.token .ident (if b then "true" else "false")]
  | .text s => [.quoted s]
  | v => [.token .number (if isNumberText raw then raw else v.display)]

/-- Whether the left operand of `op`, of binding strength `lp` if it is a binary operation,
takes parentheses. -/
def BinaryOp.parenLeft (op : BinaryOp) : Option Nat → Bool
  | some p => decide (p < op.precedence)
  | none => false

/-- Whether the right operand of `op`, of binding strength `rp` if it is a binary operation,
takes parentheses. -/
def BinaryOp.parenRight (op : BinaryOp) : Option Nat → Bool
  | some p => decide (p ≤ op.precedence)
  | none => false

/-- Whether the operand of a unary operation takes parentheses. -/
def UnaryOp.parenArg (op : UnaryOp) (arg : Expr) : Bool :=
  arg.binaryPrecedence?.isSome || (op.isSign && arg.format.startsWith op.symbol)

mutual

/-- The words of an expression's canonical text. -/
def Expr.words : Expr → List Word
  | .literal v raw _ => literalWords v raw
  | .var name _ => [.token .ident name]
  | .field obj name _ _ =>
    parenthesized (!obj.standsAlone) obj.words ++ [Word.sym .dot, .token .ident name]
  | .index obj key _ =>
    parenthesized (!obj.standsAlone) obj.words ++ [Word.sym .lbracket] ++ key.words ++
      [Word.sym .rbracket]
  | .call callee args _ =>
    parenthesized (!callee.standsAlone) callee.words ++ [Word.sym .lparen] ++
      Expr.listWords args ++ [Word.sym .rparen]
  | .array items _ => [Word.sym .lbracket] ++ Expr.listWords items ++ [Word.sym .rbracket]
  | .map entries _ => [Word.sym .lbrace] ++ Expr.entryWords entries ++ [Word.sym .rbrace]
  | .binary op lhs rhs _ =>
    parenthesized (op.parenLeft lhs.binaryPrecedence?) lhs.words ++
      [Word.space, .token op.token op.symbol, Word.space] ++
      parenthesized (op.parenRight rhs.binaryPrecedence?) rhs.words
  | .unary op arg _ => .token op.token op.symbol :: parenthesized (op.parenArg arg) arg.words
  | .update op arg before _ =>
    if before then .token op.kind op.symbol :: arg.words
    else arg.words ++ [.token op.kind op.symbol]

/-- The words of expressions separated by commas. -/
def Expr.listWords : List Expr → List Word
  | [] => []
  | [e] => e.words
  | e :: rest => e.words ++ [Word.sym .comma, Word.space] ++ Expr.listWords rest

/-- The words of map entries separated by commas. -/
def Expr.entryWords : List (MapKey × Expr) → List Word
  | [] => []
  | [(k, v)] => [.quoted k.text, Word.sym .colon, Word.space] ++ v.words
  | (k, v) :: rest =>
    [.quoted k.text, Word.sym .colon, Word.space] ++ v.words ++ [Word.sym .comma, Word.space] ++
      Expr.entryWords rest

end

/-- A literal as a parse builds it: a string token's text, the digits of a number token and
their value, or a keyword written as a name in any case. -/
def LiteralParsable (v : Data) (raw : String) : Prop :=
  v = .text raw ∨ (IsNumber raw.toList ∧ Parse.numberValue raw = .ok v) ∨
    (IsName raw.toList ∧ Parse.keyword? raw = some v)

mutual

/-- An expression as a parse builds it: its literals as their tokens give them, its variables
and member names names (a variable no keyword), and its updates applied to variables and
members. -/
def Expr.Parsable : Expr → Prop
  | .literal v raw _ => LiteralParsable v raw
  | .var name _ => IsName name.toList ∧ Parse.keyword? name = none
  | .field obj name _ _ => obj.Parsable ∧ IsName name.toList
  | .index obj key _ => obj.Parsable ∧ key.Parsable
  | .call callee args _ => callee.Parsable ∧ Expr.ListParsable args
  | .array items _ => Expr.ListParsable items
  | .map entries _ => Expr.EntriesParsable entries
  | .binary _ lhs rhs _ => lhs.Parsable ∧ rhs.Parsable
  | .unary _ arg _ => arg.Parsable
  | .update _ arg _ _ => arg.Parsable ∧ arg.assignable = true

/-- Every expression of the list is parsable. -/
def Expr.ListParsable : List Expr → Prop
  | [] => True
  | e :: rest => e.Parsable ∧ Expr.ListParsable rest

/-- Every value of the entries is parsable. -/
def Expr.EntriesParsable : List (MapKey × Expr) → Prop
  | [] => True
  | (_, v) :: rest => v.Parsable ∧ Expr.EntriesParsable rest

end

theorem spellAll_parenthesized (paren : Bool) {ws : List Word} {t : String}
    (spelled : spellAll ws = t.toList) :
    spellAll (parenthesized paren ws) = (if paren then "(" ++ t ++ ")" else t).toList := by
  cases paren <;> simp [parenthesized, spelled, Word.sym, Word.spell, TokenKind.symbol?]

theorem literalWords_spell (v : Data) (raw : String) :
    spellAll (literalWords v raw) = (literalText v raw).toList := by
  cases v with
  | bool b => cases b <;> simp [literalWords, literalText, Word.spell]
  | text s => simp [literalWords, literalText, Word.spell]
  | _ => simp [literalWords, literalText, Word.spell]

theorem operandText_eq (alone : Bool) (t : String) :
    operandText alone t = if !alone then "(" ++ t ++ ")" else t := by
  cases alone <;> rfl

theorem binaryText_eq (op : BinaryOp) (lp rp : Option Nat) (lt rt : String) :
    binaryText op lp rp lt rt =
      (if op.parenLeft lp then "(" ++ lt ++ ")" else lt) ++ " " ++ op.symbol ++ " " ++
        (if op.parenRight rp then "(" ++ rt ++ ")" else rt) := by
  unfold binaryText BinaryOp.parenLeft BinaryOp.parenRight
  cases lp <;> cases rp <;> simp

theorem unaryText_eq (op : UnaryOp) (arg : Expr) :
    unaryText op arg.binaryPrecedence?.isSome arg.format =
      op.symbol ++ (if op.parenArg arg then "(" ++ arg.format ++ ")" else arg.format) := by
  unfold unaryText unaryWith UnaryOp.parenArg
  split <;> simp [String.append_assoc]

mutual

theorem Expr.spell_words : (e : Expr) → spellAll e.words = e.format.toList
  | .literal v raw _ => by
    rw [Expr.words, Expr.format, literalWords_spell]
  | .var name _ => by simp [Expr.words, Expr.format, Word.spell]
  | .field obj name _ _ => by
    rw [Expr.words, Expr.format, operandText_eq, spellAll_append,
      spellAll_parenthesized _ obj.spell_words]
    simp [Word.sym, Word.spell, TokenKind.symbol?]
  | .index obj key _ => by
    rw [Expr.words, Expr.format, operandText_eq, spellAll_append, spellAll_append,
      spellAll_append, spellAll_parenthesized _ obj.spell_words, key.spell_words]
    simp [Word.sym, Word.spell, TokenKind.symbol?]
  | .call callee args _ => by
    rw [Expr.words, Expr.format, operandText_eq, spellAll_append, spellAll_append,
      spellAll_append, spellAll_parenthesized _ callee.spell_words, Expr.spell_listWords args]
    simp [Word.sym, Word.spell, TokenKind.symbol?]
  | .array items _ => by
    rw [Expr.words, Expr.format, spellAll_append, spellAll_append, Expr.spell_listWords items]
    simp [Word.sym, Word.spell, TokenKind.symbol?]
  | .map entries _ => by
    rw [Expr.words, Expr.format, spellAll_append, spellAll_append,
      Expr.spell_entryWords entries]
    simp [Word.sym, Word.spell, TokenKind.symbol?]
  | .binary op lhs rhs _ => by
    rw [Expr.words, Expr.format, binaryText_eq, spellAll_append, spellAll_append,
      spellAll_parenthesized _ lhs.spell_words, spellAll_parenthesized _ rhs.spell_words]
    simp [Word.space, Word.spell]
  | .unary op arg _ => by
    rw [Expr.words, Expr.format, unaryText_eq, spellAll_cons,
      spellAll_parenthesized _ arg.spell_words]
    simp [Word.spell]
  | .update op arg before _ => by
    cases before <;> simp [Expr.words, Expr.format, Word.spell, arg.spell_words]

theorem Expr.spell_listWords : (es : List Expr) → spellAll (Expr.listWords es) =
    (Expr.formatList es).toList
  | [] => rfl
  | [e] => by rw [Expr.listWords, Expr.formatList, e.spell_words]
  | e :: e' :: rest => by
    simp only [Expr.listWords, Expr.formatList, spellAll_append, e.spell_words,
      Expr.spell_listWords (e' :: rest)]
    simp [Word.sym, Word.space, Word.spell, TokenKind.symbol?]

theorem Expr.spell_entryWords : (es : List (MapKey × Expr)) → spellAll (Expr.entryWords es) =
    (Expr.formatEntries es).toList
  | [] => rfl
  | [(k, v)] => by
    rw [Expr.entryWords, Expr.formatEntries, spellAll_append, v.spell_words]
    simp [Word.sym, Word.space, Word.spell, TokenKind.symbol?]
  | (k, v) :: e' :: rest => by
    simp only [Expr.entryWords, Expr.formatEntries, spellAll_append, v.spell_words,
      Expr.spell_entryWords (e' :: rest)]
    simp [Word.sym, Word.space, Word.spell, TokenKind.symbol?]

end

theorem keyword?_some {raw : String} {v : Data} (found : Parse.keyword? raw = some v) :
    (v = .bool true ∧ raw.toLower = "true") ∨ (v = .bool false ∧ raw.toLower = "false") ∨
      (v = .null ∧ raw.toLower = "null") := by
  unfold Parse.keyword? at found
  split at found <;> simp_all

theorem numberValue_ok {raw : String} {v : Data} (read : Parse.numberValue raw = .ok v) :
    (∃ n, v = .int n) ∨ (∃ x, v = .float x) := by
  unfold Parse.numberValue at read
  split at read
  · split at read
    · cases read
      exact .inr ⟨_, rfl⟩
    · cases read
  · split at read
    · cases read
      exact .inl ⟨_, rfl⟩
    · cases read
    · cases read

/-- The digits of a number token are written back as they are. -/
theorem isNumberText_of_isNumber {raw : String} (number : IsNumber raw.toList) :
    isNumberText raw = true := by
  obtain ⟨ds, frac, spelled, nonempty, whole, fraction⟩ := number
  have digit : (fun c : Char => decide ('0' ≤ c) && decide (c ≤ '9')) = isDigit := rfl
  have stop : ∀ x, frac.head? = some x → isDigit x = false := by
    rcases fraction with rfl | ⟨fs, rfl, -, -⟩
    · intro x found
      cases found
    · rintro x ⟨⟩
      decide
  obtain ⟨took, dropped⟩ := span_stop whole stop
  simp only [isNumberText, digit, spelled, took, dropped]
  rcases fraction with rfl | ⟨fs, rfl, nonempty', digits⟩
  · simpa using nonempty
  · simpa [nonempty, nonempty', List.all_eq_true] using digits

/-- The characters that may follow an expression's text, other than a point. -/
def followers : List Char := [' ', '\n', ',', ';', ')', ']', '\x7d', '(', '[', '+', '-']

/-- Text that may follow an expression's text: nothing, one of the `followers`, or a point
before a name. -/
def Follows (rest : List Char) : Prop :=
  ∀ c more, rest = c :: more →
    c ∈ followers ∨ (c = '.' ∧ ∃ d ds, more = d :: ds ∧ isNameStart d = true)

/-- Text that starts with a character that is neither a blank nor `=`. -/
def Leads (cs : List Char) : Prop := ∃ c more, cs = c :: more ∧ isBlank c = false ∧ c ≠ '='

theorem follows_nil : Follows [] := by
  intro c more same
  cases same

theorem follows_cons {c : Char} (more : List Char)
    (mem : c ∈ followers) : Follows (c :: more) := by
  rintro _ _ ⟨⟩
  exact .inl mem

theorem follows_point {d : Char} (ds : List Char) (start : isNameStart d = true) :
    Follows ('.' :: d :: ds) := by
  rintro _ _ ⟨⟩
  exact .inr ⟨rfl, d, ds, rfl, start⟩

theorem Follows.nameEnds {rest : List Char} (follows : Follows rest) : NameEnds rest := by
  intro x first
  obtain ⟨more, rfl⟩ : ∃ more, rest = x :: more := by
    cases rest with
    | nil => cases first
    | cons y more =>
      simp only [List.head?_cons, Option.some.injEq] at first
      exact ⟨more, by rw [first]⟩
  -- stated through `List.all`: a decision over the members runs too deep once `Char` has the
  -- order instances of the wider library
  have plain : ∀ c ∈ followers, isNameChar c = false := fun c mem => by
    simpa using List.all_eq_true.mp
      (show followers.all (fun c => !isNameChar c) = true by decide) c mem
  rcases follows x more rfl with mem | ⟨rfl, -⟩
  · exact plain x mem
  · decide

theorem Follows.numberEnds {rest : List Char} (follows : Follows rest) : NumberEnds rest := by
  refine ⟨fun x first => ?_, ?_⟩
  · have name := follows.nameEnds x first
    simp only [isNameChar, Bool.or_eq_false_iff] at name
    exact name.2
  · rintro d more rfl
    have point : '.' ∉ followers := by decide
    rcases follows '.' (d :: more) rfl with mem | ⟨-, d', ds, same, start⟩
    · exact absurd mem point
    · simp only [List.cons.injEq] at same
      rw [same.1]
      exact (isNameStart_classes start).2.1

theorem Follows.blankEnds_of_leads {cs : List Char} (leads : Leads cs) (rest : List Char) :
    BlankEnds (cs ++ rest) := by
  obtain ⟨c, more, rfl, blank, -⟩ := leads
  intro x first
  simp only [List.cons_append, List.head?_cons, Option.some.injEq] at first
  rw [← first]
  exact blank

/-- A one-character operator that no character can extend. -/
theorem singleEnds_of_plain {c : Char} (plain : c ∉ ['+', '-', '=', '!', '<', '>', '/'])
    (rest : List Char) : SingleEnds c rest := by
  intro d _
  simp only [List.mem_cons, List.not_mem_nil, or_false, not_or] at plain
  obtain ⟨n1, n2, n3, n4, n5, n6, n7⟩ := plain
  simp [n1, n2, n3, n4, n5, n6, n7]

theorem sym_lexes {k : TokenKind}
    (plain : k ∈ [.dot, .comma, .colon, .semicolon, .lparen, .rparen, .lbracket, .rbracket,
      .lbrace, .rbrace]) (rest : List Char) : (Word.sym k).Lexes rest := by
  simp only [List.mem_cons, List.not_mem_nil, or_false] at plain
  rcases plain with rfl | rfl | rfl | rfl | rfl | rfl | rfl | rfl | rfl | rfl <;>
  · exact .inr (.inr (.inr ⟨by decide, rfl, _, rfl, singleEnds_of_plain (by decide) rest⟩))

theorem space_lexes {cs : List Char} (leads : Leads cs) (rest : List Char) :
    Word.space.Lexes (cs ++ rest) :=
  ⟨by simp, by simp [isBlank], Follows.blankEnds_of_leads leads rest⟩

/-- A binary operator followed by a space. -/
theorem binary_lexes (op : BinaryOp) (more : List Char) :
    (Word.token op.token op.symbol).Lexes (' ' :: more) := by
  have ends : ∀ c, SingleEnds c (' ' :: more) := by
    rintro c d ⟨⟩
    simp
  cases op
  all_goals first
    | exact .inr (.inr (.inl ⟨by decide, rfl⟩))
    | exact .inr (.inr (.inr ⟨by decide, rfl, _, rfl, ends _⟩))

/-- A unary operator followed by text that starts neither with `=` nor with its own sign. -/
theorem unary_lexes (op : UnaryOp) {rest : List Char}
    (next : ∀ d, rest.head? = some d → d ≠ '=' ∧ (op.isSign = true → [d] ≠
      op.symbol.toList)) :
    (Word.token op.token op.symbol).Lexes rest := by
  refine .inr (.inr (.inr ⟨by cases op <;> decide, by cases op <;> rfl, ?_⟩))
  cases op with
  | not => exact ⟨'!', rfl, fun d first => by simp [(next d first).1]⟩
  | plus =>
    refine ⟨'+', rfl, fun d first => ?_⟩
    have sign := (next d first).2 rfl
    simp only [UnaryOp.symbol, String.reduceToList, ne_eq, List.cons.injEq, and_true] at sign
    simp [sign]
  | minus =>
    refine ⟨'-', rfl, fun d first => ?_⟩
    have sign := (next d first).2 rfl
    simp only [UnaryOp.symbol, String.reduceToList, ne_eq, List.cons.injEq, and_true] at sign
    simp [sign]

theorem update_lexes (op : UpdateOp) (rest : List Char) :
    (Word.token op.kind op.symbol).Lexes rest := by
  cases op
  all_goals exact .inr (.inr (.inl ⟨by decide, rfl⟩))

theorem leads_append {cs : List Char} (leads : Leads cs) (more : List Char) :
    Leads (cs ++ more) := by
  obtain ⟨c, cs, rfl, blank, assign⟩ := leads
  exact ⟨c, cs ++ more, rfl, blank, assign⟩

theorem leads_cons {c : Char} (more : List Char) (blank : isBlank c = false) (assign : c ≠ '=') :
    Leads (c :: more) :=
  ⟨c, more, rfl, blank, assign⟩

theorem leads_parenthesized (paren : Bool) {ws : List Word} (leads : Leads (spellAll ws)) :
    Leads (spellAll (parenthesized paren ws)) := by
  cases paren
  · exact leads
  · simp only [parenthesized, ↓reduceIte, spellAll_append, spellAll_cons, spellAll_nil,
      List.append_nil, Word.sym, Word.spell, TokenKind.symbol?, Option.getD_some]
    exact leads_cons _ (by decide) (by decide)

theorem isName_keyword (b : Bool) : IsName (if b then "true" else "false").toList := by
  cases b
  · exact ⟨'f', ['a', 'l', 's', 'e'], by decide, by decide, List.all_eq_true.mp (by decide)⟩
  · exact ⟨'t', ['r', 'u', 'e'], by decide, by decide, List.all_eq_true.mp (by decide)⟩

theorem isName_null :
    IsName "null".toList :=
    ⟨'n', ['u', 'l', 'l'], by decide, by decide, List.all_eq_true.mp (by decide)⟩

theorem IsName.leads {cs : List Char} (name : IsName cs) : Leads cs := by
  obtain ⟨c, rest, rfl, start, -⟩ := name
  have classes := isNameStart_classes start
  refine leads_cons _ classes.1 fun assign => ?_
  subst assign
  exact absurd start (by decide)

theorem IsNumber.leads {cs : List Char} (number : IsNumber cs) : Leads cs := by
  obtain ⟨ds, frac, rfl, nonempty, whole, -⟩ := number
  obtain ⟨d, ds, rfl⟩ := List.exists_cons_of_ne_nil nonempty
  have digit := whole d (by simp)
  refine leads_cons _ (isDigit_classes digit).1 fun assign => ?_
  subst assign
  exact absurd digit (by decide)

theorem literal_words {v : Data} {raw : String} (wf : LiteralParsable v raw) :
    (∀ rest, Follows rest → Scan.Lex (literalWords v raw) rest) ∧
      Leads (spellAll (literalWords v raw)) := by
  rcases wf with rfl | ⟨number, read⟩ | ⟨-, found⟩
  · refine ⟨fun rest _ => ⟨trivial, trivial⟩, ?_⟩
    simp only [literalWords, spellAll_cons, spellAll_nil, List.append_nil, Word.spell,
      quoteString_toList, List.cons_append]
    exact leads_cons _ (by decide) (by decide)
  · have words : literalWords v raw = [.token .number raw] := by
      rcases numberValue_ok read with ⟨n, rfl⟩ | ⟨x, rfl⟩ <;>
        simp [literalWords, isNumberText_of_isNumber number]
    rw [words]
    refine ⟨fun rest follows => ⟨.inr (.inl ⟨rfl, number, follows.numberEnds⟩), trivial⟩,
      ?_⟩
    simpa [Word.spell] using IsNumber.leads number
  · rcases keyword?_some found with ⟨rfl, -⟩ | ⟨rfl, -⟩ | ⟨rfl, -⟩
    · exact ⟨fun rest follows => ⟨.inl ⟨rfl, isName_keyword true, follows.nameEnds⟩,
        trivial⟩, by simpa [literalWords, Word.spell] using IsName.leads (isName_keyword true)⟩
    · exact ⟨fun rest follows => ⟨.inl ⟨rfl, isName_keyword false, follows.nameEnds⟩,
        trivial⟩, by simpa [literalWords, Word.spell] using IsName.leads (isName_keyword false)⟩
    · exact ⟨fun rest follows => ⟨.inl ⟨rfl, isName_null, follows.nameEnds⟩, trivial⟩,
        by simpa [literalWords, Word.spell] using IsName.leads isName_null⟩

theorem Expr.lead_words (e : Expr) (wf : e.Parsable) : Leads (spellAll e.words) := by
  -- by recursion on the leftmost operand, whose text starts the expression's
  cases e with
  | literal => exact (literal_words wf).2
  | var => simpa [Expr.words, Word.spell] using IsName.leads wf.1
  | field obj _ _ _ =>
    rw [Expr.words, spellAll_append]
    exact leads_append (leads_parenthesized _ (obj.lead_words wf.1)) _
  | index obj _ _ =>
    rw [Expr.words, spellAll_append, spellAll_append, spellAll_append]
    exact leads_append (leads_append (leads_append
      (leads_parenthesized _ (obj.lead_words wf.1)) _) _) _
  | call callee _ _ =>
    rw [Expr.words, spellAll_append, spellAll_append, spellAll_append]
    exact leads_append (leads_append (leads_append
      (leads_parenthesized _ (callee.lead_words wf.1)) _) _) _
  | array =>
    simp only [Expr.words, spellAll_append, spellAll_cons, spellAll_nil, Word.sym, Word.spell,
      TokenKind.symbol?, Option.getD_some, String.reduceToList, List.cons_append,
      List.nil_append]
    exact leads_cons _ (by decide) (by decide)
  | map =>
    simp only [Expr.words, spellAll_append, spellAll_cons, spellAll_nil, Word.sym, Word.spell,
      TokenKind.symbol?, Option.getD_some, List.cons_append, List.nil_append]
    exact leads_cons _ (by decide) (by decide)
  | binary _ lhs _ _ =>
    rw [Expr.words, spellAll_append, spellAll_append]
    exact leads_append (leads_append (leads_parenthesized _ (lhs.lead_words wf.1)) _) _
  | unary op _ _ =>
    cases op <;> exact leads_cons _ (by decide) (by decide)
  | update op arg before _ =>
    cases before
    · simp only [Expr.words, Bool.false_eq_true, ↓reduceIte, spellAll_append]
      exact leads_append (arg.lead_words wf.1) _
    · cases op <;> exact leads_cons _ (by decide) (by decide)

@[simp] theorem lex_nil (rest : List Char) : Scan.Lex [] rest := trivial

@[simp] theorem lex_singleton (w : Word)
    (rest : List Char) : Scan.Lex [w] rest ↔ w.Lexes rest := by
  simp [Scan.Lex]

theorem lex_parenthesized (paren : Bool) {ws : List Word}
    (lexed : ∀ rest, Follows rest → Scan.Lex ws rest) {rest : List Char}
      (follows : Follows rest) :
    Scan.Lex (parenthesized paren ws) rest := by
  cases paren
  · exact lexed rest follows
  · simp only [parenthesized, ↓reduceIte, lex_append, lex_singleton]
    refine ⟨⟨sym_lexes (by decide) _, lexed _ ?_⟩, sym_lexes (by decide) _⟩
    exact follows_cons _ (by decide)

@[simp] theorem Scan.Word.sym_spell
    (k : TokenKind) : (Word.sym k).spell = (k.symbol?.getD "").toList :=
  rfl

@[simp] theorem Scan.Word.space_spell : Word.space.spell = [' '] := rfl

@[simp] theorem Scan.Word.token_spell (k : TokenKind) (text : String) :
    (Word.token k text).spell = text.toList := rfl

theorem BinaryOp.symbol_blankEnds (op : BinaryOp) (rest : List Char) :
    BlankEnds (op.symbol.toList ++ rest) := by
  intro x first
  cases op <;>
  · simp only [BinaryOp.symbol, BinaryOp.token, TokenKind.symbol?, Option.getD_some,
      String.reduceToList, List.cons_append, List.head?_cons, Option.some.injEq] at first
    subst first
    decide

theorem UpdateOp.symbol_follows (op : UpdateOp) (rest : List Char) :
    Follows (op.symbol.toList ++ rest) := by
  cases op <;> exact follows_cons _ (by decide)

/-- What follows a unary operator in its expression's text starts neither with `=` nor with the
operator's own sign. -/
theorem UnaryOp.next_char (op : UnaryOp) {arg : Expr} (wf : arg.Parsable) (rest : List Char) :
    ∀ d, (spellAll (parenthesized (op.parenArg arg) arg.words) ++ rest).head? = some d →
      d ≠ '=' ∧ (op.isSign = true → [d] ≠ op.symbol.toList) := by
  intro d first
  cases paren : op.parenArg arg
  · obtain ⟨c, more, spelled, -, assign⟩ := arg.lead_words wf
    simp only [parenthesized, paren, Bool.false_eq_true, ↓reduceIte, spelled, List.cons_append,
      List.head?_cons, Option.some.injEq] at first
    subst first
    refine ⟨assign, fun sign same => ?_⟩
    have starts : arg.format.startsWith op.symbol = true := by
      rw [String.startsWith_string_iff, ← arg.spell_words, spelled, ← same]
      exact List.cons_prefix_cons.mpr ⟨rfl, List.nil_prefix⟩
    simp [UnaryOp.parenArg, sign, starts] at paren
  · simp only [parenthesized, paren, ↓reduceIte, spellAll_append, spellAll_cons, spellAll_nil,
      Word.sym_spell, TokenKind.symbol?, Option.getD_some, String.reduceToList, List.append_nil,
      List.cons_append, List.nil_append, List.head?_cons, Option.some.injEq] at first
    subst first
    refine ⟨by decide, fun _ same => ?_⟩
    cases op <;> simp [UnaryOp.symbol] at same

theorem Expr.listWords_cons (e : Expr) (es : List Expr) :
    ∃ tail, Expr.listWords (e :: es) = e.words ++ tail := by
  cases es with
  | nil => exact ⟨[], by simp [Expr.listWords]⟩
  | cons e' rest =>
    exact ⟨[Word.sym .comma, Word.space] ++ Expr.listWords (e' :: rest),
      by simp only [Expr.listWords, List.append_assoc]⟩

theorem Expr.entryWords_cons (k : MapKey) (v : Expr) (es : List (MapKey × Expr)) :
    ∃ tail, Expr.entryWords ((k, v) :: es) = .quoted k.text :: tail := by
  cases es with
  | nil => exact ⟨_, rfl⟩
  | cons e' rest =>
    exact ⟨[Word.sym .colon, Word.space] ++ v.words ++ [Word.sym .comma, Word.space] ++
      Expr.entryWords (e' :: rest),
      by simp only [Expr.entryWords, List.cons_append, List.nil_append, List.append_assoc]⟩

theorem IsName.follows {cs : List Char} (name : IsName cs) (rest : List Char) :
    Follows ('.' :: (cs ++ rest)) := by
  obtain ⟨c, more, rfl, start, -⟩ := name
  exact follows_point _ start

mutual

theorem Expr.lex_words :
    (e : Expr) → e.Parsable → ∀ rest, Follows rest → Scan.Lex e.words rest
  | .literal _ _ _, wf, rest, follows => (literal_words wf).1 rest follows
  | .var _ _, ⟨name, _⟩, rest, follows => by
    simp only [Expr.words, lex_singleton]
    exact .inl ⟨rfl, name, follows.nameEnds⟩
  | .field obj _ _ _, ⟨wf, name⟩, rest, follows => by
    simp only [Expr.words, lex_append, Scan.Lex, spellAll_cons, spellAll_nil, List.append_nil,
      List.nil_append, Word.sym_spell, Word.token_spell, TokenKind.symbol?, Option.getD_some,
      String.reduceToList, List.cons_append, and_true]
    exact ⟨lex_parenthesized _ (obj.lex_words wf) (IsName.follows name rest),
      sym_lexes (by decide) _, .inl ⟨rfl, name, follows.nameEnds⟩⟩
  | .index obj key _, ⟨wf, wf'⟩, rest, follows => by
    simp only [Expr.words, lex_append, lex_singleton, spellAll_cons, spellAll_nil, List.append_nil,
      List.nil_append, Word.sym_spell, TokenKind.symbol?, Option.getD_some,
      String.reduceToList, List.cons_append, and_assoc]
    exact ⟨lex_parenthesized _ (obj.lex_words wf) (follows_cons _ (by decide)),
      sym_lexes (by decide) _, key.lex_words wf' _ (follows_cons _ (by decide)),
      sym_lexes (by decide) _⟩
  | .call callee args _, ⟨wf, wfs⟩, rest, follows => by
    simp only [Expr.words, lex_append, lex_singleton, spellAll_cons, spellAll_nil, List.append_nil,
      List.nil_append, Word.sym_spell, TokenKind.symbol?, Option.getD_some,
      String.reduceToList, List.cons_append, and_assoc]
    exact ⟨lex_parenthesized _ (callee.lex_words wf) (follows_cons _ (by decide)),
      sym_lexes (by decide) _, Expr.lex_listWords args wfs _ (follows_cons _ (by decide)),
      sym_lexes (by decide) _⟩
  | .array items _, wfs, rest, follows => by
    simp only [Expr.words, lex_append, Scan.Lex, spellAll_cons, spellAll_nil, List.append_nil,
      List.nil_append, Word.sym_spell, TokenKind.symbol?, Option.getD_some,
      String.reduceToList, List.cons_append, and_true]
    exact ⟨sym_lexes (by decide) _, Expr.lex_listWords items wfs _ (follows_cons _ (by decide)),
      sym_lexes (by decide) _⟩
  | .map entries _, wfs, rest, follows => by
    simp only [Expr.words, lex_append, Scan.Lex, spellAll_cons, spellAll_nil, List.append_nil,
      List.nil_append, Word.sym_spell, TokenKind.symbol?, Option.getD_some,
      String.reduceToList, List.cons_append, and_true]
    exact ⟨sym_lexes (by decide) _,
      Expr.lex_entryWords entries wfs _ (follows_cons _ (by decide)), sym_lexes (by decide) _⟩
  | .binary op lhs rhs _, ⟨wl, wr⟩, rest, follows => by
    simp only [Expr.words, lex_append, Scan.Lex, spellAll_cons, List.nil_append, Word.space_spell,
      Word.token_spell, List.cons_append, List.append_assoc]
    exact ⟨lex_parenthesized _ (lhs.lex_words wl) (follows_cons _ (by decide)),
      ⟨by simp, by simp [isBlank], op.symbol_blankEnds _⟩, binary_lexes op _,
      space_lexes (leads_parenthesized _ (rhs.lead_words wr)) _,
      lex_parenthesized _ (rhs.lex_words wr) follows⟩
  | .unary op arg _, wf, rest, follows => by
    simp only [Expr.words, Scan.Lex]
    exact ⟨unary_lexes op (op.next_char (show arg.Parsable from wf) rest),
      lex_parenthesized _ (arg.lex_words wf) follows⟩
  | .update op arg before _, ⟨wf, _⟩, rest, follows => by
    cases before
    · simp only [Expr.words, Bool.false_eq_true, ↓reduceIte, lex_append, lex_singleton,
        spellAll_cons, spellAll_nil, List.append_nil, Word.token_spell]
      exact ⟨arg.lex_words wf _ (op.symbol_follows rest), update_lexes op rest⟩
    · simp only [Expr.words, ↓reduceIte, Scan.Lex]
      exact ⟨update_lexes op _, arg.lex_words wf rest follows⟩

theorem Expr.lex_listWords :
    (es : List Expr) → Expr.ListParsable es → ∀ rest, Follows rest →
    Scan.Lex (Expr.listWords es) rest
  | [], _, _, _ => trivial
  | [e], ⟨wf, _⟩, rest, follows => by
    rw [Expr.listWords]
    exact e.lex_words wf rest follows
  | e :: e' :: more, ⟨wf, wfs⟩, rest, follows => by
    obtain ⟨tail, words⟩ := Expr.listWords_cons e' more
    have leads : Leads (spellAll (Expr.listWords (e' :: more))) := by
      rw [words, spellAll_append]
      exact leads_append (e'.lead_words wfs.1) _
    simp only [Expr.listWords, lex_append, Scan.Lex, spellAll_cons, spellAll_nil, List.append_nil,
      Word.sym_spell, Word.space_spell, TokenKind.symbol?, Option.getD_some, String.reduceToList,
      List.cons_append, List.nil_append, and_true, and_assoc]
    exact ⟨e.lex_words wf _ (follows_cons _ (by decide)), sym_lexes (by decide) _,
      space_lexes leads _, Expr.lex_listWords (e' :: more) wfs rest follows⟩

theorem Expr.lex_entryWords : (es : List (MapKey × Expr)) → Expr.EntriesParsable es →
    ∀ rest, Follows rest → Scan.Lex (Expr.entryWords es) rest
  | [], _, _, _ => trivial
  | [(k, v)], ⟨wf, _⟩, rest, follows => by
    simp only [Expr.entryWords, Scan.Lex, spellAll_cons, Word.sym_spell, Word.space_spell,
      TokenKind.symbol?, Option.getD_some, String.reduceToList, List.cons_append, List.nil_append]
    exact ⟨trivial, sym_lexes (by decide) _, space_lexes (v.lead_words wf) _,
      v.lex_words wf rest follows⟩
  | (k, v) :: (k', v') :: more, ⟨wf, wfs⟩, rest, follows => by
    obtain ⟨tail, words⟩ := Expr.entryWords_cons k' v' more
    have leads : Leads (spellAll (Expr.entryWords ((k', v') :: more))) := by
      rw [words, spellAll_cons]
      simp only [Word.spell, quoteString_toList, List.cons_append]
      exact leads_cons _ (by decide) (by decide)
    simp only [Expr.entryWords, lex_append, Scan.Lex, spellAll_cons, spellAll_append,
      List.append_assoc, Word.sym_spell, Word.space_spell, TokenKind.symbol?, Option.getD_some,
      String.reduceToList, List.cons_append, List.nil_append]
    exact ⟨trivial, sym_lexes (by decide) _, space_lexes (v.lead_words wf) _,
      v.lex_words wf _ (follows_cons _ (by decide)), sym_lexes (by decide) _, space_lexes leads _,
      Expr.lex_entryWords ((k', v') :: more) wfs rest follows⟩

end

/-- The canonical text of a parsable expression scans as the tokens of its words, none of them a
comment, and the end of input. -/
theorem Expr.scan_format {e : Expr} (wf : e.Parsable) :
    ∃ (toks : List Token) (pos : Position), toks.map Token.shape = shapes e.words ∧
      (∀ t ∈ toks, t.kind ≠ .comment) ∧
        scan e.format = .ok (toks ++ [⟨.eof, "", pos⟩]) := by
  have text : e.format = String.ofList (spellAll e.words) := by
    rw [e.spell_words, String.ofList_toList]
  rw [text]
  exact scan_words (e.lex_words wf [] follows_nil)

end Quill
