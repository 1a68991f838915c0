import Quill.Proofs.Parse.Spec
import Quill.Proofs.Scan.Words

set_option autoImplicit false

/- What a cursor reads, by the kinds and texts of its tokens, so that a parser that reads a token
of a known shape can be specified without naming the token. -/
namespace Quill

namespace Cursor

variable {c : Cursor} {k : TokenKind × String} {ks : List (TokenKind × String)}

/-- The tokens from the current one on. -/
def ahead (c : Cursor) : List Token := c.items.toList.drop c.index

/-- The cursor reads tokens of the shapes `ks`, from the current one to the end of input. -/
def Shows (c : Cursor) (ks : List (TokenKind × String)) : Prop := c.ahead.map Token.shape = ks

theorem Shows.index_lt (shows : c.Shows (k :: ks)) : c.index < c.items.size := by
  rcases Nat.lt_or_ge c.index c.items.size with lt | past
  · exact lt
  · have empty : c.ahead = [] := by simp [ahead]; omega
    simp [Shows, empty] at shows

theorem Shows.getElem (shows : c.Shows ks) (i : Nat) (inside : i < ks.length) :
    ∃ h : c.index + i < c.items.size, c.items[c.index + i].shape = ks[i] := by
  have length : ks.length = c.items.size - c.index := by
    rw [← shows]
    simp [ahead]
  refine ⟨by omega, ?_⟩
  have entry := congrArg (·[i]?) shows
  simp only [ahead, List.getElem?_map, List.getElem?_drop, Array.getElem?_toList] at entry
  rw [Array.getElem?_eq_getElem (by omega), List.getElem?_eq_getElem inside] at entry
  simpa using entry

theorem Shows.peek (shows : c.Shows ks) (i : Nat) (inside : i < ks.length) :
    (c.peek i).shape = ks[i] := by
  obtain ⟨lt, same⟩ := shows.getElem i inside
  simp [Cursor.peek, lt, same]

theorem Shows.current (shows : c.Shows (k :: ks)) : c.current.shape = k :=
  shows.peek 0 (by simp)

theorem Shows.kind (shows : c.Shows (k :: ks)) : c.current.kind = k.1 := by
  have same := shows.current
  simp only [Token.shape] at same
  rw [← same]

theorem Shows.atEnd (shows : c.Shows (k :: ks)) : c.atEnd = (k.1 == .eof) := by
  simp [Cursor.atEnd, shows.kind]

theorem Shows.test (shows : c.Shows (k :: ks)) (k' : TokenKind) : c.test k' = (k.1 == k') := by
  simp [Cursor.test, shows.kind]

theorem Shows.testAny (shows : c.Shows (k :: ks)) (kinds : List TokenKind) :
    c.testAny kinds = kinds.contains k.1 := by
  simp [Cursor.testAny, shows.kind]

theorem Shows.advance (shows : c.Shows (k :: ks)) (live : k.1 ≠ .eof) : c.advance.Shows ks := by
  have lt := shows.index_lt
  have moved : c.advance = { c with index := c.index + 1 } := by
    simp [Cursor.advance, shows.atEnd, live]
  rw [moved]
  unfold Shows ahead at *
  rw [← List.drop_drop, List.map_drop, shows]
  rfl

/-- A cursor over tokens with no comment, the last of them the end of input, reads them all. -/
theorem ofTokens_shows {front : List Token} (plain : ∀ t ∈ front, t.kind ≠ .comment)
    (pos : Position) :
    (Cursor.ofTokens (front ++ [⟨.eof, "", pos⟩])).Shows
      (front.map Token.shape ++ [(.eof, "")]) := by
  have kept : (front ++ [(⟨.eof, "", pos⟩ : Token)]).filter (fun t => t.kind != .comment) =
      front ++ [⟨.eof, "", pos⟩] := by
    rw [List.filter_eq_self]
    intro t mem
    simp only [List.mem_append, List.mem_singleton] at mem
    rcases mem with mem | rfl
    · simpa using plain t mem
    · rfl
  have whole : readable (front ++ [(⟨.eof, "", pos⟩ : Token)]) = front ++
    [⟨.eof, "", pos⟩] := by
    simp only [readable]
    rw [kept]
    simp
  simp [Shows, ahead, Cursor.ofTokens, whole, Token.shape]

end Cursor

namespace Parser.Spec

open Cursor

variable {α : Type} {allow : ParseFailure → Prop} {d : Nat} {c : Cursor}
  {ks : List (TokenKind × String)}

theorem current_shows {k : TokenKind × String} {R : Token → Cursor → Prop}
    (shows : c.Shows (k :: ks)) (next : ∀ t, t.shape = k → R t c) :
    Spec allow Parse.current d c R :=
  spec_current.mpr (next _ shows.current)

theorem take_shows {k : TokenKind × String} {R : Token → Cursor → Prop}
    (shows : c.Shows (k :: ks)) (live : k.1 ≠ .eof)
    (next : ∀ t c', t.shape = k → c'.Shows ks → R t c') : Spec allow Parse.take d c R :=
  spec_take.mpr (next _ _ shows.current (shows.advance live))

theorem expect_shows {kind : TokenKind} {text reason : String} {R : Token → Cursor → Prop}
    (shows : c.Shows ((kind, text) :: ks)) (live : kind ≠ .eof)
    (next : ∀ t c', t.kind = kind → t.text = text → c'.Shows ks → R t c') :
    Spec allow (Parse.expect kind reason) d c R := by
  have found : c.test kind = true := by simp [shows.test]
  have same := shows.current
  simp only [Token.shape, Prod.mk.injEq] at same
  exact spec_expect.mpr ⟨fun _ => next _ _ same.1 same.2 (shows.advance live),
    fun missing => absurd found (by simp [missing])⟩

theorem expectOneOf_shows {kind : TokenKind} {text : String} {kinds : List TokenKind}
    {R : Token → Cursor → Prop} (shows : c.Shows ((kind, text) :: ks)) (mem : kind ∈ kinds)
    (live : kind ≠ .eof)
      (next : ∀ t c', t.kind = kind → t.text = text → c'.Shows ks → R t c') :
    Spec allow (Parse.expectOneOf kinds) d c R := by
  have found : c.testAny kinds = true := by simp [shows.testAny, mem]
  have same := shows.current
  simp only [Token.shape, Prod.mk.injEq] at same
  exact spec_expectOneOf.mpr ⟨fun _ => next _ _ same.1 same.2 (shows.advance live),
    fun missing => absurd found (by simp [missing])⟩

end Parser.Spec

end Quill
