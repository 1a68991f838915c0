set_option autoImplicit false

/-! Lone surrogates in text. A text of the language is a sequence of code points, and a code
point in U+D800–U+DFFF may stand in it on its own: a JSON escape such as `\ud800` makes one,
and the lexer keeps it inside a string. A Lean character is never such a code point, so a
text carries it as the private-use character exactly `0x100000` above it (U+10D800–U+10DFFF).
Everything that shows a code point to the outside (quoting for display, JSON and YAML escapes)
reads a carrier back as its surrogate; everything else treats it as a character that is not a
letter, digit, space or printable, as it treats a surrogate. -/
namespace Quill.Text

/-- How far above its surrogate a carrier lies. -/
def carrierShift : Nat := 0x100000

/-- Whether a code point is a surrogate. -/
def isSurrogate (n : Nat) : Bool := 0xD800 ≤ n && n < 0xE000

/-- The character of a code point: itself, or for a surrogate its carrier. -/
def charOfCode (n : Nat) : Char :=
  if isSurrogate n then Char.ofNat (n + carrierShift) else Char.ofNat n

/-- The surrogate a character carries, when it is a carrier. -/
def carried? (c : Char) : Option Nat :=
  if isSurrogate (c.toNat - carrierShift) && carrierShift ≤ c.toNat then
    some (c.toNat - carrierShift)
  else none

/-- The code point a character stands for in a text. -/
def codeOf (c : Char) : Nat := (carried? c).getD c.toNat

/-- A valid code point comes back from its character. -/
theorem toNat_ofNat_of_valid (m : Nat) (h : m.isValidChar) : (Char.ofNat m).toNat = m := by
  rw [Char.ofNat, dif_pos h]
  rfl

/-- Every surrogate comes back from its carrier. -/
theorem carried_charOfCode (n : Nat) (h : isSurrogate n = true) :
    carried? (charOfCode n) = some n := by
  have hs := h
  simp only [isSurrogate, Bool.and_eq_true, decide_eq_true_eq] at h
  have hv : (n + carrierShift).isValidChar := by
    unfold carrierShift Nat.isValidChar; omega
  have hc : (charOfCode n).toNat = n + carrierShift := by
    simp only [charOfCode, hs, if_true]; exact toNat_ofNat_of_valid _ hv
  simp only [carried?, hc, Nat.add_sub_cancel, hs, Bool.true_and]
  simp [carrierShift]

end Quill.Text
