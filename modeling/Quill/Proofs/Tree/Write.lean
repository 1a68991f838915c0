import Mathlib.Control.Monad.Basic
import Quill.Tree.Exchange

set_option autoImplicit false

/- The serializer's walk under the limit of the call stack. A tree's reach counts the levels the
walk goes above its own call; the walk writes the tree's data form exactly when the reach fits
the room left below the limit, and stops with a recursion error otherwise. -/
namespace Quill

@[simp] theorem except_ok_bind {ε α β : Type} (x : α) (f : α → Except ε β) :
    (Except.ok x >>= f) = f x := rfl

@[simp] theorem except_error_bind {ε α β : Type} (e : ε) (f : α → Except ε β) :
    (Except.error e >>= f) = .error e := rfl

@[simp] theorem except_throw {ε α : Type} (e : ε) : (throw e : Except ε α) = .error e := rfl

theorem except_bind_eq_ok {ε α β : Type} {x : Except ε α} {f : α → Except ε β} {b : β} :
    (x >>= f) = .ok b ↔ ∃ a, x = .ok a ∧ f a = .ok b := by
  cases x <;> simp

mutual

/-- How many levels above its own call the serializer's walk over a tree reaches. -/
def Node.reach : Node → Nat
  | .block body _ => Node.listReach body + 1
  | .assign t v _ => max t.reach v.reach + 1
  | .exprStmt e _ => e.reach + 1
  | .literal .. | .var .. | .identifier .. => 1
  | .member o prop _ _ => max o.reach prop.reach + 1
  | .call callee args _ => max callee.reach (Node.listReach args) + 1
  | .array items _ => Node.listReach items + 1
  | .map entries _ => Node.entriesReach entries + 1
  | .binary _ l r _ => max l.reach r.reach + 1
  | .unary _ a _ | .update _ a _ _ => a.reach + 1

/-- How many levels above a list's loop the walk over its nodes reaches. -/
def Node.listReach : List Node → Nat
  | [] => 0
  | n :: rest => max (n.reach + 1) (Node.listReach rest)

/-- How many levels above the loop over map entries the walk over their nodes reaches. -/
def Node.entriesReach : List (Node × Node) → Nat
  | [] => 0
  | (k, v) :: rest => max (max k.reach v.reach + 1) (Node.entriesReach rest)

end

theorem Node.reach_pos (n : Node) : 1 ≤ n.reach := by
  cases n <;> simp only [Node.reach] <;> omega

/- The serializer's walk and the reach recurse together over the tree, its lists of nodes and
its map entries. -/
mutual

theorem Node.dictIn_of_reach : (n : Node) → (room : Nat) → n.reach ≤ room →
    n.dictIn room = .ok n.toData
  | .block body p, room, fits => by
    simp only [Node.reach] at fits
    obtain ⟨r, rfl⟩ : ∃ r, room = r + 1 := ⟨room - 1, by omega⟩
    have body_fits := Node.listDictIn_of_reach body r (by omega)
    simp [Node.dictIn, Node.toData, body_fits]
  | .assign t v p, room, fits => by
    simp only [Node.reach] at fits
    obtain ⟨r, rfl⟩ : ∃ r, room = r + 1 := ⟨room - 1, by omega⟩
    have t_fits := Node.dictIn_of_reach t r (by omega)
    have v_fits := Node.dictIn_of_reach v r (by omega)
    simp [Node.dictIn, Node.toData, t_fits, v_fits]
  | .exprStmt e p, room, fits => by
    simp only [Node.reach] at fits
    obtain ⟨r, rfl⟩ : ∃ r, room = r + 1 := ⟨room - 1, by omega⟩
    simp [Node.dictIn, Node.toData, Node.dictIn_of_reach e r (by omega)]
  | .literal .., room, fits | .var .., room, fits | .identifier .., room, fits => by
    simp only [Node.reach] at fits
    obtain ⟨r, rfl⟩ : ∃ r, room = r + 1 := ⟨room - 1, by omega⟩
    rfl
  | .member o prop c p, room, fits => by
    simp only [Node.reach] at fits
    obtain ⟨r, rfl⟩ : ∃ r, room = r + 1 := ⟨room - 1, by omega⟩
    have o_fits := Node.dictIn_of_reach o r (by omega)
    have prop_fits := Node.dictIn_of_reach prop r (by omega)
    simp [Node.dictIn, Node.toData, o_fits, prop_fits]
  | .call callee args p, room, fits => by
    simp only [Node.reach] at fits
    obtain ⟨r, rfl⟩ : ∃ r, room = r + 1 := ⟨room - 1, by omega⟩
    have callee_fits := Node.dictIn_of_reach callee r (by omega)
    have args_fit := Node.listDictIn_of_reach args r (by omega)
    simp [Node.dictIn, Node.toData, callee_fits, args_fit]
  | .array items p, room, fits => by
    simp only [Node.reach] at fits
    obtain ⟨r, rfl⟩ : ∃ r, room = r + 1 := ⟨room - 1, by omega⟩
    simp [Node.dictIn, Node.toData, Node.listDictIn_of_reach items r (by omega)]
  | .map es p, room, fits => by
    simp only [Node.reach] at fits
    obtain ⟨r, rfl⟩ : ∃ r, room = r + 1 := ⟨room - 1, by omega⟩
    simp [Node.dictIn, Node.toData, Node.entriesDictIn_of_reach es r (by omega)]
  | .binary op l rhs p, room, fits => by
    have l_pos := l.reach_pos
    simp only [Node.reach] at fits
    obtain ⟨r, rfl⟩ : ∃ r, room = r + 2 := ⟨room - 2, by omega⟩
    have l_fits := Node.dictIn_of_reach l (r + 1) (by omega)
    have rhs_fits := Node.dictIn_of_reach rhs (r + 1) (by omega)
    simp [Node.dictIn, Node.toData, l_fits, rhs_fits]
  | .unary op a p, room, fits => by
    have a_pos := a.reach_pos
    simp only [Node.reach] at fits
    obtain ⟨r, rfl⟩ : ∃ r, room = r + 2 := ⟨room - 2, by omega⟩
    simp [Node.dictIn, Node.toData, Node.dictIn_of_reach a (r + 1) (by omega)]
  | .update op a b p, room, fits => by
    have a_pos := a.reach_pos
    simp only [Node.reach] at fits
    obtain ⟨r, rfl⟩ : ∃ r, room = r + 2 := ⟨room - 2, by omega⟩
    simp [Node.dictIn, Node.toData, Node.dictIn_of_reach a (r + 1) (by omega)]

theorem Node.listDictIn_of_reach : (ns : List Node) →
    (room : Nat) → Node.listReach ns ≤ room →
    Node.listDictIn room ns = .ok (Node.listData ns)
  | [], room, _ => by cases room <;> rfl
  | n :: rest, room, fits => by
    simp only [Node.listReach] at fits
    obtain ⟨q, rfl⟩ : ∃ q, room = q + 1 := ⟨room - 1, by omega⟩
    have n_fits := Node.dictIn_of_reach n q (by omega)
    have rest_fits := Node.listDictIn_of_reach rest (q + 1) (by omega)
    simp [Node.listDictIn, Node.listData, n_fits, rest_fits]

theorem Node.entriesDictIn_of_reach : (es : List (Node × Node)) → (room : Nat) →
    Node.entriesReach es ≤ room → Node.entriesDictIn room es = .ok (Node.entriesData es)
  | [], room, _ => by cases room <;> rfl
  | (k, v) :: rest, room, fits => by
    simp only [Node.entriesReach] at fits
    obtain ⟨q, rfl⟩ : ∃ q, room = q + 1 := ⟨room - 1, by omega⟩
    have k_fits := Node.dictIn_of_reach k q (by omega)
    have v_fits := Node.dictIn_of_reach v q (by omega)
    have rest_fits := Node.entriesDictIn_of_reach rest (q + 1) (by omega)
    simp [Node.entriesDictIn, Node.entriesData, k_fits, v_fits, rest_fits]

end

mutual

theorem Node.reach_le_of_dictIn : (n : Node) → (room : Nat) → (d : Data) →
    n.dictIn room = .ok d → n.reach ≤ room
  | n, 0, _, returns => by cases n <;> simp [Node.dictIn] at returns
  | .block body _, r + 1, _, returns => by
    simp only [Node.dictIn, except_bind_eq_ok] at returns
    obtain ⟨ds, body_returns, -⟩ := returns
    have := Node.listReach_le_of_listDictIn body r ds body_returns
    simp only [Node.reach]
    omega
  | .assign t v _, r + 1, _, returns => by
    simp only [Node.dictIn, except_bind_eq_ok] at returns
    obtain ⟨td, t_returns, vd, v_returns, -⟩ := returns
    have := Node.reach_le_of_dictIn t r td t_returns
    have := Node.reach_le_of_dictIn v r vd v_returns
    simp only [Node.reach]
    omega
  | .exprStmt e _, r + 1, _, returns => by
    simp only [Node.dictIn, except_bind_eq_ok] at returns
    obtain ⟨ed, e_returns, -⟩ := returns
    have := Node.reach_le_of_dictIn e r ed e_returns
    simp only [Node.reach]
    omega
  | .literal .., r + 1, _, _ | .var .., r + 1, _, _ | .identifier .., r + 1, _, _ => by
    simp only [Node.reach]
    omega
  | .member o prop _ _, r + 1, _, returns => by
    simp only [Node.dictIn, except_bind_eq_ok] at returns
    obtain ⟨od, o_returns, pd, prop_returns, -⟩ := returns
    have := Node.reach_le_of_dictIn o r od o_returns
    have := Node.reach_le_of_dictIn prop r pd prop_returns
    simp only [Node.reach]
    omega
  | .call callee args _, r + 1, _, returns => by
    simp only [Node.dictIn, except_bind_eq_ok] at returns
    obtain ⟨cd, callee_returns, ads, args_return, -⟩ := returns
    have := Node.reach_le_of_dictIn callee r cd callee_returns
    have := Node.listReach_le_of_listDictIn args r ads args_return
    simp only [Node.reach]
    omega
  | .array items _, r + 1, _, returns => by
    simp only [Node.dictIn, except_bind_eq_ok] at returns
    obtain ⟨ds, items_return, -⟩ := returns
    have := Node.listReach_le_of_listDictIn items r ds items_return
    simp only [Node.reach]
    omega
  | .map es _, r + 1, _, returns => by
    simp only [Node.dictIn, except_bind_eq_ok] at returns
    obtain ⟨ds, es_return, -⟩ := returns
    have := Node.entriesReach_le_of_entriesDictIn es r ds es_return
    simp only [Node.reach]
    omega
  | .binary .., 1, _, returns | .unary .., 1, _, returns | .update .., 1, _, returns => by
    simp [Node.dictIn] at returns
  | .binary _ l rhs _, r + 2, _, returns => by
    simp only [Node.dictIn, except_bind_eq_ok] at returns
    obtain ⟨ld, l_returns, rd, rhs_returns, -⟩ := returns
    have := Node.reach_le_of_dictIn l (r + 1) ld l_returns
    have := Node.reach_le_of_dictIn rhs (r + 1) rd rhs_returns
    simp only [Node.reach]
    omega
  | .unary _ a _, r + 2, _, returns => by
    simp only [Node.dictIn, except_bind_eq_ok] at returns
    obtain ⟨ad, a_returns, -⟩ := returns
    have := Node.reach_le_of_dictIn a (r + 1) ad a_returns
    simp only [Node.reach]
    omega
  | .update _ a _ _, r + 2, _, returns => by
    simp only [Node.dictIn, except_bind_eq_ok] at returns
    obtain ⟨ad, a_returns, -⟩ := returns
    have := Node.reach_le_of_dictIn a (r + 1) ad a_returns
    simp only [Node.reach]
    omega

theorem Node.listReach_le_of_listDictIn : (ns : List Node) → (room : Nat) → (ds : List Data) →
    Node.listDictIn room ns = .ok ds → Node.listReach ns ≤ room
  | [], _, _, _ => Nat.zero_le _
  | _ :: _, 0, _, returns => by simp [Node.listDictIn] at returns
  | n :: rest, q + 1, _, returns => by
    simp only [Node.listDictIn, except_bind_eq_ok] at returns
    obtain ⟨x, n_returns, xs, rest_return, -⟩ := returns
    have := Node.reach_le_of_dictIn n q x n_returns
    have := Node.listReach_le_of_listDictIn rest (q + 1) xs rest_return
    simp only [Node.listReach]
    omega

theorem Node.entriesReach_le_of_entriesDictIn : (es : List (Node × Node)) → (room : Nat) →
    (ds : List Data) → Node.entriesDictIn room es = .ok ds → Node.entriesReach es ≤ room
  | [], _, _, _ => Nat.zero_le _
  | _ :: _, 0, _, returns => by simp [Node.entriesDictIn] at returns
  | (k, v) :: rest, q + 1, _, returns => by
    simp only [Node.entriesDictIn, except_bind_eq_ok] at returns
    obtain ⟨kd, k_returns, vd, v_returns, xs, rest_return, -⟩ := returns
    have := Node.reach_le_of_dictIn k q kd k_returns
    have := Node.reach_le_of_dictIn v q vd v_returns
    have := Node.entriesReach_le_of_entriesDictIn rest (q + 1) xs rest_return
    simp only [Node.entriesReach]
    omega

end

/-- The serializer writes a tree's data form exactly when the tree's reach fits the room. -/
theorem Node.dictIn_eq_ok_iff (n : Node) (room : Nat) (d : Data) :
    n.dictIn room = .ok d ↔ n.reach ≤ room ∧ d = n.toData := by
  constructor
  · intro returns
    have fits := Node.reach_le_of_dictIn n room d returns
    rw [Node.dictIn_of_reach n room fits] at returns
    exact ⟨fits, (Except.ok.inj returns).symm⟩
  · rintro ⟨fits, rfl⟩
    exact Node.dictIn_of_reach n room fits

/-- A tree that reaches further than the room is not written: the serializer stops with a
recursion error. -/
theorem Node.dictIn_overflow {n : Node} {room : Nat} (deep : room < n.reach) :
    ∃ o, n.dictIn room = .error o := by
  cases written : n.dictIn room with
  | error o => exact ⟨o, rfl⟩
  | ok d => exact absurd (Node.reach_le_of_dictIn n room d written) (by omega)

/-- The serializer called at depth `depth` writes a tree's data form exactly when the tree's reach
fits below the limit of the call stack. -/
theorem Node.dictAt_eq_ok_iff (n : Node) (depth : Nat) (d : Data) :
    n.dictAt depth = .ok d ↔ n.reach + depth ≤ Parse.stackLimit ∧ d = n.toData := by
  have reaches := n.reach_pos
  rw [Node.dictAt, Node.dictIn_eq_ok_iff]
  constructor <;> rintro ⟨fits, rfl⟩ <;> exact ⟨by omega, rfl⟩

theorem Node.dictAt_overflow {n : Node} {depth : Nat} (deep : Parse.stackLimit < n.reach + depth) :
    ∃ o, n.dictAt depth = .error o := by
  have reaches := n.reach_pos
  unfold Node.dictAt
  exact Node.dictIn_overflow (by omega)

end Quill
