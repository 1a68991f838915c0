import Quill.Proofs.Tree.Write

set_option autoImplicit false

/- Reading a tree back from its data form under the limit of the call stack. The loader reads each
node three levels further up than the serializer writes it, so the data form of a tree reads back
as the tree exactly when the tree's reach and those three levels fit the room, and stops with a
recursion error otherwise. A parsed program, expression or statement writes the data form of its
loaded tree. -/
namespace Quill

@[simp] theorem BinaryOp.ofName?_name (op : BinaryOp) : BinaryOp.ofName? op.name = some op := by
  cases op <;> rfl

@[simp] theorem UnaryOp.ofName?_name (op : UnaryOp) : UnaryOp.ofName? op.name = some op := by
  cases op <;> rfl

@[simp] theorem UpdateOp.ofName?_name (op : UpdateOp) : UpdateOp.ofName? op.name = some op := by
  cases op <;> rfl

@[simp] theorem placeIn_toData (r : Nat) (p : Place) : Load.placeIn (r + 4) p.toData = .ok p := by
  simp [Load.placeIn, Place.toData, Load.field]

/- The loader and the data form recurse together over the tree, its lists of nodes and its map
entries; the loader reads each node three levels further up than the serializer writes it. -/
theorem placeIn_toData_of_lt (p : Place) : (room : Nat) → room < 4 →
    ∃ o, Load.placeIn room p.toData = .error (.tooDeep o)
  | 0, _ => ⟨.direct, rfl⟩
  | 1, _ => ⟨.objectCall, by simp [Load.placeIn, Place.toData, Load.field]⟩
  | 2, _ => ⟨.direct, by simp [Load.placeIn, Place.toData, Load.field]⟩
  | 3, _ => ⟨.objectCall, by simp [Load.placeIn, Place.toData, Load.field]⟩
  | _ + 4, shallow => absurd shallow (by omega)

theorem Node.field_kind (n : Node) : Load.field n.toData "kind" = .ok (.text n.kindName) := by
  cases n <;> simp [Node.toData, placedData, Load.field, Node.kindName]

theorem Node.field_position (n : Node) : Load.field n.toData "position" = .ok n.place.toData := by
  cases n <;> simp [Node.toData, placedData, Load.field, Node.place]

/-- The loader reads a node's kind and position before anything else, so a position it cannot
read stops it there. -/
theorem Load.node_of_placeIn_error {room : Nat} {d kind pd : Data} {e : LoadError}
    (kinded : Load.field d "kind" = .ok kind) (placed : Load.field d "position" = .ok pd)
    (stops : Load.placeIn room pd = .error e) : Load.node room d = .error e := by
  rw [Load.node]
  simp [kinded, placed, stops]

theorem Load.node_toData_of_lt (n : Node) {room : Nat} (shallow : room < 4) :
    ∃ o, Load.node room n.toData = .error (.tooDeep o) := by
  obtain ⟨o, stops⟩ := placeIn_toData_of_lt n.place room shallow
  exact ⟨o, Load.node_of_placeIn_error n.field_kind n.field_position stops⟩

mutual

theorem load_node_toData : (x : Node) → (room : Nat) → x.reach + 3 ≤ room →
    Load.node room x.toData = .ok x
  | .block body p, room, fits => by
    simp only [Node.reach] at fits
    obtain ⟨r, rfl⟩ : ∃ r, room = r + 4 := ⟨room - 4, by omega⟩
    have body_loads := load_nodes_listData body (r + 2) (by omega)
    rw [Load.node]
    simp [Node.toData, Load.field, placedData, Load.items, Load.fieldOrEmpty, Data.get?, body_loads]
  | .assign t v p, room, fits => by
    simp only [Node.reach] at fits
    obtain ⟨r, rfl⟩ : ∃ r, room = r + 4 := ⟨room - 4, by omega⟩
    have t_loads := load_node_toData t (r + 3) (by omega)
    have v_loads := load_node_toData v (r + 3) (by omega)
    rw [Load.node]
    simp [Node.toData, Load.field, placedData, t_loads, v_loads]
  | .exprStmt e p, room, fits => by
    simp only [Node.reach] at fits
    obtain ⟨r, rfl⟩ : ∃ r, room = r + 4 := ⟨room - 4, by omega⟩
    have e_loads := load_node_toData e (r + 3) (by omega)
    rw [Load.node]
    simp [Node.toData, Load.field, placedData, e_loads]
  | .literal v raw p, room, fits => by
    simp only [Node.reach] at fits
    obtain ⟨r, rfl⟩ : ∃ r, room = r + 4 := ⟨room - 4, by omega⟩
    rw [Load.node]
    simp [Node.toData, Load.field, placedData]
  | .var name p, room, fits => by
    simp only [Node.reach] at fits
    obtain ⟨r, rfl⟩ : ∃ r, room = r + 4 := ⟨room - 4, by omega⟩
    rw [Load.node]
    simp [Node.toData, Load.field, placedData]
  | .identifier name p, room, fits => by
    simp only [Node.reach] at fits
    obtain ⟨r, rfl⟩ : ∃ r, room = r + 4 := ⟨room - 4, by omega⟩
    rw [Load.node]
    simp [Node.toData, Load.field, placedData]
  | .member o prop c p, room, fits => by
    simp only [Node.reach] at fits
    obtain ⟨r, rfl⟩ : ∃ r, room = r + 4 := ⟨room - 4, by omega⟩
    have o_loads := load_node_toData o (r + 3) (by omega)
    have prop_loads := load_node_toData prop (r + 3) (by omega)
    rw [Load.node]
    simp [Node.toData, Load.field, placedData, o_loads, prop_loads, Data.truthy]
  | .call callee args p, room, fits => by
    simp only [Node.reach] at fits
    obtain ⟨r, rfl⟩ : ∃ r, room = r + 4 := ⟨room - 4, by omega⟩
    have callee_loads := load_node_toData callee (r + 3) (by omega)
    have args_load := load_nodes_listData args (r + 2) (by omega)
    rw [Load.node]
    simp [Node.toData, Load.field, placedData, Load.items, Load.fieldOrEmpty, Data.get?,
      callee_loads, args_load]
  | .array items p, room, fits => by
    simp only [Node.reach] at fits
    obtain ⟨r, rfl⟩ : ∃ r, room = r + 4 := ⟨room - 4, by omega⟩
    have items_load := load_nodes_listData items (r + 2) (by omega)
    rw [Load.node]
    simp [Node.toData, Load.field, placedData, Load.items, Load.fieldOrEmpty, Data.get?,
      items_load]
  | .map es p, room, fits => by
    simp only [Node.reach] at fits
    obtain ⟨r, rfl⟩ : ∃ r, room = r + 4 := ⟨room - 4, by omega⟩
    have es_load := load_entries_entriesData es (r + 2) (by omega)
    rw [Load.node]
    simp [Node.toData, Load.field, placedData, Load.items, Load.fieldOrEmpty, Data.get?, es_load]
  | .binary op l rhs p, room, fits => by
    simp only [Node.reach] at fits
    obtain ⟨r, rfl⟩ : ∃ r, room = r + 4 := ⟨room - 4, by omega⟩
    have l_loads := load_node_toData l (r + 3) (by omega)
    have rhs_loads := load_node_toData rhs (r + 3) (by omega)
    rw [Load.node]
    simp [Node.toData, Load.field, placedData, Load.operator, l_loads, rhs_loads]
  | .unary op a p, room, fits => by
    simp only [Node.reach] at fits
    obtain ⟨r, rfl⟩ : ∃ r, room = r + 4 := ⟨room - 4, by omega⟩
    have a_loads := load_node_toData a (r + 3) (by omega)
    rw [Load.node]
    simp [Node.toData, Load.field, placedData, Load.operator, a_loads]
  | .update op a b p, room, fits => by
    simp only [Node.reach] at fits
    obtain ⟨r, rfl⟩ : ∃ r, room = r + 4 := ⟨room - 4, by omega⟩
    have a_loads := load_node_toData a (r + 3) (by omega)
    rw [Load.node]
    simp [Node.toData, Load.field, placedData, Load.operator, a_loads, Data.truthy]

theorem load_nodes_listData : (xs : List Node) →
    (room : Nat) → Node.listReach xs + 2 ≤ room →
    Load.nodes room (Node.listData xs) = .ok xs
  | [], _, _ => by simp [Node.listData, Load.nodes]
  | x :: rest, room, fits => by
    simp only [Node.listReach] at fits
    have x_loads := load_node_toData x room (by omega)
    have rest_loads := load_nodes_listData rest room (by omega)
    simp [Node.listData, Load.nodes, x_loads, rest_loads]

theorem load_entries_entriesData : (es : List (Node × Node)) → (room : Nat) →
    Node.entriesReach es + 2 ≤ room → Load.entries room (Node.entriesData es) = .ok es
  | [], _, _ => by simp [Node.entriesData, Load.entries]
  | (k, v) :: rest, room, fits => by
    simp only [Node.entriesReach] at fits
    have k_loads := load_node_toData k room (by omega)
    have v_loads := load_node_toData v room (by omega)
    have rest_loads := load_entries_entriesData rest room (by omega)
    simp [Node.entriesData, Load.entries, Load.field, k_loads, v_loads, rest_loads]

end

/-- A node's reading stops with a recursion error wherever it stops so in every room of four
levels or more, since with less it cannot read the node's position. -/
theorem Load.node_tooDeep_of_roomy {n : Node} {room : Nat}
    (roomy : ∀ r, room = r + 4 → ∃ o, Load.node (r + 4) n.toData = .error (.tooDeep o)) :
    ∃ o, Load.node room n.toData = .error (.tooDeep o) := by
  rcases Nat.lt_or_ge room 4 with shallow | deep
  · exact Load.node_toData_of_lt n shallow
  · obtain ⟨r, rfl⟩ : ∃ r, room = r + 4 := ⟨room - 4, by omega⟩
    exact roomy r rfl

/- Past the room, the reading stops at the first node that does not fit: every node before it,
in the order the loader reads, fits and reads back. -/
mutual

theorem load_node_tooDeep : (x : Node) → (room : Nat) → room < x.reach + 3 →
    ∃ o, Load.node room x.toData = .error (.tooDeep o)
  | .block body p, room, deep => by
    refine Load.node_tooDeep_of_roomy fun r roomy => ?_
    simp only [Node.reach, roomy] at deep
    obtain ⟨o, body_deep⟩ := load_nodes_tooDeep body (r + 2) (by omega) (by omega)
    refine ⟨o, ?_⟩
    rw [Load.node]
    simp [Node.toData, Load.field, placedData, Load.items, Load.fieldOrEmpty, Data.get?, body_deep]
  | .assign t v p, room, deep => by
    refine Load.node_tooDeep_of_roomy fun r roomy => ?_
    simp only [Node.reach, roomy] at deep
    rw [Load.node]
    by_cases t_fits : t.reach + 3 ≤ r + 3
    · obtain ⟨o, v_deep⟩ := load_node_tooDeep v (r + 3) (by omega)
      exact ⟨o, by
        simp [Node.toData, Load.field, placedData, load_node_toData t _ t_fits, v_deep]⟩
    · obtain ⟨o, t_deep⟩ := load_node_tooDeep t (r + 3) (by omega)
      exact ⟨o, by simp [Node.toData, Load.field, placedData, t_deep]⟩
  | .exprStmt e p, room, deep => by
    refine Load.node_tooDeep_of_roomy fun r roomy => ?_
    simp only [Node.reach, roomy] at deep
    obtain ⟨o, e_deep⟩ := load_node_tooDeep e (r + 3) (by omega)
    refine ⟨o, ?_⟩
    rw [Load.node]
    simp [Node.toData, Load.field, placedData, e_deep]
  | .literal .., room, deep | .var .., room, deep | .identifier .., room, deep =>
    Load.node_toData_of_lt _ (by simp only [Node.reach] at deep; omega)
  | .member o prop c p, room, deep => by
    refine Load.node_tooDeep_of_roomy fun r roomy => ?_
    simp only [Node.reach, roomy] at deep
    rw [Load.node]
    by_cases o_fits : o.reach + 3 ≤ r + 3
    · obtain ⟨e, prop_deep⟩ := load_node_tooDeep prop (r + 3) (by omega)
      exact ⟨e, by simp [Node.toData, Load.field, placedData, load_node_toData o _ o_fits,
        prop_deep]⟩
    · obtain ⟨e, o_deep⟩ := load_node_tooDeep o (r + 3) (by omega)
      exact ⟨e, by simp [Node.toData, Load.field, placedData, o_deep]⟩
  | .call callee args p, room, deep => by
    refine Load.node_tooDeep_of_roomy fun r roomy => ?_
    simp only [Node.reach, roomy] at deep
    rw [Load.node]
    by_cases callee_fits : callee.reach + 3 ≤ r + 3
    · obtain ⟨o, args_deep⟩ := load_nodes_tooDeep args (r + 2) (by omega) (by omega)
      exact ⟨o, by simp [Node.toData, Load.field, placedData, Load.items, Load.fieldOrEmpty,
        Data.get?, load_node_toData callee _ callee_fits, args_deep]⟩
    · obtain ⟨o, callee_deep⟩ := load_node_tooDeep callee (r + 3) (by omega)
      exact ⟨o, by simp [Node.toData, Load.field, placedData, callee_deep]⟩
  | .array items p, room, deep => by
    refine Load.node_tooDeep_of_roomy fun r roomy => ?_
    simp only [Node.reach, roomy] at deep
    obtain ⟨o, items_deep⟩ := load_nodes_tooDeep items (r + 2) (by omega) (by omega)
    refine ⟨o, ?_⟩
    rw [Load.node]
    simp [Node.toData, Load.field, placedData, Load.items, Load.fieldOrEmpty, Data.get?,
      items_deep]
  | .map es p, room, deep => by
    refine Load.node_tooDeep_of_roomy fun r roomy => ?_
    simp only [Node.reach, roomy] at deep
    obtain ⟨o, es_deep⟩ := load_entries_tooDeep es (r + 2) (by omega) (by omega)
    refine ⟨o, ?_⟩
    rw [Load.node]
    simp [Node.toData, Load.field, placedData, Load.items, Load.fieldOrEmpty, Data.get?, es_deep]
  | .binary op l rhs p, room, deep => by
    refine Load.node_tooDeep_of_roomy fun r roomy => ?_
    simp only [Node.reach, roomy] at deep
    rw [Load.node]
    by_cases l_fits : l.reach + 3 ≤ r + 3
    · obtain ⟨o, rhs_deep⟩ := load_node_tooDeep rhs (r + 3) (by omega)
      exact ⟨o, by simp [Node.toData, Load.field, placedData, Load.operator,
        load_node_toData l _ l_fits, rhs_deep]⟩
    · obtain ⟨o, l_deep⟩ := load_node_tooDeep l (r + 3) (by omega)
      exact ⟨o, by simp [Node.toData, Load.field, placedData, Load.operator, l_deep]⟩
  | .unary op a p, room, deep => by
    refine Load.node_tooDeep_of_roomy fun r roomy => ?_
    simp only [Node.reach, roomy] at deep
    obtain ⟨o, a_deep⟩ := load_node_tooDeep a (r + 3) (by omega)
    refine ⟨o, ?_⟩
    rw [Load.node]
    simp [Node.toData, Load.field, placedData, Load.operator, a_deep]
  | .update op a b p, room, deep => by
    refine Load.node_tooDeep_of_roomy fun r roomy => ?_
    simp only [Node.reach, roomy] at deep
    obtain ⟨o, a_deep⟩ := load_node_tooDeep a (r + 3) (by omega)
    refine ⟨o, ?_⟩
    rw [Load.node]
    simp [Node.toData, Load.field, placedData, Load.operator, a_deep]

theorem load_nodes_tooDeep : (xs : List Node) → (room : Nat) → 2 ≤ room →
    room < Node.listReach xs + 2 → ∃ o, Load.nodes room (Node.listData xs) = .error (.tooDeep o)
  | [], room, roomy, deep => by simp only [Node.listReach] at deep; omega
  | x :: rest, room, roomy, deep => by
    simp only [Node.listReach] at deep
    by_cases x_fits : x.reach + 3 ≤ room
    · obtain ⟨o, rest_deep⟩ := load_nodes_tooDeep rest room roomy (by omega)
      exact ⟨o, by simp [Node.listData, Load.nodes, load_node_toData x _ x_fits, rest_deep]⟩
    · obtain ⟨o, x_deep⟩ := load_node_tooDeep x room (by omega)
      exact ⟨o, by simp [Node.listData, Load.nodes, x_deep]⟩

theorem load_entries_tooDeep : (es : List (Node × Node)) → (room : Nat) → 2 ≤ room →
    room < Node.entriesReach es + 2 →
    ∃ o, Load.entries room (Node.entriesData es) = .error (.tooDeep o)
  | [], room, roomy, deep => by simp only [Node.entriesReach] at deep; omega
  | (k, v) :: rest, room, roomy, deep => by
    simp only [Node.entriesReach] at deep
    by_cases k_fits : k.reach + 3 ≤ room
    · by_cases v_fits : v.reach + 3 ≤ room
      · obtain ⟨o, rest_deep⟩ := load_entries_tooDeep rest room roomy (by omega)
        exact ⟨o, by simp [Node.entriesData, Load.entries, Load.field,
          load_node_toData k _ k_fits, load_node_toData v _ v_fits, rest_deep]⟩
      · obtain ⟨o, v_deep⟩ := load_node_tooDeep v room (by omega)
        exact ⟨o, by simp [Node.entriesData, Load.entries, Load.field,
          load_node_toData k _ k_fits, v_deep]⟩
    · obtain ⟨o, k_deep⟩ := load_node_tooDeep k room (by omega)
      exact ⟨o, by simp [Node.entriesData, Load.entries, Load.field, k_deep]⟩

end

/-- The loader called at depth `depth` reads a tree's data form back as the tree exactly when the
tree's reach and three levels more fit below the limit of the call stack. -/
theorem Node.ofDataAt_toData_eq_ok_iff (n m : Node) (depth : Nat) :
    Node.ofDataAt depth n.toData = .ok m ↔ n.reach + 3 + depth ≤ Parse.stackLimit ∧
      m = n := by
  unfold Node.ofDataAt
  constructor
  · intro reads
    by_cases fits : n.reach + 3 + depth ≤ Parse.stackLimit
    · rw [load_node_toData n (Parse.stackLimit - depth) (by omega)] at reads
      exact ⟨fits, (Except.ok.inj reads).symm⟩
    · obtain ⟨o, stops⟩ := load_node_tooDeep n (Parse.stackLimit - depth) (by omega)
      rw [stops] at reads
      cases reads
  · rintro ⟨fits, rfl⟩
    exact load_node_toData m (Parse.stackLimit - depth) (by omega)

theorem Node.ofDataAt_toData_tooDeep {n : Node} {depth : Nat}
    (deep : Parse.stackLimit < n.reach + 3 + depth) :
    ∃ o, Node.ofDataAt depth n.toData = .error (.tooDeep o) :=
  load_node_tooDeep n (Parse.stackLimit - depth) (by omega)

/- The loaded tree of an expression writes the expression's own data form, so it is the tree
that data describes. -/
mutual

theorem Expr.toNode_toData : (e : Expr) → e.toNode.toData = e.toData
  | .literal v raw p => rfl
  | .var name p => rfl
  | .field obj name namePos p => by
    simp only [Expr.toNode, Node.toData, Expr.toData, Expr.toNode_toData obj]
    rfl
  | .index obj key p => by
    simp only [Expr.toNode, Node.toData, Expr.toData, Expr.toNode_toData obj,
      Expr.toNode_toData key]
    rfl
  | .call callee args p => by
    simp only [Expr.toNode, Node.toData, Expr.toData, Expr.toNode_toData callee,
      Expr.listNode_listData args]
    rfl
  | .array items p => by
    simp only [Expr.toNode, Node.toData, Expr.toData, Expr.listNode_listData items]
    rfl
  | .map entries p => by
    simp only [Expr.toNode, Node.toData, Expr.toData, Expr.entriesNode_entriesData entries]
    rfl
  | .binary op l r p => by
    simp only [Expr.toNode, Node.toData, Expr.toData, Expr.toNode_toData l, Expr.toNode_toData r]
    rfl
  | .unary op a p => by
    simp only [Expr.toNode, Node.toData, Expr.toData, Expr.toNode_toData a]
    rfl
  | .update op a b p => by
    simp only [Expr.toNode, Node.toData, Expr.toData, Expr.toNode_toData a]
    rfl

theorem Expr.listNode_listData :
    (es : List Expr) → Node.listData (Expr.listNode es) = Expr.listData es
  | [] => rfl
  | e :: rest => by
    simp only [Expr.listNode, Node.listData, Expr.listData, Expr.toNode_toData e,
      Expr.listNode_listData rest]

theorem Expr.entriesNode_entriesData : (es : List (MapKey × Expr)) →
    Node.entriesData (Expr.entriesNode es) = Expr.entriesData es
  | [] => rfl
  | (k, v) :: rest => by
    simp only [Expr.entriesNode, Node.entriesData, Expr.entriesData, Expr.toNode_toData v,
      Expr.entriesNode_entriesData rest]
    rfl

end

mutual

theorem Stmt.toNode_toData : (s : Stmt) → s.toNode.toData = s.toData
  | .assign name value p => by
    simp only [Stmt.toNode, Node.toData, Stmt.toData, Expr.toNode_toData value]
    rfl
  | .expr e p => by
    simp only [Stmt.toNode, Node.toData, Stmt.toData, Expr.toNode_toData e]
    rfl
  | .block body p => by
    simp only [Stmt.toNode, Node.toData, Stmt.toData, Stmt.listNode_listData body]
    rfl

theorem Stmt.listNode_listData :
    (ss : List Stmt) → Node.listData (Stmt.listNode ss) = Stmt.listData ss
  | [] => rfl
  | s :: rest => by
    simp only [Stmt.listNode, Node.listData, Stmt.listData, Stmt.toNode_toData s,
      Stmt.listNode_listData rest]

end

theorem Program.toNode_toData (prog : Program) : prog.toNode.toData = prog.toData := by
  simp only [Program.toNode, Node.toData, Program.toData, Stmt.listNode_listData]
  rfl

theorem Data.toJsonAt_eq_ok_iff (depth : Nat) (width : Option Int) (d : Data) (t : String) :
    Data.toJsonAt depth width d = .ok t ↔
      Json.encoderFits depth width d = true ∧ t = d.toJson width := by
  unfold Data.toJsonAt
  by_cases fits : Json.encoderFits depth width d = true
  · simp [fits, eq_comm]
  · simp [fits]

/-- The JSON text of a tree is written exactly when the serializer and then the encoder fit
below the limit of the call stack. -/
theorem Node.toJsonText_eq_ok_iff (n : Node) (depth : Nat) (width : Option Int) (t : String) :
    n.toJsonText depth width = .ok t ↔ n.reach + depth ≤ Parse.stackLimit ∧
      Json.encoderFits depth width n.toData = true ∧ t = n.toData.toJson width := by
  unfold Node.toJsonText
  rw [except_bind_eq_ok]
  constructor
  · rintro ⟨d, written, encoded⟩
    obtain ⟨fits, rfl⟩ := (Node.dictAt_eq_ok_iff n depth d).mp written
    exact ⟨fits, (Data.toJsonAt_eq_ok_iff depth width _ t).mp encoded⟩
  · rintro ⟨fits, encodes, rfl⟩
    exact ⟨n.toData, (Node.dictAt_eq_ok_iff n depth _).mpr ⟨fits, rfl⟩,
      (Data.toJsonAt_eq_ok_iff depth width _ _).mpr ⟨encodes, rfl⟩⟩

/-- A JSON text that reads as the data form of a tree whose reading fits reads back as the
tree. -/
theorem Node.ofJsonText_of_reads {n : Node} {depth : Nat} {t : String}
    (fits : n.reach + 3 + depth ≤ Parse.stackLimit) (reads : Data.ofJson t = .ok n.toData) :
    Node.ofJsonText depth t = .ok n := by
  have loaded : Node.ofDataAt depth n.toData = .ok n :=
    (Node.ofDataAt_toData_eq_ok_iff n n depth).mpr ⟨fits, rfl⟩
  simp [Node.ofJsonText, reads, loaded, Except.mapError]

/-- The data form under the limit of the call stack: written exactly when the tree's reach fits,
read back exactly when three levels more fit, and a recursion error past either bound. -/
theorem data_form_reads_back_within_stack :
    (∀ (n : Node) (depth : Nat) (d : Data),
      n.dictAt depth = .ok d ↔ n.reach + depth ≤ Parse.stackLimit ∧ d = n.toData) ∧
    (∀ (n : Node) (depth : Nat), Parse.stackLimit < n.reach + depth →
      ∃ o, n.dictAt depth = .error o) ∧
    (∀ (n m : Node) (depth : Nat),
      Node.ofDataAt depth n.toData = .ok m ↔ n.reach + 3 + depth ≤ Parse.stackLimit ∧
        m = n) ∧
    (∀ (n : Node) (depth : Nat), Parse.stackLimit < n.reach + 3 + depth →
      ∃ o, Node.ofDataAt depth n.toData = .error (.tooDeep o)) ∧
    (∀ e : Expr, e.toNode.toData = e.toData) ∧
    (∀ s : Stmt, s.toNode.toData = s.toData) ∧
    (∀ prog : Program, prog.toNode.toData = prog.toData) ∧
    (∀ (n : Node) (depth : Nat) (width : Option Int) (t : String),
      n.toJsonText depth width = .ok t ↔ n.reach + depth ≤ Parse.stackLimit ∧
        Json.encoderFits depth width n.toData = true ∧ t = n.toData.toJson width) ∧
    (∀ (n : Node) (depth : Nat) (width : Option Int) (t : String),
      n.toJsonText depth width = .ok t → n.reach + 3 + depth ≤ Parse.stackLimit →
        Data.ofJson t = .ok n.toData → Node.ofJsonText depth t = .ok n) :=
  ⟨Node.dictAt_eq_ok_iff, fun _ _ deep => Node.dictAt_overflow deep,
    Node.ofDataAt_toData_eq_ok_iff, fun _ _ deep => Node.ofDataAt_toData_tooDeep deep,
    Expr.toNode_toData, Stmt.toNode_toData, Program.toNode_toData, Node.toJsonText_eq_ok_iff,
    fun _ _ _ _ _ fits reads => Node.ofJsonText_of_reads fits reads⟩

mutual

/-- A proof that two values are equal, found by comparing them: for values without floats it is
found exactly when they are equal. -/
def Data.equal? : (a b : Data) → Option (PLift (a = b))
  | .null, .null => some ⟨rfl⟩
  | .bool a, .bool b => if same : a = b then some ⟨by rw [same]⟩ else none
  | .int a, .int b => if same : a = b then some ⟨by rw [same]⟩ else none
  | .text a, .text b => if same : a = b then some ⟨by rw [same]⟩ else none
  | .list as, .list bs => (Data.equalItems? as bs).map fun same => ⟨by rw [same.down]⟩
  | .record as, .record bs => (Data.equalFields? as bs).map fun same => ⟨by rw [same.down]⟩
  | _, _ => none

/-- A proof that two lists of values are equal, found item by item. -/
def Data.equalItems? : (as bs : List Data) → Option (PLift (as = bs))
  | [], [] => some ⟨rfl⟩
  | a :: as, b :: bs =>
    match Data.equal? a b, Data.equalItems? as bs with
    | some head, some tail => some ⟨by rw [head.down, tail.down]⟩
    | _, _ => none
  | _, _ => none

/-- A proof that two lists of fields are equal, found field by field. -/
def Data.equalFields? : (as bs : List (String × Data)) → Option (PLift (as = bs))
  | [], [] => some ⟨rfl⟩
  | (ka, a) :: as, (kb, b) :: bs =>
    if key : ka = kb then
      match Data.equal? a b, Data.equalFields? as bs with
      | some head, some tail => some ⟨by rw [key, head.down, tail.down]⟩
      | _, _ => none
    else none
  | _, _ => none

end

/-- Whether a reading gave `d`, decided by comparing. -/
def Data.readsAs {ε : Type} (x : Except ε Data) (d : Data) : Bool :=
  match x with
  | .ok e => (Data.equal? e d).isSome
  | .error _ => false

theorem Data.eq_ok_of_readsAs {ε : Type} {x : Except ε Data} {d : Data}
    (checked : Data.readsAs x d = true) : x = .ok d := by
  cases x with
  | error e => simp [Data.readsAs] at checked
  | ok e => exact congrArg Except.ok ((Data.equal? e d).get checked).down

theorem data_form_reads_back_within_stack_name :
    Node.ofJsonText 6 ((Node.var (.text "x") ⟨.int 1, .int 1, .int 0⟩).toData.toJson (some 2)) =
      .ok (Node.var (.text "x") ⟨.int 1, .int 1, .int 0⟩) :=
  data_form_reads_back_within_stack.2.2.2.2.2.2.2.2 _ 6 (some 2) _ (by decide +kernel) (by decide)
    (Data.eq_ok_of_readsAs (by decide +kernel))

/-- The expression `x.a.a…a` with `k` accesses of the field `a`, placed as the parser places it
on the first line of a source: every access at the variable, each name after its dot. -/
def accessChain : Nat → Expr
  | 0 => .var "x" ⟨1, 1, 0⟩
  | k + 1 => .field (accessChain k) "a" ⟨1, 2 * k + 3, 2 * k + 2⟩ ⟨1, 1, 0⟩

theorem accessChain_dictIn (k : Nat) :
    ∀ room, room ≤ k → (accessChain k).toNode.dictIn room = .error .objectCall := by
  induction k with
  | zero =>
    intro room shallow
    obtain rfl : room = 0 := by omega
    rfl
  | succ k ih =>
    rintro (_ | r) shallow
    · rfl
    · simp [accessChain, Expr.toNode, Node.dictIn, ih r (by omega)]

/-- The program `x.a.a…a` with a thousand accesses has no JSON text: at the depth the data texts
are written, the serializer runs out of stack nine accesses from the variable. -/
theorem access_chain_json_overflow :
    (Program.mk [.expr (accessChain 1000) ⟨1, 1, 0⟩] ⟨1, 1, 0⟩).toJsonText 6 none =
      .error .objectCall := by
  have chain := accessChain_dictIn 1000 991 (by omega)
  simp [Program.toJsonText, Node.toJsonText, Node.dictAt, Program.toNode, Stmt.listNode,
    Stmt.toNode, Parse.stackLimit, Node.dictIn, Node.listDictIn, chain]

end Quill
