import SchemaInterfaces.Proofs.Keyed
import SchemaInterfaces.Toml.Document

/-! Documents that differ in one text only. No statement looks at a text that is there, so that the
two stay alike, or are refused together, whatever follows. -/
namespace SchemaInterfaces.Toml

variable {a b : List Char} {path : List String} {name k : String} {x y : Node} {t u : Table}
  {f : Table → Option Table}

/-- Two nodes that are the same but for the text at the end of a path. -/
inductive Node.Differ (a b : List Char) : List String → Node → Node → Prop where
  | text : Differ a b [] (.text a) (.text b)
  | table {path : List String} {origin : Origin} {front back : List (String × Node)}
      {name : String} {x y : Node} (unique : name ∉ (front ++ back).map Prod.fst)
      (inner : Differ a b path x y) :
      Differ a b (name :: path) (.table origin (front ++ (name, x) :: back))
        (.table origin (front ++ (name, y) :: back))

/-- Steps that follow related results are both done or neither is. -/
theorem rel_bind {α β : Type} {r : α → α → Prop} {r' : β → β → Prop} {i j : Option α}
    {g g' : α → Option β} (h : Option.Rel r i j) (hg : ∀ i j, r i j → Option.Rel r' (g i) (g' j)) :
    Option.Rel r' (i.bind g) (j.bind g') := by
  cases h with
  | none => exact .none
  | some hr => exact hg _ _ hr

namespace Table

/-- Two tables that are the same but for the text at the end of a path. -/
def Differ (a b : List Char) (path : List String) (t u : Table) : Prop :=
  Node.Differ a b path t.node u.node

theorem Differ.cases (h : Differ a b path t u) : ∃ name rest origin front back x y,
    path = name :: rest ∧ t = ⟨origin, front ++ (name, x) :: back⟩ ∧
      u = ⟨origin, front ++ (name, y) :: back⟩ ∧ name ∉ (front ++ back).map Prod.fst ∧
        Node.Differ a b rest x y := by
  obtain ⟨origin, members⟩ := t
  obtain ⟨origin', members'⟩ := u
  cases h with
  | table unique inner => exact ⟨_, _, _, _, _, _, _, rfl, rfl, rfl, unique, inner⟩

theorem Differ.origin_eq (h : Differ a b path t u) : t.origin = u.origin := by
  obtain ⟨name, rest, origin, front, back, x, y, rfl, rfl, rfl, -⟩ := h.cases
  rfl

theorem Differ.get?_self (h : Differ a b (name :: path) t u) :
    ∃ x y, t.get? name = some x ∧ u.get? name = some y ∧ Node.Differ a b path x y := by
  obtain ⟨_, _, origin, front, back, x, y, hpath, rfl, rfl, unique, inner⟩ := h.cases
  obtain ⟨rfl, rfl⟩ := List.cons.inj hpath
  rw [List.map_append, List.mem_append, not_or] at unique
  exact ⟨x, y, Keyed.lookup_between unique.1, Keyed.lookup_between unique.1, inner⟩

theorem Differ.get?_of_ne (h : Differ a b (name :: path) t u) (hk : k ≠ name) :
    t.get? k = u.get? k := by
  obtain ⟨_, _, origin, front, back, x, y, hpath, rfl, rfl, -, -⟩ := h.cases
  obtain ⟨rfl, rfl⟩ := List.cons.inj hpath
  rw [get?, get?, Keyed.lookup_between_of_ne hk, Keyed.lookup_between_of_ne hk]

/-- Under a name stand the two nodes that hold the text, or the same in both tables. -/
theorem Differ.get?_cases (h : Differ a b path t u) (k : String) :
    (∃ rest x y, path = k :: rest ∧ t.get? k = some x ∧ u.get? k = some y ∧
      Node.Differ a b rest x y) ∨
    ∃ name rest, path = name :: rest ∧ k ≠ name ∧ t.get? k = u.get? k := by
  obtain ⟨name, rest, -, -, -, -, -, rfl, -⟩ := h.cases
  by_cases hk : k = name
  · subst hk
    obtain ⟨x, y, hx, hy, hinner⟩ := h.get?_self
    exact .inl ⟨rest, x, y, rfl, hx, hy, hinner⟩
  · exact .inr ⟨name, rest, rfl, hk, h.get?_of_ne hk⟩

theorem Differ.put_self (h : Differ a b (name :: path) t u) {rest : List String}
    (hinner : Node.Differ a b rest x y) :
    Differ a b (name :: rest) (t.put name x) (u.put name y) := by
  obtain ⟨_, _, origin, front, back, x', y', hpath, rfl, rfl, unique, -⟩ := h.cases
  obtain ⟨rfl, rfl⟩ := List.cons.inj hpath
  have hfront := unique
  rw [List.map_append, List.mem_append, not_or] at hfront
  rw [put, put, Keyed.put_between hfront.1, Keyed.put_between hfront.1]
  exact .table unique hinner

theorem Differ.put_of_ne (h : Differ a b (name :: path) t u) (hk : k ≠ name) (v : Node) :
    Differ a b (name :: path) (t.put k v) (u.put k v) := by
  obtain ⟨_, _, origin, front, back, x, y, hpath, rfl, rfl, unique, inner⟩ := h.cases
  obtain ⟨rfl, rfl⟩ := List.cons.inj hpath
  rw [List.map_append, List.mem_append, not_or] at unique
  rw [put, put, Keyed.put_between_of_ne hk, Keyed.put_between_of_ne hk]
  split
  · refine .table ?_ inner
    rw [List.map_append, List.mem_append, not_or]
    exact ⟨Keyed.notMem_put hk unique.1, unique.2⟩
  · refine .table ?_ inner
    rw [List.map_append, List.mem_append, not_or]
    exact ⟨unique.1, Keyed.notMem_put hk unique.2⟩

/-- The member that holds the text is moved behind the others in both. -/
theorem Differ.move_self (h : Differ a b (name :: path) t u) {rest : List String}
    (hinner : Node.Differ a b rest x y) :
    Differ a b (name :: rest) { t with members := Keyed.erase name t.members ++ [(name, x)] }
      { u with members := Keyed.erase name u.members ++ [(name, y)] } := by
  obtain ⟨_, _, origin, front, back, x', y', hpath, rfl, rfl, unique, -⟩ := h.cases
  obtain ⟨rfl, rfl⟩ := List.cons.inj hpath
  rw [Keyed.erase_between, Keyed.erase_between]
  refine .table ?_ hinner
  rw [List.append_nil]
  exact Keyed.notMem_erase unique

/-- The member of another key is moved behind the others in both. -/
theorem Differ.move_of_ne (h : Differ a b (name :: path) t u) (hk : k ≠ name) (v : Node) :
    Differ a b (name :: path) { t with members := Keyed.erase k t.members ++ [(k, v)] }
      { u with members := Keyed.erase k u.members ++ [(k, v)] } := by
  obtain ⟨_, _, origin, front, back, x, y, hpath, rfl, rfl, unique, inner⟩ := h.cases
  obtain ⟨rfl, rfl⟩ := List.cons.inj hpath
  rw [Keyed.erase_between_of_ne hk, Keyed.erase_between_of_ne hk, List.append_assoc,
    List.append_assoc, List.cons_append, List.cons_append]
  refine .table ?_ inner
  rw [List.map_append, List.mem_append, not_or] at unique
  simp only [List.map_append, List.mem_append, not_or]
  exact ⟨Keyed.notMem_erase unique.1, Keyed.notMem_erase unique.2, by simp [hk.symm]⟩

/-- What is done to two tables is done to both or to neither, and leaves them alike. -/
def Alike (a b : List Char) (f : Table → Option Table) : Prop :=
  ∀ path t u, Differ a b path t u → Option.Rel (Differ a b path) (f t) (f u)

theorem alike_add (k : Key) (v : Node) : Alike a b (add k v) := by
  intro path t u h
  unfold add
  rw [h.origin_eq]
  rcases h.get?_cases k.name with ⟨rest, x, y, rfl, hx, hy, -⟩ | ⟨name, rest, rfl, hk, hget⟩
  · rw [hx, hy]
    simp
  · rw [hget]
    split
    · exact .none
    · exact .some (h.put_of_ne hk v)

/-- A way into the tables leads past the text, or to a table that holds it further in. -/
theorem Alike.within (hf : Alike a b f) (made : Origin) (way : List String) :
    Alike a b (within made way f) := by
  induction way with
  | nil => exact hf
  | cons k way ih =>
    intro path t u h
    unfold Table.within
    rcases h.get?_cases k with ⟨rest, x, y, rfl, hx, hy, hinner⟩ | ⟨name, rest, rfl, hk, hget⟩
    · rw [hx, hy]
      cases hinner with
      | text => exact .none
      | @table path origin front back name x y unique inner =>
        dsimp only
        split
        · exact .none
        · exact rel_bind (ih _ _ _ (.table unique inner)) fun _ _ hchild =>
            .some (h.put_self hchild)
    · -- What is made of the same child is put back in both tables.
      have hput : ∀ c : Option Table, ∀ g : Table → Node,
          Option.Rel (Differ a b (name :: rest)) (c.bind fun child => some (t.put k (g child)))
            (c.bind fun child => some (u.put k (g child))) := by
        intro c g
        cases c with
        | none => exact .none
        | some child => exact .some (h.put_of_ne hk (g child))
      rw [hget]
      split
      · exact hput _ Table.node
      · split
        · exact .none
        · exact hput _ Table.node
      · split
        · exact .none
        · exact hput _ _
      · exact .none

theorem alike_openTable (k : Key) : Alike a b (openTable k) := by
  refine Alike.within ?_ .implied k.through
  intro path t u h
  dsimp only
  rcases h.get?_cases k.name with ⟨rest, x, y, rfl, hx, hy, hinner⟩ | ⟨name, rest, rfl, hk, hget⟩
  · rw [hx, hy]
    cases hinner with
    | text => exact .none
    | @table path origin front back name x y unique inner =>
      cases origin with
      | implied => exact .some (h.move_self (.table unique inner))
      | _ => exact .none
  · rw [hget]
    split
    · exact .some (h.put_of_ne hk _)
    · exact .some (h.move_of_ne hk _)
    · exact .none

theorem alike_openElement (k : Key) : Alike a b (openElement k) := by
  refine Alike.within ?_ .implied k.through
  intro path t u h
  dsimp only
  rcases h.get?_cases k.name with ⟨rest, x, y, rfl, hx, hy, hinner⟩ | ⟨name, rest, rfl, hk, hget⟩
  · rw [hx, hy]
    cases hinner <;> exact .none
  · rw [hget]
    split
    · exact .some (h.put_of_ne hk _)
    · exact .some (h.put_of_ne hk _)
    · exact .none

end Table

namespace Document

variable {d e : Document} {st : Statement} {sts : List Statement}

/-- Two documents in the same place that are the same but for one text. -/
structure Differ (a b : List Char) (path : List String) (d e : Document) : Prop where
  here : d.here = e.here
  root : Table.Differ a b path d.root e.root

theorem add_differ (h : Differ a b path d e) (st : Statement) :
    Option.Rel (Differ a b path) (d.add st) (e.add st) := by
  have hroot : ∀ {f : Table → Option Table} (here : List String), Table.Alike a b f →
      Option.Rel (Differ a b path) ((f d.root).bind fun root => some (Document.mk root here))
        ((f e.root).bind fun root => some (Document.mk root here)) := by
    intro f here hf
    exact rel_bind (hf path d.root e.root h.root) fun _ _ hroot => .some ⟨rfl, hroot⟩
  cases st with
  | table k => exact hroot _ (Table.alike_openTable k)
  | element k => exact hroot _ (Table.alike_openElement k)
  | setting k v =>
    have hset := ((Table.alike_add (a := a) (b := b) k v).within .dotted k.through).within .implied
      d.here
    have hrel := hroot d.here hset
    unfold Document.add
    rw [← h.here]
    exact hrel

/-- Two such documents stay so, or are refused together. -/
theorem foldlM_differ (h : Differ a b path d e) (sts : List Statement) :
    Option.Rel (Differ a b path) (sts.foldlM add d) (sts.foldlM add e) := by
  induction sts generalizing d e with
  | nil => exact .some h
  | cons st sts ih =>
    rw [List.foldlM_cons, List.foldlM_cons]
    exact rel_bind (add_differ h st) fun _ _ hrest => ih hrest

end Document
end SchemaInterfaces.Toml
