import Mathlib.Data.List.Forall2
import SchemaInterfaces.Schema.Decode
import SchemaInterfaces.Schema.Encode

/-! Records and lists of JSON: what is written slot by slot is read back, and what all that is read
has in common. -/
namespace SchemaInterfaces.Reading

/-- A bind ends well if both parts do. -/
theorem bind_eq_ok {ε α β : Type} {x : Except ε α} {f : α → Except ε β} {b : β} :
    (x >>= f) = .ok b ↔ ∃ a, x = .ok a ∧ f a = .ok b := by
  cases x <;> simp [bind, Except.bind]

/-- Going through a list ends well if every single step does. -/
theorem mapM_eq_ok_iff {ε α β : Type} {f : α → Except ε β} {xs : List α} {ys : List β} :
    xs.mapM f = .ok ys ↔ List.Forall₂ (fun x y => f x = .ok y) xs ys := by
  induction xs generalizing ys with
  | nil =>
    rw [List.mapM_nil, List.forall₂_nil_left_iff]
    exact ⟨fun h => (Except.ok.inj h).symm, fun h => h ▸ rfl⟩
  | cons x xs ih =>
    rw [List.mapM_cons, List.forall₂_cons_left_iff, bind_eq_ok]
    constructor
    · rintro ⟨y, hy, h⟩
      obtain ⟨zs, hzs, h⟩ := bind_eq_ok.mp h
      exact ⟨y, zs, hy, ih.mp hzs, (Except.ok.inj h).symm⟩
    · rintro ⟨y, zs, hy, hzs, rfl⟩
      exact ⟨y, hy, bind_eq_ok.mpr ⟨zs, ih.mpr hzs, rfl⟩⟩

theorem forall_mem_right {α β : Type} {P : β → Prop} {xs : List α} {ys : List β}
    (h : List.Forall₂ (fun _ y => P y) xs ys) : ∀ y ∈ ys, P y := by
  induction h with
  | nil => simp
  | cons hy _ ih => exact List.forall_mem_cons.mpr ⟨hy, ih⟩

namespace Shape
variable {ν α : Type} {s : Shape ν α}

/-- Among distinct names every slot is found by its own. -/
theorem slot?_of_mem {slot : Slot ν α} (hd : (s.slots.map (·.name)).Nodup) (h : slot ∈ s.slots) :
    s.slot? slot.name = some slot := by
  obtain ⟨before, after, hs⟩ := List.append_of_mem h
  refine List.find?_eq_some_iff_append.mpr ⟨by simp, before, after, hs, ?_⟩
  intro other hother
  rw [hs, List.map_append, List.map_cons, List.nodup_append] at hd
  have hne := hd.2.2 other.name (List.mem_map_of_mem hother) slot.name (List.mem_cons_self ..)
  simpa using hne

end Shape

end SchemaInterfaces.Reading

namespace SchemaInterfaces.Json
open Reading Schema

/-- Members that stand for slots, in the order of the slots. Reading them leads from the first value
to the second. Slots that need not be given may be left out. -/
inductive Written {α : Type} : List (Slot Node α) → List (String × Node) → α → α → Prop where
  | done (x : α) : Written [] [] x x
  | skip {slot : Slot Node α} {slots : List (Slot Node α)} {members : List (String × Node)}
      {x z : α} (optional : slot.required = false) (rest : Written slots members x z) :
      Written (slot :: slots) members x z
  | put {slot : Slot Node α} {slots : List (Slot Node α)} {members : List (String × Node)}
      {v : Node} {x y z : α} (stored : slot.store v x = .ok y) (rest : Written slots members y z) :
      Written (slot :: slots) ((slot.name, v) :: members) x z

namespace Written
variable {α β : Type} {slots : List (Slot Node α)} {members : List (String × Node)} {x y : α}

theorem of_optional {name : String} {read : Decoder β} {encode : β → Node} {o : Option β}
    {store : Option β → α → α} (hread : ∀ b ∈ o, read.optional (encode b) = .ok (some b))
    (hnone : store none x = x) (rest : Written slots members (store o x) y) :
    Written (Slot.optional name read.optional store :: slots)
      (member? name (o.map encode) ++ members) x y := by
  cases o with
  | none => exact skip rfl (hnone ▸ rest)
  | some b =>
    refine put ?_ rest
    simp only [Slot.optional, hread b rfl]
    rfl

theorem of_list {name : String} {read : Decoder (List β)} {encode : β → Node} {bs : List β}
    {store : List β → α → α} (hread : read (arrayOf (bs.map encode)) = .ok bs)
    (hnil : store [] x = x) (rest : Written slots members (store bs x) y) :
    Written (Slot.optional name read store :: slots) (members? name encode bs ++ members) x y := by
  cases bs with
  | nil => exact skip rfl (hnil ▸ rest)
  | cons b bs =>
    refine put ?_ rest
    simp only [Slot.optional, hread]
    rfl

/-- What must be given is given. -/
theorem mem_of_required (h : Written slots members x y) {slot : Slot Node α} (hm : slot ∈ slots)
    (hr : slot.required = true) : slot.name ∈ members.map Prod.fst := by
  induction h with
  | done x => contradiction
  | skip optional rest ih =>
    rcases List.mem_cons.mp hm with rfl | hm
    · rw [optional] at hr
      contradiction
    · exact ih hm
  | put stored rest ih =>
    rcases List.mem_cons.mp hm with rfl | hm
    · exact List.mem_cons_self ..
    · exact List.mem_cons_of_mem _ (ih hm)

end Written

namespace Decoder
variable {α β : Type} {s : Shape Node α} {slots : List (Slot Node α)}
  {ms : List (String × Node)} {x y : α}

/-- Reading written members ends at the value that they stand for, with all their names seen. -/
theorem members_of_written {seen : List String} (h : Written slots ms x y)
    (hslot : ∀ slot ∈ slots, s.slot? slot.name = some slot) (hd : (slots.map (·.name)).Nodup)
    (hseen : ∀ slot ∈ slots, slot.name ∉ seen) :
    members s (ms.map fun (key, v) => (some key, v)) seen x =
      .ok ((ms.map Prod.fst).reverse ++ seen, y) := by
  induction h generalizing seen with
  | done x => rfl
  | skip optional rest ih =>
    exact ih (fun slot hm => hslot slot (List.mem_cons_of_mem _ hm)) (List.nodup_cons.mp hd).2
      fun slot hm => hseen slot (List.mem_cons_of_mem _ hm)
  | @put first slots ms v x y z stored rest ih =>
    obtain ⟨hnew, hd⟩ := List.nodup_cons.mp hd
    have hfirst : seen.contains first.name = false := by
      simpa using hseen first (List.mem_cons_self ..)
    have hrest : ∀ slot ∈ slots, slot.name ∉ first.name :: seen := by
      intro slot hm hin
      rcases List.mem_cons.mp hin with he | hin
      · exact hnew (List.mem_map.mpr ⟨slot, hm, he⟩)
      · exact hseen slot (List.mem_cons_of_mem _ hm) hin
    have hmore := ih (fun slot hm => hslot slot (List.mem_cons_of_mem _ hm)) hd hrest
    simp only [List.map_cons, members, hslot first (List.mem_cons_self ..), hfirst, stored]
    simpa [bind, Except.bind] using hmore

/-- An object written slot by slot is read back. -/
theorem record_objectOf (hd : (s.slots.map (·.name)).Nodup) (h : Written s.slots ms s.blank y) :
    record s (objectOf ms) = .ok y := by
  have hunseen : ∀ slot ∈ s.slots, slot.name ∉ ([] : List String) := by simp
  have hmembers := members_of_written h (fun _ => Shape.slot?_of_mem hd) hd hunseen
  have hmissing : s.missing? ((ms.map Prod.fst).reverse ++ []) = none := by
    refine List.find?_eq_none.mpr ?_
    intro slot hm hr
    obtain ⟨hr, hn⟩ : slot.required = true ∧ slot.name ∉ ms.map Prod.fst := by simpa using hr
    exact hn (h.mem_of_required hm hr)
  simp only [record, objectOf, hmembers, bind, Except.bind, closing, if_pos, hmissing, pure,
    Except.pure]

theorem list_arrayOf {read : Decoder β} {encode : β → Node} {bs : List β}
    (h : ∀ b ∈ bs, read (encode b) = .ok b) : list read (arrayOf (bs.map encode)) = .ok bs := by
  have hitems : (bs.map encode).mapM read = .ok bs := by
    rw [mapM_eq_ok_iff, List.forall₂_map_left_iff, List.forall₂_same]
    exact h
  simp [list, arrayOf, hitems, closing, bind, Except.bind, pure, Except.pure]

/-- Whatever every slot of a record keeps, its members keep. -/
theorem of_members {P : α → Prop}
    (hstore : ∀ slot ∈ s.slots, ∀ v x y, P x → slot.store v x = .ok y → P y)
    {ms : List (Option String × Node)} {seen : List String} {out : List String × α} (hx : P x)
    (h : members s ms seen x = .ok out) : P out.2 := by
  induction ms generalizing seen x with
  | nil =>
    cases h
    exact hx
  | cons m ms ih =>
    obtain ⟨_ | name, v⟩ := m
    · contradiction
    · rw [members] at h
      split at h
      · split at h
        · exact ih hx h
        · contradiction
      · rename_i slot hslot
        split at h
        · contradiction
        · obtain ⟨y, hy, hrest⟩ := bind_eq_ok.mp h
          exact ih (hstore slot (List.mem_of_find?_eq_some hslot) v x y hx hy) hrest

theorem of_items {P : α → Prop}
    (hstore : ∀ slot ∈ slots, ∀ v x y, P x → slot.store v x = .ok y → P y) {vs : List Node}
    (hx : P x) (h : items slots vs x = .ok y) : P y := by
  induction slots generalizing vs x with
  | nil =>
    cases vs with
    | nil =>
      cases h
      exact hx
    | cons v vs => contradiction
  | cons slot slots ih =>
    cases vs with
    | nil =>
      cases h
      exact hx
    | cons v vs =>
      obtain ⟨z, hz, hrest⟩ := bind_eq_ok.mp h
      exact ih (fun other hm => hstore other (List.mem_cons_of_mem _ hm))
        (hstore slot (List.mem_cons_self ..) v x z hx hz) hrest

theorem reject_ne_ok (v : Node) (wanted : String) (x : α) : v.reject wanted ≠ .ok x := by
  intro h
  obtain ⟨found, _, hwrong⟩ := bind_eq_ok.mp h
  contradiction

/-- A property of the blank record that every slot keeps is one of all records that are read. -/
theorem of_record {P : α → Prop} (hblank : P s.blank)
    (hstore : ∀ slot ∈ s.slots, ∀ v x y, P x → slot.store v x = .ok y → P y) {v : Node}
    (h : record s v = .ok y) : P y := by
  unfold record at h
  split at h
  · obtain ⟨⟨seen, x⟩, hmembers, h⟩ := bind_eq_ok.mp h
    obtain ⟨_, _, h⟩ := bind_eq_ok.mp h
    split at h
    · contradiction
    · cases h
      exact of_members hstore hblank hmembers
  · obtain ⟨x, hitems, h⟩ := bind_eq_ok.mp h
    obtain ⟨_, _, h⟩ := bind_eq_ok.mp h
    split at h
    · contradiction
    · cases h
      exact of_items hstore hblank hitems
  · exact (reject_ne_ok v _ y h).elim

theorem of_list {P : β → Prop} {read : Decoder β} (hread : ∀ v b, read v = .ok b → P b) {v : Node}
    {bs : List β} (h : list read v = .ok bs) : ∀ b ∈ bs, P b := by
  unfold list at h
  split at h
  · rename_i vs closed
    obtain ⟨cs, hcs, h⟩ := bind_eq_ok.mp h
    obtain ⟨_, _, h⟩ := bind_eq_ok.mp h
    cases h
    have hall := (mapM_eq_ok_iff.mp hcs).imp fun v b => hread v b
    exact forall_mem_right hall
  · exact (reject_ne_ok v _ bs h).elim

end Decoder

end SchemaInterfaces.Json
