import SchemaInterfaces.Proofs.Records
import SchemaInterfaces.Proofs.Trimming
import SchemaInterfaces.Schema.Document

/-! Descriptors written as JSON and read back. What is read has kinds that their own names stand
for, and just such descriptors survive. -/
namespace SchemaInterfaces.Schema
open Json Reading

namespace Kind

/-- The name of the kind stands for the kind. -/
def Canonical (k : Kind) : Prop := ofName k.name = k

instance (k : Kind) : Decidable k.Canonical := inferInstanceAs (Decidable (_ = _))

theorem canonical_of_known : ∀ entry ∈ known, entry.2.Canonical := by decide +kernel

/-- A kind that a name stands for is the one that its canonical name stands for, be it known or
not. -/
theorem canonical_ofName (name : String) : (ofName name).Canonical := by
  cases h : known.lookup (Text.trim name) with
  | some k =>
    obtain ⟨before, after, hknown, _⟩ := List.lookup_eq_some_iff.mp h
    have hk := canonical_of_known (Text.trim name, k) (by simp [hknown])
    simpa [ofName, h] using hk
  | none =>
    have hother : ofName name = other (Text.trim name) := by simp [ofName, h]
    rw [hother]
    simp [Canonical, Kind.name, ofName, Text.trim_trim, h]

end Kind

theorem optional_text (s : String) : Decoder.text.optional (.text s) = .ok (some s) := rfl

theorem Relation.decode_encode (r : Relation) : decode r.encode = .ok r := by
  refine Decoder.record_objectOf (by decide) ?_
  rw [List.append_assoc]
  refine .put rfl (.of_optional (fun s _ => optional_text s) rfl ?_)
  rw [← List.append_nil (member? ..)]
  exact .of_optional (fun s _ => optional_text s) rfl (.done _)

theorem Backing.decode_encode (b : Backing) : decode b.encode = .ok b := by
  refine Decoder.record_objectOf (by decide) ?_
  rw [← List.append_nil (member? ..)]
  exact .of_optional (fun s _ => optional_text s) rfl (.done _)

theorem Method.decode_encode (m : Method) : decode m.encode = .ok m := by
  refine Decoder.record_objectOf (by decide) ?_
  rw [List.append_assoc]
  refine .put rfl (.of_optional (fun s _ => optional_text s) rfl ?_)
  rw [← List.append_nil (member? ..)]
  exact .of_optional (fun s _ => optional_text s) rfl (.done _)

theorem Choice.decodeValue_text (depth : Nat) (s : String) :
    decodeValue depth (.text s) = .ok s := by
  simp [decodeValue, Node.readable, pure, Except.pure]

theorem Choice.decode_encode (depth : Nat) (c : Choice) : decode depth c.encode = .ok c := by
  simp [decode, encode, arrayOf, Decoder.pair, decodeValue_text, Decoder.text, Decoder.closing,
    bind, Except.bind, pure, Except.pure]

theorem Kind.decode_name {k : Kind} (h : k.Canonical) : decode (.text k.name) = .ok k := by
  rw [Canonical] at h
  simp [decode, Decoder.text, bind, Except.bind, pure, Except.pure, h]

theorem Field.nodup_slots (depth : Nat) : ((shape depth).slots.map (·.name)).Nodup := by
  change ["name", "kind", "nullable", "many", "relation", "choices", "computed"].Nodup
  decide

theorem Field.decode_encode (depth : Nat) {f : Field} (h : f.kind.Canonical) :
    decode depth f.encode = .ok f := by
  have hchoices : Decoder.list (Choice.decode (depth + 2)) (arrayOf (f.choices.map Choice.encode)) =
      .ok f.choices := Decoder.list_arrayOf fun c _ => Choice.decode_encode _ c
  refine Decoder.record_objectOf (Field.nodup_slots depth) ?_
  rw [List.append_assoc, List.append_assoc]
  refine .put rfl (.put (y := { name := f.name, kind := f.kind }) ?_ (.put rfl (.put rfl ?_)))
  · simp only [Slot.mandatory, Kind.decode_name h]
    rfl
  refine .of_optional (fun r _ => ?_) rfl (.of_list hchoices rfl ?_)
  · exact congrArg (some <$> ·) (Relation.decode_encode r)
  · rw [← List.append_nil (member? ..)]
    refine .of_optional (fun b _ => ?_) rfl (.done _)
    exact congrArg (some <$> ·) (Backing.decode_encode b)

/-- Every kind in the entity is the one that its name stands for. -/
def Entity.Canonical (e : Entity) : Prop := ∀ f ∈ e.fields, f.kind.Canonical

theorem Entity.nodup_slots (depth : Nat) : ((shape depth).slots.map (·.name)).Nodup := by
  change ["name", "namespace", "source", "fields", "methods"].Nodup
  decide

theorem Entity.decode_encode (depth : Nat) {e : Entity} (h : e.Canonical) :
    decode depth e.encode = .ok e := by
  have hsource : Source.decode (.text e.source.name) = .ok e.source := by
    cases e.source <;> rfl
  have hfields : Decoder.list (Field.decode (depth + 2)) (arrayOf (e.fields.map Field.encode)) =
      .ok e.fields := Decoder.list_arrayOf fun f hf => Field.decode_encode _ (h f hf)
  have hmethods : Decoder.list Method.decode (arrayOf (e.methods.map Method.encode)) =
      .ok e.methods := Decoder.list_arrayOf fun m _ => Method.decode_encode m
  refine Decoder.record_objectOf (Entity.nodup_slots depth) ?_
  refine .put rfl (.put rfl (.put (y := { name := e.name, ns := e.ns, source := e.source }) ?_
    (.put (y := { name := e.name, ns := e.ns, source := e.source, fields := e.fields }) ?_ ?_)))
  · simp only [Slot.optional, hsource]
    rfl
  · simp only [Slot.optional, hfields]
    rfl
  · rw [← List.append_nil (members? ..)]
    exact .of_list hmethods rfl (.done _)

theorem Kind.canonical_of_decode {v : Node} {k : Kind} (h : decode v = .ok k) : k.Canonical := by
  obtain ⟨name, _, h⟩ := bind_eq_ok.mp h
  cases h
  exact canonical_ofName name

theorem Field.canonical_of_decode {depth : Nat} {v : Node} {f : Field}
    (h : decode depth v = .ok f) : f.kind.Canonical := by
  refine Decoder.of_record (P := fun f => f.kind.Canonical) ?_ ?_ h
  · change Kind.Canonical (.other "")
    decide +kernel
  · intro slot hslot w f g hf hg
    simp only [shape, List.mem_cons, List.not_mem_nil, or_false] at hslot
    -- Only the slot of the kind touches the kind.
    rcases hslot with rfl | rfl | rfl | rfl | rfl | rfl | rfl <;>
      obtain ⟨part, hpart, hg⟩ := bind_eq_ok.mp hg <;> cases hg
    · exact hf
    · exact Kind.canonical_of_decode hpart
    all_goals exact hf

theorem Entity.canonical_of_decode {depth : Nat} {v : Node} {e : Entity}
    (h : decode depth v = .ok e) : e.Canonical := by
  refine Decoder.of_record (P := Entity.Canonical) ?_ ?_ h
  · intro f hf
    contradiction
  · intro slot hslot w d e hd he
    simp only [shape, List.mem_cons, List.not_mem_nil, or_false] at hslot
    rcases hslot with rfl | rfl | rfl | rfl | rfl <;>
      obtain ⟨part, hpart, he⟩ := bind_eq_ok.mp he <;> cases he
    · exact hd
    · exact hd
    · exact hd
    · exact Decoder.of_list (fun _ _ => Field.canonical_of_decode) hpart
    · exact hd

theorem Entity.canonical_withPrimaryKey {e : Entity} (h : e.Canonical) :
    e.withPrimaryKey.Canonical := by
  unfold withPrimaryKey
  split
  · exact h
  · have hkey : Kind.Canonical .integer :=
      Kind.canonical_of_known ("integer", .integer) (by simp [Kind.known])
    exact List.forall_mem_cons.mpr ⟨hkey, h⟩

theorem Document.canonical_of_decode {v : Node} {d : Document}
    (h : Decoder.record shape v = .ok d) : ∀ e ∈ d.entities, e.Canonical := by
  refine Decoder.of_record (P := fun d => ∀ e ∈ d.entities, e.Canonical) ?_ ?_ h
  · intro e he
    contradiction
  · intro slot hslot w d c hd hc
    simp only [shape, List.mem_cons, List.not_mem_nil, or_false] at hslot
    rcases hslot with rfl | rfl | rfl | rfl <;>
      obtain ⟨part, hpart, hc⟩ := bind_eq_ok.mp hc <;> cases hc
    · exact hd
    · exact hd
    · exact hd
    · exact Decoder.of_list (fun _ _ => Entity.canonical_of_decode) hpart

theorem Document.canonical_of_ofText {text : String} {d : Document} (h : ofText text = .ok d) :
    ∀ e ∈ d.entities, e.Canonical := by
  obtain ⟨c, hc, h⟩ := bind_eq_ok.mp h
  obtain ⟨_, _, h⟩ := bind_eq_ok.mp h
  cases h
  exact canonical_of_decode hc

theorem Document.canonical_complete {d : Document} {e : Entity} (h : e.Canonical) :
    (d.complete e).Canonical := by
  have hkept : Entity.Canonical
      { e with ns := if e.ns = "" then Text.trim d.ns else e.ns, source := d.source } := h
  by_cases hid : d.autoId
  · rw [complete, if_pos hid]
    exact Entity.canonical_withPrimaryKey hkept
  · rw [complete, if_neg hid]
    exact hkept

namespace Choice

/-- A value that a choice may have in JSON: a string, a number, a truth value or `null`. -/
def Raw : Node → Prop
  | .text _ | .boolean _ | .null => True
  | .number n => n.value?.isSome
  | _ => False

theorem decodeValue_raw (depth : Nat) {v : Node} (h : Raw v) :
    ∃ s, decodeValue depth v = .ok s := by
  cases v with
  | null => exact ⟨"None", by simp [decodeValue, Node.readable, pure, Except.pure]⟩
  | boolean b => exact ⟨_, by simp [decodeValue, Node.readable, pure, Except.pure]; rfl⟩
  | number n =>
    have h : n.value?.isSome := h
    refine ⟨(n.value?.map Number.text).getD "", ?_⟩
    simp [decodeValue, Node.readable, pure, Except.pure, h]
  | text s => exact ⟨s, decodeValue_text depth s⟩
  | unpaired | array _ _ | object _ _ | broken => exact h.elim

end Choice

/-- Written as JSON, an entity is read back unchanged if it was read before, by itself or in a
document, and exactly if its kinds are canonical. A kind is canonical once it was read from a
name, whatever the name; every raw value of a choice has a text, and the text stays. -/
theorem decode_encode_of_decode :
    (∀ depth v e, Entity.decode depth v = .ok e → ∀ more, Entity.decode more e.encode = .ok e) ∧
    (∀ text d, Document.ofText text = .ok d → ∀ e ∈ d.entities, ∀ depth,
      Entity.decode depth e.encode = .ok e ∧
        Entity.decode depth (d.complete e).encode = .ok (d.complete e)) ∧
    (∀ depth e, Entity.decode depth e.encode = .ok e ↔ e.Canonical) ∧
    (∀ name, Kind.ofName (Kind.ofName name).name = Kind.ofName name) ∧
    (∀ depth v, Choice.Raw v → ∃ s, Choice.decodeValue depth v = .ok s ∧
      ∀ more, Choice.decodeValue more (.text s) = .ok s) := by
  refine ⟨?_, ?_, ?_, Kind.canonical_ofName, ?_⟩
  · intro depth v e h more
    exact Entity.decode_encode more (Entity.canonical_of_decode h)
  · intro text d h e he depth
    have hcanonical := Document.canonical_of_ofText h e he
    exact ⟨Entity.decode_encode depth hcanonical,
      Entity.decode_encode depth (Document.canonical_complete hcanonical)⟩
  · intro depth e
    exact ⟨Entity.canonical_of_decode, Entity.decode_encode depth⟩
  · intro depth v h
    obtain ⟨s, hs⟩ := Choice.decodeValue_raw depth h
    exact ⟨s, hs, fun more => Choice.decodeValue_text more s⟩

/-- The owner as a list of values, with a kind that has blanks around it; a kind that is not known;
choices with values that are no strings; parts that are `null`, empty or left out. -/
def ledgerNode : Node :=
  .object [(some "fields", .array [
      .object [(some "kind", .text " ForeignKey "), (some "name", .text "owner"),
        (some "relation", .array [.text "User", .null] true),
        (some "computed", .object [] true)] true,
      .object [(some "name", .text "state"), (some "kind", .text " Status\n"),
        (some "relation", .null),
        (some "choices", .array [
          .array [.number ⟨false, ['2'], some ['0'], none⟩, .text "Two"] true,
          .array [.boolean true, .text "Yes"] true,
          .array [.null, .text ""] true] true)] true] true),
    (some "name", .text "Ledger"), (some "methods", .array [] true)] true

def ledger : Entity where
  name := "Ledger"
  fields := [
    { name := "owner", kind := .toOne, relation := some { entity := "User" }, computed := some {} },
    { name := "state", kind := .other "Status",
      choices := [⟨"2.0", "Two"⟩, ⟨"True", "Yes"⟩, ⟨"None", ""⟩] }]

theorem decode_encode_ledger :
    Entity.decode 0 ledgerNode = .ok ledger ∧ Entity.decode 0 ledger.encode = .ok ledger := by
  have hread : Entity.decode 0 ledgerNode = .ok ledger := by decide +kernel
  exact ⟨hread, decode_encode_of_decode.1 0 ledgerNode ledger hread 0⟩

end SchemaInterfaces.Schema
