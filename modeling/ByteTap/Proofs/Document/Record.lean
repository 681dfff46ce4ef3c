import ByteTap.Proofs.Document.Table
import ByteTap.Proofs.Outcome
import ByteTap.Document.Decode

/-!
# Records are read field by field

A record is read from a table entry by entry.  In a tidy table every key stands once, so that what
is read for one field depends on the entry of its name alone (`ReadsInto.entries`), and what is read
for a field of a section on what stands at the end of two keys (`ReadsInto.nested`).
-/

namespace ByteTap.Decoder

variable {α β : Type}

theorem under_eq_ok {key : String} {read : Except Mismatch α} {a : α} :
    under key read = .ok a ↔ read = .ok a := by
  cases read with
  | ok b => exact Iff.rfl
  | error m => exact ⟨nofun, nofun⟩

/-- A field is read into a part of the record. -/
def Field.Sets (field : Field α) (decode : Decoder β) (part : α → β) : Prop :=
  ∀ d a a', field.set d a = .ok a' → decode d = .ok (part a')

/-- A field leaves a part of the record as it is. -/
def Field.Keeps (field : Field α) (part : α → β) : Prop :=
  ∀ d a a', field.set d a = .ok a' → part a' = part a

/-- One field of a record, and no other, is read into a part of it. -/
structure ReadsInto (s : Shape α) (name : String) (decode : Decoder β) (part : α → β) : Prop where
  known : ∃ field ∈ s.fields, field.name = name
  fields : ∀ field ∈ s.fields,
    field.name = name ∧ field.Sets decode part ∨ field.name ≠ name ∧ field.Keeps part

section

variable {s : Shape α} {name : String} {decode : Decoder β} {part : α → β} {put : β → α → α}
  {nulls : Bool}

theorem set_of {d : Document} {a a' : α} (set : (Field.of name decode put).set d a = .ok a') :
    ∃ x, decode d = .ok x ∧ a' = put x a := by
  obtain ⟨x, read, same⟩ := bind_eq_ok.1 set
  cases same
  exact ⟨x, read, rfl⟩

theorem Field.sets_of (same : ∀ x a, part (put x a) = x) :
    (Field.of name decode put).Sets decode part := by
  intro d a a' set
  obtain ⟨x, read, rfl⟩ := set_of set
  rw [same]
  exact read

theorem Field.keeps_of {γ : Type} {part : α → γ} (same : ∀ x a, part (put x a) = part a) :
    (Field.of name decode put).Keeps part := by
  intro d a a' set
  obtain ⟨x, -, rfl⟩ := set_of set
  exact same x a

theorem readEntries_cons {key : String} {value : Document} {rest : Table} {a a' : α}
    (read : readEntries s (.cons key value rest) a = .ok a') :
    (∃ field ∈ s.fields, field.name = key ∧
      ∃ between, field.set value a = .ok between ∧ readEntries s rest between = .ok a') ∨
    (∀ field ∈ s.fields, field.name ≠ key) ∧ readEntries s rest a = .ok a' := by
  unfold readEntries at read
  split at read
  · next field found =>
    have among := List.mem_of_find?_eq_some found
    have named : field.name = key := by simpa using List.find?_some found
    obtain ⟨between, set, read⟩ := bind_eq_ok.1 read
    exact .inl ⟨field, among, named, between, under_eq_ok.1 set, read⟩
  · next unknown =>
    refine .inr ⟨?_, read⟩
    simpa using unknown

/-- What is read for a field is read off the entry of its name, and its part stays as it was if
there is none. -/
theorem ReadsInto.entries (into : ReadsInto s name decode part) : {t : Table} → {a a' : α} →
    t.Tidy nulls → readEntries s t a = .ok a' →
    (∀ d, t.find? name = some d → decode d = .ok (part a')) ∧
      (t.find? name = none → part a' = part a)
  | .nil, a, a', _, read => by
    cases read
    constructor
    · rintro d ⟨⟩
    · exact fun _ => rfl
  | .cons key value rest, a, a', ⟨_, behind, tidy⟩, read => by
    unfold Table.find?
    rcases readEntries_cons read with ⟨field, among, rfl, between, set, read⟩ | ⟨unknown, read⟩
    · obtain ⟨later, kept⟩ := ReadsInto.entries into tidy read
      rcases into.fields field among with ⟨here, sets⟩ | ⟨elsewhere, keeps⟩
      · rw [if_pos here]
        constructor
        · rintro d ⟨⟩
          rw [kept (here ▸ behind.find?_eq_none)]
          exact sets value a between set
        · rintro ⟨⟩
      · rw [if_neg elsewhere]
        have still := keeps value a between set
        exact ⟨later, fun absent => (kept absent).trans still⟩
    · obtain ⟨field, among, named⟩ := into.known
      rw [if_neg (named ▸ (unknown field among).symm)]
      exact ReadsInto.entries into tidy read

theorem record_table {dialect : Dialect} {t : Table} {a : α}
    (read : record dialect s (.table t) = .ok a) : readEntries s t s.start = .ok a := by
  obtain ⟨b, first, second⟩ := bind_eq_ok.1 read
  split at second
  · cases second
  · cases second
    exact first

/-- What is read for a field of a section is read off its own place in the document. -/
theorem ReadsInto.nested {γ : Type} {section_ : Shape β} {key : String} {own : Decoder γ}
    {inner : β → γ} {dialect dialect' : Dialect} {d value : Document} {a : α}
    (outer : ReadsInto s name (record dialect' section_) part)
    (into : ReadsInto section_ key own inner) (read : record dialect s d = .ok a)
    (tidy : d.Tidy nulls) (there : d.lookup [name, key] = some value) :
    own value = .ok (inner (part a)) := by
  rw [Document.lookup_cons] at there
  obtain ⟨home, under, there⟩ := Option.bind_eq_some_iff.1 there
  rw [Document.lookup_cons] at there
  obtain ⟨_, found, ⟨⟩⟩ := Option.bind_eq_some_iff.1 there
  cases d with
  | table sections =>
    have inSection := (outer.entries tidy (record_table read)).1 home under
    have tidied : home.Tidy nulls := Table.Tidy.find? tidy under
    cases home with
    | table entries => exact (into.entries tidied (record_table inSection)).1 value found
    | _ => cases found
  | _ => cases under

end

end ByteTap.Decoder
