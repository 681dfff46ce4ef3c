import ByteTap.Proofs.Document.Record

/-!
# Layers that can be read one by one can be read together

A decoder may refuse what was merged out of documents that it accepts.  It does not where it refuses
all tables, since then the later document stands alone (`Leafy.overlays`), and it does not where it
reads a record whose fields are read by such decoders (`overlays_record`).

So what every layer says by itself can also be read out of all of them (`Layer.accepts_foldl`).
-/

namespace ByteTap

namespace Decoder

variable {α β : Type} {decode : Decoder α} {s : Shape α} {nulls : Bool} {d : Document}

/-- The document can be read. -/
def Accepts (decode : Decoder α) (d : Document) : Prop := ∃ a, decode d = .ok a

theorem accepts_of_isOk (read : (decode d).isOk = true) : decode.Accepts d := by
  cases own : decode d with
  | ok a => exact ⟨a, own⟩
  | error m => rw [own] at read; cases read

/-- No table can be read that has no null in it. -/
def Leafy (decode : Decoder α) : Prop :=
  ∀ entries : Table, entries.Tidy false → ¬ decode.Accepts (.table entries)

/-- Where two documents can be read, so can the later over the earlier. -/
def Overlays (decode : Decoder α) : Prop :=
  ∀ earlier later : Document, earlier.Tidy true → later.Tidy false →
    decode.Accepts earlier → decode.Accepts later → decode.Accepts (earlier.merge later)

/-! ## Leaves -/

theorem Leafy.isTable_eq_false (leafy : decode.Leafy) (solid : d.isTable = true → d.Tidy false)
    (accepted : decode.Accepts d) : d.isTable = false := by
  cases d with
  | table entries => exact absurd accepted (leafy entries (solid rfl))
  | _ => rfl

/-- What is never read from a table is read from the later document alone. -/
theorem Leafy.overlays (leafy : decode.Leafy) : decode.Overlays := by
  intro earlier later _ tidy _ accepted
  rw [Document.merge_of_leaf (leafy.isTable_eq_false (fun _ => tidy) accepted)]
  exact accepted

theorem leafy_word (name : String) : (word name).Leafy := by
  rintro entries - ⟨_, ⟨⟩⟩

theorem leafy_bool : bool.Leafy := by
  rintro entries - ⟨_, ⟨⟩⟩

theorem leafy_text (what : String) : (text what).Leafy := by
  rintro entries - ⟨_, ⟨⟩⟩

theorem Leafy.optional (leafy : decode.Leafy) : (optional decode).Leafy := by
  rintro entries tidy ⟨a, read⟩
  cases own : decode (.table entries) with
  | ok b => exact leafy entries tidy ⟨b, own⟩
  | error m =>
    change some <$> decode (.table entries) = _ at read
    rw [own] at read
    cases read

/-- A table stands for a choice only if its key leads to nothing, which would have to be a null. -/
theorem leafy_choice (dialect : Dialect) (c : Choice α) : (choice dialect c).Leafy := by
  rintro entries tidy ⟨a, read⟩
  have solid {content : Document} (tidy : content.Tidy false) : nothing content ≠ .ok () := by
    intro read
    cases content with
    | null => exact absurd tidy Bool.false_ne_true
    | _ => cases read
  cases entries with
  | nil => cases dialect <;> cases read
  | cons name content rest =>
    cases dialect with
    | plain =>
      cases rest with
      | nil =>
        obtain ⟨value, named, read⟩ := bind_eq_ok.1 read
        obtain ⟨⟨⟩, empty, -⟩ := bind_eq_ok.1 read
        exact solid tidy.1 empty
      | cons other second rest => cases read
    | layered =>
      obtain ⟨value, named, read⟩ := bind_eq_ok.1 read
      obtain ⟨⟨⟩, empty, -⟩ := bind_eq_ok.1 read
      exact solid tidy.1 (under_eq_ok.1 empty)

/-! ## Records -/

/-- A field is read by a decoder that can read layers laid over one another. -/
def Field.Overlays (field : Field α) : Prop :=
  ∃ (β : Type) (decode : Decoder β) (put : β → α → α),
    field = .of field.name decode put ∧ decode.Overlays

/-- Whatever the record is, the document can be read into the field. -/
def Field.Takes (field : Field α) (d : Document) : Prop := ∀ a, ∃ a', field.set d a = .ok a'

theorem exists_set_of {name : String} {decode : Decoder β} {put : β → α → α} {a : α} :
    (∃ a', (Field.of name decode put).set d a = .ok a') ↔ decode.Accepts d := by
  constructor
  · rintro ⟨a', set⟩
    obtain ⟨x, read, -⟩ := set_of set
    exact ⟨x, read⟩
  · rintro ⟨x, read⟩
    refine ⟨put x a, ?_⟩
    show (do pure (put (← decode d) a)) = _
    rw [read]
    rfl

/-- Every entry of a table can be read into the field of its name, if there is one. -/
def Shape.Takes (s : Shape α) (t : Table) : Prop :=
  ∀ key d, t.find? key = some d →
    ∀ field, s.fields.find? (fun field => field.name == key) = some field → field.Takes d

/-- A table in order is taken entry by entry. -/
theorem Shape.takes_cons {key : String} {rest : Table} (behind : rest.Behind key) :
    s.Takes (.cons key d rest) ↔
      (∀ field, s.fields.find? (fun field => field.name == key) = some field → field.Takes d) ∧
        s.Takes rest := by
  constructor
  · intro takes
    refine ⟨takes key d (if_pos rfl), fun other value found => takes other value ?_⟩
    have different : key ≠ other := by
      rintro rfl
      rw [behind.find?_eq_none] at found
      cases found
    exact (if_neg different).trans found
  · rintro ⟨own, takes⟩ other value found
    rw [Table.find?] at found
    split at found
    · next same =>
      subst same
      cases found
      exact own
    · exact takes other value found

/-- In a tidy table the entries do not get in each other's way. -/
theorem exists_readEntries_iff (overlays : ∀ field ∈ s.fields, field.Overlays) :
    {t : Table} → t.Tidy nulls → (a : α) → ((∃ a', readEntries s t a = .ok a') ↔ s.Takes t)
  | .nil, _, a => ⟨fun _ _ _ => nofun, fun _ => ⟨a, rfl⟩⟩
  | .cons key d rest, ⟨_, behind, tidy⟩, a => by
    have ih := exists_readEntries_iff overlays tidy
    rw [Shape.takes_cons behind, readEntries]
    cases found : s.fields.find? fun field => field.name == key with
    | none => simpa using ih a
    | some field =>
      obtain ⟨β, decode, put, same, -⟩ := overlays field (List.mem_of_find?_eq_some found)
      constructor
      · rintro ⟨a', read⟩
        obtain ⟨between, set, read⟩ := bind_eq_ok.1 read
        refine ⟨?_, (ih between).1 ⟨a', read⟩⟩
        rintro _ ⟨⟩ b
        have set := under_eq_ok.1 set
        rw [same] at set ⊢
        exact exists_set_of.2 (exists_set_of.1 ⟨between, set⟩)
      · rintro ⟨own, takes⟩
        obtain ⟨between, set⟩ := own field rfl a
        obtain ⟨a', read⟩ := (ih between).2 takes
        exact ⟨a', bind_eq_ok.2 ⟨between, under_eq_ok.2 set, read⟩⟩

/-- A record is read from a table exactly if each entry can be read into its field. -/
theorem accepts_record_table {dialect : Dialect} (optional : s.complete = false)
    (overlays : ∀ field ∈ s.fields, field.Overlays) {t : Table} (tidy : t.Tidy nulls) :
    (record dialect s).Accepts (.table t) ↔ s.Takes t := by
  rw [← exists_readEntries_iff overlays tidy s.start]
  constructor
  · rintro ⟨a, read⟩
    exact ⟨a, record_table read⟩
  · rintro ⟨a, read⟩
    refine ⟨a, bind_eq_ok.2 ⟨a, read, ?_⟩⟩
    rw [optional]
    rfl

/-- Under a key that both tables have, the field reads one value laid over the other. -/
theorem Shape.Takes.merge (overlays : ∀ field ∈ s.fields, field.Overlays) {earlier later : Table}
    (before : earlier.Tidy true) (tidy : later.Tidy false) (first : s.Takes earlier)
    (second : s.Takes later) : s.Takes (Table.merge earlier later) := by
  intro key d there field found a
  rw [Table.find?_merge] at there
  cases early : earlier.find? key with
  | none =>
    rw [early, Document.overlay_none_left] at there
    exact second key d there field found a
  | some old =>
    cases late : later.find? key with
    | none =>
      rw [early, late] at there
      cases there
      exact first key d early field found a
    | some value =>
      rw [early, late] at there
      cases there
      have own := first key old early field found
      have next := second key value late field found
      obtain ⟨β, decode, put, same, overlay⟩ := overlays field (List.mem_of_find?_eq_some found)
      rw [same] at own next ⊢
      refine exists_set_of.2 (overlay old value (before.find? early) (tidy.find? late) ?_ ?_)
      · exact exists_set_of.1 (own a)
      · exact exists_set_of.1 (next a)

theorem overlays_record {dialect : Dialect} (optional : s.complete = false)
    (overlays : ∀ field ∈ s.fields, field.Overlays) : (record dialect s).Overlays := by
  intro earlier later before tidy first second
  -- only a later table is merged, anything else replaces the earlier document
  cases later with
  | table entries =>
    have own : entries.Tidy false := tidy
    have takes : s.Takes entries := (accepts_record_table optional overlays own).1 second
    have under : s.Takes earlier.entries := by
      cases earlier with
      | table old => exact (accepts_record_table optional overlays before).1 first
      | _ => exact fun _ _ => nofun
    have merged := under.merge overlays before.entries own takes
    have tidied : (Table.merge earlier.entries entries).Tidy true :=
      before.entries.merge own.allow
    rw [Document.merge]
    exact (accepts_record_table optional overlays tidied).2 merged
  | _ => exact second

end Decoder

/-- What can be read and what every further layer says by itself can be read together. -/
theorem Layer.accepts_foldl {α : Type} {decode : Decoder α} (overlays : decode.Overlays)
    {layers : List Layer} {d : Document} (tidy : d.Tidy true) (first : decode.Accepts d)
    (tidies : ∀ layer ∈ layers, layer.content.Tidy false)
    (each : ∀ layer ∈ layers, decode.Accepts layer.content) :
    decode.Accepts (layers.foldl (fun d layer => d.merge layer.content) d) := by
  induction layers generalizing d with
  | nil => exact first
  | cons layer rest ih =>
    have own := tidies layer List.mem_cons_self
    have merged := overlays d layer.content tidy own first (each layer List.mem_cons_self)
    exact ih (tidy.merge own.allow) merged
      (fun later among => tidies later (List.mem_cons_of_mem layer among))
      (fun later among => each later (List.mem_cons_of_mem layer among))

end ByteTap
