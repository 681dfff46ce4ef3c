import ByteTap.Document.Layer
import Mathlib.Data.List.Induction

/-!
# Tables laid over one another

What a document has at a path of keys after another was laid over it:

* `Table.find?_merge`: at a key, what the two tables have there, the later over the earlier;
* `Document.lookup_merge`: so along a path, if the later document has tables up to its end;
* `Document.foldl_or_of_overlay`: of many layers, the last that has something at a path counts,
  unless tables come together there.

`Tidy` documents have the keys of their tables in increasing order, so that no key stands twice.
What is inserted and merged stays tidy.
-/

namespace ByteTap

/-- Every key of a table comes behind the given one. -/
def Table.Behind (key : String) (t : Table) : Prop :=
  ∀ other value, t.find? other = some value → key < other

mutual

/-- The tables of a document have their keys in increasing order, and there is no null in them
unless `nulls` allows it.  What is in a list does not matter. -/
def Document.Tidy (nulls : Bool) : Document → Prop
  | .null => nulls = true
  | .table entries => Table.Tidy nulls entries
  | _ => True

/-- The entries of a tidy table. -/
def Table.Tidy (nulls : Bool) : Table → Prop
  | .nil => True
  | .cons key value rest => value.Tidy nulls ∧ rest.Behind key ∧ Table.Tidy nulls rest

end

/-- The document is a table. -/
def Document.isTable : Document → Bool
  | .table _ => true
  | _ => false

/-- The document is a certain text. -/
def Document.isText (text : String) : Document → Bool
  | .text own => own == text
  | _ => false

variable {nulls : Bool} {key other : String} {value : Document} {t : Table}

theorem Document.eq_of_isText {text : String} {found : Option Document}
    (there : found.any (isText text) = true) : found = some (.text text) := by
  cases found with
  | none => nomatch there
  | some d =>
    cases d with
    | text own => exact congrArg (fun own => some (Document.text own)) (beq_iff_eq.1 there)
    | _ => nomatch there

/-! ## Tidy tables -/

namespace Table

theorem find?_insert (key other : String) (value : Document) (t : Table) :
    (t.insert key value).find? other = if key = other then some value else t.find? other := by
  by_cases same : key = other
  · rw [if_pos same, ← same, find?_insert_self]
  · rw [if_neg same, find?_insert_of_ne same]

theorem Behind.find?_eq_none (behind : t.Behind key) : t.find? key = none := by
  cases found : t.find? key with
  | none => rfl
  | some value => exact absurd (behind key value found) (String.lt_irrefl key)

theorem Behind.cons (less : key < other) (behind : t.Behind other) :
    (cons other value t).Behind key := by
  intro third found there
  rw [find?] at there
  split at there
  · next same => exact same ▸ less
  · exact String.lt_trans less (behind third found there)

theorem Behind.insert (behind : t.Behind key) (less : key < other) :
    (t.insert other value).Behind key := by
  intro third found there
  rw [find?_insert] at there
  split at there
  · next same => exact same ▸ less
  · exact behind third found there

theorem Tidy.insert (fit : value.Tidy nulls) :
    {t : Table} → t.Tidy nulls → (t.insert key value).Tidy nulls
  | .nil, _ => ⟨fit, fun _ _ found => absurd found (by simp [find?]), trivial⟩
  | .cons other old rest, ⟨own, behind, tidy⟩ => by
    have ih := Tidy.insert fit tidy
    unfold Table.insert
    split
    · next same => exact ⟨fit, same ▸ behind, tidy⟩
    next different =>
    split
    · next less => exact ⟨fit, behind.cons less, own, behind, tidy⟩
    · next more =>
      have less : other < key := Std.lt_of_le_of_ne (String.not_lt.1 more) different
      exact ⟨own, behind.insert less, ih⟩

theorem Tidy.find? : {t : Table} → t.Tidy nulls → t.find? key = some value → value.Tidy nulls
  | .cons other old rest, ⟨own, _, tidy⟩, found => by
    rw [Table.find?] at found
    split at found
    · cases found
      exact own
    · exact Tidy.find? tidy found

/-- What stands at a key can be put there again. -/
theorem insert_of_find? : {t : Table} → t.Tidy nulls → t.find? key = some value →
    t.insert key value = t
  | .cons other old rest, ⟨_, behind, tidy⟩, found => by
    unfold find? at found
    unfold insert
    split at found
    · next here =>
      cases found
      rw [if_pos here, here]
    · next elsewhere =>
      have less : other < key := behind key value found
      rw [if_neg elsewhere, if_neg (String.lt_asymm less), insert_of_find? tidy found]

theorem tidy_ofList {entries : List (String × Document)}
    (fit : ∀ entry ∈ entries, entry.2.Tidy nulls) : (ofList entries).Tidy nulls := by
  suffices onward : ∀ t : Table, t.Tidy nulls →
      (entries.foldl (fun t entry => t.insert entry.1 entry.2) t).Tidy nulls from
    onward .nil trivial
  induction entries with
  | nil => exact fun t tidy => tidy
  | cons entry rest ih =>
    intro t tidy
    have fit' : ∀ entry ∈ rest, entry.2.Tidy nulls :=
      fun later among => fit later (List.mem_cons_of_mem entry among)
    exact ih fit' _ (Tidy.insert (fit entry List.mem_cons_self) tidy)

end Table

namespace Document

theorem Tidy.entries {d : Document} (tidy : d.Tidy nulls) : d.entries.Tidy nulls := by
  cases d with
  | table entries => exact tidy
  | _ => trivial

theorem Tidy.nest (fit : value.Tidy nulls) (path : List String) :
    (nest path value).Tidy nulls := by
  induction path with
  | nil => exact fit
  | cons key path ih => exact ⟨ih, fun _ _ found => absurd found (by simp [Table.find?]), trivial⟩

theorem lookup_cons (key : String) (path : List String) (d : Document) :
    d.lookup (key :: path) = (d.entries.find? key).bind (lookup path) := by
  cases d <;> rfl

theorem Tidy.lookup {d : Document} {path : List String} (tidy : d.Tidy nulls)
    (found : d.lookup path = some value) : value.Tidy nulls := by
  induction path generalizing d with
  | nil =>
    cases found
    exact tidy
  | cons key path ih =>
    rw [lookup_cons] at found
    obtain ⟨inner, there, found⟩ := Option.bind_eq_some_iff.1 found
    exact ih (tidy.entries.find? there) found

end Document

mutual

theorem Document.Tidy.allow : {d : Document} → d.Tidy false → d.Tidy true
  | .table _, tidy => Table.Tidy.allow tidy
  | .bool _, _ | .natural _, _ | .integer _, _ | .float _, _ | .text _, _ | .character _, _
  | .list _, _ => trivial

theorem Table.Tidy.allow : {t : Table} → t.Tidy false → t.Tidy true
  | .nil, _ => trivial
  | .cons _ _ _, ⟨own, behind, tidy⟩ => ⟨own.allow, behind, tidy.allow⟩

end

/-! ## Merging -/

/-- What two layers have at one place, the later over the earlier. -/
def Document.overlay : Option Document → Option Document → Option Document
  | earlier, none => earlier
  | none, some later => some later
  | some earlier, some later => some (earlier.merge later)

@[simp] theorem Document.overlay_none_left (later : Option Document) :
    Document.overlay none later = later := by
  cases later <;> rfl

theorem Document.merge_of_leaf {earlier later : Document} (leaf : later.isTable = false) :
    earlier.merge later = later := by
  cases later with
  | table entries => cases leaf
  | _ => rfl

theorem Document.overlay_of_leaf {earlier : Option Document} (leaf : value.isTable = false) :
    Document.overlay earlier (some value) = some value := by
  cases earlier with
  | none => rfl
  | some old => exact congrArg _ (merge_of_leaf leaf)

theorem Table.find?_merge (earlier : Table) : (later : Table) → (key : String) →
    (Table.merge earlier later).find? key = Document.overlay (earlier.find? key) (later.find? key)
  | .nil, key => rfl
  | .cons other value rest, key => by
    have ih := find?_merge earlier rest key
    rw [Table.merge, find?_insert, Table.find?]
    split
    · next same =>
      subst same
      cases earlier.find? other <;> rfl
    · exact ih

mutual

theorem Document.Tidy.merge {earlier : Document} (before : earlier.Tidy nulls) :
    {later : Document} → later.Tidy nulls → (earlier.merge later).Tidy nulls
  | .table entries, tidy => by
    have own : entries.Tidy nulls := tidy
    rw [Document.merge]
    exact Table.Tidy.merge before.entries own
  | .null, tidy => tidy
  | .bool _, _ | .natural _, _ | .integer _, _ | .float _, _ | .text _, _ | .character _, _
  | .list _, _ => trivial

theorem Table.Tidy.merge {earlier : Table} (before : earlier.Tidy nulls) :
    {later : Table} → later.Tidy nulls → (Table.merge earlier later).Tidy nulls
  | .nil, _ => before
  | .cons key value rest, ⟨own, _, tidy⟩ => by
    rw [Table.merge]
    refine Table.Tidy.insert ?_ (Table.Tidy.merge before tidy)
    cases found : earlier.find? key with
    | none => exact own
    | some old => exact Document.Tidy.merge (before.find? found) own

end

namespace Document

/-- There are tables along a path, as far as the document has anything there. -/
def Leads : List String → Document → Prop
  | [], _ => True
  | key :: path, d =>
      ∃ entries, d = .table entries ∧ ∀ value, entries.find? key = some value → Leads path value

theorem lookup_merge {path : List String} {earlier later : Document} (leads : later.Leads path) :
    (earlier.merge later).lookup path = overlay (earlier.lookup path) (later.lookup path) := by
  induction path generalizing earlier later with
  | nil => rfl
  | cons key path ih =>
    obtain ⟨entries, rfl, leads⟩ := leads
    rw [merge, lookup_cons, lookup_cons, lookup_cons]
    show ((Table.merge earlier.entries entries).find? key).bind _ = _
    rw [Table.find?_merge]
    show _ = overlay _ ((entries.find? key).bind _)
    cases later : entries.find? key with
    | none => cases earlier.entries.find? key <;> rfl
    | some value =>
      cases earlier.entries.find? key with
      | none => exact (overlay_none_left _).symm
      | some old => exact ih (leads value later)

/-- A document that has something at the end of a path has tables along it. -/
theorem leads_of_lookup {path : List String} {d : Document} (there : d.lookup path = some value) :
    d.Leads path := by
  induction path generalizing d with
  | nil => trivial
  | cons key path ih =>
    cases d with
    | table entries =>
      obtain ⟨inner, found, there⟩ := Option.bind_eq_some_iff.1 there
      refine ⟨entries, rfl, fun other here => ?_⟩
      cases found.symm.trans here
      exact ih there
    | _ => cases there

/-- What stands at the end of a path can be laid over the document again. -/
theorem merge_nest_of_lookup {path : List String} {d : Document} (tidy : d.Tidy nulls)
    (there : d.lookup path = some value) (leaf : value.isTable = false) :
    d.merge (.nest path value) = d := by
  induction path generalizing d with
  | nil =>
    cases there
    exact merge_of_leaf leaf
  | cons key path ih =>
    cases d with
    | table entries =>
      obtain ⟨inner, found, there⟩ := Option.bind_eq_some_iff.1 there
      have own : entries.Tidy nulls := tidy
      have again := ih (own.find? found) there
      have whole := Table.insert_of_find? own found
      simp only [nest, single, merge, Table.merge, Document.entries, found, again, whole]
    | _ => cases there

/-! ## Many layers -/

/-- A table that was put together of parts without nulls has none itself. -/
theorem overlay_solid {earlier later : Option Document}
    (before : ∀ d ∈ earlier, d.isTable → d.Tidy false)
    (after : ∀ d ∈ later, d.isTable → d.Tidy false) :
    ∀ d ∈ overlay earlier later, d.isTable → d.Tidy false := by
  cases later with
  | none => exact before
  | some value =>
    cases earlier with
    | none => exact after
    | some old =>
      rintro d ⟨⟩ table
      have own := after value rfl
      cases value with
      | table entries =>
        refine Table.Tidy.merge ?_ (own rfl)
        cases old with
        | table under => exact before _ rfl rfl
        | _ => trivial
      | _ => cases table

theorem foldl_overlay_solid {values : List (Option Document)} {start : Option Document}
    (first : ∀ d ∈ start, d.isTable → d.Tidy false)
    (solid : ∀ found ∈ values, ∀ d ∈ found, d.isTable → d.Tidy false) :
    ∀ d ∈ values.foldl overlay start, d.isTable → d.Tidy false := by
  induction values generalizing start with
  | nil => exact first
  | cons found rest ih =>
    have still := overlay_solid first (solid found List.mem_cons_self)
    exact ih still fun later among => solid later (List.mem_cons_of_mem found among)

/-- A leaf comes from the later document, or there is no later one. -/
theorem overlay_leaf {earlier later : Option Document} (whole : overlay earlier later = some value)
    (leaf : value.isTable = false) : later = some value ∨ later = none ∧ earlier = some value := by
  cases later with
  | none => exact .inr ⟨rfl, whole⟩
  | some d =>
    refine .inl ?_
    cases earlier with
    | none => exact whole
    | some old =>
      -- a later table lies over the earlier document, and a table is what comes of it
      cases d with
      | table entries =>
        cases whole
        cases leaf
      | _ => exact whole

/-- Of the layers that have something at a place, the last counts, unless tables come together
there. -/
theorem foldl_or_of_overlay {values : List (Option Document)} {start : Option Document}
    (whole : values.foldl overlay start = some value) (leaf : value.isTable = false) :
    values.foldl (fun earlier later => later.or earlier) start = some value := by
  induction values using List.reverseRecOn with
  | nil => exact whole
  | append_singleton front last ih =>
    rw [List.foldl_append] at whole ⊢
    show last.or _ = _
    rcases overlay_leaf whole leaf with rfl | ⟨rfl, whole⟩
    · rfl
    · exact ih whole

/-- Where the layers have no tables, the last that has something counts. -/
theorem foldl_overlay_of_leaves {values : List (Option Document)} {start : Option Document}
    (leaves : ∀ found ∈ values, ∀ d ∈ found, d.isTable = false) :
    values.foldl overlay start = values.foldl (fun earlier later => later.or earlier) start := by
  induction values generalizing start with
  | nil => rfl
  | cons found rest ih =>
    have own := leaves found List.mem_cons_self
    have last : overlay start found = found.or start := by
      cases found with
      | none => rfl
      | some d => exact overlay_of_leaf (own d rfl)
    rw [List.foldl_cons, List.foldl_cons, last]
    exact ih fun later among => leaves later (List.mem_cons_of_mem found among)

/-- What one layer has at a place, no later layer takes away. -/
theorem foldl_overlay_isSome {values : List (Option Document)} {start : Option Document}
    (some : start.isSome = true) : (values.foldl overlay start).isSome = true := by
  induction values generalizing start with
  | nil => exact some
  | cons found rest ih =>
    apply ih
    cases found with
    | none => exact some
    | some later => cases start <;> rfl

end Document

namespace Layer

variable {layers : List Layer} {path : List String}

/-- Where every layer leads, merging them all lays what they have there over one another. -/
theorem foldl_merge_lookup (leads : ∀ layer ∈ layers, layer.content.Leads path) (d : Document) :
    (layers.foldl (fun d layer => d.merge layer.content) d).lookup path =
      (layers.map fun layer => layer.content.lookup path).foldl Document.overlay
        (d.lookup path) := by
  induction layers generalizing d with
  | nil => rfl
  | cons layer rest ih =>
    have own : (d.merge layer.content).lookup path = _ :=
      Document.lookup_merge (leads layer List.mem_cons_self)
    have rest := ih (fun later among => leads later (List.mem_cons_of_mem layer among))
    rw [List.foldl_cons, rest, own]
    rfl

/-- Along a path that is not empty, there is what the first layer has, and the others over it. -/
theorem lookup_combine {first : Layer} {key : String}
    (leads : ∀ layer ∈ first :: layers, layer.content.Leads (key :: path)) :
    (combine (first :: layers)).lookup (key :: path) =
      (layers.map fun layer => layer.content.lookup (key :: path)).foldl Document.overlay
        (first.content.lookup (key :: path)) := by
  unfold combine
  rw [foldl_merge_lookup leads, List.map_cons, List.foldl_cons]
  show (layers.map _).foldl _ (Document.overlay none _) = _
  rw [Document.overlay_none_left]

theorem tidy_foldl {d : Document} (start : d.Tidy nulls)
    (tidy : ∀ layer ∈ layers, layer.content.Tidy nulls) :
    (layers.foldl (fun d layer => d.merge layer.content) d).Tidy nulls := by
  induction layers generalizing d with
  | nil => exact start
  | cons layer rest ih =>
    have own := tidy layer List.mem_cons_self
    exact ih (start.merge own) fun later among => tidy later (List.mem_cons_of_mem layer among)

theorem tidy_combine (tidy : ∀ layer ∈ layers, layer.content.Tidy nulls) :
    (combine layers).Tidy nulls :=
  tidy_foldl (d := .table .nil) trivial tidy

end Layer

end ByteTap
