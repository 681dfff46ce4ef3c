import ByteTap.Proofs.Document.Table
import ByteTap.Proofs.Outcome
import ByteTap.Document.Toml
import ByteTap.Document.Wrapped

/-!
# What is read is tidy

Files and environment variables make tidy documents, whatever is written in them: every key stands
once in its table, and there is no null.

* `Toml.tidy_parse?`: the tables of a TOML text, which grow line by line (`Branch.Tidy`);
* `Table.Tidy.unwrapEntries`: values taken out of their wrappers;
* `Inline.tidy_parse`: the value of an environment variable;
* `Layer.tidy_ofEnvironment`: the layer that all variables make, which is a table.

The readers are followed bind by bind: what is read behind a bind has a property if it has it
whatever was read before (`Reads.bind`).
-/

namespace ByteTap

namespace Document.Toml

variable {d : Document} {cs : List Char}

/-- Whatever document is read is tidy. -/
abbrev ReadsTidy : Option (Document × List Char) → Prop := Reads fun read => read.1.Tidy false

theorem tidy_integerOf {negative : Bool} {n : Nat} (read : integerOf negative n = some d) :
    d.Tidy false := by
  unfold integerOf at read
  split at read
  all_goals
    split at read
    · cases read
      trivial
    · cases read

theorem tidy_integer (cs : List Char) : ReadsTidy (integer cs) := by
  unfold integer
  dsimp only
  split
  all_goals
    apply Reads.bind
    intro digits _
    apply Reads.bind
    intro d read
    exact .some (tidy_integerOf read)

theorem tidy_finite (x : Binary64) (rest : List Char) :
    ReadsTidy (if x = .infinite false then none else pure (.float x, rest)) := by
  split
  · exact .none
  · exact .some trivial

theorem tidy_decimalFloat (cs : List Char) : ReadsTidy (decimalFloat cs) := by
  unfold decimalFloat
  apply Reads.bind
  intro whole _
  dsimp only
  split
  · apply Reads.bind
    intro fraction _
    split
    · exact tidy_finite _ _
    · exact tidy_finite _ _
  · apply Reads.bind
    intro power _
    exact tidy_finite _ _

theorem tidy_specialFloat (cs : List Char) : ReadsTidy (specialFloat cs) := by
  unfold specialFloat
  dsimp only
  split
  · exact .some trivial
  · exact .some trivial
  · exact .none

theorem tidy_datetime (cs : List Char) : ReadsTidy (datetime cs) := by
  apply Reads.bind
  intro rest _
  have text (s : String) : (Document.text s).Tidy false := trivial
  exact .some ((text _).nest [momentKey])

/-! ## Branches -/

mutual

/-- What stands at a key makes a tidy document.  A series makes a list, whatever is in it. -/
def Node.Tidy : Node → Prop
  | .leaf value => value.Tidy false
  | .branch b => b.Tidy
  | .series _ _ => True

def Branch.Tidy : Branch → Prop
  | .mk _ _ entries => entries.Tidy

def Entries.Tidy : Entries → Prop
  | .nil => True
  | .cons _ node rest => node.Tidy ∧ rest.Tidy

end

mutual

theorem Node.Tidy.toDocument : {node : Node} → node.Tidy → node.toDocument.Tidy false
  | .leaf _, tidy => tidy
  | .branch _, tidy => Branch.Tidy.toDocument tidy
  | .series _ _, _ => trivial

theorem Branch.Tidy.toDocument : {b : Branch} → b.Tidy → b.toDocument.Tidy false
  | .mk _ _ _, tidy => Entries.Tidy.toTable tidy

theorem Entries.Tidy.toTable : {entries : Entries} → entries.Tidy → entries.toTable.Tidy false
  | .nil, _ => trivial
  | .cons _ _ _, ⟨own, tidy⟩ => Table.Tidy.insert own.toDocument (Entries.Tidy.toTable tidy)

end

theorem Entries.Tidy.alter {key : String} {f : Option Node → Option Node}
    (tidies : ∀ before after, f before = some after → (∀ node ∈ before, node.Tidy) → after.Tidy) :
    {entries changed : Entries} → entries.Tidy → entries.alter key f = some changed → changed.Tidy
  | .nil, changed, _, altered => by
    obtain ⟨node, made, altered⟩ := Option.bind_eq_some_iff.1 altered
    cases altered
    exact ⟨tidies none node made (by simp), trivial⟩
  | .cons other node rest, changed, ⟨own, tidy⟩, altered => by
    unfold Entries.alter at altered
    split at altered
    · obtain ⟨node, made, altered⟩ := Option.bind_eq_some_iff.1 altered
      cases altered
      exact ⟨tidies _ node made (by simpa using own), tidy⟩
    · obtain ⟨rest, made, altered⟩ := Option.bind_eq_some_iff.1 altered
      cases altered
      exact ⟨own, Entries.Tidy.alter tidies tidy made⟩

theorem Branch.Tidy.alter {key : String} {f : Option Node → Option Node} {b changed : Branch}
    (tidies : ∀ before after, f before = some after → (∀ node ∈ before, node.Tidy) → after.Tidy)
    (tidy : b.Tidy) (altered : b.alter key f = some changed) : changed.Tidy := by
  cases b with
  | mk implicit dotted entries =>
    obtain ⟨entries, made, altered⟩ := Option.bind_eq_some_iff.1 altered
    cases altered
    exact Entries.Tidy.alter tidies tidy made

/-- A change at the end of a path is made in each table along it. -/
theorem Branch.Tidy.within {dotted : Bool} {f : Branch → Option Branch}
    (tidies : ∀ before after, f before = some after → before.Tidy → after.Tidy) {path : List String}
    {b changed : Branch} (tidy : b.Tidy) (altered : within dotted path f b = some changed) :
    changed.Tidy := by
  induction path generalizing b changed with
  | nil => exact tidies b changed altered tidy
  | cons key path ih =>
    refine Branch.Tidy.alter ?_ tidy altered
    intro before after made own
    split at made
    · obtain ⟨inner, below, same⟩ := Option.bind_eq_some_iff.1 made
      cases same
      -- the path goes on in a table that is made for it
      have nothing : (mk true dotted .nil).Tidy := trivial
      exact ih nothing below
    · cases made
    · split at made
      · cases made
      · obtain ⟨inner, below, same⟩ := Option.bind_eq_some_iff.1 made
        cases same
        exact ih (own _ rfl) below
    · obtain ⟨inner, below, same⟩ := Option.bind_eq_some_iff.1 made
      cases same
      trivial

theorem Branch.Tidy.add {path : List String} {key : String} {value : Document} {b changed : Branch}
    (tidy : b.Tidy) (fit : value.Tidy false) (added : b.add path key value = some changed) :
    changed.Tidy := by
  refine Branch.Tidy.within ?_ tidy added
  intro before after made tidy
  split at made
  · cases made
  · refine tidy.alter ?_ made
    intro there node made _
    cases there with
    | none =>
      cases made
      exact fit
    | some _ => cases made

theorem Branch.Tidy.openTable {path : List String} {key : String} {b changed : Branch}
    (tidy : b.Tidy) (opened : b.openTable path key = some changed) : changed.Tidy := by
  refine Branch.Tidy.within ?_ tidy opened
  intro before after made tidy
  refine tidy.alter ?_ made
  intro there node made own
  split at made
  · cases made
    trivial
  · cases made
    have before := own _ rfl
    exact before
  · cases made

theorem Branch.Tidy.openSeries {path : List String} {key : String} {b changed : Branch}
    (tidy : b.Tidy) (opened : b.openSeries path key = some changed) : changed.Tidy := by
  refine Branch.Tidy.within ?_ tidy opened
  intro before after made tidy
  refine tidy.alter ?_ made
  intro there node made own
  split at made
  · cases made
    trivial
  · cases made
    trivial
  · cases made

/-! ## Values and lines -/

mutual

theorem tidy_value : (fuel depth : Nat) → (cs : List Char) → ReadsTidy (value fuel depth cs)
  | 0, _, _ => .none
  | fuel + 1, depth, cs => by
    unfold value
    split
    · apply Reads.bind
      intro text _
      exact .some trivial
    · apply Reads.bind
      intro text _
      exact .some trivial
    · split
      · exact tidy_items fuel (depth + 1) [] _
      · exact .none
    · split
      · split
        · exact .some trivial
        · exact tidy_pairs fuel (depth + 1) .empty _ trivial
      · exact .none
    · exact .some trivial
    · exact .some trivial
    · apply Reads.or (tidy_datetime cs)
      apply Reads.or (tidy_decimalFloat cs)
      exact .or (tidy_specialFloat cs) (tidy_integer cs)

theorem tidy_items : (fuel depth : Nat) → (done : List Document) → (cs : List Char) →
    ReadsTidy (items fuel depth done cs)
  | 0, _, _, _ => .none
  | fuel + 1, depth, done, cs => by
    unfold items
    split
    · exact .some trivial
    · apply Reads.bind
      intro ⟨item, rest⟩ _
      dsimp only
      split
      · exact tidy_items fuel depth _ _
      · exact .some trivial
      · exact .none

theorem tidy_pairs : (fuel depth : Nat) → (done : Branch) → (cs : List Char) → done.Tidy →
    ReadsTidy (pairs fuel depth done cs)
  | 0, _, _, _, _ => .none
  | fuel + 1, depth, done, cs, tidy => by
    unfold pairs
    apply Reads.bind
    intro path _
    apply Reads.bind
    intro rest _
    apply Reads.bind
    intro item read
    apply Reads.bind
    intro last _
    apply Reads.bind
    intro changed added
    have tidy : changed.Tidy := tidy.add (tidy_value fuel depth _ _ read) added
    split
    · exact tidy_pairs fuel depth changed _ tidy
    · exact .some tidy.toDocument
    · exact .none

end

theorem tidy_header {s : State} (tidy : s.root.Tidy) (cs : List Char) :
    Reads (fun read => read.1.root.Tidy) (header s cs) := by
  unfold header
  split
  next series cs _ =>
  apply Reads.bind
  intro path _
  apply Reads.bind
  intro rest _
  cases series with
  | true =>
    apply Reads.bind
    intro rest _
    apply Reads.bind
    intro rest _
    apply Reads.bind
    intro last _
    apply Reads.bind
    intro root opened
    exact .some (tidy.openSeries opened)
  | false =>
    apply Reads.bind
    intro rest _
    apply Reads.bind
    intro rest _
    apply Reads.bind
    intro last _
    apply Reads.bind
    intro root opened
    exact .some (tidy.openTable opened)

theorem tidy_pair {s : State} (tidy : s.root.Tidy) (cs : List Char) :
    Reads (fun read => read.1.root.Tidy) (pair s cs) := by
  apply Reads.bind
  intro path _
  apply Reads.bind
  intro rest _
  apply Reads.bind
  intro item own
  apply Reads.bind
  intro rest _
  apply Reads.bind
  intro last _
  apply Reads.bind
  intro root added
  refine .some (Branch.Tidy.within ?_ tidy added)
  intro before after made tidy
  exact tidy.add (tidy_value _ _ _ _ own) made

theorem tidy_lines {s : State} (tidy : s.root.Tidy) (fuel : Nat) (cs : List Char) :
    Reads (fun read => read.root.Tidy) (lines fuel s cs) := by
  induction fuel generalizing s cs with
  | zero => exact .none
  | succ fuel ih =>
    unfold lines
    split
    · exact .some tidy
    · apply Reads.bind
      intro read own
      exact ih (tidy_header tidy _ read own) _
    · apply Reads.bind
      intro read own
      exact ih (tidy_pair tidy _ read own) _

/-- What a TOML text writes is tidy. -/
theorem tidy_parse? {text : String} {t : Table} (read : parse? text = some t) : t.Tidy false := by
  obtain ⟨s, own, rfl⟩ := Option.map_eq_some_iff.1 read
  have nothing : Branch.empty.Tidy := trivial
  have tidy := tidy_lines nothing _ _ s own
  exact tidy.toDocument.entries

end Document.Toml

/-! ## Wrapped values -/

namespace Table

theorem find?_unwrapEntries {key : String} {value : Document} : {t t' : Table} →
    t.unwrapEntries? = some t' → t'.find? key = some value → ∃ wrapped, t.find? key = some wrapped
  | .nil, _, unwrapped, found => by
    cases unwrapped
    cases found
  | .cons other wrapped rest, _, unwrapped, found => by
    unfold unwrapEntries? at unwrapped
    obtain ⟨own, _, unwrapped⟩ := Option.bind_eq_some_iff.1 unwrapped
    obtain ⟨inner, below, same⟩ := Option.bind_eq_some_iff.1 unwrapped
    cases same
    unfold find? at found ⊢
    split at found
    · next here => exact ⟨wrapped, if_pos here⟩
    · next elsewhere =>
      obtain ⟨deeper, found⟩ := find?_unwrapEntries below found
      exact ⟨deeper, (if_neg elsewhere).trans found⟩

theorem Behind.unwrapEntries {key : String} {t t' : Table} (behind : t.Behind key)
    (unwrapped : t.unwrapEntries? = some t') : t'.Behind key := by
  intro other value found
  obtain ⟨wrapped, there⟩ := find?_unwrapEntries unwrapped found
  exact behind other wrapped there

end Table

mutual

theorem Document.Tidy.unwrap : {d : Document} → d.Tidy false →
    Reads (Document.Tidy false) d.unwrap?
  | .list items, _ => by
    unfold Document.unwrap?
    apply Reads.bind
    intro items _
    exact .some trivial
  | .table entries, tidy => by
    have own : entries.Tidy false := tidy
    unfold Document.unwrap?
    apply Reads.bind
    intro inner unwrapped
    have tidy : inner.Tidy false := Table.Tidy.unwrapEntries own _ unwrapped
    split
    · exact .none
    · refine .some ?_
      cases found : inner.find? wrappedKey with
      | none => exact tidy
      | some value => exact tidy.find? found
  | .bool _, tidy | .natural _, tidy | .integer _, tidy | .float _, tidy | .text _, tidy
  | .character _, tidy => .some tidy

theorem Table.Tidy.unwrapEntries : {t : Table} → t.Tidy false →
    Reads (Table.Tidy false) t.unwrapEntries?
  | .nil, _ => .some trivial
  | .cons _ _ _, ⟨own, behind, tidy⟩ => by
    unfold Table.unwrapEntries?
    apply Reads.bind
    intro value first
    apply Reads.bind
    intro rest below
    have tidy := Table.Tidy.unwrapEntries tidy rest below
    exact .some ⟨Document.Tidy.unwrap own value first, behind.unwrapEntries below, tidy⟩

end

/-! ## One line of text -/

namespace Document.Inline

/-- Whatever document is read is tidy, if none is refused. -/
def ReadsTidy (read : Except Failure (Document × List Char)) : Prop :=
  ∀ d rest, read = .ok (d, rest) → d.Tidy false

theorem ReadsTidy.error (failure : Failure) : ReadsTidy (.error failure) := by
  rintro d rest ⟨⟩

theorem ReadsTidy.ok {d : Document} {rest : List Char} (tidy : d.Tidy false) :
    ReadsTidy (.ok (d, rest)) := by
  rintro _ _ ⟨⟩
  exact tidy

theorem ReadsTidy.bind {α : Type} {read : Except Failure α}
    {after : α → Except Failure (Document × List Char)}
    (tidy : ∀ a, read = .ok a → ReadsTidy (after a)) : ReadsTidy (read >>= after) := by
  intro d rest whole
  obtain ⟨a, first, second⟩ := bind_eq_ok.1 whole
  exact tidy a first d rest second

theorem tidy_float? (cs : List Char) : Reads (Tidy false) (float? cs) := by
  unfold float?
  dsimp only
  split
  · apply Reads.bind
    intro power _
    split
    · exact .none
    · exact .some trivial
  · exact .none

theorem tidy_natural? (cs : List Char) : Reads (Tidy false) (natural? cs) := by
  apply Reads.bind
  intro n _
  split
  · exact .some trivial
  · exact .none

theorem tidy_integer? (cs : List Char) : Reads (Tidy false) (integer? cs) := by
  apply Reads.bind
  intro n _ d read
  exact Toml.tidy_integerOf read

theorem tidy_bare (cs : List Char) : (bare cs).Tidy false := by
  refine Reads.getD ?_ trivial
  apply Reads.or (tidy_float? _)
  exact .or (tidy_natural? _) (tidy_integer? _)

mutual

theorem tidy_value : (fuel : Nat) → (cs : List Char) → ReadsTidy (value fuel cs)
  | 0, _ => .error _
  | fuel + 1, cs => by
    unfold value
    dsimp only
    split
    · exact .ok trivial
    · exact .ok trivial
    · apply ReadsTidy.bind
      intro ⟨d, rest⟩ read
      exact .ok (tidy_entries fuel .nil _ trivial d rest read)
    · apply ReadsTidy.bind
      intro ⟨d, rest⟩ read
      exact .ok (tidy_items fuel [] _ d rest read)
    · apply ReadsTidy.bind
      intro text _
      exact .ok trivial
    · exact .ok trivial
    · exact .error _
    · exact .ok (tidy_bare _)

theorem tidy_items : (fuel : Nat) → (done : List Document) → (cs : List Char) →
    ReadsTidy (items fuel done cs)
  | 0, _, _ => .error _
  | fuel + 1, done, cs => by
    unfold items
    split
    · exact .ok trivial
    · apply ReadsTidy.bind
      intro ⟨item, rest⟩ _
      dsimp only
      split
      · exact tidy_items fuel _ _
      · exact .ok trivial
      · exact .error _

theorem tidy_entries : (fuel : Nat) → (done : Table) → (cs : List Char) → done.Tidy false →
    ReadsTidy (entries fuel done cs)
  | 0, _, _, _ => .error _
  | fuel + 1, done, cs, tidy => by
    unfold entries
    split
    · exact .ok tidy
    · apply ReadsTidy.bind
      intro name _
      apply ReadsTidy.bind
      intro rest _
      apply ReadsTidy.bind
      intro ⟨item, rest⟩ read
      have own : (done.insert name.1 item).Tidy false :=
        Table.Tidy.insert (tidy_value fuel _ item rest read) tidy
      dsimp only
      split
      · exact tidy_entries fuel _ _ own
      · exact .ok own
      · exact .error _

end

theorem tidy_parse {text : String} {d : Document} (read : parse text = .ok d) : d.Tidy false := by
  unfold parse at read
  dsimp only at read
  split at read
  · next own =>
    cases read
    exact tidy_value _ _ _ _ own
  · cases read
  · cases read
    trivial

end Document.Inline

/-! ## The environment -/

namespace Layer

theorem ne_nil_of_variablePath? {start name : String} {path : List String}
    (named : variablePath? start name = some path) : path ≠ [] := by
  unfold variablePath? at named
  dsimp only at named
  split at named
  · split at named
    · cases named
    · cases named
      simpa using Text.split_ne_nil '.' _
  · cases named

/-- Variable after variable, what they come to stays a tidy table. -/
theorem tidy_layEnvironment {start : String} {settings : List (String × String)}
    {d d' : Document} (tidy : d.Tidy false) (table : d.isTable = true)
    (laid : layEnvironment start d settings = .ok d') : d'.Tidy false ∧ d'.isTable = true := by
  induction settings generalizing d with
  | nil =>
    cases laid
    exact ⟨tidy, table⟩
  | cons entry rest ih =>
    obtain ⟨name, text⟩ := entry
    unfold layEnvironment at laid
    split at laid
    · exact ih tidy table laid
    · next path named =>
      obtain ⟨value, read, laid⟩ := bind_eq_ok.1 laid
      have own : (Document.nest path value).Tidy false :=
        (Document.Inline.tidy_parse read).nest path
      refine ih (tidy.merge own) ?_ laid
      cases path with
      | nil => exact absurd rfl (ne_nil_of_variablePath? named)
      | cons key path => rfl

theorem tidy_ofEnvironment {start : String} {settings : List (String × String)} {layer : Layer}
    (read : ofEnvironment start settings = .ok layer) :
    layer.content.Tidy false ∧ layer.content.isTable = true := by
  obtain ⟨d, laid, same⟩ := bind_eq_ok.1 read
  cases same
  have nothing : (Document.table .nil).Tidy false := trivial
  exact tidy_layEnvironment nothing rfl laid

end Layer

end ByteTap
