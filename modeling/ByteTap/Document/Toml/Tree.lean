import ByteTap.Document

/-!
# The tables of a TOML text

Headers and dotted keys build a tree in which every table may be filled in several places, but none
is defined twice.  A branch remembers how it came about:

* `implicit`: no header names it itself, it only leads to another table;
* `dotted`: it came about by a dotted key, and only dotted keys may add to it.

A header opens a table that does not exist, or one that is implicit and not dotted.  A header
between double brackets opens a further table of a series, and a path through a series leads into
its newest table.
-/

namespace ByteTap.Document.Toml

mutual

/-- What stands at a key. -/
inductive Node where
  /-- A value; nothing can be added to it. -/
  | leaf (value : Document)
  | branch (table : Branch)
  /-- A series of tables: the newest one, and those before it, newest first. -/
  | series (newest : Branch) (older : List Branch)

/-- A table that may grow. -/
inductive Branch where
  | mk (implicit dotted : Bool) (entries : Entries)

/-- The entries of a table that may grow. -/
inductive Entries where
  | nil
  | cons (key : String) (node : Node) (rest : Entries)

end

instance : Inhabited Entries := ⟨.nil⟩
instance : Inhabited Branch := ⟨.mk false false .nil⟩

namespace Entries

/-- Replaces what stands at a key, or adds it. -/
def alter (key : String) (f : Option Node → Option Node) : Entries → Option Entries
  | nil => do pure (cons key (← f none) nil)
  | cons k node rest =>
      if k = key then do pure (cons k (← f (some node)) rest)
      else do pure (cons k node (← alter key f rest))

end Entries

namespace Branch

/-- No header names the table itself. -/
def implicit : Branch → Bool
  | mk implicit _ _ => implicit

/-- The table came about by a dotted key. -/
def dotted : Branch → Bool
  | mk _ dotted _ => dotted

/-- Replaces what stands at a key of the table, or adds it. -/
def alter (key : String) (f : Option Node → Option Node) : Branch → Option Branch
  | mk implicit dotted entries => do pure (mk implicit dotted (← entries.alter key f))

/-- The table before anything is in it. -/
def empty : Branch := mk false false .nil

/-- Changes the table at the end of a path; tables that are missing on the way are implicit.  On the
path of a dotted key, only implicit tables may be passed. -/
def within (dottedPath : Bool) : List String → (Branch → Option Branch) → Branch → Option Branch
  | [], f, b => f b
  | key :: path, f, b =>
      b.alter key fun
        | none => do
            pure (.branch (← within dottedPath path f (mk true dottedPath .nil)))
        | some (.leaf _) => none
        | some (.branch next) =>
            if dottedPath && !next.implicit then none
            else do pure (.branch (← within dottedPath path f next))
        | some (.series newest older) => do
            pure (.series (← within dottedPath path f newest) older)

/-- Adds a value under a dotted key.  Nothing may stand there, and the table it goes into must have
come about by the dots. -/
def add (path : List String) (key : String) (value : Document) : Branch → Option Branch :=
  within true path fun b =>
    if b.dotted == path.isEmpty then none
    else b.alter key fun
      | none => some (.leaf value)
      | some _ => none

/-- Opens the table of a header. -/
def openTable (path : List String) (key : String) : Branch → Option Branch :=
  within false path fun b => b.alter key fun
    | none => some (.branch empty)
    | some (.branch (mk true false entries)) => some (.branch (mk false false entries))
    | some _ => none

/-- Opens a further table of a series. -/
def openSeries (path : List String) (key : String) : Branch → Option Branch :=
  within false path fun b => b.alter key fun
    | none => some (.series empty [])
    | some (.series newest older) => some (.series empty (newest :: older))
    | some _ => none

end Branch

mutual

/-- What stands at a key, as a document. -/
def Node.toDocument : Node → Document
  | .leaf value => value
  | .branch b => b.toDocument
  | .series newest older => .list (Branch.toDocuments older [newest.toDocument])

/-- A table as a document. -/
def Branch.toDocument : Branch → Document
  | .mk _ _ entries => .table entries.toTable

/-- Tables, newest first, as documents in front of the given ones. -/
def Branch.toDocuments : List Branch → List Document → List Document
  | [], later => later
  | b :: older, later => Branch.toDocuments older (b.toDocument :: later)

/-- Entries as those of a document. -/
def Entries.toTable : Entries → Table
  | .nil => .nil
  | .cons key node rest => rest.toTable.insert key node.toDocument

end

end ByteTap.Document.Toml
