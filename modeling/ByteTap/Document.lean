import ByteTap.Number.Binary64

/-!
# Documents

The tree of values that configuration files, the environment and flags are read into.  A table has
its keys in increasing order, each once; the order is that of code points.

Two layers of configuration are combined by `merge`: tables entry by entry, and everything else by
taking the later layer.
-/

namespace ByteTap

mutual

/-- A document. -/
inductive Document where
  | null
  | bool (value : Bool)
  /-- An integer known not to be negative. -/
  | natural (value : UInt64)
  /-- An integer of either sign. -/
  | integer (value : Int64)
  | float (value : Binary64)
  | text (value : String)
  /-- A text of one character that is no name of anything. -/
  | character (value : Char)
  | list (items : List Document)
  | table (entries : Table)

/-- The entries of a table, in increasing order of their keys. -/
inductive Table where
  | nil
  | cons (key : String) (value : Document) (rest : Table)

end

instance : Inhabited Document := ⟨.null⟩
instance : Inhabited Table := ⟨.nil⟩

namespace Table

/-- The value at a key. -/
def find? (key : String) : Table → Option Document
  | nil => none
  | cons k value rest => if k = key then some value else find? key rest

/-- Puts a value at a key, in place of one that is there. -/
def insert (key : String) (value : Document) : Table → Table
  | nil => cons key value nil
  | cons k v rest =>
      if k = key then cons key value rest
      else if key < k then cons key value (cons k v rest)
      else cons k v (insert key value rest)

/-- The entries in order. -/
def toList : Table → List (String × Document)
  | nil => []
  | cons k v rest => (k, v) :: rest.toList

/-- The table of the given entries; of two with one key, the later. -/
def ofList (entries : List (String × Document)) : Table :=
  entries.foldl (fun t (k, v) => t.insert k v) nil

/-- The number of entries. -/
def size (t : Table) : Nat := t.toList.length

end Table

namespace Document

/-- A table with one entry. -/
def single (key : String) (value : Document) : Document := table (.cons key value .nil)

/-- The tables that lead to a value along a path of keys. -/
def nest : List String → Document → Document
  | [], value => value
  | key :: path, value => single key (nest path value)

/-- The value at the end of a path of keys. -/
def lookup : List String → Document → Option Document
  | [], d => some d
  | key :: path, table entries => do lookup path (← entries.find? key)
  | _ :: _, _ => none

/-- The entries of a table; nothing else has any. -/
def entries : Document → Table
  | table entries => entries
  | _ => .nil

end Document

mutual

/-- Two layers as one, the second the later. -/
def Document.merge (earlier : Document) : Document → Document
  | .table later => .table (Table.merge earlier.entries later)
  | later => later

/-- The entries of two layers. -/
def Table.merge (earlier : Table) : Table → Table
  | .nil => earlier
  | .cons key value rest =>
      let merged := match earlier.find? key with
        | some old => Document.merge old value
        | none => value
      (Table.merge earlier rest).insert key merged

end

/-! ## Looking up -/

namespace Table

theorem find?_insert_self (key : String) (value : Document) :
    (t : Table) → (t.insert key value).find? key = some value
  | .nil => by simp [insert, find?]
  | .cons k v rest => by
      have ih := find?_insert_self key value rest
      simp only [insert]
      split
      · simp [find?]
      · split
        · simp [find?]
        · next h _ => simp [find?, h, ih]

theorem find?_insert_of_ne {key other : String} (h : key ≠ other) (value : Document) :
    (t : Table) → (t.insert key value).find? other = t.find? other
  | .nil => by simp [insert, find?, h]
  | .cons k v rest => by
      have ih := find?_insert_of_ne h value rest
      simp only [insert]
      split
      · next hk => simp [find?, hk, h]
      · split
        · simp [find?, h]
        · simp [find?, ih]

end Table

end ByteTap
