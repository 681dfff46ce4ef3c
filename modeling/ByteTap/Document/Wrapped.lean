import ByteTap.Document

/-!
# Wrapped values

Inside a file of configuration, a table can be a wrapper around one value: it has the value at a
reserved key, and whatever else it has is dropped.  A second reserved key is for an identity that
only programs give to values; no file can write one.
-/

namespace ByteTap

/-- The key at which a wrapper has its value. -/
def wrappedKey : String := "___figment_value_value"

/-- The key at which a wrapper has its identity. -/
def identityKey : String := "___figment_value_id"

mutual

/-- A document with every wrapper in it replaced by its value; nothing if one has an identity. -/
def Document.unwrap? : Document → Option Document
  | .list items => do pure (.list (← Document.unwrapItems? items))
  | .table entries => do
      let entries ← Table.unwrapEntries? entries
      if (entries.find? identityKey).isSome then none
      else pure ((entries.find? wrappedKey).getD (.table entries))
  | d => some d

/-- The items of a list without wrappers. -/
def Document.unwrapItems? : List Document → Option (List Document)
  | [] => some []
  | d :: rest => do pure ((← Document.unwrap? d) :: (← Document.unwrapItems? rest))

/-- The entries of a table without wrappers; the table itself is taken for none. -/
def Table.unwrapEntries? : Table → Option Table
  | .nil => some .nil
  | .cons key value rest => do
      pure (.cons key (← Document.unwrap? value) (← Table.unwrapEntries? rest))

end

end ByteTap
