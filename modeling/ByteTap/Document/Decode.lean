import ByteTap.Document
import ByteTap.Lifecycle
import ByteTap.Settings
import ByteTap.Text.Quoted

/-!
# Reading values out of documents

A decoder takes a document apart and says where and why it does not fit.  A record is read from a
table, whose entries are looked at in order and whose unknown keys do not count, or from a list that
holds the fields in the order of declaration.

There are two dialects.  Plain data come from one document alone; layered configuration is what
several layers were merged into, and its mismatches name the key at fault.
-/

namespace ByteTap

/-- Where a document comes from. -/
inductive Dialect where
  /-- One document alone. -/
  | plain
  /-- Several layers of configuration. -/
  | layered
  deriving DecidableEq, Repr

/-- Why a document does not fit. -/
inductive Problem where
  | wrongType (found : Document) (expected : String)
  | wrongValue (found : Document) (expected : String)
  | unknownVariant (found : String) (expected : List String)
  | missingField (name : String)
  | wrongLength (length : Nat) (expected : String)

/-- A problem and the path of keys to the value at fault. -/
structure Mismatch where
  path : List String := []
  problem : Problem

namespace Problem

/-- The names between backquotes, as a choice. -/
def choice (names : List String) : String :=
  match names.map fun name => "`" ++ name ++ "`" with
  | [one] => one
  | [one, other] => one ++ " or " ++ other
  | several => "one of " ++ ", ".intercalate several

/-- A document in a message about plain data. -/
def plainWord : Document → String
  | .null => "null"
  | .bool value => "boolean `" ++ toString value ++ "`"
  | .natural value => "integer `" ++ toString value.toNat ++ "`"
  | .integer value => "integer `" ++ toString value.toInt ++ "`"
  | .float value => "floating point `" ++ value.compactText ++ "`"
  | .text value => "string " ++ Text.quote value
  | .character value => "string " ++ Text.quote (String.singleton value)
  | .list _ => "sequence"
  | .table _ => "map"

/-- A document in a message about layered configuration. -/
def layeredWord : Document → String
  | .null => "option"
  | .bool value => "bool " ++ toString value
  | .natural value => "unsigned int `" ++ toString value.toNat ++ "`"
  | .integer value => "signed int `" ++ toString value.toInt ++ "`"
  | .float value => "float `" ++ value.text ++ "`"
  | .text value => "string " ++ Text.quote value
  | .character value => "string " ++ Text.quote (String.singleton value)
  | .list _ => "sequence"
  | .table _ => "map"

/-- A problem of plain data in words. -/
def plainText : Problem → String
  | wrongType found expected => "invalid type: " ++ plainWord found ++ ", expected " ++ expected
  | wrongValue found expected => "invalid value: " ++ plainWord found ++ ", expected " ++ expected
  | unknownVariant found expected =>
      "unknown variant `" ++ found ++ "`, expected " ++ choice expected
  | missingField name => "missing field `" ++ name ++ "`"
  | wrongLength length expected =>
      "invalid length " ++ toString length ++ ", expected " ++ expected

/-- A problem of layered configuration in words. -/
def layeredText : Problem → String
  | wrongType found expected =>
      "invalid type: found " ++ layeredWord found ++ ", expected " ++ expected
  | wrongValue found expected =>
      "invalid value " ++ layeredWord found ++ ", expected " ++ expected
  | unknownVariant found expected =>
      "unknown variant: found `" ++ found ++ "`, expected `" ++ choice expected ++ "`"
  | missingField name => "missing field `" ++ name ++ "`"
  | wrongLength length expected =>
      "invalid length " ++ toString length ++ ", expected " ++ expected

end Problem

/-- A way to read a value out of a document. -/
abbrev Decoder (α : Type) := Document → Except Mismatch α

namespace Decoder

variable {α : Type}

/-- The document does not fit, for a reason at its top. -/
def mismatch (problem : Problem) : Except Mismatch α := .error { problem }

/-- The reason lies under a key. -/
def under (key : String) : Except Mismatch α → Except Mismatch α
  | .ok value => .ok value
  | .error m => .error { m with path := key :: m.path }

/-- A word that is not negative; messages call its type by the given name. -/
def word (name : String) : Decoder UInt64
  | .natural n => .ok n
  | .integer i =>
      if i.toInt < 0 then mismatch (.wrongValue (.integer i) name)
      else .ok (UInt64.ofNat i.toInt.toNat)
  | d => mismatch (.wrongType d name)

/-- A truth value. -/
def bool : Decoder Bool
  | .bool b => .ok b
  | d => mismatch (.wrongType d "a boolean")

/-- A text; messages call it by the given words. -/
def text (what : String) : Decoder String
  | .text s => .ok s
  | .character c => .ok (String.singleton c)
  | d => mismatch (.wrongType d what)

/-- A value or nothing. -/
def optional (decode : Decoder α) : Decoder (Option α)
  | .null => .ok none
  | d => some <$> decode d

/-! ## Choices -/

/-- A choice between named values, none of which carries anything. -/
structure Choice (α : Type) where
  /-- What messages call the choice. -/
  title : String
  /-- The names, in the order of declaration. -/
  names : List String
  ofName? : String → Option α

/-- The value of a name. -/
def Choice.named (c : Choice α) (name : String) : Except Mismatch α :=
  match c.ofName? name with
  | some value => .ok value
  | none => mismatch (.unknownVariant name c.names)

/-- Nothing at all. -/
def nothing : Decoder Unit
  | .null => .ok ()
  | d => mismatch (.wrongType d "unit")

/-- Reads a choice: its name, or a table with the name as its only key and nothing in it. -/
def choice (dialect : Dialect) (c : Choice α) : Decoder α
  | .text name => c.named name
  | .table entries =>
      match dialect, entries with
      | .plain, .cons name content .nil => do
          let value ← c.named name
          nothing content
          pure value
      | .plain, entries => mismatch (.wrongValue (.table entries) "map with a single key")
      | .layered, .cons name content _ => do
          let value ← c.named name
          under name (nothing content)
          pure value
      | .layered, .nil => mismatch (.wrongType (.table .nil) "enum")
  | d => mismatch (.wrongType d (match dialect with
      | .plain => "string or map"
      | .layered => "enum " ++ c.title))

/-! ## Records -/

/-- A field of a record: its name, and how its document changes the record. -/
structure Field (α : Type) where
  name : String
  set : Document → α → Except Mismatch α

/-- A field that is read by a decoder and put into the record. -/
def Field.of {β : Type} (name : String) (decode : Decoder β) (put : β → α → α) : Field α where
  name := name
  set d a := do pure (put (← decode d) a)

/-- The shape of a record. -/
structure Shape (α : Type) where
  /-- What messages call the record. -/
  title : String
  /-- The fields in the order of declaration. -/
  fields : List (Field α)
  /-- The record before any field is read. -/
  start : α
  /-- Every field has to be there; otherwise `start` gives the ones that are not. -/
  complete : Bool := false

/-- Reads the entries of a table into a record. -/
def readEntries (s : Shape α) : Table → α → Except Mismatch α
  | .nil, a => .ok a
  | .cons key d rest, a => do
      match s.fields.find? fun field => field.name == key with
      | some field => readEntries s rest (← under key (field.set d a))
      | none => readEntries s rest a

/-- Reads the items of a list into a record, from the given position on; with the record come the
items that are left. -/
def readItems (position : Nat) : List (Field α) → List Document → α →
    Except Mismatch (α × List Document)
  | field :: fields, item :: items, a => do
      readItems (position + 1) fields items (← under (toString position) (field.set item a))
  | _, items, a => .ok (a, items)

/-- The words for a record with all its fields. -/
def Shape.extent (s : Shape α) : String :=
  "struct " ++ s.title ++ " with " ++ toString s.fields.length ++ " elements"

/-- Reads a record. -/
def record (dialect : Dialect) (s : Shape α) : Decoder α
  | .table entries => do
      let a ← readEntries s entries s.start
      match s.complete, s.fields.find? fun field => (entries.find? field.name).isNone with
      | true, some field => mismatch (.missingField field.name)
      | _, _ => pure a
  | .list items => do
      let (a, beyond) ← readItems 0 s.fields items s.start
      if s.complete && items.length < s.fields.length then
        mismatch (.wrongLength items.length s.extent)
      else if dialect == .plain && !beyond.isEmpty then
        mismatch (.wrongLength items.length "fewer elements in array")
      else pure a
  | d => mismatch (.wrongType d ("struct " ++ s.title))

end Decoder

/-! ## The values of an engine -/

namespace Policy

/-- The choice of a policy. -/
def choice : Decoder.Choice Policy where
  title := "CapacityPolicy"
  names := all.map name
  ofName? := ofName?

/-- Reads a policy. -/
def decode (dialect : Dialect) : Decoder Policy := Decoder.choice dialect choice

end Policy

namespace Phase

/-- The choice of a phase. -/
def choice : Decoder.Choice Phase where
  title := "EngineState"
  names := all.map name
  ofName? := ofName?

/-- Reads a phase. -/
def decode (dialect : Dialect) : Decoder Phase := Decoder.choice dialect choice

end Phase

namespace Settings

/-- The shape of engine settings. -/
def shape (dialect : Dialect) : Decoder.Shape Settings where
  title := "EngineConfig"
  start := {}
  fields :=
    [.of "capacity" (.word "usize") fun x s => { s with capacity := x },
     .of "capacity_policy" (Policy.decode dialect) fun x s => { s with policy := x },
     .of "error_backoff_ms" (.word "u64") fun x s => { s with errorBackoffMs := x },
     .of "max_error_backoff_ms" (.word "u64") fun x s => { s with maxErrorBackoffMs := x },
     .of "worker_name" (.text "a string") fun x s => { s with workerName := x }]

/-- Reads engine settings; what is not there has its default. -/
def decode (dialect : Dialect) : Decoder Settings := Decoder.record dialect (shape dialect)

/-- Engine settings as a document. -/
def toDocument (s : Settings) : Document :=
  .table (.ofList
    [("capacity", .natural s.capacity), ("capacity_policy", .text s.policy.name),
     ("error_backoff_ms", .natural s.errorBackoffMs),
     ("max_error_backoff_ms", .natural s.maxErrorBackoffMs),
     ("worker_name", .text s.workerName)])

end Settings

namespace Tally

/-- The shape of the counters. -/
def shape : Decoder.Shape Tally where
  title := "IngestStats"
  start := {}
  complete := true
  fields :=
    [counter "reads_completed" fun x t => { t with readsCompleted := x },
     counter "bytes_received" fun x t => { t with bytesReceived := x },
     counter "zero_byte_reads" fun x t => { t with zeroByteReads := x },
     counter "read_errors" fun x t => { t with readErrors := x },
     counter "callbacks_invoked" fun x t => { t with callbacksInvoked := x },
     counter "exhaustion_events" fun x t => { t with exhaustionEvents := x },
     counter "bytes_released" fun x t => { t with bytesReleased := x }]
where
  counter (name : String) (put : Nat → Tally → Tally) : Decoder.Field Tally :=
    .of name (.word "u64") fun x t => put x.toNat t

/-- Reads the counters, all of which have to be there. -/
def decode (dialect : Dialect) : Decoder Tally := Decoder.record dialect shape

end Tally

end ByteTap
