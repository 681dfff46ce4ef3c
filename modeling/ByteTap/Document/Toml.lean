import ByteTap.Document.Toml.Scalar
import ByteTap.Document.Toml.Tree

/-!
# Documents from TOML

A TOML text is a sequence of lines: pairs of a key and a value, and headers that say into which
table the pairs below them go.  The text is refused as a whole if anything in it is wrong.
-/

namespace ByteTap.Document.Toml

/-! ## Values -/

/-- The last key of a path, and the path to it. -/
def splitLast : List String → Option (List String × String)
  | [] => none
  | path => do pure (path.dropLast, ← path.getLast?)

mutual

/-- A value.  `fuel` bounds the number of characters, and `depth` is the number of lists and tables
around the value. -/
def value : Nat → Nat → List Char → Option (Document × List Char)
  | 0, _, _ => none
  | fuel + 1, depth, cs =>
      match cs with
      | '"' :: _ | '\'' :: _ => do
          let (s, rest) ← string cs
          pure (.text s, rest)
      | '[' :: rest => if depth + 1 < depthLimit then items fuel (depth + 1) [] rest else none
      | '\x7b' :: rest =>
          if depth + 1 < depthLimit then
            match skipBlank rest with
            | '\x7d' :: rest => some (.table .nil, rest)
            | rest => pairs fuel (depth + 1) .empty rest
          else none
      | 't' :: 'r' :: 'u' :: 'e' :: rest => some (.bool true, rest)
      | 'f' :: 'a' :: 'l' :: 's' :: 'e' :: rest => some (.bool false, rest)
      | _ => datetime cs <|> decimalFloat cs <|> specialFloat cs <|> integer cs

/-- The rest of a list, after the given items, newest first. -/
def items : Nat → Nat → List Document → List Char → Option (Document × List Char)
  | 0, _, _, _ => none
  | fuel + 1, depth, done, cs =>
      match skipLines (fuel + 1) cs with
      | ']' :: rest => some (.list done.reverse, rest)
      | cs => do
          let (item, rest) ← value fuel depth cs
          match skipLines (fuel + 1) rest with
          | ',' :: rest => items fuel depth (item :: done) rest
          | ']' :: rest => pure (.list (item :: done).reverse, rest)
          | _ => none

/-- The rest of a table on one line, which holds the given entries so far. -/
def pairs : Nat → Nat → Branch → List Char → Option (Document × List Char)
  | 0, _, _, _ => none
  | fuel + 1, depth, done, cs => do
      let (path, rest) ← key cs
      let rest ← expect '=' rest
      let (item, rest) ← value fuel depth (skipBlank rest)
      let (path, key) ← splitLast path
      let done ← done.add path key item
      match skipBlank rest with
      | ',' :: rest => pairs fuel depth done rest
      | '\x7d' :: rest => pure (done.toDocument, rest)
      | _ => none

end

/-! ## Lines -/

/-- What has been read: the tree, and the table into which pairs go. -/
structure State where
  root : Branch := .empty
  header : List String := []

/-- A header, after its first bracket. -/
def header (s : State) (cs : List Char) : Option (State × List Char) := do
  let (series, cs) := match cs with
    | '[' :: rest => (true, rest)
    | _ => (false, cs)
  let (path, rest) ← key cs
  let rest ← expect ']' rest
  let rest ← if series then expect ']' rest else some rest
  let rest ← lineEnd rest
  let (parent, last) ← splitLast path
  let root ← if series then s.root.openSeries parent last else s.root.openTable parent last
  pure ({ root, header := path }, rest)

/-- A key and its value. -/
def pair (s : State) (cs : List Char) : Option (State × List Char) := do
  let (path, rest) ← key cs
  let rest := skipBlank (← expect '=' rest)
  let (item, rest) ← value (rest.length + 1) 0 rest
  let rest ← lineEnd rest
  let (path, key) ← splitLast path
  let root ← Branch.within false s.header (Branch.add path key item) s.root
  pure ({ s with root }, rest)

/-- The lines of a text; `fuel` bounds their number. -/
def lines : Nat → State → List Char → Option State
  | 0, _, _ => none
  | fuel + 1, s, cs =>
      match skipLines (cs.length + 1) cs with
      | [] => some s
      | '[' :: rest => do
          let (s, rest) ← header s rest
          lines fuel s rest
      | cs => do
          let (s, rest) ← pair s cs
          lines fuel s rest

/-- The table that a TOML text writes.  A byte order mark in front does not count. -/
def parse? (text : String) : Option Table :=
  let cs := match text.toList with
    | '\uFEFF' :: rest => rest
    | cs => cs
  (lines (cs.length + 1) {} cs).map fun s => s.root.toDocument.entries

end ByteTap.Document.Toml
