import ByteTap.Document

/-!
# Documents from JSON

A reader of JSON texts.  A number without fraction and exponent is an integer as long as it fits
into 64 bits, and everything else is floating point: the digits that fit into a 64-bit word,
rounded, times or divided by a rounded power of ten.

Every reader takes the characters to read and gives what it read with the characters after it.
-/

namespace ByteTap.Document.Json

/-- Without the blank characters of JSON at the front. -/
def skipBlank (cs : List Char) : List Char :=
  cs.dropWhile fun c => c = ' ' || c = '\t' || c = '\n' || c = '\r'

/-- The value of a hexadecimal digit. -/
def hexDigit? (c : Char) : Option Nat :=
  if '0' ≤ c ∧ c ≤ '9' then some (c.toNat - 48)
  else if 'a' ≤ c ∧ c ≤ 'f' then some (c.toNat - 87)
  else if 'A' ≤ c ∧ c ≤ 'F' then some (c.toNat - 55)
  else none

/-- Four hexadecimal digits. -/
def unit16 : List Char → Option (Nat × List Char)
  | a :: b :: c :: d :: rest => do
      let a ← hexDigit? a
      let b ← hexDigit? b
      let c ← hexDigit? c
      let d ← hexDigit? d
      pure (((a * 16 + b) * 16 + c) * 16 + d, rest)
  | _ => none

/-- The character after a backslash and a `u`: four digits, or a surrogate pair. -/
def escapedUnit (cs : List Char) : Option (Char × List Char) := do
  let (high, rest) ← unit16 cs
  if 0xD800 ≤ high ∧ high < 0xDC00 then
    match rest with
    | '\\' :: 'u' :: rest =>
        let (low, rest) ← unit16 rest
        if 0xDC00 ≤ low ∧ low < 0xE000 then
          pure (Char.ofNat (0x10000 + (high - 0xD800) * 0x400 + (low - 0xDC00)), rest)
        else none
    | _ => none
  else if 0xDC00 ≤ high ∧ high < 0xE000 then none
  else pure (Char.ofNat high, rest)

/-- The rest of a string after its opening quote; `fuel` bounds its length, and `done` holds the
characters before, newest first. -/
def stringRest : Nat → List Char → List Char → Option (String × List Char)
  | 0, _, _ => none
  | fuel + 1, done, cs =>
      match cs with
      | '"' :: rest => some (String.ofList done.reverse, rest)
      | '\\' :: 'u' :: rest => do
          let (c, rest) ← escapedUnit rest
          stringRest fuel (c :: done) rest
      | '\\' :: c :: rest => do
          let c ← match c with
            | '"' => some '"'
            | '\\' => some '\\'
            | '/' => some '/'
            | 'b' => some '\x08'
            | 'f' => some '\x0c'
            | 'n' => some '\n'
            | 'r' => some '\r'
            | 't' => some '\t'
            | _ => none
          stringRest fuel (c :: done) rest
      | c :: rest => if c.toNat < 0x20 then none else stringRest fuel (c :: done) rest
      | [] => none

/-! ## Numbers -/

/-- The digits at the front. -/
def digits (cs : List Char) : List Nat × List Char :=
  ((cs.takeWhile Char.isDigit).map fun c => c.toNat - 48, cs.dropWhile Char.isDigit)

/-- The number that digits write after one that is already there, as long as it fits into a word,
and the digits from the first one on that does not fit. -/
def fitting (start : Nat) : List Nat → Nat × List Nat
  | [] => (start, [])
  | d :: ds =>
      if start * 10 + d < UInt64.size then fitting (start * 10 + d) ds else (start, d :: ds)

/-- The floating-point number with the given digits before and after the point and the given power
of ten. -/
def floating (negative : Bool) (whole fraction : List Nat) (power : Int) : Binary64 :=
  let (word, beyond) := fitting 0 whole
  let (word, unused) := fitting word fraction
  let power := power + beyond.length - ((fraction.length - unused.length : Nat) : Int)
  let word := Binary64.ofDecimal negative word 0
  if 0 ≤ power then word.mul (Binary64.ofDecimal false 1 power)
  else if -308 ≤ power then word.div (Binary64.ofDecimal false 1 (-power))
  else (word.div (Binary64.ofDecimal false 1 308)).div
    (Binary64.ofDecimal false 1 (min (-power - 308) 308))

/-- The number without fraction and exponent. -/
def whole (negative : Bool) (ds : List Nat) : Document :=
  let n : Nat := ds.foldl (fun n d => n * 10 + d) 0
  if negative then
    if n = 0 ∨ Nat.pow 2 63 < n then .float (floating true ds [] 0) else .integer (Int64.ofInt (-n))
  else if n < UInt64.size then .natural (UInt64.ofNat n) else .float (floating false ds [] 0)

/-- An exponent, if there is one. -/
def exponent (cs : List Char) : Option (Option Int × List Char) :=
  match cs with
  | 'e' :: rest | 'E' :: rest =>
      let (negative, rest) := match rest with
        | '-' :: rest => (true, rest)
        | '+' :: rest => (false, rest)
        | rest => (false, rest)
      match digits rest with
      | ([], _) => none
      | (ds, rest) =>
          let n : Int := (ds.foldl (fun n d => n * 10 + d) 0 : Nat)
          some (some (if negative then -n else n), rest)
  | _ => some (none, cs)

/-- A number. -/
def number (cs : List Char) : Option (Document × List Char) := do
  let (negative, cs) := match cs with
    | '-' :: rest => (true, rest)
    | _ => (false, cs)
  let (ds, rest) := digits cs
  if ds.isEmpty || (ds.length > 1 && ds.head? == some 0) then none
  else
    match rest with
    | '.' :: rest =>
        let (fs, rest) := digits rest
        if fs.isEmpty then none
        else
          let (power, rest) ← exponent rest
          pure (.float (floating negative ds fs (power.getD 0)), rest)
    | _ => do
        let (power, rest) ← exponent rest
        match power with
        | some power => pure (.float (floating negative ds [] power), rest)
        | none => pure (whole negative ds, rest)

/-! ## Values -/

mutual

/-- A value; `fuel` bounds the number of characters. -/
def value : Nat → List Char → Option (Document × List Char)
  | 0, _ => none
  | fuel + 1, cs =>
      match skipBlank cs with
      | 'n' :: 'u' :: 'l' :: 'l' :: rest => some (.null, rest)
      | 't' :: 'r' :: 'u' :: 'e' :: rest => some (.bool true, rest)
      | 'f' :: 'a' :: 'l' :: 's' :: 'e' :: rest => some (.bool false, rest)
      | '"' :: rest => do
          let (s, rest) ← stringRest (rest.length + 1) [] rest
          pure (.text s, rest)
      | '[' :: rest => match skipBlank rest with
          | ']' :: rest => some (.list [], rest)
          | rest => items fuel [] rest
      | '\x7b' :: rest => match skipBlank rest with
          | '\x7d' :: rest => some (.table .nil, rest)
          | rest => entries fuel .nil rest
      | cs => number cs

/-- The rest of a list, after the given items, newest first. -/
def items : Nat → List Document → List Char → Option (Document × List Char)
  | 0, _, _ => none
  | fuel + 1, done, cs => do
      let (item, rest) ← value fuel cs
      match skipBlank rest with
      | ',' :: rest => items fuel (item :: done) rest
      | ']' :: rest => pure (.list (item :: done).reverse, rest)
      | _ => none

/-- The rest of a table, after the given entries. -/
def entries : Nat → Table → List Char → Option (Document × List Char)
  | 0, _, _ => none
  | fuel + 1, done, cs =>
      match skipBlank cs with
      | '"' :: rest => do
          let (key, rest) ← stringRest (rest.length + 1) [] rest
          match skipBlank rest with
          | ':' :: rest =>
              let (item, rest) ← value fuel rest
              match skipBlank rest with
              | ',' :: rest => entries fuel (done.insert key item) rest
              | '\x7d' :: rest => pure (.table (done.insert key item), rest)
              | _ => none
          | _ => none
      | _ => none

end

/-- The document that a JSON text writes. -/
def parse? (text : String) : Option Document :=
  let cs := text.toList
  match value (cs.length + 1) cs with
  | some (d, rest) => if (skipBlank rest).isEmpty then some d else none
  | none => none

end ByteTap.Document.Json
