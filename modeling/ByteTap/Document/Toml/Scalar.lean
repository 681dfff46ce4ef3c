import ByteTap.Document.Json

/-!
# Scalars of TOML

Readers for the smallest parts of a TOML text: blanks and comments, keys and strings, numbers and
dates.  Every reader takes the characters to read and gives what it read with the characters after
it, or nothing if they do not start as they should.
-/

namespace ByteTap.Document.Toml

/-! ## Blanks -/

/-- A tab or a space. -/
def isBlank (c : Char) : Bool := c = ' ' || c = '\t'

/-- Without the blanks at the front. -/
def skipBlank (cs : List Char) : List Char := cs.dropWhile isBlank

/-- A tab, or a character that is not a control character. -/
def isPlain (c : Char) : Bool := c = '\t' || (0x20 ≤ c.toNat && c.toNat ≠ 0x7F)

/-- The end of a line. -/
def newline? : List Char → Option (List Char)
  | '\n' :: rest => some rest
  | '\r' :: '\n' :: rest => some rest
  | _ => none

/-- Without a comment at the front. -/
def skipComment : List Char → List Char
  | '#' :: rest => rest.dropWhile isPlain
  | cs => cs

/-- The rest of a line that holds nothing any more but blanks and a comment. -/
def lineEnd (cs : List Char) : Option (List Char) :=
  match skipComment (skipBlank cs) with
  | [] => some []
  | rest => newline? rest

/-- Without blanks, comments and line ends at the front; `fuel` bounds the number of lines. -/
def skipLines : Nat → List Char → List Char
  | 0, cs => cs
  | fuel + 1, cs =>
      let rest := skipComment (skipBlank cs)
      match newline? rest with
      | some rest => skipLines fuel rest
      | none => rest

/-! ## Strings -/

/-- A fixed number of hexadecimal digits. -/
def hexDigits : Nat → Nat → List Char → Option (Nat × List Char)
  | 0, n, cs => some (n, cs)
  | count + 1, n, c :: rest => do hexDigits count (n * 16 + (← Json.hexDigit? c)) rest
  | _ + 1, _, [] => none

/-- The character of a code point. -/
def scalar? (n : Nat) : Option Char :=
  if n < 0xD800 ∨ (0xE000 ≤ n ∧ n < 0x110000) then some (Char.ofNat n) else none

/-- What follows a backslash. -/
def escape : List Char → Option (Char × List Char)
  | 'b' :: rest => some ('\x08', rest)
  | 't' :: rest => some ('\t', rest)
  | 'n' :: rest => some ('\n', rest)
  | 'f' :: rest => some ('\x0c', rest)
  | 'r' :: rest => some ('\r', rest)
  | '"' :: rest => some ('"', rest)
  | '\\' :: rest => some ('\\', rest)
  | 'u' :: rest => do
      let (n, rest) ← hexDigits 4 0 rest
      pure (← scalar? n, rest)
  | 'U' :: rest => do
      let (n, rest) ← hexDigits 8 0 rest
      pure (← scalar? n, rest)
  | _ => none

/-- The rest of a string between double quotes; `done` holds the characters before, newest first,
and `fuel` bounds their number. -/
def basicRest : Nat → List Char → List Char → Option (String × List Char)
  | 0, _, _ => none
  | fuel + 1, done, cs =>
      match cs with
      | '"' :: rest => some (String.ofList done.reverse, rest)
      | '\\' :: rest => do
          let (c, rest) ← escape rest
          basicRest fuel (c :: done) rest
      | c :: rest => if isPlain c then basicRest fuel (c :: done) rest else none
      | [] => none

/-- The rest of a string between apostrophes. -/
def literalRest (cs : List Char) : Option (String × List Char) :=
  match cs.dropWhile fun c => isPlain c && c ≠ '\'' with
  | '\'' :: rest => some (String.ofList (cs.takeWhile fun c => isPlain c && c ≠ '\''), rest)
  | _ => none

/-- How many of the given character stand at the front. -/
def runLength (q : Char) (cs : List Char) : Nat := (cs.takeWhile (· = q)).length

/-- Without the blanks and line ends at the front. -/
def skipFolded : Nat → List Char → List Char
  | 0, cs => cs
  | fuel + 1, cs =>
      let rest := skipBlank cs
      match newline? rest with
      | some rest => skipFolded fuel rest
      | none => rest

/-- The rest of a string of several lines, whose quotes are the given character; only between
double quotes has the backslash a meaning.  Up to two quotes belong to the text, also right before
the three that end it. -/
def linesRest (quote : Char) : Nat → List Char → List Char → Option (String × List Char)
  | 0, _, _ => none
  | fuel + 1, done, cs =>
      match cs with
      | [] => none
      | c :: rest =>
          if c = quote then
            let run := runLength quote cs
            if run < 3 then linesRest quote fuel (List.replicate run quote ++ done) (cs.drop run)
            else if run ≤ 5 then
              some (String.ofList (List.replicate (run - 3) quote ++ done).reverse, cs.drop run)
            else none
          else if c = '\\' && quote = '"' then
            match newline? (skipBlank rest) with
            | some rest => linesRest quote fuel done (skipFolded fuel rest)
            | none => do
                let (c, rest) ← escape rest
                linesRest quote fuel (c :: done) rest
          else match newline? cs with
            | some rest => linesRest quote fuel ('\n' :: done) rest
            | none => if isPlain c then linesRest quote fuel (c :: done) rest else none

/-- The rest of a string of several lines, after its quotes: a line end right there does not
count. -/
def linesStart (quote : Char) (cs : List Char) : Option (String × List Char) :=
  linesRest quote (cs.length + 1) [] ((newline? cs).getD cs)

/-- A string. -/
def string : List Char → Option (String × List Char)
  | '"' :: '"' :: '"' :: rest => linesStart '"' rest
  | '\'' :: '\'' :: '\'' :: rest => linesStart '\'' rest
  | '"' :: rest => basicRest (rest.length + 1) [] rest
  | '\'' :: rest => literalRest rest
  | _ => none

/-! ## Keys -/

/-- A character of a key without quotes. -/
def isKeyChar (c : Char) : Bool := c.isAlphanum || c = '_' || c = '-'

/-- A key without dots. -/
def simpleKey : List Char → Option (String × List Char)
  | '"' :: rest => basicRest (rest.length + 1) [] rest
  | '\'' :: rest => literalRest rest
  | cs =>
      match cs.takeWhile isKeyChar with
      | [] => none
      | key => some (String.ofList key, cs.dropWhile isKeyChar)

/-- The most keys in a path, and the most lists and tables inside one another, plus one. -/
def depthLimit : Nat := 80

/-- A path of keys with dots between them, and blanks around each. -/
def keyPath : Nat → List Char → Option (List String × List Char)
  | 0, _ => none
  | fuel + 1, cs => do
      let (key, rest) ← simpleKey (skipBlank cs)
      match skipBlank rest with
      | '.' :: rest => do
          let (path, rest) ← keyPath fuel rest
          pure (key :: path, rest)
      | rest => pure ([key], rest)

/-- A path of keys that is not too long. -/
def key (cs : List Char) : Option (List String × List Char) := keyPath (depthLimit - 1) cs

/-! ## Numbers -/

/-- Digits with single underscores between them; the characters after them come along. -/
def grouped (isDigit : Char → Bool) : Nat → List Char → Option (List Char × List Char)
  | 0, _ => none
  | fuel + 1, cs =>
      match cs.takeWhile isDigit with
      | [] => none
      | ds => match cs.dropWhile isDigit with
        | '_' :: rest => do
            let (more, rest) ← grouped isDigit fuel rest
            pure (ds ++ more, rest)
        | rest => some (ds, rest)

/-- A sign. -/
def sign : List Char → Bool × List Char
  | '-' :: rest => (true, rest)
  | '+' :: rest => (false, rest)
  | cs => (false, cs)

/-- The number that digits write in a base. -/
def ofDigits (base : Nat) (ds : List Char) : Nat :=
  ds.foldl (fun n c => n * base + (Json.hexDigit? c).getD 0) 0

/-- A number in decimal digits, without superfluous zeros in front. -/
def decimalDigits (cs : List Char) : Option (List Char × List Char) := do
  let (ds, rest) ← grouped Char.isDigit (cs.length + 1) cs
  match ds with
  | '0' :: _ :: _ => none
  | _ => pure (ds, rest)

/-- An integer of 64 bits. -/
def integerOf (negative : Bool) (n : Nat) : Option Document :=
  if negative then (if n ≤ Nat.pow 2 63 then some (.integer (Int64.ofInt (-n))) else none)
  else if n < Nat.pow 2 63 then some (.integer (Int64.ofInt n)) else none

/-- An integer: decimal with a sign or without one, or in another base. -/
def integer (cs : List Char) : Option (Document × List Char) :=
  let based (base : Nat) (isDigit : Char → Bool) (rest : List Char) := do
    let (ds, rest) ← grouped isDigit (rest.length + 1) rest
    pure (← integerOf false (ofDigits base ds), rest)
  match cs with
  | '0' :: 'x' :: rest => based 16 (fun c => (Json.hexDigit? c).isSome) rest
  | '0' :: 'o' :: rest => based 8 (fun c => '0' ≤ c && c ≤ '7') rest
  | '0' :: 'b' :: rest => based 2 (fun c => c = '0' || c = '1') rest
  | _ => do
      let (negative, rest) := sign cs
      let (ds, rest) ← decimalDigits rest
      pure (← integerOf negative (ofDigits 10 ds), rest)

/-- An exponent. -/
def exponent : List Char → Option (Int × List Char)
  | e :: rest =>
      if e = 'e' || e = 'E' then do
        let (negative, rest) := sign rest
        let (ds, rest) ← grouped Char.isDigit (rest.length + 1) rest
        let n : Int := ofDigits 10 ds
        pure (if negative then -n else n, rest)
      else none
  | [] => none

/-- A floating-point number with digits.  One that is too large is refused, but not one that is too
far below zero. -/
def decimalFloat (cs : List Char) : Option (Document × List Char) := do
  let (negative, rest) := sign cs
  let (whole, rest) ← decimalDigits rest
  let (fraction, power, rest) ← match rest with
    | '.' :: rest => do
        let (ds, rest) ← grouped Char.isDigit (rest.length + 1) rest
        match exponent rest with
        | some (power, rest) => pure (ds, power, rest)
        | none => pure (ds, 0, rest)
    | _ => do
        let (power, rest) ← exponent rest
        pure ([], power, rest)
  let x := Binary64.ofDecimal negative (ofDigits 10 (whole ++ fraction)) (power - fraction.length)
  if x = .infinite false then none else pure (.float x, rest)

/-- Infinity and the number that is none. -/
def specialFloat (cs : List Char) : Option (Document × List Char) :=
  let (negative, rest) := sign cs
  match rest with
  | 'i' :: 'n' :: 'f' :: rest => some (.float (.infinite negative), rest)
  | 'n' :: 'a' :: 'n' :: rest => some (.float .nan, rest)
  | _ => none

/-! ## Dates and times -/

/-- A fixed number of decimal digits. -/
def fixedDigits : Nat → Nat → List Char → Option (Nat × List Char)
  | 0, n, cs => some (n, cs)
  | count + 1, n, c :: rest =>
      if c.isDigit then fixedDigits count (n * 10 + (c.toNat - 48)) rest else none
  | _ + 1, _, [] => none

/-- Two digits that write a number between two others. -/
def twoDigits (least greatest : Nat) (cs : List Char) : Option (Nat × List Char) := do
  let (n, rest) ← fixedDigits 2 0 cs
  if least ≤ n ∧ n ≤ greatest then pure (n, rest) else none

/-- How many days a month has. -/
def monthLength (year month : Nat) : Nat :=
  if month = 2 then
    (if year % 4 = 0 ∧ (year % 100 ≠ 0 ∨ year % 400 = 0) then 29 else 28)
  else if month = 4 ∨ month = 6 ∨ month = 9 ∨ month = 11 then 30 else 31

/-- A character that has to come next. -/
def expect (c : Char) : List Char → Option (List Char)
  | d :: rest => if d = c then some rest else none
  | [] => none

/-- A date. -/
def date (cs : List Char) : Option (List Char) := do
  let (year, rest) ← fixedDigits 4 0 cs
  let (month, rest) ← twoDigits 1 12 (← expect '-' rest)
  let (_, rest) ← twoDigits 1 (monthLength year month) (← expect '-' rest)
  pure rest

/-- A time of day. -/
def time (cs : List Char) : Option (List Char) := do
  let (_, rest) ← twoDigits 0 23 cs
  let (_, rest) ← twoDigits 0 59 (← expect ':' rest)
  let (_, rest) ← twoDigits 0 60 (← expect ':' rest)
  match rest with
  | '.' :: c :: later =>
      if c.isDigit then pure (later.dropWhile Char.isDigit) else pure rest
  | _ => pure rest

/-- The distance from universal time, if it is given. -/
def offset (cs : List Char) : Option (List Char) :=
  match cs with
  | 'Z' :: rest | 'z' :: rest => some rest
  | '+' :: rest | '-' :: rest => do
      let (_, rest) ← twoDigits 0 23 rest
      let (_, rest) ← twoDigits 0 59 (← expect ':' rest)
      pure rest
  | _ => some cs

/-- The rest after a date, with or without a time, or after a time alone. -/
def moment (cs : List Char) : Option (List Char) :=
  match date cs with
  | some rest =>
      match rest with
      | c :: later =>
          if c = 'T' || c = 't' || c = ' ' then
            match time later with
            | some later => offset later
            | none => some rest
          else some rest
      | [] => some rest
  | none => time cs

/-- The key under which the text of a date or time stands. -/
def momentKey : String := "$__toml_private_datetime"

/-- A date or time, as a table that holds its text. -/
def datetime (cs : List Char) : Option (Document × List Char) := do
  let rest ← moment cs
  pure (.single momentKey (.text (String.ofList (cs.take (cs.length - rest.length)))), rest)

end ByteTap.Document.Toml
