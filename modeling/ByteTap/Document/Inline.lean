import ByteTap.Document.Toml.Scalar
import ByteTap.Text.Blank
import ByteTap.Text.Quoted

/-!
# Documents from one line of text

The values of environment variables: truth values, numbers, texts with or without quotes, lists and
tables in brackets.  A text that cannot be read like this to its end stands for itself, so that
every text is a value, unless reading it panics.

The panic is about a text between quotes that has an escape in it.  Of the part before the first
escape only so many bytes are kept as it has characters, which is all of it for ASCII; where the cut
would go through a character, reading panics.
-/

namespace ByteTap.Document.Inline

/-- Why a reader gives no value. -/
inductive Failure where
  /-- The characters do not start as they should. -/
  | malformed
  /-- Reading panicked. -/
  | panic (message : String)
  deriving DecidableEq, Repr

/-- Something read, or that the characters are malformed. -/
def Failure.ofOption {α : Type} : Option α → Except Failure α
  | some a => .ok a
  | none => .error .malformed

/-- A blank character between the parts of a value. -/
def isBlank (c : Char) : Bool :=
  c = ' ' || c = '\t' || c = '\n' || c = '\r' || c = '\x0c'

/-- Without the blank characters at the front. -/
def skipBlank (cs : List Char) : List Char := cs.dropWhile isBlank

/-- A character of a text without quotes. -/
def isBare (c : Char) : Bool :=
  !(c = ',' || c = '\x7b' || c = '\x7d' || c = '[' || c = ']')

/-! ## Texts and numbers -/

/-- The characters of a text between double quotes, escapes and all, and those after it. -/
def quotedSpan : List Char → Option (List Char × List Char)
  | [] => none
  | '"' :: rest => some ([], rest)
  | '\\' :: c :: rest => do
      let (inner, rest) ← quotedSpan rest
      pure ('\\' :: c :: inner, rest)
  | c :: rest => do
      let (inner, rest) ← quotedSpan rest
      pure (c :: inner, rest)

/-- The panic of a cut after that many bytes, which goes through a character that has the given
position in bytes. -/
def cutText (count start : Nat) (c : Char) : String :=
  "end byte index " ++ toString count ++ " is not a char boundary; it is inside '"
    ++ String.ofList (Text.quoteChar c) ++ "' (bytes " ++ toString start ++ ".."
    ++ toString (start + c.utf8Size) ++ " of string)"

/-- The characters that make up the first bytes of a text, up to a position in bytes; the first of
the given characters has the position `start`. -/
def firstBytes (count start : Nat) : List Char → Except Failure (List Char)
  | [] => .ok []
  | c :: cs =>
      if count ≤ start then .ok []
      else if count < start + c.utf8Size then .error (.panic (cutText count start c))
      else do pure (c :: (← firstBytes count (start + c.utf8Size) cs))

/-- The text that the characters between two quotes stand for. -/
def unescape (inner : List Char) : Except Failure String :=
  let plain := inner.takeWhile (· ≠ '\\')
  if !plain.all Toml.isPlain then .error .malformed
  else match inner.dropWhile (· ≠ '\\') with
    | [] => .ok (String.ofList plain)
    | escaped => do
        let front ← firstBytes plain.length 0 plain
        let (rest, _) ← Failure.ofOption
          (Toml.basicRest (escaped.length + 2) [] (escaped ++ ['"']))
        pure (String.ofList front ++ rest)

/-- A text between double quotes, after the first of them. -/
def quoted (cs : List Char) : Except Failure (String × List Char) := do
  let (inner, rest) ← Failure.ofOption (quotedSpan cs)
  pure (← unescape inner, rest)

/-- A key. -/
def key : List Char → Except Failure (String × List Char)
  | '"' :: rest => quoted rest
  | cs =>
      match cs.takeWhile Toml.isKeyChar with
      | [] => .error .malformed
      | name => .ok (String.ofList name, cs.dropWhile Toml.isKeyChar)

/-- Digits, at least one. -/
def someDigits (cs : List Char) : Option Nat :=
  if cs.isEmpty || !cs.all Char.isDigit then none else some (Toml.ofDigits 10 cs)

/-- A number between 0 and 2^64 - 1. -/
def natural? (cs : List Char) : Option Document := do
  let n ← someDigits (match cs with
    | '+' :: rest => rest
    | cs => cs)
  if n < UInt64.size then pure (.natural (UInt64.ofNat n)) else none

/-- A number between -2^63 and 2^63 - 1. -/
def integer? (cs : List Char) : Option Document := do
  let (negative, rest) := Toml.sign cs
  Toml.integerOf negative (← someDigits rest)

/-- An exponent that ends a number, or nothing. -/
def exponent? : List Char → Option Int
  | [] => some 0
  | e :: rest =>
      if e = 'e' || e = 'E' then do
        let (negative, rest) := Toml.sign rest
        let n : Int := ← someDigits rest
        pure (if negative then -n else n)
      else none

/-- A floating-point number with digits on at least one side of its point. -/
def float? (cs : List Char) : Option Document := do
  let (negative, rest) := Toml.sign cs
  let whole := rest.takeWhile Char.isDigit
  match rest.dropWhile Char.isDigit with
  | '.' :: rest =>
      let fraction := rest.takeWhile Char.isDigit
      let power ← exponent? (rest.dropWhile Char.isDigit)
      if whole.isEmpty && fraction.isEmpty then none
      else pure (.float (Binary64.ofDecimal negative (Toml.ofDigits 10 (whole ++ fraction))
        (power - fraction.length)))
  | _ => none

/-- A text without quotes: a number if it reads as one, and itself otherwise.  Only with a point in
it is it a floating-point number. -/
def bare (cs : List Char) : Document :=
  let cs := Text.trimChars cs
  (float? cs <|> natural? cs <|> integer? cs).getD (.text (String.ofList cs))

/-! ## Values -/

mutual

/-- A value with the blanks around it; `fuel` bounds the number of characters. -/
def value : Nat → List Char → Except Failure (Document × List Char)
  | 0, _ => .error .malformed
  | fuel + 1, cs => do
      let (d, rest) ← match skipBlank cs with
        | 't' :: 'r' :: 'u' :: 'e' :: rest => .ok (.bool true, rest)
        | 'f' :: 'a' :: 'l' :: 's' :: 'e' :: rest => .ok (.bool false, rest)
        | '\x7b' :: rest => entries fuel .nil rest
        | '[' :: rest => items fuel [] rest
        | '"' :: rest => do
            let (s, rest) ← quoted rest
            pure (.text s, rest)
        | '\'' :: c :: '\'' :: rest => .ok (.character c, rest)
        | '\'' :: _ => .error .malformed
        | cs => .ok (bare (cs.takeWhile isBare), cs.dropWhile isBare)
      pure (d, skipBlank rest)

/-- The rest of a list, after the given items, newest first; a comma may end it. -/
def items : Nat → List Document → List Char → Except Failure (Document × List Char)
  | 0, _, _ => .error .malformed
  | fuel + 1, done, cs =>
      match cs with
      | ']' :: rest => .ok (.list done.reverse, rest)
      | cs => do
          let (item, rest) ← value fuel cs
          match rest with
          | ',' :: rest => items fuel (item :: done) rest
          | ']' :: rest => .ok (.list (item :: done).reverse, rest)
          | _ => .error .malformed

/-- The rest of a table, after the given entries; a comma may end it. -/
def entries : Nat → Table → List Char → Except Failure (Document × List Char)
  | 0, _, _ => .error .malformed
  | fuel + 1, done, cs =>
      match cs with
      | '\x7d' :: rest => .ok (.table done, rest)
      | cs => do
          let (name, rest) ← key (skipBlank cs)
          let rest ← Failure.ofOption (Toml.expect '=' (skipBlank rest))
          let (item, rest) ← value fuel rest
          match rest with
          | ',' :: rest => entries fuel (done.insert name item) rest
          | '\x7d' :: rest => .ok (.table (done.insert name item), rest)
          | _ => .error .malformed

end

/-- The value that a text writes, or the panic of reading it. -/
def parse (text : String) : Except String Document :=
  let cs := text.toList
  match value (cs.length + 1) cs with
  | .ok (d, []) => .ok d
  | .error (.panic message) => .error message
  | _ => .ok (.text text)

end ByteTap.Document.Inline
