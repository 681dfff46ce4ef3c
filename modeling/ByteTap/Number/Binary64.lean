/-!
# Floating-point numbers of 64 bits

A finite number is `significand * 2 ^ exponent` in exact arithmetic, and everything here computes in
natural numbers:

* `ofRatio` and `ofDecimal` give the nearest number, a tie going to the even significand;
* `shortest` gives the fewest decimal digits that read back as the number;
* `text` writes them without an exponent, `compactText` with one where the number is very large or
  very small.

Where two shortest forms are equally near, `text` takes the larger and `compactText` the even one.
-/

namespace ByteTap

/-- A floating-point number of 64 bits. -/
inductive Binary64 where
  /-- The number `significand * 2 ^ exponent`, or its negative. -/
  | finite (negative : Bool) (significand : Nat) (exponent : Int)
  | infinite (negative : Bool)
  | nan
  deriving DecidableEq, Repr, Inhabited

namespace Binary64

/-- The exponent of the smallest numbers. -/
def leastExponent : Int := -1074

/-- The exponent of the largest finite numbers. -/
def greatestExponent : Int := 971

/-- The ratio `num / (den * 2 ^ q)`. -/
def scaleBinary (num den : Nat) (q : Int) : Nat × Nat :=
  if 0 ≤ q then (num, den * Nat.pow 2 q.toNat) else (num * Nat.pow 2 (-q).toNat, den)

/-- The ratio `num / (den * 10 ^ k)`. -/
def scaleDecimal (num den : Nat) (k : Int) : Nat × Nat :=
  if 0 ≤ k then (num, den * Nat.pow 10 k.toNat) else (num * Nat.pow 10 (-k).toNat, den)

/-- The integer nearest to a ratio; a half goes to the even neighbour. -/
def roundHalfEven (num den : Nat) : Nat :=
  let floor := num / den
  let double := 2 * (num % den)
  if double < den then floor
  else if den < double then floor + 1
  else if floor % 2 = 0 then floor else floor + 1

/-- The number nearest to `num / den`, or its negative; `den` is positive. -/
def ofRatio (negative : Bool) (num den : Nat) : Binary64 :=
  if num = 0 then .finite negative 0 leastExponent
  else
    let guess : Int := num.log2 - den.log2 - 52
    let (n, d) := scaleBinary num den guess
    let q := max (if n / d < Nat.pow 2 52 then guess - 1 else guess) leastExponent
    let (n, d) := scaleBinary num den q
    let m := roundHalfEven n d
    let (m, q) := if m = Nat.pow 2 53 then (Nat.pow 2 52, q + 1) else (m, q)
    if greatestExponent < q then .infinite negative else .finite negative m q

/-- How many decimal digits a number has. -/
def digitCount (n : Nat) : Nat := (Nat.toDigits 10 n).length

/-- The number nearest to `digits * 10 ^ power`, or its negative. -/
def ofDecimal (negative : Bool) (digits : Nat) (power : Int) : Binary64 :=
  if digits = 0 then .finite negative 0 leastExponent
  else
    let magnitude := power + digitCount digits
    if magnitude < -330 then .finite negative 0 leastExponent
    else if 310 < magnitude then .infinite negative
    else if 0 ≤ power then ofRatio negative (digits * Nat.pow 10 power.toNat) 1
    else ofRatio negative digits (Nat.pow 10 (-power).toNat)

/-! ## Arithmetic -/

/-- A finite number as a ratio of natural numbers, without its sign. -/
def ratio : Binary64 → Nat × Nat
  | finite _ m q => if 0 ≤ q then (m * Nat.pow 2 q.toNat, 1) else (m, Nat.pow 2 (-q).toNat)
  | _ => (0, 1)

/-- The sign of a number. -/
def isNegative : Binary64 → Bool
  | finite s _ _ | infinite s => s
  | nan => false

/-- The rounded product of two finite numbers. -/
def mul (x y : Binary64) : Binary64 :=
  ofRatio (x.isNegative != y.isNegative) (x.ratio.1 * y.ratio.1) (x.ratio.2 * y.ratio.2)

/-- The rounded quotient of two finite numbers, the second not zero. -/
def div (x y : Binary64) : Binary64 :=
  ofRatio (x.isNegative != y.isNegative) (x.ratio.1 * y.ratio.2) (x.ratio.2 * y.ratio.1)

/-! ## Text -/

/-- The `k` with `10 ^ (k - 1) ≤ num / den < 10 ^ k`. -/
def decimalMagnitude (num den : Nat) : Int :=
  if den ≤ num then digitCount (num / den)
  else
    let length := digitCount (den / num)
    if num * Nat.pow 10 (length - 1) = den then 2 - length else 1 - length

/-- Which of two neighbours stands for a number half-way between them. -/
inductive Tie where
  /-- The larger. -/
  | up
  /-- The even one. -/
  | toEven
  deriving DecidableEq, Repr

/-- The neighbour that stands for the number half-way from `below` to its successor. -/
def Tie.resolve (below : Nat) : Tie → Nat
  | up => below + 1
  | toEven => if below % 2 = 0 then below else below + 1

/-- The point next to `num / den` on the grid of multiples of `10 ^ k` that lies in the interval
from `low / den` to `high / den`; its ends count if `closed`.  Of two, the nearer. -/
def gridPoint? (tie : Tie) (low num high den : Nat) (closed : Bool) (k : Int) : Option Nat :=
  let inside (c : Nat) : Bool :=
    let (l, d) := scaleDecimal low den k
    let (h, _) := scaleDecimal high den k
    if closed then l ≤ c * d && c * d ≤ h else l < c * d && c * d < h
  let (n, d) := scaleDecimal num den k
  let below := n / d
  match inside below, inside (below + 1) with
  | true, true =>
      let double := 2 * (n % d)
      some (if double < d then below else if d < double then below + 1 else tie.resolve below)
  | true, false => some below
  | false, true => some (below + 1)
  | false, false => none

/-- The fewest decimal digits that read back as `m * 2 ^ q`, with the power of ten of the last one.
Seventeen digits always do.  Only a grid of one digit can give a multiple of ten, and that is ten
itself, where the next power of ten is the nearest point. -/
def shortest (tie : Tie) (m : Nat) (q : Int) : Nat × Int :=
  let lowest := if m = Nat.pow 2 52 ∧ leastExponent < q then 1 else 2
  let (num, den) := if 2 ≤ q then (Nat.pow 2 (q - 2).toNat, 1) else (1, Nat.pow 2 (2 - q).toNat)
  let low := (4 * m - lowest) * num
  let value := 4 * m * num
  let high := (4 * m + 2) * num
  let magnitude := decimalMagnitude value den
  ((List.range 17).findSome? fun i =>
    let k := magnitude - ((i + 1 : Nat) : Int)
    (gridPoint? tie low value high den (m % 2 = 0) k).map fun c =>
      if c % 10 = 0 then (c / 10, k + 1) else (c, k)).getD
  (value / den, 0)

/-- Digits with a power of ten, written without an exponent. -/
def positional (digits : Nat) (power : Int) : List Char :=
  let ds := Nat.toDigits 10 digits
  if 0 ≤ power then ds ++ List.replicate power.toNat '0'
  else
    let places := (-power).toNat
    let padded := List.replicate (places + 1 - ds.length) '0' ++ ds
    padded.take (padded.length - places) ++ '.' :: padded.drop (padded.length - places)

/-- The number as text: the fewest digits that read back, without an exponent.  Of two equally near
the larger is written. -/
def text : Binary64 → String
  | finite negative m q =>
      let body := if m = 0 then ['0'] else
        let (digits, power) := shortest .up m q
        positional digits power
      String.ofList (if negative then '-' :: body else body)
  | infinite negative => if negative then "-inf" else "inf"
  | nan => "NaN"

/-- The digits with a power of ten, with a decimal point or an exponent: without an exponent if the
first digit stands among the sixteen places before the point or the five after it.  An exponent has
its sign, plus or minus. -/
def compact (digits : Nat) (power : Int) : List Char :=
  let ds := Nat.toDigits 10 digits
  let point : Int := ds.length + power
  if 0 ≤ power ∧ point ≤ 16 then positional digits power ++ ['.', '0']
  else if -5 < point ∧ point ≤ 16 then positional digits power
  else
    let mantissa := match ds with
      | d :: rest@(_ :: _) => d :: '.' :: rest
      | ds => ds
    let exponent := point - 1
    let sign := if exponent < 0 then '-' else '+'
    mantissa ++ 'e' :: sign :: (toString exponent.natAbs).toList

/-- The number as text: the fewest digits that read back, always with a decimal point or an
exponent.  Of two equally near the even one is written. -/
def compactText : Binary64 → String
  | finite negative m q =>
      let body := if m = 0 then ['0', '.', '0'] else
        let (digits, power) := shortest .toEven m q
        compact digits power
      String.ofList (if negative then '-' :: body else body)
  | x => x.text

end Binary64

end ByteTap
