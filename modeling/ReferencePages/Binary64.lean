import ReferencePages.Text
/-!
Binary floating point of 64 bits as exact numbers: a finite value is a whole number of at most 53 bits
times a power of two. Decimals are rounded to the nearest value, a tie to the even one; a value is
written with the fewest digits that read back as the same value.
-/

namespace ReferencePages

/-- A value of 64 bits. A finite one is `mantissa * 2 ^ exponent`, where the mantissa has 53 bits or the
exponent is the least one. -/
inductive Binary64
  | finite (negative : Bool) (mantissa : Nat) (exponent : Int)
  | infinite (negative : Bool)
  | notANumber
  deriving DecidableEq, Repr

namespace Binary64

/-- A power of two. -/
def pow2 (n : Nat) : Nat := Nat.pow 2 n

/-- A power of ten. -/
def pow10 (n : Nat) : Nat := Nat.pow 10 n

/-- The exponent of the finest spacing. -/
def leastExponent : Int := -1074

/-- The exponent of the widest spacing. -/
def greatestExponent : Int := 971

/-- The quotient rounded to the nearest whole number, a tie to the even one. -/
def roundDiv (num den : Nat) : Nat :=
  let q := num / den
  let twice := 2 * (num % den)
  if twice < den then q
  else if den < twice then q + 1
  else if q % 2 = 0 then q else q + 1

/-- Numerator and denominator of `num / den / 2 ^ e`. -/
def scaleDown (num den : Nat) (e : Int) : Nat × Nat :=
  if 0 ≤ e then (num, den * pow2 e.toNat) else (num * pow2 (-e).toNat, den)

/-- The value nearest to a quotient of natural numbers. -/
def ofRatio (negative : Bool) (num den : Nat) : Binary64 :=
  if num = 0 then finite negative 0 leastExponent
  else
    let k : Int := (num.log2 : Int) - (den.log2 : Int)
    let low := max (k - 53) leastExponent
    let (n, d) := scaleDown num den low
    let e := if n / d < pow2 53 then low else low + 1
    let (n, d) := scaleDown num den e
    let m := roundDiv n d
    let (m, e) := if m = pow2 53 then (pow2 52, e + 1) else (m, e)
    if greatestExponent < e then infinite negative else finite negative m e

/-- The value nearest to `digits * 10 ^ exponent`. Exponents far beyond the range are decided without
computing the power. -/
def ofDecimal (negative : Bool) (digits : Nat) (exponent : Int) : Binary64 :=
  let size : Int := (Nat.toDigits 10 digits).length + exponent
  if digits = 0 || size < -400 then finite negative 0 leastExponent
  else if 400 < size then infinite negative
  else if 0 ≤ exponent then ofRatio negative (digits * pow10 exponent.toNat) 1
  else ofRatio negative digits (pow10 (-exponent).toNat)

/-- The value nearest to an integer. -/
def ofInt (n : Int) : Binary64 := ofRatio (n < 0) n.natAbs 1

/-- Zero. -/
def zero : Binary64 := finite false 0 leastExponent

/-- The value with the other sign. -/
def negate : Binary64 → Binary64
  | finite negative m e => finite (!negative) m e
  | infinite negative => infinite (!negative)
  | notANumber => notANumber

/-- The signed numerator of a finite value over the denominator `2 ^ 1074`. -/
def scaledInt (negative : Bool) (mantissa : Nat) (exponent : Int) : Int :=
  let n : Nat := mantissa * pow2 (exponent - leastExponent).toNat
  if negative then -(n : Int) else n

/-- The sum, rounded. -/
def add : Binary64 → Binary64 → Binary64
  | finite a m e, finite b n f =>
    let sum := scaledInt a m e + scaledInt b n f
    if sum = 0 then finite (a && b) 0 leastExponent
    else ofRatio (sum < 0) sum.natAbs (pow2 1074)
  | infinite a, infinite b => if a = b then infinite a else notANumber
  | notANumber, _ | _, notANumber => notANumber
  | infinite a, finite .. => infinite a
  | finite .., infinite b => infinite b

/-- The product with a natural number that is not zero, rounded. -/
def scale (n : Nat) : Binary64 → Binary64
  | finite negative m e =>
    ofRatio negative (n * (scaledInt false m e).natAbs) (pow2 1074)
  | x => x

/-- The whole number that a value is, if it is one. -/
def toInt? : Binary64 → Option Int
  | finite negative m e =>
    let n := scaledInt negative m e
    let unit : Int := pow2 1074
    if n % unit = 0 then some (n / unit) else none
  | _ => none

/-- Whether a value is neither zero nor the negative zero. -/
def isNonzero : Binary64 → Bool
  | finite _ 0 _ => false
  | _ => true

/-- Numerator and denominator of a finite magnitude. -/
def ratio (mantissa : Nat) (exponent : Int) : Nat × Nat :=
  if 0 ≤ exponent then (mantissa * pow2 exponent.toNat, 1) else (mantissa, pow2 (-exponent).toNat)

/-- How far `digits * 10 ^ e` lies from a quotient, as the numerator over a denominator that does not
depend on the digits. -/
def distance (num den digits : Nat) (e : Int) : Nat :=
  let (a, b) :=
    if 0 ≤ e then (num, digits * pow10 e.toNat * den) else (num * pow10 (-e).toNat, digits * den)
  if a ≤ b then b - a else a - b

/-- The decimals next to a quotient on the grid of `10 ^ e`, the nearer first. -/
def neighbours (num den : Nat) (e : Int) : List Nat :=
  let below :=
    if 0 ≤ e then num / (den * pow10 e.toNat) else num * pow10 (-e).toNat / den
  let above := below + 1
  let toBelow := distance num den below e
  let toAbove := distance num den above e
  if toBelow < toAbove || (toBelow = toAbove && below % 2 = 0) then [below, above]
  else [above, below]

/-- The number of digits in front of the point, zero or less if the first digit stands behind it. -/
def pointPosition (num den : Nat) : Int :=
  let digits (n : Nat) : Int := (Nat.toDigits 10 n).length
  let guess := digits num - digits den
  let reaches :=
    if 0 ≤ guess then decide (den * pow10 guess.toNat ≤ num)
    else decide (den ≤ num * pow10 (-guess).toNat)
  if reaches then guess + 1 else guess

/-- The fewest digits, with their power of ten, that read back as the same value: the grids from coarse
to fine, `count` of them at most. -/
def shortestFrom (mantissa : Nat) (exponent : Int) (e : Int) : (count : Nat) → Nat × Int
  | 0 => (mantissa, 0)
  | count + 1 =>
    let (num, den) := ratio mantissa exponent
    match (neighbours num den e).find? fun d =>
        ofDecimal false d e = finite false mantissa exponent with
    | some d => (d, e)
    | none => shortestFrom mantissa exponent (e - 1) count

/-- The fewest digits that read back as a finite magnitude that is not zero. -/
def shortest (mantissa : Nat) (exponent : Int) : Nat × Int :=
  let (num, den) := ratio mantissa exponent
  shortestFrom mantissa exponent (pointPosition num den - 1) 17

/-- The decimal digits without the zeros at their end, and the position of the point. -/
def significant (digits : Nat) (e : Int) : Text × Int :=
  let written := Nat.toDigits 10 digits
  match Text.trimEndWhile (· == '0') written with
  | [] => (['0'], 1)
  | kept => (kept, written.length + e)

/-- An exponent with its sign and at least two digits. -/
def exponentText (e : Int) : Text :=
  let digits := Text.ofNat e.natAbs
  (if e < 0 then '-' else '+') :: (if digits.length < 2 then '0' :: digits else digits)

/-- Digits with the point at a position: positional from four zeros behind the point up to sixteen
places in front of it, and with an exponent beyond. -/
def positioned (digits : Text) (point : Int) : Text :=
  if -4 < point && point ≤ 16 then
    if point ≤ 0 then "0." ++ List.replicate (-point).toNat '0' ++ digits
    else
      let n := point.toNat
      if digits.length ≤ n then digits ++ List.replicate (n - digits.length) '0' ++ ".0"
      else digits.take n ++ "." ++ digits.drop n
  else
    let mantissa := match digits with
      | d :: e :: more => d :: '.' :: e :: more
      | short => short
    mantissa ++ "e" ++ exponentText (point - 1)

/-- The sign of a value as it is written. -/
def signText (negative : Bool) : Text := if negative then "-" else ""

/-- The value as text, with the fewest digits that read back. -/
def toText : Binary64 → Text
  | notANumber => "nan"
  | infinite negative => signText negative ++ "inf"
  | finite negative 0 _ => signText negative ++ "0.0"
  | finite negative mantissa exponent =>
    let (digits, e) := shortest mantissa exponent
    let (digits, point) := significant digits e
    signText negative ++ positioned digits point

/-- The value rounded to a whole number, a tie to the even one. -/
def toWholeText : Binary64 → Text
  | notANumber => "nan"
  | infinite negative => signText negative ++ "inf"
  | finite negative mantissa exponent =>
    let (num, den) := ratio mantissa exponent
    signText negative ++ Text.ofNat (roundDiv num den)

end Binary64
end ReferencePages
