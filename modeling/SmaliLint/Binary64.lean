import SmaliLint.Text.Basic

/-!
# Binary numbers of 64 bits

A finite number is `mantissa * 2 ^ exponent` with a mantissa of at most 53 bits and an exponent of at
least -1074. Beside them there are two infinities, and a value that is no number.

* `Binary64.nearest` : the number nearest to a decimal one, the one with the even mantissa if two are
  equally near;
* `Binary64.shortest` : the fewest decimal digits that the number is nearest to;
* `Binary64.text` : the number as text.
-/

namespace SmaliLint

inductive Binary64 where
  | finite (negative : Bool) (mantissa : Nat) (exponent : Int)
  | infinite (negative : Bool)
  | notANumber
  deriving DecidableEq, Repr

/-- `digits * 10 ^ exponent`. -/
structure Decimal where
  digits : Nat
  exponent : Int
  deriving DecidableEq, Repr

namespace Binary64

/-! ## From decimal to binary -/

/-- The whole number nearest to `n / d`, the even one if two are equally near. -/
def divideToEven (n d : Nat) : Nat :=
  let q := n / d
  let twice := 2 * (n % d)
  if twice < d then q else if twice = d then q + q % 2 else q + 1

/-- The number of bits of a mantissa. -/
def precision : Nat := 53

/-- The number above all mantissas. -/
def mantissaLimit : Nat := Nat.pow 2 precision

/-- The least exponent of a finite number. -/
def leastExponent : Int := -1074

/-- The greatest exponent of a finite number. -/
def greatestExponent : Int := 971

/-- The numerator and the denominator of `n / d / 2 ^ e`. -/
def scaled (n d : Nat) (e : Int) : Nat × Nat :=
  (n * Nat.pow 2 (-e).toNat, d * Nat.pow 2 e.toNat)

/-- The exponent of the number nearest to the positive `n / d`: the least for which the mantissa has
no more bits than it may have. -/
def exponentOf (n d : Nat) : Int :=
  let guess := max leastExponent ((Nat.log2 n : Int) - Nat.log2 d - precision)
  let r := scaled n d guess
  if r.1 / r.2 < mantissaLimit then guess else guess + 1

/-- The finite number of the given mantissa, or infinity if the exponent is too great. A mantissa with
one bit too many is a power of two. -/
def ofMantissa (negative : Bool) (mantissa : Nat) (e : Int) : Binary64 :=
  let carried := mantissa = mantissaLimit
  let e := if carried then e + 1 else e
  if greatestExponent < e then .infinite negative
  else .finite negative (if carried then mantissaLimit / 2 else mantissa) e

/-- The number nearest to a positive decimal one. Decimals far beyond the finite numbers are told by
the place of their first digit. -/
def nearestPositive (negative : Bool) (x : Decimal) : Binary64 :=
  let top := x.exponent + (Text.ofNat x.digits).length
  if top < -400 then .finite negative 0 leastExponent
  else if 400 < top then .infinite negative
  else
    let n := x.digits * Nat.pow 10 x.exponent.toNat
    let d := Nat.pow 10 (-x.exponent).toNat
    let e := exponentOf n d
    let r := scaled n d e
    ofMantissa negative (divideToEven r.1 r.2) e

/-- The number nearest to a decimal one with a sign. -/
def nearest (negative : Bool) (x : Decimal) : Binary64 :=
  if x.digits = 0 then .finite negative 0 leastExponent else nearestPositive negative x

/-! ## From binary to decimal -/

/-- The place of the first digit of a positive number: 0 for ones, 1 for tens. -/
def firstPlace (mantissa : Nat) (e : Int) : Int :=
  let r := scaled mantissa 1 (-e)
  ((Text.ofNat (r.1 * Nat.pow 10 400 / r.2)).length : Int) - 401

/-- The decimal of `count` digits that is nearest to a positive number and that the number is nearest
to, if there is one. -/
def withDigits? (mantissa : Nat) (e : Int) (count : Nat) : Option Decimal :=
  let place := firstPlace mantissa e - count + 1
  let r := scaled mantissa 1 (-e)
  let n := r.1 * Nat.pow 10 (-place).toNat
  let d := r.2 * Nat.pow 10 place.toNat
  let isRead (digits : Nat) : Bool :=
    nearest false ⟨digits, place⟩ = .finite false mantissa e
  let near := divideToEven n d
  let other := if near = n / d then near + 1 else n / d
  if isRead near then some ⟨near, place⟩
  else if isRead other then some ⟨other, place⟩
  else none

/-- The fewest digits that a positive number is nearest to. Seventeen are always enough. -/
def shortest (mantissa : Nat) (e : Int) : Decimal :=
  ((List.range 17).findSome? fun i => withDigits? mantissa e (i + 1)).getD ⟨0, 0⟩

/-! ## Text -/

/-- Numerals without the zeros at their end. -/
def trimZeros (s : Text) : Text := (s.reverse.dropWhile (· = '0')).reverse

/-- An exponent with its sign and at least two digits. -/
def exponentText (e : Int) : Text :=
  let digits := Text.ofNat e.natAbs
  (if e < 0 then '-' else '+') :: (List.replicate (2 - digits.length) '0' ++ digits)

/-- Digits with the first of them at the given place. Numbers from a ten-thousandth to below ten to
the sixteenth are written out, with at least one digit behind the point; others have an exponent. -/
def layout (digits : Text) (place : Int) : Text :=
  if place < -4 ∨ 16 ≤ place then
    let rest := digits.drop 1
    digits.take 1 ++ (if rest = [] then [] else '.' :: rest) ++ 'e' :: exponentText place
  else if place < 0 then
    '0' :: '.' :: (List.replicate (-place - 1).toNat '0' ++ digits)
  else
    let whole := digits.take (place.toNat + 1)
    let rest := digits.drop (place.toNat + 1)
    whole ++ List.replicate (place.toNat + 1 - whole.length) '0' ++
      '.' :: (if rest = [] then ['0'] else rest)

/-- A number as text. -/
def text : Binary64 → Text
  | .notANumber => "nan".toList
  | .infinite negative => if negative then "-inf".toList else "inf".toList
  | .finite negative mantissa e =>
    let body :=
      if mantissa = 0 then "0.0".toList
      else
        let x := shortest mantissa e
        let digits := Text.ofNat x.digits
        layout (trimZeros digits) (x.exponent + digits.length - 1)
    if negative then '-' :: body else body

/-- Whether a number is zero. -/
def isZero : Binary64 → Bool
  | .finite _ mantissa _ => mantissa = 0
  | _ => false

end Binary64

end SmaliLint
