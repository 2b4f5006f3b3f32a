import SmaliLint.Text.Characters

/-!
# Integers as users write them

Decimal digits of any script with single underscores between them, a sign before them, and blanks
around it all. The ASCII separator characters are not blanks here, and there are limits to the
number of digits.

* `Text.integerOf?` : the integer that a text is;
* `Text.boundedOfInt?` : the numeral of an integer, unless it has too many digits.
-/

namespace SmaliLint.Text

/-- The most decimal digits an integer is read or written with. -/
def maxDigits : Nat := 4300

/-- What is said of an integer with too many digits, and of their number where it is known. -/
def digitLimitMessage (count : Option Nat) : String :=
  let found :=
    match count with
    | some n => ": value has " ++ String.ofList (ofNat n) ++ " digits"
    | none => ""
  "Exceeds the limit (" ++ String.ofList (ofNat maxDigits) ++
    " digits) for integer string conversion" ++ found ++
    "; use sys.set_int_max_str_digits() to increase the limit"

/-- The decimal numeral of an integer, unless it has too many digits. -/
def boundedOfInt? (n : Int) : Option Text :=
  if (ofNat n.natAbs).length ≤ maxDigits then some (ofInt n) else none

/-- A blank that may stand around an integer. -/
def isMargin (c : Char) : Bool := isBlank c && !(0x1c ≤ c.toNat && c.toNat ≤ 0x1f)

/-- The values of digits with at most one underscore between neighbours. -/
def digitValues? : Text → Option (List Nat)
  | [] => none
  | [c] => (decimalValue? c).map ([·])
  | c :: '_' :: s => do return (← decimalValue? c) :: (← digitValues? s)
  | c :: s => do return (← decimalValue? c) :: (← digitValues? s)

/-- The number of some digits. -/
def naturalOf? (s : Text) : Option Nat :=
  (digitValues? s).bind fun ds =>
    if ds.length ≤ maxDigits then some (ds.foldl (fun n d => n * 10 + d) 0) else none

/-- The integer that a text is. -/
def integerOf? (s : Text) : Option Int :=
  match ((s.dropWhile isMargin).reverse.dropWhile isMargin).reverse with
  | '-' :: t => (naturalOf? t).map fun n => -(n : Int)
  | '+' :: t => (naturalOf? t).map fun n => (n : Int)
  | t => (naturalOf? t).map fun n => (n : Int)

end SmaliLint.Text
