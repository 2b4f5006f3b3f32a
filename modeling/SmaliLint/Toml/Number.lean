import SmaliLint.Toml.Value

/-!
# TOML numbers

Integers in one of four bases, and numbers with a fraction or an exponent. A single underscore may
stand between two digits.

* `readNumber` : a number, from where it starts;
* `ReadFault` : why a text is not read.
-/

namespace SmaliLint.Toml

/-- Why a text is not read. -/
inductive ReadFault where
  /-- It is no valid document. -/
  | invalid
  /-- An integer in it has too many decimal digits. -/
  | tooManyDigits (count : Nat)
  /-- It is nested too deep. -/
  | tooDeep
  deriving DecidableEq, Repr

def ReadFault.message : ReadFault → String
  | .invalid => "invalid document"
  | .tooManyDigits count => Text.digitLimitMessage (some count)
  | .tooDeep => "maximum recursion depth exceeded"

/-- What was found, or the fault that it is not there. -/
def orInvalid {α : Type} : Option α → Except ReadFault α
  | some a => .ok a
  | none => .error .invalid

/-! ## Digits -/

/-- The value of a hexadecimal digit. -/
def hexValue? (c : Char) : Option Nat :=
  if c.isDigit then some (c.toNat - '0'.toNat)
  else if 'a' ≤ c && c ≤ 'f' then some (c.toNat - 'a'.toNat + 10)
  else if 'A' ≤ c && c ≤ 'F' then some (c.toNat - 'A'.toNat + 10)
  else none

/-- The value of a digit in the given base, at most sixteen. -/
def digitValue? (base : Nat) (c : Char) : Option Nat := (hexValue? c).filter (· < base)

/-- The values of the digits that follow a digit; a single underscore may stand before each. -/
def moreDigits (base : Nat) : Text → List Nat × Text
  | [] => ([], [])
  | c :: s =>
    match digitValue? base c with
    | some d => let r := moreDigits base s; (d :: r.1, r.2)
    | none =>
      match s with
      | [] => ([], [c])
      | e :: t =>
        match if c = '_' then digitValue? base e else none with
        | some d => let r := moreDigits base t; (d :: r.1, r.2)
        | none => ([], c :: s)

/-- The values of one or more digits. -/
def readDigits (base : Nat) : Text → Option (List Nat × Text)
  | [] => none
  | c :: s =>
    (digitValue? base c).map fun d =>
      let r := moreDigits base s
      (d :: r.1, r.2)

/-- The number that digits stand for. -/
def ofDigits (base : Nat) (ds : List Nat) : Nat := ds.foldl (fun n d => n * base + d) 0

/-! ## Numbers -/

/-- The digits of a number before its point. There are no leading zeros. -/
def readWhole : Text → Option (List Nat × Text)
  | '0' :: s => some ([0], s)
  | s => readDigits 10 s

/-- The digits behind a point, if there are any. -/
def readFractionDigits : Text → List Nat × Text
  | '.' :: s => (readDigits 10 s).getD ([], '.' :: s)
  | s => ([], s)

/-- The sign in front of a number: whether it is a minus sign, and the text after it. -/
def readSign : Text → Bool × Text
  | '-' :: s => (true, s)
  | '+' :: s => (false, s)
  | s => (false, s)

/-- An integer with the given sign. -/
def signed (negative : Bool) (n : Nat) : Int := if negative then -(n : Int) else n

/-- The exponent of a number, if it has one. -/
def readExponent? : Text → Option (Int × Text)
  | [] => none
  | c :: s =>
    if c = 'e' ∨ c = 'E' then
      let r := readSign s
      (readDigits 10 r.2).map fun d => (signed r.1 (ofDigits 10 d.1), d.2)
    else none

/-- A number in base ten, after its sign. With a fraction or an exponent it is a binary number. -/
def readDecimal (negative : Bool) (s : Text) : Except ReadFault (Value × Text) := do
  let (whole, s) ← orInvalid (readWhole s)
  let fraction := readFractionDigits s
  match fraction.1, readExponent? fraction.2 with
  | [], none =>
    if Text.maxDigits < whole.length then throw (.tooManyDigits whole.length)
    return (.integer (signed negative (ofDigits 10 whole)), s)
  | ds, exponent =>
    let x : Decimal := ⟨ofDigits 10 (whole ++ ds), ((exponent.map (·.1)).getD 0) - ds.length⟩
    return (.float (.nearest negative x), (exponent.map (·.2)).getD fraction.2)

/-- A number in base ten, an infinity or no number, each with or without a sign. -/
def readSigned (s : Text) : Except ReadFault (Value × Text) :=
  let r := readSign s
  match r.2 with
  | 'i' :: 'n' :: 'f' :: t => .ok (.float (.infinite r.1), t)
  | 'n' :: 'a' :: 'n' :: t => .ok (.float .notANumber, t)
  | t => readDecimal r.1 t

/-- A number: `0x`, `0o` or `0b` and digits, or one in base ten. -/
def readNumber (s : Text) : Except ReadFault (Value × Text) :=
  let based :=
    match s with
    | '0' :: 'x' :: t => (readDigits 16 t).map fun r => (ofDigits 16 r.1, r.2)
    | '0' :: 'o' :: t => (readDigits 8 t).map fun r => (ofDigits 8 r.1, r.2)
    | '0' :: 'b' :: t => (readDigits 2 t).map fun r => (ofDigits 2 r.1, r.2)
    | _ => none
  match based with
  | some (n, t) => .ok (.integer n, t)
  | none => readSigned s

end SmaliLint.Toml
