import SmaliLint.Text.Basic

/-!
# Dates and times

A date, a time of day, and both together, with or without the distance of the clock from universal
time.

* `readDate?`, `readTime?`, `readOffset?` : the parts as they are written in a document;
* `Date.isReal` : whether there is such a day;
* `text` and `shown` of each : the value as text on its own, and inside another value.
-/

namespace SmaliLint.Toml

structure Date where
  year : Nat
  month : Nat
  day : Nat
  deriving DecidableEq, Repr

structure TimeOfDay where
  hour : Nat
  minute : Nat
  second : Nat
  microsecond : Nat
  deriving DecidableEq, Repr

/-- A date and a time of day. -/
structure DateTime where
  date : Date
  time : TimeOfDay
  /-- How many minutes the clock is ahead of universal time, if that is known. -/
  offset : Option Int
  deriving DecidableEq, Repr

/-! ## Reading -/

/-- A number of exactly `count` digits. -/
def readFixed (count : Nat) (s : Text) : Option (Nat × Text) :=
  let digits := s.take count
  if digits.length = count ∧ digits.all Char.isDigit then
    some (digits.foldl (fun n c => n * 10 + (c.toNat - '0'.toNat)) 0, s.drop count)
  else none

/-- A number of two digits that is not above `most`. -/
def readPair (most : Nat) (s : Text) : Option (Nat × Text) :=
  (readFixed 2 s).filter fun r => r.1 ≤ most

/-- The text after the given character. -/
def after? (c : Char) : Text → Option Text
  | d :: s => if d = c then some s else none
  | [] => none

/-- A date: year, month and day with hyphens between them. -/
def readDate? (s : Text) : Option (Date × Text) := do
  let (year, s) ← readFixed 4 s
  let (month, s) ← readPair 12 (← after? '-' s)
  let (day, s) ← readPair 31 (← after? '-' s)
  if month = 0 ∨ day = 0 then none else some (⟨year, month, day⟩, s)

/-- The microseconds of the digits behind a point; what is smaller is left out. -/
def readFraction : Text → Nat × Text
  | '.' :: s =>
    match s.takeWhile Char.isDigit with
    | [] => (0, '.' :: s)
    | digits =>
      let padded := (digits ++ List.replicate 6 '0').take 6
      (padded.foldl (fun n c => n * 10 + (c.toNat - '0'.toNat)) 0, s.dropWhile Char.isDigit)
  | s => (0, s)

/-- A time of day: hours, minutes and seconds with colons between them. -/
def readTime? (s : Text) : Option (TimeOfDay × Text) := do
  let (hour, s) ← readPair 23 s
  let (minute, s) ← readPair 59 (← after? ':' s)
  let (second, s) ← readPair 59 (← after? ':' s)
  let r := readFraction s
  return (⟨hour, minute, second, r.1⟩, r.2)

/-- The distance from universal time, in minutes. -/
def readOffset? : Text → Option (Int × Text)
  | [] => none
  | c :: s =>
    if c = 'Z' ∨ c = 'z' then some (0, s)
    else if c = '+' ∨ c = '-' then do
      let (hours, s) ← readPair 23 s
      let (minutes, s) ← readPair 59 (← after? ':' s)
      let offset : Int := hours * 60 + minutes
      return (if c = '-' then -offset else offset, s)
    else none

/-- The number of days of a month. -/
def daysIn (year month : Nat) : Nat :=
  if month = 2 then
    if year % 4 = 0 ∧ (year % 100 ≠ 0 ∨ year % 400 = 0) then 29 else 28
  else if month = 4 ∨ month = 6 ∨ month = 9 ∨ month = 11 then 30
  else 31

/-- Whether there is such a day. -/
def Date.isReal (d : Date) : Bool := 0 < d.year && d.day ≤ daysIn d.year d.month

/-! ## Text -/

/-- A numeral with zeros in front of it. -/
def zeroPadded (width n : Nat) : Text :=
  let digits := Text.ofNat n
  List.replicate (width - digits.length) '0' ++ digits

/-- A call of a constructor. -/
def callText (name : String) (arguments : List Text) : Text :=
  name.toList ++ '(' :: Text.join ", ".toList arguments ++ [')']

namespace Date

def text (d : Date) : Text :=
  zeroPadded 4 d.year ++ '-' :: zeroPadded 2 d.month ++ '-' :: zeroPadded 2 d.day

def arguments (d : Date) : List Text := [d.year, d.month, d.day].map Text.ofNat

def shown (d : Date) : Text := callText "datetime.date" d.arguments

end Date

namespace TimeOfDay

def text (t : TimeOfDay) : Text :=
  zeroPadded 2 t.hour ++ ':' :: zeroPadded 2 t.minute ++ ':' :: zeroPadded 2 t.second ++
    if t.microsecond = 0 then [] else '.' :: zeroPadded 6 t.microsecond

/-- The parts of a time, without zeros from the seconds on. -/
def arguments (t : TimeOfDay) : List Text :=
  let parts :=
    if t.microsecond ≠ 0 then [t.hour, t.minute, t.second, t.microsecond]
    else if t.second ≠ 0 then [t.hour, t.minute, t.second]
    else [t.hour, t.minute]
  parts.map Text.ofNat

def shown (t : TimeOfDay) : Text := callText "datetime.time" t.arguments

end TimeOfDay

/-- An offset as hours and minutes. -/
def offsetText (minutes : Int) : Text :=
  let n := minutes.natAbs
  (if minutes < 0 then '-' else '+') :: zeroPadded 2 (n / 60) ++ ':' :: zeroPadded 2 (n % 60)

/-- An offset as whole days and the seconds on top of them. -/
def offsetShown (minutes : Int) : Text :=
  if minutes = 0 then "datetime.timezone.utc".toList
  else
    let parts :=
      if minutes < 0 then
        ["days=-1".toList, "seconds=".toList ++ Text.ofInt (86400 + minutes * 60)]
      else ["seconds=".toList ++ Text.ofInt (minutes * 60)]
    callText "datetime.timezone" [callText "datetime.timedelta" parts]

namespace DateTime

def text (d : DateTime) : Text :=
  d.date.text ++ ' ' :: d.time.text ++ (d.offset.map offsetText).getD []

def shown (d : DateTime) : Text :=
  let zone := d.offset.map fun minutes => "tzinfo=".toList ++ offsetShown minutes
  callText "datetime.datetime" (d.date.arguments ++ d.time.arguments ++ zone.toList)

end DateTime

end SmaliLint.Toml
