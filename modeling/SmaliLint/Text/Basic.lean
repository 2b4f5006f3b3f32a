/-!
# Texts

A text is the list of its characters, so offsets and lengths count code points. A character is a Unicode scalar value:
strings that hold lone surrogates lie outside the model.

* `Text.pieces sep s` : the first piece of `s` before a separator, and the pieces after it;
* `Text.lines s` : the lines of `s`, which end at line feeds only; there is always at least one;
* `Text.join`, `Text.padRight`, `Text.dropSuffix` : putting texts together and trimming them;
* `Text.ofNat`, `Text.ofInt` : decimal numerals.
-/

namespace SmaliLint

/-- A sequence of characters. -/
abbrev Text := List Char

namespace Text

/-- The piece of `s` before the first separator, and the pieces after it. -/
def pieces (sep : Char) : Text → Text × List Text
  | [] => ([], [])
  | c :: s =>
    let r := pieces sep s
    if c = sep then ([], r.1 :: r.2) else (c :: r.1, r.2)

/-- The lines of a text. A line ends before a line feed; the last one may be empty. -/
def lines (s : Text) : List Text :=
  let r := pieces '\n' s
  r.1 :: r.2

/-- The texts of a list with `sep` between neighbours. -/
def join (sep : Text) : List Text → Text
  | [] => []
  | [s] => s
  | s :: t :: r => s ++ sep ++ join sep (t :: r)

/-- `n` spaces. -/
def spaces (n : Nat) : Text := List.replicate n ' '

/-- `s` with spaces after it up to length `n`; a longer text is kept as it is. -/
def padRight (n : Nat) (s : Text) : Text := s ++ spaces (n - s.length)

/-- `s` without one final `c`, if it ends in one. -/
def dropSuffix (c : Char) (s : Text) : Text :=
  if s.getLast? = some c then s.dropLast else s

/-- The decimal numeral of a natural number. -/
def ofNat (n : Nat) : Text := Nat.toDigits 10 n

/-- The decimal numeral of an integer, with a minus sign if it is negative. -/
def ofInt : Int → Text
  | .ofNat n => ofNat n
  | .negSucc n => '-' :: ofNat (n + 1)

end Text

end SmaliLint
