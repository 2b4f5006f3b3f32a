import SmaliLint.Text.Printable

/-!
# Quoted texts

Listings and messages show a text between quotes, on one line, with every character that could be
misread escaped. The quote is `'`, or `"` if only that keeps the text free of escaped quotes.
-/

namespace SmaliLint.Text

/-- The lower-case hexadecimal numeral of `n`, with zeros in front up to `width` digits. -/
def hexPadded (width n : Nat) : Text :=
  let digits := Nat.toDigits 16 n
  List.replicate (width - digits.length) '0' ++ digits

/-- The quote a text is shown in. -/
def quoteFor (s : Text) : Char := if s.contains '\'' && !s.contains '"' then '"' else '\''

/-- How a character shows between two `quote`s. -/
def escaped (quote c : Char) : Text :=
  if c = quote || c = '\\' then ['\\', c]
  else if c = '\n' then ['\\', 'n']
  else if c = '\r' then ['\\', 'r']
  else if c = '\t' then ['\\', 't']
  else if isPrintable c then [c]
  else if c.toNat < 0x100 then '\\' :: 'x' :: hexPadded 2 c.toNat
  else if c.toNat < 0x10000 then '\\' :: 'u' :: hexPadded 4 c.toNat
  else '\\' :: 'U' :: hexPadded 8 c.toNat

/-- A text between quotes. -/
def quoted (s : Text) : Text :=
  let quote := quoteFor s
  quote :: s.flatMap (escaped quote) ++ [quote]

end SmaliLint.Text

namespace SmaliLint

/-- A string between quotes. -/
def quote (s : String) : String := String.ofList (Text.quoted s.toList)

end SmaliLint
