import SmaliLint.Text.Utf8

/-!
# URIs

The name of the file a URI points to: what follows the last slash, with percent escapes resolved.
Escapes stand for bytes of UTF-8. Only ASCII characters take part, so bytes never reach across
another character, and a percent sign without two hexadecimal digits stands for itself.
-/

namespace SmaliLint.Uri

/-- The value of a hexadecimal digit. -/
def hexValue? (c : Char) : Option Nat :=
  if '0' ≤ c ∧ c ≤ '9' then some (c.toNat - '0'.toNat)
  else if 'a' ≤ c ∧ c ≤ 'f' then some (c.toNat - 'a'.toNat + 10)
  else if 'A' ≤ c ∧ c ≤ 'F' then some (c.toNat - 'A'.toNat + 10)
  else none

/-- The byte that two hexadecimal digits stand for. -/
def escape? (c d : Char) : Option UInt8 :=
  match hexValue? c, hexValue? d with
  | some hi, some lo => some (UInt8.ofNat (hi * 16 + lo))
  | _, _ => none

/-- The bytes of a run of ASCII characters with its escapes resolved. -/
def escapedBytes : Text → List UInt8
  | [] => []
  | [c] => [UInt8.ofNat c.toNat]
  | [c, d] => [UInt8.ofNat c.toNat, UInt8.ofNat d.toNat]
  | c :: d :: e :: s =>
    match if c = '%' then escape? d e else none with
    | some b => b :: escapedBytes s
    | none => UInt8.ofNat c.toNat :: escapedBytes (d :: e :: s)

/-- The text with the escapes of every run of ASCII characters resolved. The run read so far is
`ascii`, its last character first. -/
def unescapeFrom (ascii : Text) : Text → Text
  | [] => Utf8.decodeLossy (escapedBytes ascii.reverse)
  | c :: s =>
    if c.toNat < 0x80 then unescapeFrom (c :: ascii) s
    else Utf8.decodeLossy (escapedBytes ascii.reverse) ++ c :: unescapeFrom [] s

/-- The text with its escapes resolved. -/
def unescape (s : Text) : Text := unescapeFrom [] s

/-- The name of the file that a URI points to. -/
def filename (uri : String) : String :=
  String.ofList (unescape (uri.toList.reverse.takeWhile (· ≠ '/')).reverse)

end SmaliLint.Uri
