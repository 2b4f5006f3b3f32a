import SmaliLint.Text.Basic

/-!
# UTF-8

Reading bytes as characters, one sequence at a time. A sequence is a lead byte and the continuation
bytes it asks for; the second byte is bounded so that no character has two sequences and none is a
surrogate.

* `Utf8.next b bs` : what the sequence that starts with `b` stands for, and how many of the bytes
  after it belong to it;
* `Utf8.decode` : the text of the bytes, or where and why they are no text;
* `Utf8.decodeLossy` : the text with a replacement character for every ill-formed sequence.
-/

namespace SmaliLint.Utf8

/-- What is wrong with a sequence. -/
inductive Fault where
  /-- The byte cannot start one. -/
  | invalidStart
  /-- A byte that should go on with it cannot. -/
  | invalidContinuation
  /-- The bytes end inside it. -/
  | unexpectedEnd
  deriving DecidableEq, Repr

def Fault.message : Fault → String
  | .invalidStart => "invalid start byte"
  | .invalidContinuation => "invalid continuation byte"
  | .unexpectedEnd => "unexpected end of data"

/-- What a lead byte asks for: the number of continuation bytes, the bounds of the first of them,
and the bits the lead byte itself contributes. -/
structure Lead where
  count : Nat
  low : UInt8
  high : UInt8
  bits : Nat
  deriving DecidableEq, Repr

/-- What a byte outside ASCII asks for as a lead byte. -/
def lead? (b : UInt8) : Option Lead :=
  if b < 0xc2 then none
  else if b < 0xe0 then some ⟨1, 0x80, 0xbf, b.toNat - 0xc0⟩
  else if b = 0xe0 then some ⟨2, 0xa0, 0xbf, 0⟩
  else if b = 0xed then some ⟨2, 0x80, 0x9f, 0xd⟩
  else if b < 0xf0 then some ⟨2, 0x80, 0xbf, b.toNat - 0xe0⟩
  else if b = 0xf0 then some ⟨3, 0x90, 0xbf, 0⟩
  else if b < 0xf4 then some ⟨3, 0x80, 0xbf, b.toNat - 0xf0⟩
  else if b = 0xf4 then some ⟨3, 0x80, 0x8f, 4⟩
  else none

/-- Reads `count` continuation bytes onto `bits`, the first of them between `low` and `high`. The
number that comes back is how many bytes were good. -/
def continue? (low high : UInt8) (bits : Nat) : Nat → List UInt8 → Except Fault Nat × Nat
  | 0, _ => (.ok bits, 0)
  | _ + 1, [] => (.error .unexpectedEnd, 0)
  | n + 1, b :: bs =>
    if low ≤ b ∧ b ≤ high then
      let r := continue? 0x80 0xbf (bits * 64 + (b.toNat - 0x80)) n bs
      (r.1, r.2 + 1)
    else (.error .invalidContinuation, 0)

/-- The character of the sequence that starts with `b`, or what is wrong with it, and how many bytes
after `b` it takes. -/
def next (b : UInt8) (bs : List UInt8) : Except Fault Char × Nat :=
  if b < 0x80 then (.ok (Char.ofNat b.toNat), 0)
  else
    match lead? b with
    | none => (.error .invalidStart, 0)
    | some l =>
      let r := continue? l.low l.high l.bits l.count bs
      (r.1.map Char.ofNat, r.2)

/-- Why bytes are no text: the bytes of the first ill-formed sequence, and its place. -/
structure DecodeError where
  fault : Fault
  position : Nat
  first : UInt8
  /-- How many bytes follow the first one. -/
  more : Nat
  deriving DecidableEq, Repr

/-- The text of bytes that stand at `position`. -/
def decodeFrom (position : Nat) : List UInt8 → Except DecodeError Text
  | [] => .ok []
  | b :: bs =>
    let r := next b bs
    match r.1 with
    | .error fault => .error ⟨fault, position, b, r.2⟩
    | .ok c => (decodeFrom (position + r.2 + 1) (bs.drop r.2)).map (c :: ·)
termination_by bs => bs.length
decreasing_by simp only [List.length_drop, List.length_cons]; omega

/-- The text of the bytes. -/
def decode (bs : List UInt8) : Except DecodeError Text := decodeFrom 0 bs

/-- The text of the bytes, with a replacement character for every ill-formed sequence. -/
def decodeLossy : List UInt8 → Text
  | [] => []
  | b :: bs =>
    let r := next b bs
    (match r.1 with
      | .error _ => '\ufffd'
      | .ok c => c) :: decodeLossy (bs.drop r.2)
termination_by bs => bs.length
decreasing_by simp only [List.length_drop, List.length_cons]; omega

end SmaliLint.Utf8
