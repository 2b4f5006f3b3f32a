import SmaliLint.Position

/-!
# Line indexes

The offsets at which the lines of a text start, found once, so that the position of an offset takes
a binary search only.
-/

namespace SmaliLint

/-- The starts of the lines that follow a line feed in a text that stands at offset `n`. -/
def lineStartsFrom (n : Nat) : Text → List Nat
  | [] => []
  | c :: s => if c = '\n' then (n + 1) :: lineStartsFrom (n + 1) s else lineStartsFrom (n + 1) s

/-- The starts of the lines of a text, in increasing order. -/
structure LineIndex where
  size : Nat
  starts : Array Nat
  deriving DecidableEq, Repr

namespace LineIndex

def ofText (s : Text) : LineIndex := ⟨s.length, (0 :: lineStartsFrom 0 s).toArray⟩

def lineCount (x : LineIndex) : Nat := x.starts.size

/-- The first place from `lo` on, and not after `hi`, whose entry is greater than `o`, in an array
whose entries increase. -/
def firstAfter (starts : Array Nat) (o lo hi : Nat) : Nat :=
  if lo < hi then
    let mid := (lo + hi) / 2
    if o < starts.getD mid 0 then firstAfter starts o lo mid else firstAfter starts o (mid + 1) hi
  else lo
termination_by hi - lo

/-- The position of an offset, in code points. -/
def position (x : LineIndex) (offset : Int) : Position :=
  let o := min offset.toNat x.size
  let line := firstAfter x.starts o 0 x.starts.size - 1
  ⟨line, o - x.starts.getD line 0, o⟩

/-- The stretch between two offsets. -/
def span (x : LineIndex) (start stop : Int) : Span := ⟨x.position start, x.position stop⟩

end LineIndex

end SmaliLint
