import SmaliLint.Proofs.Position.LineIndex
import SmaliLint.Token

/-!
# Positions in a larger text

What stands before or after a text changes the positions in it in a simple way, if what stands before
ends with a line.

* `Text.Ended s` : the text is empty or ends in a line feed;
* `Position.shift lines chars` : so many lines further down and so many characters further on;
* `Span.relocate f`, `Token.relocate f` : the same with another position in the place of each;
* `ofOffset_append_left`, `ofOffset_append_right` : the positions of a text that is followed by another,
  or that follows one.
-/

namespace SmaliLint

/-! ## Ended texts -/

/-- The text is empty or ends in a line feed. -/
def Text.Ended (s : Text) : Prop := ∀ c, s.getLast? = some c → c = '\n'

namespace Text

theorem ended_append_newline (s : Text) : Ended (s ++ ['\n']) := by
  intro c hc
  rw [List.getLast?_concat] at hc
  exact (Option.some.inj hc).symm

theorem Ended.drop {s : Text} (h : s.Ended) (n : Nat) : Ended (s.drop n) := by
  intro c hc
  rw [List.getLast?_drop] at hc
  split at hc
  · cases hc
  · exact h c hc

theorem Ended.append {s t : Text} (hs : s.Ended) (ht : t.Ended) : Ended (s ++ t) := by
  intro c hc
  rw [List.getLast?_append] at hc
  cases hlast : t.getLast? with
  | none =>
    rw [hlast, Option.none_or] at hc
    exact hs c hc
  | some d =>
    rw [hlast, Option.some_or] at hc
    exact ht c (hlast.trans hc)

theorem Ended.cases {s : Text} (h : s.Ended) : s = [] ∨ ∃ t, s = t ++ ['\n'] := by
  cases hl : s.getLast? with
  | none => exact .inl (List.getLast?_eq_none_iff.1 hl)
  | some c =>
    obtain ⟨t, rfl⟩ := List.getLast?_eq_some_iff.1 hl
    rw [h c hl]
    exact .inr ⟨t, rfl⟩

theorem Ended.lastLine_append {s : Text} (h : s.Ended) (t : Text) : lastLine (s ++ t) = lastLine t := by
  obtain rfl | ⟨r, rfl⟩ := h.cases
  · rw [List.nil_append]
  · rw [List.append_assoc, List.singleton_append, lastLine_append_newline]

end Text

/-! ## Other positions in the place of those there are -/

/-- So many lines further down, and so many characters further on in the text. -/
def Position.shift (lines chars : Nat) (p : Position) : Position :=
  ⟨p.line + lines, p.column, p.offset + chars⟩

def Span.relocate (f : Position → Position) (s : Span) : Span := ⟨f s.start, f s.stop⟩

def Token.relocate (f : Position → Position) (t : Token) : Token :=
  { t with span := t.span.relocate f }

@[simp] theorem Token.relocate_kind (f : Position → Position) (t : Token) : (t.relocate f).kind = t.kind := rfl

@[simp] theorem Token.relocate_content (f : Position → Position) (t : Token) :
    (t.relocate f).content = t.content := rfl

/-! ## Positions -/

namespace Position

theorem ofOffset_append_left (u : Units) (s t : Text) {n : Nat} (h : n ≤ s.length) :
    ofOffset u (s ++ t) n = ofOffset u s n := by
  have hclamp : (s ++ t).clampOffset n = s.clampOffset n := by
    rw [Text.clampOffset, Text.clampOffset, List.length_append]
    omega
  have hle : s.clampOffset n ≤ s.length := Nat.min_le_right _ _
  rw [ofOffset, ofOffset, hclamp, List.take_append_of_le_length hle]

theorem ofOffset_append_right (u : Units) {s : Text} (hs : s.Ended) (t : Text) (n : Nat) :
    ofOffset u (s ++ t) ↑(s.length + n) = (ofOffset u t n).shift (s.count '\n') s.length := by
  have hclamp : (s ++ t).clampOffset ↑(s.length + n) = s.length + t.clampOffset n := by
    rw [Text.clampOffset, Text.clampOffset, List.length_append]
    omega
  have htake : (s ++ t).take (s.length + t.clampOffset n) = s ++ t.take (t.clampOffset n) := by
    rw [List.take_append, List.take_of_length_le (by omega), Nat.add_sub_cancel_left]
  rw [ofOffset, ofOffset, hclamp, htake, shift, hs.lastLine_append, List.count_append, List.length_append]
  simp only [Int.natCast_add, Int.add_comm]

theorem line_ofOffset_length (u : Units) (s : Text) : (ofOffset u s s.length).line = s.count '\n' := by
  have hclamp : s.clampOffset s.length = s.length := by
    rw [Text.clampOffset]
    omega
  rw [ofOffset, hclamp, List.take_length]

end Position

end SmaliLint
