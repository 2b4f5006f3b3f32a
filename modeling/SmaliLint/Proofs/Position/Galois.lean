import Mathlib.Data.Prod.Lex
import SmaliLint.Proofs.Position.Offset
import SmaliLint.Proofs.Position.Relocation

/-!
# Offsets and places

A place is a line and a column of it, and places are ordered by line and then by column. The offset of a place is the
greatest one whose own place does not come after it, in every unit: going from offsets to places and going back form a
Galois connection.

* `Position.place` : the line and the column of a position;
* `Text.offsetAt u s line column` : the offset of a place, for lines counted from zero;
* `Text.Breaks s` : what follows a line; a text is a line and what follows it;
* `Units.le_fit_iff` : the same connection within one line, between a number of characters and a width;
* `place_ofOffset_le_iff` : the connection for a text, line by line;
* `ofOffset_newline`, `ofOffset_character` : the place of the next offset, and `offsetAt_eq` : an offset is that of all
  places from its own up to there.
-/

namespace SmaliLint

/-- The line and the column, ordered by line first. -/
def Position.place (p : Position) : Int ×ₗ Int := toLex (p.line, p.column)

theorem Position.place_le_iff {p : Position} {line column : Int} :
    p.place ≤ toLex (line, column) ↔ p.line < line ∨ p.line = line ∧ p.column ≤ column :=
  Prod.Lex.toLex_le_toLex

/-! ## Widths -/

namespace Units

theorem measure_append (u : Units) (s t : Text) : u.measure (s ++ t) = u.measure s + u.measure t := by
  induction s with
  | nil => exact (Nat.zero_add _).symm
  | cons c s ih => rw [List.cons_append, measure, measure, ih, Nat.add_assoc]

theorem fit_le_length (u : Units) (column : Int) (s : Text) : u.fit column s ≤ s.length := by
  fun_induction fit u column s with
  | case1 => exact Nat.le_refl _
  | case2 column c s hc ih => exact Nat.succ_le_succ ih
  | case3 column c s hc => exact Nat.zero_le _

/-- **The first characters of a text fit into a width if and only if they are not wider.** -/
theorem le_fit_iff (u : Units) {s : Text} {n : Nat} (hn : n ≤ s.length) {column : Int} (hcolumn : 0 ≤ column) :
    n ≤ u.fit column s ↔ (u.measure (s.take n) : Int) ≤ column := by
  induction s generalizing n column with
  | nil =>
    obtain rfl : n = 0 := Nat.le_zero.1 hn
    exact ⟨fun _ => hcolumn, fun _ => Nat.le_refl _⟩
  | cons c s ih =>
    rcases n with - | n
    · exact ⟨fun _ => hcolumn, fun _ => Nat.zero_le _⟩
    · have hn : n ≤ s.length := Nat.le_of_succ_le_succ hn
      have hmeasure : u.measure ((c :: s).take (n + 1)) = u.width c + u.measure (s.take n) := rfl
      rw [hmeasure]
      unfold fit
      split
      · rw [Nat.add_le_add_iff_right, ih hn (by omega)]
        omega
      · omega

end Units

/-! ## Lines -/

namespace Text

theorem lines_of_no_newline {s : Text} (h : '\n' ∉ s) : s.lines = [s] := by
  induction s with
  | nil => rfl
  | cons c s ih =>
    obtain ⟨hc, hs⟩ : '\n' ≠ c ∧ '\n' ∉ s := by simpa using h
    have hrest := ih hs
    simp only [lines, List.cons.injEq] at hrest
    simp [lines, pieces, hc.symm, hrest]

/-- Nothing, or a line feed and more: what follows a line. -/
def Breaks (s : Text) : Prop := s = [] ∨ ∃ rest, s = '\n' :: rest

theorem first_line (s : Text) : ∃ line after, s = line ++ after ∧ '\n' ∉ line ∧ Breaks after := by
  by_cases h : '\n' ∈ s
  · obtain ⟨line, rest, rfl, hline⟩ := List.eq_append_cons_of_mem h
    exact ⟨line, '\n' :: rest, rfl, hline, .inr ⟨rest, rfl⟩⟩
  · exact ⟨s, [], (List.append_nil s).symm, h, .inl rfl⟩

theorem lastLine_concat (s : Text) {c : Char} (hc : c ≠ '\n') : lastLine (s ++ [c]) = s.lastLine ++ [c] :=
  lastLine_append (by simpa using hc.symm) s

/-- The offset of a place; a line past the last one is the end of the text. -/
def offsetAt (u : Units) (s : Text) (line : Nat) (column : Int) : Nat :=
  match s.lines[line]? with
  | none => s.length
  | some target => startOfLine s.lines line + u.fit column target

section
variable (u : Units) (column : Int)

theorem offsetAt_first {line after : Text} (h : '\n' ∉ line) (hafter : Breaks after) :
    offsetAt u (line ++ after) 0 column = u.fit column line := by
  unfold offsetAt
  rcases hafter with rfl | ⟨rest, rfl⟩
  · rw [List.append_nil, lines_of_no_newline h]
    exact Nat.zero_add _
  · rw [lines_append_newline h]
    exact Nat.zero_add _

theorem offsetAt_past {line : Text} (h : '\n' ∉ line) (n : Nat) : line.offsetAt u (n + 1) column = line.length := by
  unfold offsetAt
  rw [lines_of_no_newline h]
  rfl

theorem offsetAt_next {line : Text} (h : '\n' ∉ line) (rest : Text) (n : Nat) :
    offsetAt u (line ++ '\n' :: rest) (n + 1) column = line.length + 1 + offsetAt u rest n column := by
  unfold offsetAt
  rw [lines_append_newline h, List.getElem?_cons_succ]
  rcases rest.lines[n]? with - | target
  · show (line ++ '\n' :: rest).length = line.length + 1 + rest.length
    rw [List.length_append, List.length_cons]
    omega
  · exact Nat.add_assoc _ _ _

theorem offsetAt_le_length (s : Text) (n : Nat) : s.offsetAt u n column ≤ s.length := by
  induction n generalizing s with
  | zero =>
    obtain ⟨line, after, rfl, h, hafter⟩ := s.first_line
    have hfit := u.fit_le_length column line
    rw [offsetAt_first u column h hafter, List.length_append]
    omega
  | succ n ih =>
    obtain ⟨line, after, rfl, h, rfl | ⟨rest, rfl⟩⟩ := s.first_line
    · rw [List.append_nil, offsetAt_past u column h]
    · have hrest := ih rest
      rw [offsetAt_next u column h, List.length_append, List.length_cons]
      omega

end

end Text

/-- A line that is not negative has an answer. -/
theorem offsetAt?_natCast (u : Units) (s : Text) (line : Nat) (column : Int) :
    offsetAt? u s line column = some (s.offsetAt u line column) := by
  unfold offsetAt? lineNumber?
  dsimp only
  rw [if_pos (Int.natCast_nonneg _), Int.toNat_natCast]
  rfl

/-! ## Positions line by line -/

namespace Position

theorem ofOffset_length (u : Units) (before after : Text) :
    ofOffset u (before ++ after) before.length =
      ⟨before.count '\n', u.measure before.lastLine, before.length⟩ := by
  have hclamp : (before ++ after).clampOffset before.length = before.length := by
    rw [Text.clampOffset, List.length_append]
    omega
  unfold ofOffset
  rw [hclamp, List.take_left]

theorem ofOffset_line (u : Units) {line : Text} (h : '\n' ∉ line) (after : Text) {o : Nat} (ho : o ≤ line.length) :
    ofOffset u (line ++ after) o = ⟨0, u.measure (line.take o), o⟩ := by
  have htake : '\n' ∉ line.take o := fun hmem => h (List.mem_of_mem_take hmem)
  have hlength : (line.take o).length = o := by
    rw [List.length_take]
    omega
  have hposition := ofOffset_length u (line.take o) (line.drop o ++ after)
  rwa [← List.append_assoc, List.take_append_drop, hlength, Text.lastLine_of_no_newline htake,
    List.count_eq_zero.2 htake] at hposition

theorem ofOffset_next (u : Units) (line rest : Text) (h : '\n' ∉ line) (o : Nat) :
    ofOffset u (line ++ '\n' :: rest) ↑(line.length + 1 + o) = (ofOffset u rest o).shift 1 (line.length + 1) := by
  have hshift := ofOffset_append_right u (Text.ended_append_newline line) rest o
  have hcount : (line ++ ['\n']).count '\n' = 1 := by
    rw [List.count_append, List.count_eq_zero.2 h]
    rfl
  rwa [List.append_assoc, List.singleton_append, hcount, List.length_append, List.length_singleton] at hshift

theorem line_ofOffset_nonneg (u : Units) (s : Text) (o : Int) : 0 ≤ (ofOffset u s o).line := Int.natCast_nonneg _

theorem place_shift_le_iff {p : Position} {chars n : Nat} {column : Int} :
    (p.shift 1 chars).place ≤ toLex (((n + 1 : Nat) : Int), column) ↔ p.place ≤ toLex ((n : Int), column) := by
  rw [place_le_iff, place_le_iff]
  unfold shift
  dsimp only
  omega

end Position

/-! ## The connection -/

/-- **The place of an offset does not come after a place if and only if the offset does not come after that of the
place.** -/
theorem place_ofOffset_le_iff (u : Units) {s : Text} {o : Nat} (ho : o ≤ s.length) (n : Nat) {column : Int}
    (hcolumn : 0 ≤ column) :
    (Position.ofOffset u s o).place ≤ toLex ((n : Int), column) ↔ o ≤ s.offsetAt u n column := by
  induction n generalizing s o with
  | zero =>
    obtain ⟨line, after, rfl, h, hafter⟩ := s.first_line
    rw [Text.offsetAt_first u column h hafter]
    by_cases hline : o ≤ line.length
    · rw [Position.ofOffset_line u h after hline, Position.place_le_iff, u.le_fit_iff hline hcolumn]
      dsimp only
      omega
    · -- The offset lies on a later line, and what fits does not reach over the end of the first one.
      obtain ⟨rest, rfl⟩ : ∃ rest, after = '\n' :: rest := by
        rcases hafter with rfl | hafter
        · rw [List.append_nil] at ho
          omega
        · exact hafter
      obtain ⟨m, rfl⟩ : ∃ m, o = line.length + 1 + m := ⟨o - (line.length + 1), by omega⟩
      have hfit := u.fit_le_length column line
      have hlater := Position.line_ofOffset_nonneg u rest m
      rw [Position.ofOffset_next u line rest h, Position.place_le_iff]
      unfold Position.shift
      dsimp only
      omega
  | succ n ih =>
    obtain ⟨line, after, rfl, h, rfl | ⟨rest, rfl⟩⟩ := s.first_line
    · rw [List.append_nil] at ho
      rw [Position.ofOffset_line u h [] ho, Position.place_le_iff, List.append_nil, Text.offsetAt_past u column h]
      dsimp only
      omega
    · rw [Text.offsetAt_next u column h]
      by_cases hline : o ≤ line.length
      · rw [Position.ofOffset_line u h _ hline, Position.place_le_iff]
        dsimp only
        omega
      · obtain ⟨m, rfl⟩ : ∃ m, o = line.length + 1 + m := ⟨o - (line.length + 1), by omega⟩
        have hm : m ≤ rest.length := by
          rw [List.length_append, List.length_cons] at ho
          omega
        rw [Position.ofOffset_next u line rest h, Position.place_shift_le_iff, ih hm]
        omega

/-! ## Rounding and clamping -/

theorem Text.offsetAt_mono (u : Units) (s : Text) {n m : Nat} {column column' : Int} (hcolumn : 0 ≤ column)
    (hcolumn' : 0 ≤ column') (h : toLex ((n : Int), column) ≤ toLex ((m : Int), column')) :
    s.offsetAt u n column ≤ s.offsetAt u m column' := by
  have hlength := offsetAt_le_length u column s n
  have hplace := (place_ofOffset_le_iff u hlength n hcolumn).2 (Nat.le_refl _)
  exact (place_ofOffset_le_iff u hlength m hcolumn').1 (le_trans hplace h)

/-- An offset is that of every place from its own on that comes before the place of the next offset. -/
theorem Text.offsetAt_eq (u : Units) {s : Text} {o : Nat} (ho : o ≤ s.length) {n : Nat} {column : Int}
    (hcolumn : 0 ≤ column) (hplace : (Position.ofOffset u s o).place ≤ toLex ((n : Int), column))
    (hnext : o < s.length → ¬ (Position.ofOffset u s ↑(o + 1)).place ≤ toLex ((n : Int), column)) :
    s.offsetAt u n column = o := by
  have hlength := offsetAt_le_length u column s n
  have hle := (place_ofOffset_le_iff u ho n hcolumn).1 hplace
  by_contra hne
  have hlt : o + 1 ≤ s.offsetAt u n column := by omega
  apply hnext (by omega)
  exact (place_ofOffset_le_iff u (by omega) n hcolumn).2 hlt

theorem Position.ofOffset_newline (u : Units) (before after : Text) :
    ofOffset u (before ++ '\n' :: after) ↑(before.length + 1) =
      ⟨before.count '\n' + 1, 0, ↑(before.length + 1)⟩ := by
  have hposition := ofOffset_length u (before ++ ['\n']) after
  rwa [List.append_assoc, List.singleton_append, List.length_append, List.length_singleton,
    Text.lastLine_append_newline before [], List.count_append] at hposition

theorem Position.ofOffset_character (u : Units) (before : Text) {c : Char} (hc : c ≠ '\n') (after : Text) :
    ofOffset u (before ++ c :: after) ↑(before.length + 1) =
      ⟨before.count '\n', u.measure before.lastLine + u.width c, ↑(before.length + 1)⟩ := by
  have hposition := ofOffset_length u (before ++ [c]) after
  have hcount : (before ++ [c]).count '\n' = before.count '\n' := by
    rw [List.count_append, List.count_singleton, if_neg (by simpa using hc), Nat.add_zero]
  rwa [List.append_assoc, List.singleton_append, List.length_append, List.length_singleton,
    Text.lastLine_concat before hc, hcount, u.measure_append] at hposition

/-- The columns of a line from that of an offset on lead to it, as long as the place of the next offset is not reached. -/
theorem Text.offsetAt_from (u : Units) (before after : Text) {column : Int} (hfrom : u.measure before.lastLine ≤ column)
    (hnext : after ≠ [] → ¬ (Position.ofOffset u (before ++ after) ↑(before.length + 1)).place ≤
      toLex ((before.count '\n' : Int), column)) :
    offsetAt u (before ++ after) (before.count '\n') column = before.length := by
  apply offsetAt_eq u (by simp) (by omega)
  · rw [Position.ofOffset_length, Position.place_le_iff]
    exact .inr ⟨rfl, hfrom⟩
  · intro hlt
    apply hnext
    rintro rfl
    simp at hlt

/-- A column within a character is rounded down to the offset of the character. -/
theorem Text.offsetAt_within (u : Units) (before : Text) (c : Char) (after : Text) {column : Int}
    (hfrom : u.measure before.lastLine ≤ column) (hto : column < u.measure before.lastLine + u.width c) :
    offsetAt u (before ++ c :: after) (before.count '\n') column = before.length := by
  apply offsetAt_from u before (c :: after) hfrom
  intro _
  rw [Position.place_le_iff]
  by_cases hc : c = '\n'
  · rw [hc, Position.ofOffset_newline]
    dsimp only
    omega
  · rw [Position.ofOffset_character u before hc]
    dsimp only
    omega

/-- A column past the end of its line is brought back to the end. -/
theorem Text.offsetAt_line_end (u : Units) (before : Text) {after : Text} (hafter : Breaks after) {column : Int}
    (hfrom : u.measure before.lastLine ≤ column) :
    offsetAt u (before ++ after) (before.count '\n') column = before.length := by
  apply offsetAt_from u before after hfrom
  intro hne
  rcases hafter with rfl | ⟨rest, rfl⟩
  · exact absurd rfl hne
  · rw [Position.ofOffset_newline, Position.place_le_iff]
    dsimp only
    omega

theorem Text.offsetAt_text_end (u : Units) (s : Text) {n : Nat} (hn : s.count '\n' < n) {column : Int}
    (hcolumn : 0 ≤ column) : s.offsetAt u n column = s.length := by
  apply offsetAt_eq u (Nat.le_refl _) hcolumn
  · rw [Position.place_le_iff, Position.line_ofOffset_length]
    exact .inl (by omega)
  · intro hlt
    omega

/-- **Places and offsets form a Galois connection.** The place of an offset `o` does not come after a line and a column
if and only if `o` is at most their offset. So later places have no smaller offsets, columns inside a character or past
the end of a line are rounded down, and the place of any offset leads back to it. -/
theorem positions_galois (u : Units) (s : Text) :
    (∀ line column : Int, 0 ≤ line → 0 ≤ column →
      ∃ p : Nat, offsetAt? u s line column = some p ∧ p ≤ s.length ∧
        (∀ o : Nat, o ≤ s.length → ((Position.ofOffset u s o).place ≤ toLex (line, column) ↔ o ≤ p)) ∧
        (∀ line' column' : Int, 0 ≤ column' → toLex (line, column) ≤ toLex (line', column') →
          ∃ p' : Nat, offsetAt? u s line' column' = some p' ∧ p ≤ p') ∧
        (s.count '\n' < line → p = s.length)) ∧
    (∀ (before after : Text) (column : Int), s = before ++ after →
      (Position.ofOffset u s before.length).column ≤ column →
      (∀ c rest, after = c :: rest → column < (Position.ofOffset u s before.length).column + u.width c →
        offsetAt? u s (Position.ofOffset u s before.length).line column = some before.length) ∧
      (after.Breaks →
        offsetAt? u s (Position.ofOffset u s before.length).line column = some before.length)) ∧
    ∀ offset : Int, ∃ p : Nat, (p : Int) = max 0 (min offset s.length) ∧
      offsetAt? u s (Position.ofOffset u s offset).line (Position.ofOffset u s offset).column = some p := by
  refine ⟨?_, ?_, ?_⟩
  · intro line column hline hcolumn
    obtain ⟨n, rfl⟩ := Int.eq_ofNat_of_zero_le hline
    refine ⟨_, offsetAt?_natCast u s n column, Text.offsetAt_le_length u column s n,
      fun o ho => place_ofOffset_le_iff u ho n hcolumn, fun line' column' hcolumn' h => ?_, fun hn => ?_⟩
    · have hline' : 0 ≤ line' := by
        rw [Prod.Lex.toLex_le_toLex] at h
        dsimp only at h
        omega
      obtain ⟨m, rfl⟩ := Int.eq_ofNat_of_zero_le hline'
      exact ⟨_, offsetAt?_natCast u s m column', Text.offsetAt_mono u s hcolumn hcolumn' h⟩
    · exact Text.offsetAt_text_end u s (by omega) hcolumn
  · rintro before after column rfl hfrom
    rw [Position.ofOffset_length] at hfrom ⊢
    refine ⟨?_, fun hafter => ?_⟩
    · rintro c rest rfl hto
      rw [offsetAt?_natCast, Text.offsetAt_within u before c rest hfrom hto]
    · rw [offsetAt?_natCast, Text.offsetAt_line_end u before hafter hfrom]
  · intro offset
    refine ⟨s.clampOffset offset, ?_, offsetAt?_ofOffset u s offset⟩
    unfold Text.clampOffset
    omega

/-- Inside a character of two units, past the end of its line, and past the last line. -/
theorem positions_galois_wide :
    offsetAt? .utf16 "a😀\nb".toList 0 2 = some 1 ∧
      (∀ o : Nat, o ≤ 4 → ((Position.ofOffset .utf16 "a😀\nb".toList o).place ≤ toLex (0, 2) ↔ o ≤ 1)) ∧
      offsetAt? .utf16 "a😀\nb".toList 0 9 = some 2 ∧ offsetAt? .utf16 "a😀\nb".toList 2 0 = some 4 := by
  obtain ⟨hconnection, hround, -⟩ := positions_galois .utf16 "a😀\nb".toList
  have hwithin : offsetAt? .utf16 "a😀\nb".toList 0 2 = some 1 :=
    (hround ['a'] "😀\nb".toList 2 rfl (by decide)).1 '😀' "\nb".toList rfl (by decide)
  have hline : offsetAt? .utf16 "a😀\nb".toList 0 9 = some 2 :=
    (hround "a😀".toList "\nb".toList 9 rfl (by decide)).2 (.inr ⟨['b'], rfl⟩)
  obtain ⟨p, hp, -, hiff, -, -⟩ := hconnection 0 2 (by decide) (by decide)
  obtain rfl : p = 1 := Option.some.inj (hp.symm.trans hwithin)
  obtain ⟨q, hq, -, -, -, hpast⟩ := hconnection 2 0 (by decide) (by decide)
  obtain rfl : q = 4 := hpast (by decide)
  exact ⟨hwithin, hiff, hline, hq⟩

end SmaliLint
