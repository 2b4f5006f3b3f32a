import SmaliLint.Proofs.Position.LineIndex

/-!
# From an offset to a position and back

The position of an offset leads back to the offset, in every unit (`offsetAt?_ofOffset`).

* `Units.fit_measure` : the characters that fit into the width of a text are those of the text;
* `lines_at` : the line that an offset lies in begins with what stands between its start and the offset.
-/

namespace SmaliLint

theorem Units.width_pos (u : Units) (c : Char) : 0 < u.width c := by
  cases u with
  | utf8 => exact c.utf8Size_pos
  | utf16 =>
    show 0 < if c.toNat > 0xffff then 2 else 1
    split
    · exact Nat.two_pos
    · exact Nat.one_pos
  | utf32 => exact Nat.one_pos

theorem Units.fit_zero (u : Units) (s : Text) : u.fit 0 s = 0 := by
  cases s with
  | nil => rfl
  | cons c s =>
    have hpos := u.width_pos c
    unfold fit
    rw [if_neg (by omega)]

theorem Units.fit_measure (u : Units) (line rest : Text) : u.fit (u.measure line) (line ++ rest) = line.length := by
  induction line with
  | nil => exact u.fit_zero rest
  | cons c line ih =>
    have hmeasure : u.measure (c :: line) = u.width c + u.measure line := rfl
    have hle : (u.width c : Int) ≤ u.measure (c :: line) := by omega
    have hsub : (u.measure (c :: line) : Int) - u.width c = u.measure line := by omega
    rw [List.cons_append, fit, if_pos hle, hsub, ih, List.length_cons]

theorem Text.exists_lines_eq (s t : Text) (hs : '\n' ∉ s) :
    ∃ rest ls, Text.lines (s ++ t) = (s ++ rest) :: ls := by
  induction s with
  | nil => exact ⟨_, _, rfl⟩
  | cons c s ih =>
    obtain ⟨hc, hs⟩ : '\n' ≠ c ∧ '\n' ∉ s := by simpa using hs
    obtain ⟨rest, ls, h⟩ := ih hs
    simp only [Text.lines, List.cons.injEq] at h
    exact ⟨rest, ls, by simp [Text.lines, Text.pieces, hc.symm, h]⟩

theorem lines_at (before after : Text) :
    ∃ rest, (Text.lines (before ++ after))[before.count '\n']? = some (before.lastLine ++ rest) ∧
      startOfLine (Text.lines (before ++ after)) (before.count '\n') + before.lastLine.length = before.length := by
  induction hn : before.count '\n' generalizing before with
  | zero =>
    have hnone : '\n' ∉ before := List.count_eq_zero.1 hn
    obtain ⟨rest, ls, hlines⟩ := Text.exists_lines_eq before after hnone
    refine ⟨rest, ?_, ?_⟩
    · rw [hlines, Text.lastLine_of_no_newline hnone]
      rfl
    · rw [Text.lastLine_of_no_newline hnone]
      simp [startOfLine]
  | succ n ih =>
    have hmem : '\n' ∈ before := List.count_pos_iff.1 (by omega)
    obtain ⟨line, tail, rfl, hline⟩ := List.eq_append_cons_of_mem hmem
    have hcount : tail.count '\n' = n := by
      rw [List.count_append, List.count_eq_zero.2 hline, List.count_cons_self] at hn
      omega
    obtain ⟨rest, hget, hstart⟩ := ih tail hcount
    have hlines : Text.lines (line ++ '\n' :: tail ++ after) = line :: Text.lines (tail ++ after) := by
      rw [List.append_assoc, List.cons_append, Text.lines_append_newline hline]
    refine ⟨rest, ?_, ?_⟩
    · rw [hlines, Text.lastLine_append_newline]
      exact hget
    · rw [hlines, Text.lastLine_append_newline]
      simp only [startOfLine, List.length_append, List.length_cons]
      omega

/-- **The position of an offset leads back to it**, once it is brought inside the text. -/
theorem offsetAt?_ofOffset (u : Units) (s : Text) (offset : Int) :
    offsetAt? u s (Position.ofOffset u s offset).line (Position.ofOffset u s offset).column =
      some (s.clampOffset offset) := by
  obtain ⟨before, hbefore⟩ : ∃ before : Text, before = s.take (s.clampOffset offset) := ⟨_, rfl⟩
  have hlen : before.length = s.clampOffset offset := by
    rw [hbefore, List.length_take]
    exact Nat.min_eq_left (Nat.min_le_right _ _)
  have hs : before ++ s.drop (s.clampOffset offset) = s := by rw [hbefore, List.take_append_drop]
  obtain ⟨rest, hget, hstart⟩ := lines_at before (s.drop (s.clampOffset offset))
  rw [hs] at hget hstart
  have hline : (Position.ofOffset u s offset).line = before.count '\n' := by rw [hbefore]; rfl
  have hcolumn : (Position.ofOffset u s offset).column = u.measure before.lastLine := by rw [hbefore]; rfl
  have hnumber : lineNumber? s.lines.length (before.count '\n') = some (before.count '\n') := by
    unfold lineNumber?
    rw [if_pos (Int.natCast_nonneg _), Int.toNat_natCast]
  unfold offsetAt?
  dsimp only
  rw [hline, hcolumn, hnumber, Option.map_some, hget]
  show some (startOfLine s.lines (before.count '\n') + u.fit _ (before.lastLine ++ rest)) = _
  rw [u.fit_measure, hstart, hlen]

end SmaliLint
