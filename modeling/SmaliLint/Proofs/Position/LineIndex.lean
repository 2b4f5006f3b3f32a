import SmaliLint.Position.LineIndex

/-!
# Line indexes give the positions of offsets

* `firstAfter_split` : the binary search splits an increasing array at the offset;
* `lineStartsFrom_sorted`, `countP_lineStartsFrom` : the line starts increase, and those up to an offset
  are as many as the line feeds before it;
* `getD_lineStartsFrom` : the start of the line that an offset lies in;
* `LineIndex.position_eq` : together, the position that the index gives is `Position.ofOffset`.
-/

namespace SmaliLint

/-! ## The lines of a text -/

theorem Text.lines_append_newline {line : Text} (h : '\n' ∉ line) (s : Text) :
    Text.lines (line ++ '\n' :: s) = line :: s.lines := by
  induction line with
  | nil => simp [Text.lines, Text.pieces]
  | cons c line ih =>
    obtain ⟨hc, hline⟩ : '\n' ≠ c ∧ '\n' ∉ line := by simpa using h
    have hrest := ih hline
    simp only [Text.lines, List.cons.injEq] at hrest
    simp [Text.lines, Text.pieces, hc.symm, hrest]

/-- What holds no line feed only makes the last line longer. -/
theorem Text.lastLine_append {t : Text} (h : '\n' ∉ t) (s : Text) : lastLine (s ++ t) = s.lastLine ++ t := by
  have hall : ∀ c ∈ t.reverse, decide (c ≠ '\n') = true := by
    intro c hc
    refine decide_eq_true fun heq => h ?_
    rw [← heq]
    exact List.mem_reverse.1 hc
  rw [lastLine, lastLine, List.reverse_append, List.takeWhile_append_of_pos hall, List.reverse_append,
    List.reverse_reverse]

theorem Text.lastLine_of_no_newline {s : Text} (h : '\n' ∉ s) : s.lastLine = s := lastLine_append h []

theorem Text.lastLine_append_newline (s t : Text) : lastLine (s ++ '\n' :: t) = lastLine t := by
  rw [lastLine, lastLine, List.reverse_append, List.reverse_cons, List.append_assoc]
  congr 1
  induction t.reverse with
  | nil => simp
  | cons c t ih => by_cases hc : c = '\n' <;> simp_all

theorem Text.length_lastLine_le (s : Text) : s.lastLine.length ≤ s.length := by
  have h := (List.takeWhile_sublist (fun c => decide (c ≠ '\n')) (l := s.reverse)).length_le
  rwa [List.length_reverse, ← List.length_reverse] at h

theorem Units.measure_utf32 (s : Text) : Units.utf32.measure s = s.length := by
  induction s with
  | nil => rfl
  | cons c s ih => rw [measure, ih, width, List.length_cons, Nat.add_comm]

/-! ## The starts of lines -/

theorem lt_of_mem_lineStartsFrom {n x : Nat} {s : Text} (h : x ∈ lineStartsFrom n s) : n < x := by
  fun_induction lineStartsFrom n s with
  | case1 => cases h
  | case2 n s ih =>
    obtain rfl | h := List.mem_cons.1 h
    · exact Nat.lt_succ_self n
    · exact Nat.lt_of_succ_lt (ih h)
  | case3 n c s hc ih => exact Nat.lt_of_succ_lt (ih h)

theorem lineStartsFrom_sorted (n : Nat) (s : Text) : (lineStartsFrom n s).Pairwise (· < ·) := by
  fun_induction lineStartsFrom n s with
  | case1 => exact .nil
  | case2 n s ih => exact List.pairwise_cons.2 ⟨fun x hx => lt_of_mem_lineStartsFrom hx, ih⟩
  | case3 n c s hc ih => exact ih

theorem countP_lineStartsFrom (s : Text) : ∀ n m : Nat,
    (lineStartsFrom n s).countP (· ≤ n + m) = (s.take m).count '\n' := by
  induction s with
  | nil => intro n m; simp [lineStartsFrom]
  | cons c s ih =>
    intro n m
    cases m with
    | zero =>
      rw [List.take_zero, List.count_nil, List.countP_eq_zero]
      intro x hx
      have := lt_of_mem_lineStartsFrom hx
      simp only [Nat.add_zero, decide_eq_true_eq]
      omega
    | succ m =>
      have hrest := ih (n + 1) m
      rw [show n + 1 + m = n + (m + 1) by omega] at hrest
      by_cases hc : c = '\n'
      · subst hc
        simp [lineStartsFrom, hrest]
      · simp [lineStartsFrom, hc, hrest]

/-- The line that holds the offset `n + m` starts where what was read since the last line feed
starts; `line` is what of it stands before `n`. -/
theorem getD_lineStartsFrom (s : Text) : ∀ (n m : Nat) (line : Text), '\n' ∉ line → line.length ≤ n →
    m ≤ s.length →
    ((n - line.length) :: lineStartsFrom n s).getD ((s.take m).count '\n') 0 =
      n + m - (Text.lastLine (line ++ s.take m)).length := by
  induction s with
  | nil =>
    intro n m line hline _ hm
    obtain rfl : m = 0 := by simpa using hm
    simp [Text.lastLine_of_no_newline hline]
  | cons c s ih =>
    intro n m line hline hn hm
    cases m with
    | zero => simp [Text.lastLine_of_no_newline hline]
    | succ m =>
      have hm' : m ≤ s.length := Nat.le_of_succ_le_succ hm
      by_cases hc : c = '\n'
      · subst hc
        have hrest := ih (n + 1) m [] (by simp) (Nat.zero_le _) hm'
        rw [List.nil_append] at hrest
        simp only [lineStartsFrom, List.take_succ_cons, List.count_cons_self, if_pos, List.getD_cons_succ,
          Text.lastLine_append_newline]
        rw [show n + (m + 1) = n + 1 + m by omega, ← hrest]
        simp
      · have hline' : '\n' ∉ line ++ [c] := by simp [hline, Ne.symm hc]
        have hrest := ih (n + 1) m (line ++ [c]) hline' (by simpa using hn) hm'
        rw [List.append_assoc, List.singleton_append] at hrest
        rw [lineStartsFrom, if_neg hc, List.take_succ_cons, List.count_cons_of_ne hc,
          show n + (m + 1) = n + 1 + m by omega, ← hrest]
        simp

/-! ## The binary search -/

/-- The entries before the place found are at most `o`, and those from it on are greater. -/
theorem LineIndex.firstAfter_split {starts : Array Nat} {o : Nat}
    (hsorted : ∀ i j, i ≤ j → j < starts.size → starts.getD i 0 ≤ starts.getD j 0) (lo hi : Nat)
    (hle : lo ≤ hi) (hhi : hi ≤ starts.size) (hbefore : ∀ i < lo, starts.getD i 0 ≤ o)
    (hafter : ∀ i, hi ≤ i → i < starts.size → o < starts.getD i 0) :
    firstAfter starts o lo hi ≤ starts.size ∧
      (∀ i < firstAfter starts o lo hi, starts.getD i 0 ≤ o) ∧
      ∀ i, firstAfter starts o lo hi ≤ i → i < starts.size → o < starts.getD i 0 := by
  fun_induction firstAfter starts o lo hi with
  | case1 lo hi hlt mid hmid ih =>
    refine ih (by omega) (by omega) hbefore fun i hi' hsize => ?_
    exact Nat.lt_of_lt_of_le hmid (hsorted mid i hi' hsize)
  | case2 lo hi hlt mid hmid ih =>
    refine ih (by omega) hhi (fun i hi' => ?_) hafter
    exact Nat.le_trans (hsorted i mid (by omega) (by omega)) (Nat.le_of_not_lt hmid)
  | case3 lo hi hlt =>
    obtain rfl : lo = hi := by omega
    exact ⟨hhi, hbefore, hafter⟩

theorem countP_eq_of_split {l : List Nat} {o r : Nat} (hr : r ≤ l.length)
    (hbefore : ∀ i < r, l.getD i 0 ≤ o) (hafter : ∀ i, r ≤ i → i < l.length → o < l.getD i 0) :
    l.countP (· ≤ o) = r := by
  induction l generalizing r with
  | nil => simpa using (Nat.le_zero.1 hr).symm
  | cons x l ih =>
    cases r with
    | zero =>
      have hx : o < x := hafter 0 (Nat.le_refl _) (by simp)
      have hl := ih (r := 0) (Nat.zero_le _) (by simp) fun i _ hi => hafter (i + 1) (by omega) (by simpa using hi)
      simp [hl, Nat.not_le.2 hx]
    | succ r =>
      have hx : x ≤ o := hbefore 0 (Nat.succ_pos _)
      have hl := ih (r := r) (by simpa using hr) (fun i hi => hbefore (i + 1) (by omega))
        fun i hri hi => hafter (i + 1) (by omega) (by simpa using hi)
      simp [hl, hx]

/-! ## Positions -/

namespace LineIndex

theorem getD_starts (s : Text) (i : Nat) :
    (ofText s).starts.getD i 0 = (0 :: lineStartsFrom 0 s).getD i 0 := by
  simp [ofText]

theorem starts_sorted (s : Text) (i j : Nat) (hij : i ≤ j) (hj : j < (ofText s).starts.size) :
    (ofText s).starts.getD i 0 ≤ (ofText s).starts.getD j 0 := by
  have hsorted : (0 :: lineStartsFrom 0 s).Pairwise (· < ·) :=
    List.pairwise_cons.2 ⟨fun x hx => lt_of_mem_lineStartsFrom hx, lineStartsFrom_sorted 0 s⟩
  have hj' : j < (0 :: lineStartsFrom 0 s).length := hj
  obtain rfl | hlt := Nat.eq_or_lt_of_le hij
  · exact Nat.le_refl _
  · rw [getD_starts, getD_starts, List.getD_eq_getElem?_getD, List.getD_eq_getElem?_getD,
      List.getElem?_eq_getElem (Nat.lt_trans hlt hj'), List.getElem?_eq_getElem hj']
    exact Nat.le_of_lt (List.pairwise_iff_getElem.1 hsorted i j _ _ hlt)

/-- The search finds the number of the lines that start up to an offset. -/
theorem firstAfter_eq (s : Text) (m : Nat) :
    firstAfter (ofText s).starts m 0 (ofText s).starts.size = (s.take m).count '\n' + 1 := by
  obtain ⟨hle, hbefore, hafter⟩ := firstAfter_split (o := m) (starts_sorted s) 0 (ofText s).starts.size
    (Nat.zero_le _) (Nat.le_refl _) (by simp) (by omega)
  simp only [getD_starts] at hbefore hafter
  rw [← countP_eq_of_split (l := 0 :: lineStartsFrom 0 s) hle hbefore hafter, List.countP_cons]
  have hcount := countP_lineStartsFrom s 0 m
  rw [Nat.zero_add] at hcount
  simp [hcount]

/-- What stands between the start found and the offset is the last line so far. -/
theorem sub_getD_starts {s : Text} {m : Nat} (hm : m ≤ s.length) :
    ((m : Int) - (ofText s).starts.getD ((s.take m).count '\n') 0) = (Text.lastLine (s.take m)).length := by
  have hstart := getD_lineStartsFrom s 0 m [] (by simp) (Nat.le_refl _) hm
  rw [Nat.zero_add, List.nil_append, List.length_nil, Nat.sub_zero] at hstart
  have hlast := Text.length_lastLine_le (s.take m)
  rw [List.length_take, Nat.min_eq_left hm] at hlast
  rw [getD_starts, hstart]
  omega

/-- **The position an index gives is the position of the offset in the text.** -/
theorem position_eq (s : Text) (offset : Int) :
    (ofText s).position offset = Position.ofOffset .utf32 s offset := by
  have hm : s.clampOffset offset ≤ s.length := Nat.min_le_right _ _
  unfold position Position.ofOffset
  change (⟨_, _, _⟩ : Position) = ⟨_, _, _⟩
  rw [show min offset.toNat (ofText s).size = s.clampOffset offset from rfl, firstAfter_eq,
    Nat.add_sub_cancel, sub_getD_starts hm, Units.measure_utf32, List.length_take, Nat.min_eq_left hm]

end LineIndex

end SmaliLint
