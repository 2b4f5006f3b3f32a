import Mathlib.Data.List.DropRight
import SmaliLint.Line

/-!
# Logical lines as pieces of a token list

The assembler hands out lines one at a time. Here the lines of a whole list of tokens are told at once.

* `stripSpaces ts` : `ts` without the spaces at both ends; `trim_eq_stripSpaces` : trimming drops the comments, and then
  strips;
* `logicalLines ts` : what is left of the pieces of `ts` between newlines;
* `logicalLines_piece`, `logicalLines_append_newline` : one piece, and two lists with a newline between;
* `exists_piece` : every line is what is left of a piece;
* `Layout ts t us` : the token `t` is mere layout between `ts` and `us`, a comment or a space or newline at
  the edge of a line; `logicalLines_layout` : it may be left out.
-/

namespace SmaliLint

/-! ## Stripping -/

/-- What is dropped at the end stands behind the last element that fails the test. -/
theorem rdropWhile_append_cons {α : Type} {p : α → Bool} {x : α} (hx : ¬ p x = true) (l m : List α) :
    (l ++ x :: m).rdropWhile p = l ++ x :: m.rdropWhile p := by
  induction m using List.reverseRecOn with
  | nil => exact List.rdropWhile_concat_neg p l x hx
  | append_singleton m y ih =>
    have hassoc : l ++ x :: (m ++ [y]) = (l ++ x :: m) ++ [y] := by simp
    by_cases hy : p y = true
    · rw [hassoc, List.rdropWhile_concat_pos p _ y hy, List.rdropWhile_concat_pos p m y hy, ih]
    · rw [hassoc, List.rdropWhile_concat_neg p _ y hy, List.rdropWhile_concat_neg p m y hy, hassoc]

theorem getLast?_rdropWhile {α : Type} {p : α → Bool} {l : List α} {x : α} (h : (l.rdropWhile p).getLast? = some x) :
    ¬ p x = true := by
  have hne : l.rdropWhile p ≠ [] := by
    intro hnil
    rw [hnil] at h
    cases h
  rw [List.getLast?_eq_some_getLast hne, Option.some_inj] at h
  rw [← h]
  exact List.rdropWhile_last_not p l hne

theorem filter_dropWhile {α : Type} {p q : α → Bool} (h : ∀ x, p x = true → ¬ q x = true) (l : List α) :
    (l.dropWhile q).filter p = l.filter p := by
  induction l with
  | nil => rfl
  | cons x l ih =>
    by_cases hx : q x = true
    · rw [List.dropWhile_cons_of_pos hx, ih, List.filter_cons_of_neg fun hp => h x hp hx]
    · rw [List.dropWhile_cons_of_neg hx]

theorem filter_rdropWhile {α : Type} {p q : α → Bool} (h : ∀ x, p x = true → ¬ q x = true) (l : List α) :
    (l.rdropWhile q).filter p = l.filter p := by
  rw [List.rdropWhile, List.filter_reverse, filter_dropWhile h, List.filter_reverse, List.reverse_reverse]

/-- The tokens without the spaces at the beginning and at the end. -/
def stripSpaces (ts : List Token) : List Token :=
  (ts.dropWhile (·.kind = .space)).rdropWhile (·.kind = .space)

theorem stripSpaces_concat {c : Token} (hc : c.kind = .space) (ts : List Token) :
    stripSpaces (ts ++ [c]) = stripSpaces ts := by
  rw [stripSpaces, stripSpaces, List.dropWhile_append]
  split
  · next hblank => rw [List.isEmpty_iff.1 hblank, List.dropWhile_cons_of_pos (by simp [hc]), List.dropWhile_nil]
  · rw [List.rdropWhile_concat_pos _ _ _ (by simp [hc])]

/-! ## Trimming -/

/-- The spaces that are held back come out with the next other token, or not at all. -/
theorem trimAfter_eq_rdropWhile {held : List Token} (hheld : ∀ t ∈ held, t.kind = .space) (ts : List Token) :
    trimAfter held ts = (held ++ ts.filter (·.kind ≠ .comment)).rdropWhile (·.kind = .space) := by
  fun_induction trimAfter held ts with
  | case1 held =>
    rw [List.filter_nil, List.append_nil]
    exact (List.rdropWhile_eq_nil_iff.2 fun t ht => decide_eq_true (hheld t ht)).symm
  | case2 held t ts hc ih => rw [ih hheld, List.filter_cons_of_neg (by simp [hc])]
  | case3 held t ts hc hs ih =>
    rw [ih (List.forall_mem_append.2 ⟨hheld, by simpa using hs⟩), List.filter_cons_of_pos (by simp [hc]),
      List.append_assoc, List.singleton_append]
  | case4 held t ts hc hs ih =>
    rw [ih (by simp), List.filter_cons_of_pos (by simp [hc]), rdropWhile_append_cons (by simp [hs]), List.nil_append]

/-- **Trimming is dropping the comments and then stripping the spaces.** -/
theorem trim_eq_stripSpaces (ts : List Token) : trim ts = stripSpaces (ts.filter (·.kind ≠ .comment)) := by
  fun_induction trim ts with
  | case1 => rfl
  | case2 t ts h ih =>
    rw [ih]
    rcases h with h | h
    · rw [List.filter_cons_of_neg (by simp [h])]
    · rw [List.filter_cons_of_pos (by simp [h]), stripSpaces, stripSpaces, List.dropWhile_cons_of_pos (by simp [h])]
  | case3 t ts h =>
    obtain ⟨hc, hs⟩ := not_or.1 h
    have hstrip : ∀ us, (t :: us).rdropWhile (·.kind = .space) = t :: us.rdropWhile (·.kind = .space) :=
      fun us => rdropWhile_append_cons (by simpa using hs) [] us
    rw [List.filter_cons_of_pos (by simp [hc]), stripSpaces, List.dropWhile_cons_of_neg (by simp [hs]), hstrip,
      trimAfter_eq_rdropWhile (by simp), List.nil_append]

theorem trim_comment {c : Token} (hc : c.kind = .comment) (as bs : List Token) :
    trim (as ++ c :: bs) = trim (as ++ bs) := by
  rw [trim_eq_stripSpaces, trim_eq_stripSpaces, List.filter_append, List.filter_append,
    List.filter_cons_of_neg (by simp [hc])]

theorem trim_trailing {c : Token} (hc : c.kind = .space) (as : List Token) : trim (as ++ [c]) = trim as := by
  rw [trim_eq_stripSpaces, trim_eq_stripSpaces, List.filter_append, List.filter_cons_of_pos (by simp [hc]),
    List.filter_nil, stripSpaces_concat hc]

theorem trim_leading {c : Token} (hc : c.kind = .space) (as : List Token) : trim (c :: as) = trim as := by
  rw [trim, if_pos (.inr hc)]

theorem trim_isInfix (ts : List Token) : trim ts <:+: ts.filter (·.kind ≠ .comment) := by
  rw [trim_eq_stripSpaces, stripSpaces]
  exact (List.rdropWhile_prefix _ _).isInfix.trans (List.dropWhile_suffix _).isInfix

theorem trim_sublist (ts : List Token) : (trim ts).Sublist ts :=
  (trim_isInfix ts).sublist.trans List.filter_sublist

theorem not_comment_of_mem_trim {ts : List Token} : ∀ t ∈ trim ts, t.kind ≠ .comment := by
  intro t ht
  simpa using (List.mem_filter.1 ((trim_isInfix ts).subset ht)).2

/-- Trimming takes away comments and spaces only. -/
theorem filter_trim {p : Token → Bool} (hp : ∀ t, p t = true → t.kind ≠ .comment ∧ t.kind ≠ .space)
    (ts : List Token) : (trim ts).filter p = ts.filter p := by
  have hspace : ∀ t, p t = true → ¬ decide (t.kind = .space) = true := fun t ht => by simpa using (hp t ht).2
  rw [trim_eq_stripSpaces, stripSpaces, filter_rdropWhile hspace, filter_dropWhile hspace, List.filter_filter]
  refine List.filter_congr fun t _ => ?_
  rw [Bool.and_eq_left_iff_imp]
  exact fun ht => decide_eq_true (hp t ht).1

/-- What is left does not end in a space. -/
theorem trim_getLast? (ts : List Token) : ∀ t, (trim ts).getLast? = some t → t.kind ≠ .space := by
  intro t ht
  rw [trim_eq_stripSpaces, stripSpaces] at ht
  simpa using getLast?_rdropWhile ht

/-- What is left begins with the first token that is neither a comment nor a space. -/
theorem trim_head? (ts : List Token) :
    (trim ts).head? = ts.find? fun t => t.kind ≠ .space ∧ t.kind ≠ .comment := by
  fun_induction trim ts with
  | case1 => rfl
  | case2 t ts h ih =>
    rw [ih, List.find?_cons_of_neg]
    rcases h with h | h <;> simp [h]
  | case3 t ts h =>
    rw [List.find?_cons_of_pos]
    · rfl
    · simpa [not_or, and_comm] using h

theorem trim_head_ne_space (ts : List Token) : ∀ t, (trim ts).head? = some t → t.kind ≠ .space := by
  intro t ht
  rw [trim_head?] at ht
  have hkept := List.find?_some ht
  simp only [decide_eq_true_eq] at hkept
  exact hkept.1

/-- Nothing is taken away from tokens without comments that begin and end in other tokens than spaces. -/
theorem trim_eq_self {first last : Token} {ts : List Token} (hfirst : first.kind ≠ .comment ∧ first.kind ≠ .space)
    (hts : ∀ u ∈ ts, u.kind ≠ .comment) (hlast : last.kind ≠ .comment ∧ last.kind ≠ .space) :
    trim (first :: (ts ++ [last])) = first :: (ts ++ [last]) := by
  have hall : ∀ u ∈ first :: (ts ++ [last]), decide (u.kind ≠ .comment) = true := by
    refine List.forall_mem_cons.2 ⟨decide_eq_true hfirst.1, List.forall_mem_append.2 ⟨fun u hu => ?_, ?_⟩⟩
    · exact decide_eq_true (hts u hu)
    · simpa using hlast.1
  rw [trim_eq_stripSpaces, List.filter_eq_self.2 hall, stripSpaces, List.dropWhile_cons_of_neg (by simp [hfirst.2]),
    ← List.cons_append, List.rdropWhile_concat_neg _ _ _ (by simp [hlast.2])]

/-! ## Lines -/

theorem Line.toList_of_ofList? {ts : List Token} {l : Line} (h : Line.ofList? ts = some l) : l.toList = ts := by
  cases ts with
  | nil => cases h
  | cons t ts =>
    obtain rfl := Option.some.inj h
    rfl

theorem Line.getLast?_toList (l : Line) : l.toList.getLast? = some l.last := by
  rw [toList, last, List.getLast?_cons, List.getLastD_eq_getLast?]

/-- The logical lines of tokens: the pieces between newlines, trimmed, without those of which nothing is
left. -/
def logicalLines (ts : List Token) : List Line :=
  (ts.splitOnP (·.kind = .newline)).filterMap fun piece => Line.ofList? (trim piece)

theorem logicalLines_piece {ts : List Token} (h : ∀ t ∈ ts, t.kind ≠ .newline) :
    logicalLines ts = (Line.ofList? (trim ts)).toList := by
  rw [logicalLines, List.splitOnP_eq_singleton fun t ht => decide_eq_false (h t ht), List.filterMap_cons]
  cases Line.ofList? (trim ts) <;> rfl

theorem logicalLines_nil : logicalLines [] = [] := logicalLines_piece (by simp)

theorem logicalLines_append_newline {c : Token} (hc : c.kind = .newline) (ts us : List Token) :
    logicalLines (ts ++ c :: us) = logicalLines ts ++ logicalLines us := by
  rw [logicalLines, List.splitOnP_append_cons ts us (decide_eq_true hc), List.filterMap_append]
  rfl

/-! ## Layout -/

/-- What stands before the gap is nothing or ends in a newline, or what stands after it is nothing or begins
with one. -/
def AtLineEdge (ts us : List Token) : Prop :=
  (∀ t, ts.getLast? = some t → t.kind = .newline) ∨ (∀ t, us.head? = some t → t.kind = .newline)

/-- A comment, or a space or a newline at the beginning or at the end of a line. -/
def Layout (ts : List Token) (t : Token) (us : List Token) : Prop :=
  t.kind = .comment ∨ ((t.kind = .space ∨ t.kind = .newline) ∧ AtLineEdge ts us)

/-- A list is one piece, or a first part, a newline and a last piece. -/
theorem exists_last_piece (ts : List Token) : ∃ before piece, ts = before ++ piece ∧
    (∀ t ∈ piece, t.kind ≠ .newline) ∧ ∀ t, before.getLast? = some t → t.kind = .newline := by
  induction ts with
  | nil => exact ⟨[], [], rfl, by simp, by simp⟩
  | cons t ts ih =>
    obtain ⟨before, piece, rfl, hpiece, hbefore⟩ := ih
    by_cases hb : before = []
    · subst hb
      by_cases ht : t.kind = .newline
      · exact ⟨[t], piece, rfl, hpiece, by simpa using ht⟩
      · exact ⟨[], t :: piece, rfl, List.forall_mem_cons.2 ⟨ht, hpiece⟩, by simp⟩
    · refine ⟨t :: before, piece, rfl, hpiece, ?_⟩
      rwa [List.getLast?_cons_of_ne_nil hb]

/-- A list is one piece, or a first piece, a newline and a last part. -/
theorem exists_first_piece (ts : List Token) : ∃ piece after, ts = piece ++ after ∧
    (∀ t ∈ piece, t.kind ≠ .newline) ∧ ∀ t, after.head? = some t → t.kind = .newline := by
  induction ts with
  | nil => exact ⟨[], [], rfl, by simp, by simp⟩
  | cons t ts ih =>
    by_cases ht : t.kind = .newline
    · exact ⟨[], t :: ts, rfl, by simp, by simpa using ht⟩
    · obtain ⟨piece, after, rfl, hpiece, hafter⟩ := ih
      exact ⟨t :: piece, after, rfl, List.forall_mem_cons.2 ⟨ht, hpiece⟩, hafter⟩

/-- A line is what is left of some piece. -/
theorem exists_piece {ts : List Token} {l : Line} (h : l ∈ logicalLines ts) :
    ∃ piece, piece <:+: ts ∧ (∀ t ∈ piece, t.kind ≠ .newline) ∧ trim piece = l.toList := by
  induction hn : ts.length using Nat.strongRecOn generalizing ts with
  | _ n ih =>
    have hpiece : ∀ piece : List Token, (∀ t ∈ piece, t.kind ≠ .newline) → l ∈ logicalLines piece →
        trim piece = l.toList := by
      intro piece hnone hl
      rw [logicalLines_piece hnone, Option.mem_toList] at hl
      exact (Line.toList_of_ofList? hl).symm
    obtain ⟨piece, after, rfl, hnone, hafter⟩ := exists_first_piece ts
    cases after with
    | nil =>
      rw [List.append_nil] at h ⊢
      exact ⟨piece, List.infix_rfl, hnone, hpiece piece hnone h⟩
    | cons c rest =>
      rw [logicalLines_append_newline (hafter c rfl)] at h
      rcases List.mem_append.1 h with h | h
      · exact ⟨piece, (List.prefix_append _ _).isInfix, hnone, hpiece piece hnone h⟩
      · have hlt : rest.length < n := by
          rw [← hn, List.length_append, List.length_cons]
          omega
        obtain ⟨later, hstretch, hlater, htrim⟩ := ih rest.length hlt h rfl
        have hrest : rest <:+ piece ++ c :: rest := (List.suffix_cons c rest).trans (List.suffix_append _ _)
        exact ⟨later, hstretch.trans hrest.isInfix, hlater, htrim⟩

theorem mem_of_mem_logicalLines {ts : List Token} {l : Line} (h : l ∈ logicalLines ts) : ∀ t ∈ l.toList, t ∈ ts := by
  intro t ht
  obtain ⟨piece, hstretch, -, htrim⟩ := exists_piece h
  rw [← htrim] at ht
  exact hstretch.subset ((trim_sublist piece).subset ht)

/-- The lines of a first part that is ended, and those of the rest. -/
theorem logicalLines_append_left {ts us : List Token} (h : ∀ t, ts.getLast? = some t → t.kind = .newline) :
    logicalLines (ts ++ us) = logicalLines ts ++ logicalLines us := by
  cases hl : ts.getLast? with
  | none =>
    obtain rfl := List.getLast?_eq_none_iff.1 hl
    rw [logicalLines_nil, List.nil_append, List.nil_append]
  | some c =>
    obtain ⟨before, rfl⟩ := List.getLast?_eq_some_iff.1 hl
    have hc := h c hl
    rw [List.append_assoc, List.singleton_append, logicalLines_append_newline hc,
      logicalLines_append_newline hc, logicalLines_nil, List.append_nil]

theorem logicalLines_append_right {ts us : List Token} (h : ∀ t, us.head? = some t → t.kind = .newline) :
    logicalLines (ts ++ us) = logicalLines ts ++ logicalLines us := by
  cases us with
  | nil => rw [logicalLines_nil, List.append_nil, List.append_nil]
  | cons c us =>
    have hc := h c rfl
    have hskip : logicalLines (c :: us) = logicalLines us := by
      have := logicalLines_append_newline hc [] us
      rwa [List.nil_append, logicalLines_nil, List.nil_append] at this
    rw [logicalLines_append_newline hc, hskip]

theorem logicalLines_edge {ts us : List Token} (h : AtLineEdge ts us) :
    logicalLines (ts ++ us) = logicalLines ts ++ logicalLines us :=
  h.elim logicalLines_append_left logicalLines_append_right

/-- A token that is no newline may be left out if it does not matter to the piece it stands in. -/
theorem logicalLines_insert {ts us : List Token} {t : Token} (ht : t.kind ≠ .newline)
    (htrim : ∀ p q, p <:+ ts → q <+: us → (∀ u ∈ p ++ q, u.kind ≠ .newline) →
      trim (p ++ t :: q) = trim (p ++ q)) :
    logicalLines (ts ++ t :: us) = logicalLines (ts ++ us) := by
  obtain ⟨before, p, rfl, hp, hbefore⟩ := exists_last_piece ts
  obtain ⟨q, after, rfl, hq, hafter⟩ := exists_first_piece us
  have hpq : ∀ u ∈ p ++ q, u.kind ≠ .newline := List.forall_mem_append.2 ⟨hp, hq⟩
  have hpiece : logicalLines (p ++ t :: q) = logicalLines (p ++ q) := by
    rw [logicalLines_piece hpq, logicalLines_piece,
      htrim p q (List.suffix_append before p) (List.prefix_append q after) hpq]
    exact List.forall_mem_append.2 ⟨hp, List.forall_mem_cons.2 ⟨ht, hq⟩⟩
  have hsplit : ∀ m, logicalLines (before ++ p ++ (m ++ (q ++ after))) =
      logicalLines before ++ logicalLines (p ++ (m ++ q)) ++ logicalLines after := by
    intro m
    rw [List.append_assoc, logicalLines_append_left hbefore, ← List.append_assoc m, ← List.append_assoc p,
      logicalLines_append_right hafter, List.append_assoc]
  have hwith := hsplit [t]
  have hwithout := hsplit []
  rw [List.singleton_append, List.singleton_append] at hwith
  rw [List.nil_append, List.nil_append] at hwithout
  rw [hwith, hwithout, hpiece]

/-- At the edge of a line one of the two pieces that meet there is empty. -/
theorem AtLineEdge.nil_or_nil {ts us p q : List Token} (h : AtLineEdge ts us) (hp : p <:+ ts) (hq : q <+: us)
    (hpq : ∀ u ∈ p ++ q, u.kind ≠ .newline) : p = [] ∨ q = [] := by
  rcases h with h | h
  · refine .inl (List.getLast?_eq_none_iff.1 (Option.eq_none_iff_forall_ne_some.2 fun c hc => ?_))
    have hlast : ts.getLast? = some c := by
      obtain ⟨before, rfl⟩ := hp
      rw [List.getLast?_append, hc, Option.some_or]
    exact hpq c (List.mem_append_left _ (List.mem_of_getLast? hc)) (h c hlast)
  · refine .inr (List.head?_eq_none_iff.1 (Option.eq_none_iff_forall_ne_some.2 fun c hc => ?_))
    have hhead : us.head? = some c := by
      obtain ⟨after, rfl⟩ := hq
      rw [List.head?_append, hc, Option.some_or]
    exact hpq c (List.mem_append_right _ (List.mem_of_mem_head? hc)) (h c hhead)

/-- **Layout does not change the lines.** -/
theorem logicalLines_layout {ts us : List Token} {t : Token} (h : Layout ts t us) :
    logicalLines (ts ++ t :: us) = logicalLines (ts ++ us) := by
  obtain hcomment | ⟨hspace | hnewline, hedge⟩ := h
  · exact logicalLines_insert (by simp [hcomment]) fun p q _ _ _ => trim_comment hcomment p q
  · refine logicalLines_insert (by simp [hspace]) fun p q hp hq hpq => ?_
    obtain rfl | rfl := hedge.nil_or_nil hp hq hpq
    · exact trim_leading hspace q
    · rw [List.append_nil]
      exact trim_trailing hspace p
  · rw [logicalLines_append_newline hnewline, logicalLines_edge hedge]

end SmaliLint
