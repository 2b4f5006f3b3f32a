import SmaliLint.Pattern.Lengths

/-!
# When the first match is the longest

A pattern is `Greedy` if its matches are tried from the longest to the shortest, on every text. Its
first match is then the longest prefix in its language (`Greedy.le_firstMatch`). The property is not
kept by all ways of building patterns, so each has a condition of its own:

* `Deterministic p` : there is at most one match; `Width n p` : every match has length `n`;
* `Greedy.seq_of_deterministic`, `Greedy.seq_of_width` : a sequence, if the first part leaves no choice
  or the second part always takes the same;
* `Deterministic.greedy_star` : a repetition, if a round leaves no choice;
* `Greedy.alt` : two alternatives, if no match of the second is longer than one of the first;
* `Spells p ws` : the matches of `p` are those of the words `ws`, tried in this order;
  `Spells.greedy` : none of them may begin with one that is tried before it (`LongerFirst`).
-/

namespace SmaliLint.Pattern

/-- The matches of the pattern are tried from the longest to the shortest. -/
def Greedy (p : Pattern) : Prop := ∀ s, (p.lengths s).Pairwise (· ≥ ·)

/-- The pattern matches a text in one way at most. -/
def Deterministic (p : Pattern) : Prop := ∀ s, (p.lengths s).length ≤ 1

/-- Every match of the pattern has length `n`. -/
def Width (n : Nat) (p : Pattern) : Prop := ∀ s, ∀ m ∈ p.lengths s, m = n

/-! ## First and longest -/

theorem matches_of_firstMatch {p : Pattern} {s : Text} {n : Nat} (h : p.firstMatch s = some n) :
    n ≤ s.length ∧ p.Matches (s.take n) := by
  rw [firstMatch_eq_head?] at h
  exact mem_lengths_iff.1 (List.mem_of_mem_head? h)

theorem length_mem_lengths {p : Pattern} {s w : Text} (hw : w <+: s) (hp : p.Matches w) :
    w.length ∈ p.lengths s := by
  obtain ⟨t, rfl⟩ := hw
  exact lengths_complete p w t hp

theorem firstMatch_eq_none_iff {p : Pattern} {s : Text} :
    p.firstMatch s = none ↔ ∀ w, w <+: s → ¬ p.Matches w := by
  rw [firstMatch_eq_head?, List.head?_eq_none_iff]
  constructor
  · intro h w hw hp
    have := length_mem_lengths hw hp
    simp [h] at this
  · intro h
    refine List.eq_nil_iff_forall_not_mem.2 fun m hm => ?_
    exact h (s.take m) (List.take_prefix m s) (mem_lengths_iff.1 hm).2

/-- **The first match of a greedy pattern is the longest.** -/
theorem Greedy.le_firstMatch {p : Pattern} (hp : p.Greedy) {s w : Text} {n : Nat}
    (h : p.firstMatch s = some n) (hw : w <+: s) (hm : p.Matches w) : w.length ≤ n := by
  rw [firstMatch_eq_head?] at h
  have hmem := length_mem_lengths hw hm
  have hsorted := hp s
  cases hl : p.lengths s with
  | nil => simp [hl] at hmem
  | cons m l =>
    rw [hl] at h hmem hsorted
    obtain rfl : m = n := by simpa using h
    obtain heq | hin := List.mem_cons.1 hmem
    · exact Nat.le_of_eq heq
    · exact (List.pairwise_cons.1 hsorted).1 _ hin

/-- The first match of a greedy pattern depends only on which of its texts the given one begins with. -/
theorem Greedy.firstMatch_congr {p : Pattern} (hp : p.Greedy) {s t : Text}
    (h : ∀ w, p.Matches w → (w <+: s ↔ w <+: t)) : p.firstMatch s = p.firstMatch t := by
  have hle : ∀ {s t : Text} {m n : Nat}, (∀ w, p.Matches w → w <+: s → w <+: t) →
      p.firstMatch s = some m → p.firstMatch t = some n → m ≤ n := by
    intro s t m n hst hs ht
    obtain ⟨hlen, hm⟩ := matches_of_firstMatch hs
    have := hp.le_firstMatch ht (hst _ hm (List.take_prefix m s)) hm
    rwa [List.length_take, Nat.min_eq_left hlen] at this
  cases hs : p.firstMatch s with
  | none =>
    rw [firstMatch_eq_none_iff] at hs
    exact (firstMatch_eq_none_iff.2 fun w hw hm => hs w ((h w hm).2 hw) hm).symm
  | some m =>
    cases ht : p.firstMatch t with
    | none =>
      obtain ⟨-, hm⟩ := matches_of_firstMatch hs
      exact absurd hm (firstMatch_eq_none_iff.1 ht _ ((h _ hm).1 (List.take_prefix m s)))
    | some n =>
      have hmn := hle (fun w hm => (h w hm).1) hs ht
      have hnm := hle (fun w hm => (h w hm).2) ht hs
      rw [Nat.le_antisymm hmn hnm]

/-! ## Building greedy patterns -/

theorem deterministic_char (test : Char → Bool) : (char test).Deterministic := by
  intro s
  cases s with
  | nil => simp [lengths]
  | cons c s => by_cases hc : test c = true <;> simp [lengths, hc]

theorem Deterministic.cases {p : Pattern} (hp : p.Deterministic) (s : Text) :
    p.lengths s = [] ∨ ∃ m, p.lengths s = [m] := by
  have h := hp s
  match hl : p.lengths s with
  | [] => exact .inl rfl
  | [m] => exact .inr ⟨m, rfl⟩
  | _ :: _ :: _ => simp [hl] at h

theorem Deterministic.greedy {p : Pattern} (hp : p.Deterministic) : p.Greedy := by
  intro s
  obtain h | ⟨m, h⟩ := hp.cases s <;> simp [h]

theorem pairwise_map_add {l : List Nat} (h : l.Pairwise (· ≥ ·)) (m : Nat) :
    (l.map (m + ·)).Pairwise (· ≥ ·) :=
  h.map _ fun _ _ hab => Nat.add_le_add_left hab m

theorem Greedy.seq_of_deterministic {p q : Pattern} (hp : p.Deterministic) (hq : q.Greedy) :
    (seq p q).Greedy := by
  intro s
  obtain h | ⟨m, h⟩ := hp.cases s
  · simp [lengths, h]
  · simpa [lengths, h] using pairwise_map_add (hq (s.drop m)) m

theorem Deterministic.seq {p q : Pattern} (hp : p.Deterministic) (hq : q.Deterministic) :
    (seq p q).Deterministic := by
  intro s
  obtain h | ⟨m, h⟩ := hp.cases s
  · simp [lengths, h]
  · simpa [lengths, h] using hq (s.drop m)

theorem Greedy.seq_of_width {p q : Pattern} {n : Nat} (hp : p.Greedy) (hq : q.Width n) :
    (seq p q).Greedy := by
  have hend : ∀ (s : Text) (a x : Nat), x ∈ (q.lengths (s.drop a)).map (a + ·) → x = a + n := by
    intro s a x hx
    obtain ⟨m, hm, rfl⟩ := List.mem_map.1 hx
    rw [hq _ m hm]
  intro s
  rw [lengths, List.pairwise_flatMap]
  constructor
  · intro a _
    refine List.pairwise_of_forall_mem_list fun x hx y hy => ?_
    exact Nat.le_of_eq ((hend s a y hy).trans (hend s a x hx).symm)
  · refine (hp s).imp fun {a b} hab x hx y hy => ?_
    rw [hend s a x hx, hend s b y hy]
    exact Nat.add_le_add_right hab n

/-- A repetition tries the most rounds first, and every round adds to the length. -/
theorem Deterministic.greedy_star {p : Pattern} (hp : p.Deterministic) : (star p).Greedy := by
  have hrounds : ∀ rounds s : Text, (roundLengths p.lengths rounds s).Pairwise (· ≥ ·) := by
    intro rounds
    induction rounds with
    | nil => intro s; simp [roundLengths]
    | cons c rounds ih =>
      intro s
      obtain h | ⟨m, h⟩ := hp.cases s
      · simp [roundLengths, h]
      · have hmap := pairwise_map_add (ih (s.drop m)) m
        simp [roundLengths, h, List.pairwise_append, hmap]
  exact fun s => hrounds s s

theorem Greedy.alt {p q : Pattern} (hp : p.Greedy) (hq : q.Greedy)
    (h : ∀ s, ∀ a ∈ p.lengths s, ∀ b ∈ q.lengths s, b ≤ a) : (alt p q).Greedy := by
  intro s
  rw [lengths, List.pairwise_append]
  exact ⟨hp s, hq s, h s⟩

theorem Deterministic.alt {p q : Pattern} (hp : p.Deterministic) (hq : q.Deterministic)
    (h : ∀ s, p.lengths s = [] ∨ q.lengths s = []) : (alt p q).Deterministic := by
  intro s
  rw [lengths]
  obtain h | h := h s
  · simpa [h] using hq s
  · simpa [h] using hp s

/-- What may be left out is first tried with it, then without. -/
theorem lengths_maybe_seq (p q : Pattern) (s : Text) :
    (seq (maybe p) q).lengths s = (alt (seq p q) q).lengths s := by
  simp [maybe, lengths]

/-! ## Finitely many words -/

/-- The matches of the pattern are those of the words, tried in their order. -/
def Spells (p : Pattern) (ws : List Text) : Prop :=
  ∀ s, p.lengths s = (ws.filter (·.isPrefixOf s)).map List.length

theorem spells_empty : empty.Spells [[]] := fun s => by simp [lengths]

theorem spells_never : never.Spells [] := fun _ => rfl

theorem spells_word (w : String) : (word w).Spells [w.toList] := by
  unfold word
  induction w.toList with
  | nil => exact spells_empty
  | cons c w ih =>
    intro s
    cases s with
    | nil => rfl
    | cons d s =>
      by_cases hd : d = c
      · subst hd
        by_cases hw : w.isPrefixOf s = true <;> simp [lengths, ih s, hw, Nat.add_comm]
      · simp [lengths, hd, Ne.symm hd]

theorem Spells.alt {p q : Pattern} {ws vs : List Text} (hp : p.Spells ws) (hq : q.Spells vs) :
    (alt p q).Spells (ws ++ vs) := by
  intro s
  rw [lengths, hp s, hq s, List.filter_append, List.map_append]

theorem Spells.maybe {p : Pattern} {ws : List Text} (hp : p.Spells ws) : (maybe p).Spells (ws ++ [[]]) :=
  hp.alt spells_empty

theorem isPrefixOf_append (w v s : Text) :
    (w ++ v).isPrefixOf s = (w.isPrefixOf s && v.isPrefixOf (s.drop w.length)) := by
  induction w generalizing s with
  | nil => rfl
  | cons c w ih =>
    cases s with
    | nil => rfl
    | cons d s => simp [List.isPrefixOf, ih, Bool.and_assoc]

theorem Spells.seq {p q : Pattern} {ws vs : List Text} (hp : p.Spells ws) (hq : q.Spells vs) :
    (seq p q).Spells (ws.flatMap fun w => vs.map (w ++ ·)) := by
  intro s
  rw [lengths, hp s]
  simp only [hq _]
  clear hp hq
  induction ws with
  | nil => rfl
  | cons w ws ih =>
    rw [List.flatMap_cons, List.filter_append, List.map_append, ← ih, List.filter_map]
    by_cases hw : w.isPrefixOf s = true
    · simp [hw, Function.comp_def, isPrefixOf_append]
    · simp [hw, Function.comp_def, isPrefixOf_append]

theorem spells_oneOf (ws : List String) : (oneOf ws).Spells (ws.map String.toList) := by
  induction ws with
  | nil => exact spells_never
  | cons w ws ih => exact (spells_word w).alt ih

/-- Such a pattern matches its words and nothing else. -/
theorem Spells.matches_iff {p : Pattern} {ws : List Text} (hp : p.Spells ws) {w : Text} :
    p.Matches w ↔ w ∈ ws := by
  have hlen : p.Matches w ↔ w.length ∈ p.lengths w := by
    rw [mem_lengths_iff, List.take_length]
    exact (and_iff_right (Nat.le_refl _)).symm
  rw [hlen, hp w, List.mem_map]
  constructor
  · rintro ⟨v, hv, hvw⟩
    obtain ⟨hmem, hpre⟩ := List.mem_filter.1 hv
    have heq : v = w := (List.isPrefixOf_iff_prefix.1 hpre).eq_of_length hvw
    rwa [heq] at hmem
  · intro hw
    exact ⟨w, List.mem_filter.2 ⟨hw, List.isPrefixOf_iff_prefix.2 (List.prefix_refl w)⟩, rfl⟩

/-- No text of the list begins with one that stands before it. -/
def LongerFirst (ws : List Text) : Prop := ws.Pairwise fun w v => w <+: v → w = v

instance (ws : List Text) : Decidable (LongerFirst ws) := inferInstanceAs (Decidable (ws.Pairwise _))

/-- Words that match the same text begin with one another, so a word that is tried later is shorter
unless it begins with one tried before. -/
theorem Spells.greedy {p : Pattern} {ws : List Text} (hp : p.Spells ws) (h : LongerFirst ws) :
    p.Greedy := by
  intro s
  rw [hp s, List.pairwise_map]
  have hsub := List.Pairwise.sublist (List.filter_sublist (p := (·.isPrefixOf s)) (l := ws)) h
  refine hsub.imp_of_mem fun {w v} hw hv hwv => ?_
  have hws : w <+: s := by simpa using (List.mem_filter.1 hw).2
  have hvs : v <+: s := by simpa using (List.mem_filter.1 hv).2
  obtain hle | hle := Nat.le_total w.length v.length
  · have heq := hwv (List.prefix_of_prefix_length_le hws hvs hle)
    exact Nat.le_of_eq (congrArg List.length heq.symm)
  · exact hle

theorem Spells.deterministic {p : Pattern} {w : Text} (hp : p.Spells [w]) : p.Deterministic := by
  intro s
  rw [hp s, List.length_map]
  exact List.length_filter_le _ _

theorem deterministic_word (w : String) : (word w).Deterministic := (spells_word w).deterministic

theorem width_word (w : String) : (word w).Width w.toList.length := by
  intro s m hm
  rw [spells_word w s] at hm
  obtain ⟨v, hv, rfl⟩ := List.mem_map.1 hm
  obtain rfl := List.mem_singleton.1 (List.mem_filter.1 hv).1
  rfl

theorem mem_lengths_word_seq {w : String} {q : Pattern} {s : Text} {m : Nat}
    (h : m ∈ (seq (word w) q).lengths s) : w.toList <+: s ∧ w.toList.length ≤ m := by
  simp only [lengths, List.mem_flatMap, List.mem_map] at h
  obtain ⟨a, ha, b, -, rfl⟩ := h
  have hlen := width_word w s a ha
  rw [spells_word w s] at ha
  obtain ⟨v, hv, -⟩ := List.mem_map.1 ha
  obtain ⟨hvw, hvs⟩ := List.mem_filter.1 hv
  obtain rfl := List.mem_singleton.1 hvw
  exact ⟨List.isPrefixOf_iff_prefix.1 hvs, by omega⟩

/-- What is greedy stays so between two words, which leave no choice. -/
theorem Greedy.between {p : Pattern} (hp : p.Greedy) (w v : String) :
    (all [word w, p, word v]).Greedy := by
  have hend : (all [word v]).Width v.toList.length := by
    intro s m hm
    obtain ⟨a, ha, b, hb, rfl⟩ : ∃ a ∈ (word v).lengths s, ∃ b ∈ [0], a + b = m := by
      simpa [all, lengths] using hm
    rw [width_word v s a ha, List.mem_singleton.1 hb, Nat.add_zero]
  exact Greedy.seq_of_deterministic (deterministic_word w) (Greedy.seq_of_width hp hend)

end SmaliLint.Pattern
