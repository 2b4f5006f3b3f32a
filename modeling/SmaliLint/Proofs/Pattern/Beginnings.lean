import SmaliLint.Proofs.Pattern.Characters

/-!
# How the matches of a pattern begin

* `matches_seq_iff`, `matches_word_iff`, `matches_star_char_iff`, `matches_plus_char_iff` : the languages of the simple
  patterns;
* `Pattern.mayBegin p u` : a match may begin with `u`, read off the shape of the pattern; `mayBegin_of_matches` : no match
  does if the test fails.
-/

namespace SmaliLint.Pattern

/-! ## Simple patterns -/

theorem matches_seq_iff {p q : Pattern} {w : Text} :
    (seq p q).Matches w ↔ ∃ s t, w = s ++ t ∧ p.Matches s ∧ q.Matches t := by
  constructor
  · rintro (_ | _ | ⟨hs, ht⟩)
    exact ⟨_, _, rfl, hs, ht⟩
  · rintro ⟨s, t, rfl, hs, ht⟩
    exact .seq hs ht

theorem matches_word_iff {w : String} {v : Text} : (word w).Matches v ↔ v = w.toList := by
  rw [(spells_word w).matches_iff, List.mem_singleton]

theorem matches_char_iff {test : Char → Bool} {w : Text} : (char test).Matches w ↔ ∃ c, w = [c] ∧ test c = true := by
  constructor
  · rintro (_ | hc)
    exact ⟨_, rfl, hc⟩
  · rintro ⟨c, rfl, hc⟩
    exact .char hc

theorem matches_star_char_iff {test : Char → Bool} {w : Text} :
    (star (char test)).Matches w ↔ ∀ c ∈ w, test c = true := by
  constructor
  · intro h
    generalize hp : star (char test) = p at h
    induction h with
    | starNil => simp
    | starCons hs _ _ iht =>
      obtain rfl : _ = char test := (star.inj hp).symm
      obtain ⟨c, rfl, hc⟩ := matches_char_iff.1 hs
      exact List.forall_mem_cons.2 ⟨hc, iht rfl⟩
    | empty => cases hp
    | char => cases hp
    | seq => cases hp
    | left => cases hp
    | right => cases hp
  · intro h
    induction w with
    | nil => exact .starNil
    | cons c w ih =>
      obtain ⟨hc, hw⟩ := List.forall_mem_cons.1 h
      exact .starCons (.char hc) (ih hw)

theorem matches_plus_char_iff {test : Char → Bool} {w : Text} :
    (plus (char test)).Matches w ↔ w ≠ [] ∧ ∀ c ∈ w, test c = true := by
  unfold plus
  rw [matches_seq_iff]
  constructor
  · rintro ⟨s, t, rfl, hs, ht⟩
    obtain ⟨c, rfl, hc⟩ := matches_char_iff.1 hs
    exact ⟨by simp, List.forall_mem_cons.2 ⟨hc, matches_star_char_iff.1 ht⟩⟩
  · rintro ⟨hne, hw⟩
    obtain ⟨c, v, rfl⟩ := List.exists_cons_of_ne_nil hne
    obtain ⟨hc, hv⟩ := List.forall_mem_cons.1 hw
    exact ⟨[c], v, rfl, .char hc, matches_star_char_iff.2 hv⟩

theorem matches_between_iff {p : Pattern} {w v : String} {s : Text} :
    (all [word w, p, word v]).Matches s ↔ ∃ m, s = w.toList ++ m ++ v.toList ∧ p.Matches m := by
  have hempty : ∀ {t : Text}, Pattern.empty.Matches t ↔ t = [] := by
    intro t
    rw [spells_empty.matches_iff, List.mem_singleton]
  show (seq (word w) (seq p (seq (word v) .empty))).Matches s ↔ _
  simp only [matches_seq_iff, matches_word_iff, hempty]
  constructor
  · rintro ⟨_, _, rfl, rfl, m, _, rfl, hm, _, _, rfl, rfl, rfl⟩
    exact ⟨m, by simp, hm⟩
  · rintro ⟨m, rfl, hm⟩
    exact ⟨_, _, List.append_assoc _ _ _, rfl, m, _, rfl, hm, _, [], by simp, rfl, rfl⟩

/-! ## Beginnings -/

/-- Whether a match may begin with the text. -/
def mayBegin : Pattern → Text → Bool
  | .never, _ => false
  | .empty, u => u.isEmpty
  | .char _, [] => true
  | .char test, c :: u => test c && u.isEmpty
  | .seq p q, u => p.mayBegin u || (p.lengths u).any fun n => q.mayBegin (u.drop n)
  | .alt p q, u => p.mayBegin u || q.mayBegin u
  | .star p, u => ((star p).lengths u).any fun n => (u.drop n).isEmpty || p.mayBegin (u.drop n)

/-- Two texts that begin alike: the first reaches at least as far, or ends within the beginning. -/
theorem append_eq_append_cases {s t u v : Text} (h : s ++ t = u ++ v) :
    (∃ a, s = u ++ a ∧ v = a ++ t) ∨ ∃ b, u = s ++ b ∧ t = b ++ v := by
  rcases List.append_eq_append_iff.1 h with ⟨b, hu, ht⟩ | ⟨a, hs, hv⟩
  · exact .inr ⟨b, hu, ht⟩
  · exact .inl ⟨a, hs, hv⟩

theorem length_mem_lengths_append {p : Pattern} {s : Text} (hs : p.Matches s) (b : Text) :
    s.length ∈ p.lengths (s ++ b) :=
  length_mem_lengths (List.prefix_append s b) hs

/-- **No match begins with a text that fails the test.** -/
theorem mayBegin_of_matches {p : Pattern} {w : Text} (hw : p.Matches w) :
    ∀ u v, w = u ++ v → p.mayBegin u = true := by
  induction hw with
  | empty =>
    intro u v h
    obtain ⟨rfl, -⟩ := List.append_eq_nil_iff.1 h.symm
    rfl
  | @char test c hc =>
    intro u v h
    cases u with
    | nil => rfl
    | cons d u =>
      obtain ⟨rfl, hrest⟩ := List.cons.inj h
      obtain ⟨rfl, -⟩ := List.append_eq_nil_iff.1 hrest.symm
      simp [mayBegin, hc]
  | @seq p q s t hs ht ihs iht =>
    intro u v h
    rw [mayBegin, Bool.or_eq_true]
    rcases append_eq_append_cases h with ⟨a, rfl, -⟩ | ⟨b, rfl, rfl⟩
    · exact .inl (ihs u a rfl)
    · refine .inr (List.any_eq_true.2 ⟨s.length, length_mem_lengths_append hs b, ?_⟩)
      rw [List.drop_left]
      exact iht b v rfl
  | left _ ih =>
    intro u v h
    rw [mayBegin, ih u v h, Bool.true_or]
  | right _ ih =>
    intro u v h
    rw [mayBegin, ih u v h, Bool.or_true]
  | starNil =>
    intro u v h
    obtain ⟨rfl, -⟩ := List.append_eq_nil_iff.1 h.symm
    exact List.any_eq_true.2 ⟨0, length_mem_lengths (List.prefix_refl []) .starNil, rfl⟩
  | @starCons p s t hs ht ihs iht =>
    intro u v h
    rw [mayBegin, List.any_eq_true]
    rcases append_eq_append_cases h with ⟨a, rfl, -⟩ | ⟨b, rfl, rfl⟩
    · refine ⟨0, length_mem_lengths (List.nil_prefix (l := u)) .starNil, ?_⟩
      rw [List.drop_zero, ihs u a rfl, Bool.or_true]
    · -- The rounds within the beginning are one round and those within the rest of it.
      have hrest := iht b v rfl
      rw [mayBegin, List.any_eq_true] at hrest
      obtain ⟨n, hn, hgoes⟩ := hrest
      obtain ⟨hle, hrounds⟩ := mem_lengths_iff.1 hn
      refine ⟨s.length + n, mem_lengths_iff.2 ⟨?_, ?_⟩, ?_⟩
      · rw [List.length_append]
        omega
      · rw [List.take_length_add_append]
        exact .starCons hs hrounds
      · rwa [List.drop_length_add_append]

end SmaliLint.Pattern
