import SmaliLint.Pattern

/-!
# The matches of a pattern

* `lengths p s` : the lengths of the prefixes of `s` that `p` matches, in the order in which they
  are tried;
* `attempt_eq_findSome?` : an attempt ends with the first of them after which the continuation
  succeeds; `firstMatch_eq_head?` : without a continuation that is the first of all;
* `mem_lengths_iff` : nothing is left out and nothing is made up, these are the prefixes in the
  language of `p`;
* `firstMatch_pos` : a pattern that does not match the empty text takes at least one character.
-/

namespace SmaliLint.Pattern

/-! ## All matches in order -/

/-- The lengths after rounds of `once`, the most rounds first. -/
def roundLengths (once : Text → List Nat) : Text → Text → List Nat
  | [], _ => [0]
  | _ :: rounds, s =>
    (once s).flatMap (fun m => (roundLengths once rounds (s.drop m)).map (m + ·)) ++ [0]

/-- The lengths of the prefixes of a text that the pattern matches, as they are tried. -/
def lengths : Pattern → Text → List Nat
  | .never, _ => []
  | .empty, _ => [0]
  | .char _, [] => []
  | .char test, c :: _ => if test c then [1] else []
  | .seq p q, s => (p.lengths s).flatMap fun m => (q.lengths (s.drop m)).map (m + ·)
  | .alt p q, s => p.lengths s ++ q.lengths s
  | .star p, s => roundLengths p.lengths s s

theorem findSome?_flatMap {α β γ : Type} (f : α → List β) (g : β → Option γ) (l : List α) :
    (l.flatMap f).findSome? g = l.findSome? fun a => (f a).findSome? g := by
  induction l with
  | nil => rfl
  | cons a l ih =>
    rw [List.flatMap_cons, List.findSome?_append, ih, List.findSome?_cons]
    cases (f a).findSome? g <;> rfl

/-- A first stretch and the continuation after it, as one search among the lengths of both. -/
theorem findSome?_stretch (k : Continuation) (n : Nat) (s : Text) (first : List Nat)
    (second : Text → List Nat) :
    (first.findSome? fun m => (second (s.drop m)).findSome? fun j => k (n + m + j) ((s.drop m).drop j)) =
      (first.flatMap fun m => (second (s.drop m)).map (m + ·)).findSome? fun m => k (n + m) (s.drop m) := by
  rw [findSome?_flatMap]
  congr 1
  funext m
  rw [List.findSome?_map]
  congr 1
  funext j
  rw [List.drop_drop, Nat.add_assoc]
  rfl

theorem greedily_eq_findSome? {once : Nat → Text → Continuation → Option Nat} {onceLengths : Text → List Nat}
    (h : ∀ n s k, once n s k = (onceLengths s).findSome? fun m => k (n + m) (s.drop m)) (rounds : Text) :
    ∀ (n : Nat) (s : Text) (k : Continuation),
      greedily once rounds n s k =
        (roundLengths onceLengths rounds s).findSome? fun m => k (n + m) (s.drop m) := by
  induction rounds with
  | nil => intro n s k; cases hk : k n s <;> simp [greedily, roundLengths, hk]
  | cons c rounds ih =>
    intro n s k
    rw [greedily, roundLengths, List.findSome?_append, h]
    simp only [ih]
    rw [findSome?_stretch]
    cases hk : k n s <;> simp [hk]

theorem attempt_eq_findSome? (p : Pattern) :
    ∀ (n : Nat) (s : Text) (k : Continuation),
      p.attempt n s k = (p.lengths s).findSome? fun m => k (n + m) (s.drop m) := by
  induction p with
  | never => intro n s k; rfl
  | empty => intro n s k; cases hk : k n s <;> simp [attempt, lengths, hk]
  | char test =>
    intro n s k
    cases s with
    | nil => rfl
    | cons c s =>
      by_cases hc : test c = true
      · cases hk : k (n + 1) s <;> simp [attempt, lengths, hc, hk]
      · simp [attempt, lengths, hc]
  | seq p q ihp ihq =>
    intro n s k
    rw [attempt, ihp, lengths]
    simp only [ihq]
    exact findSome?_stretch k n s (p.lengths s) q.lengths
  | alt p q ihp ihq =>
    intro n s k
    rw [attempt, ihp, ihq, lengths, List.findSome?_append, Option.or_eq_orElse]
    rfl
  | star p ih =>
    intro n s k
    exact greedily_eq_findSome? ih s n s k

theorem firstMatch_eq_head? (p : Pattern) (s : Text) : p.firstMatch s = (p.lengths s).head? := by
  rw [firstMatch, attempt_eq_findSome?]
  cases p.lengths s with
  | nil => rfl
  | cons m l => simp

/-! ## Matches and the language -/

theorem roundLengths_sound {p : Pattern} {once : Text → List Nat}
    (h : ∀ s m, m ∈ once s → m ≤ s.length ∧ p.Matches (s.take m)) (rounds : Text) :
    ∀ s m, m ∈ roundLengths once rounds s → m ≤ s.length ∧ (star p).Matches (s.take m) := by
  induction rounds with
  | nil =>
    intro s m hm
    obtain rfl : m = 0 := by simpa [roundLengths] using hm
    exact ⟨Nat.zero_le _, .starNil⟩
  | cons c rounds ih =>
    intro s m hm
    simp only [roundLengths, List.mem_append, List.mem_flatMap, List.mem_map, List.mem_singleton] at hm
    obtain ⟨a, ha, b, hb, rfl⟩ | rfl := hm
    · obtain ⟨hal, hap⟩ := h s a ha
      obtain ⟨hbl, hbp⟩ := ih (s.drop a) b hb
      rw [List.length_drop] at hbl
      refine ⟨by omega, ?_⟩
      rw [List.take_add]
      exact .starCons hap hbp
    · exact ⟨Nat.zero_le _, .starNil⟩

theorem lengths_sound (p : Pattern) :
    ∀ s m, m ∈ p.lengths s → m ≤ s.length ∧ p.Matches (s.take m) := by
  induction p with
  | never => intro s m hm; simp [lengths] at hm
  | empty =>
    intro s m hm
    obtain rfl : m = 0 := by simpa [lengths] using hm
    exact ⟨Nat.zero_le _, .empty⟩
  | char test =>
    intro s m hm
    cases s with
    | nil => simp [lengths] at hm
    | cons c s =>
      by_cases hc : test c = true
      · obtain rfl : m = 1 := by simpa [lengths, hc] using hm
        exact ⟨by simp, .char hc⟩
      · simp [lengths, hc] at hm
  | seq p q ihp ihq =>
    intro s m hm
    simp only [lengths, List.mem_flatMap, List.mem_map] at hm
    obtain ⟨a, ha, b, hb, rfl⟩ := hm
    obtain ⟨hal, hap⟩ := ihp s a ha
    obtain ⟨hbl, hbq⟩ := ihq (s.drop a) b hb
    rw [List.length_drop] at hbl
    refine ⟨by omega, ?_⟩
    rw [List.take_add]
    exact .seq hap hbq
  | alt p q ihp ihq =>
    intro s m hm
    obtain hm | hm := List.mem_append.1 hm
    · exact ⟨(ihp s m hm).1, .left (ihp s m hm).2⟩
    · exact ⟨(ihq s m hm).1, .right (ihq s m hm).2⟩
  | star p ih =>
    intro s m hm
    exact roundLengths_sound ih s s m hm

/-- A text of `star p` is found in as many rounds as it has characters: rounds of no characters can be
left out. -/
theorem roundLengths_complete {p : Pattern} {once : Text → List Nat}
    (h : ∀ w t, p.Matches w → w.length ∈ once (w ++ t)) {w : Text} (hw : (star p).Matches w) :
    ∀ rounds t : Text, w.length ≤ rounds.length → w.length ∈ roundLengths once rounds (w ++ t) := by
  generalize hq : star p = q at hw
  induction hw with
  | starNil =>
    intro rounds t _
    cases rounds <;> simp [roundLengths]
  | @starCons p' u v hu hv _ ihv =>
    obtain rfl : p = p' := by injection hq
    intro rounds t hr
    cases u with
    | nil => exact ihv rfl rounds t hr
    | cons c u =>
      cases rounds with
      | nil => simp at hr
      | cons d rounds =>
        have hrest : v.length ≤ rounds.length := by
          simp only [List.length_append, List.length_cons] at hr
          omega
        simp only [roundLengths, List.mem_append, List.mem_flatMap, List.mem_map]
        refine .inl ⟨(c :: u).length, ?_, v.length, ?_, by rw [List.length_append]⟩
        · rw [List.append_assoc]
          exact h (c :: u) (v ++ t) hu
        · rw [List.append_assoc, List.drop_left]
          exact ihv rfl rounds t hrest
  | empty => cases hq
  | char => cases hq
  | seq => cases hq
  | left => cases hq
  | right => cases hq

theorem lengths_complete (p : Pattern) : ∀ w t, p.Matches w → w.length ∈ p.lengths (w ++ t) := by
  induction p with
  | never => intro w t hw; cases hw
  | empty => intro w t hw; cases hw; simp [lengths]
  | char test =>
    intro w t hw
    cases hw with
    | char hc => simp [lengths, hc]
  | seq p q ihp ihq =>
    intro w t hw
    cases hw with
    | @seq _ _ u v hu hv =>
      simp only [lengths, List.mem_flatMap, List.mem_map]
      refine ⟨u.length, ?_, v.length, ?_, by rw [List.length_append]⟩
      · rw [List.append_assoc]
        exact ihp u (v ++ t) hu
      · rw [List.append_assoc, List.drop_left]
        exact ihq v t hv
  | alt p q ihp ihq =>
    intro w t hw
    cases hw with
    | left hw => exact List.mem_append_left _ (ihp w t hw)
    | right hw => exact List.mem_append_right _ (ihq w t hw)
  | star p ih =>
    intro w t hw
    exact roundLengths_complete ih hw (w ++ t) t (by simp)

theorem mem_lengths_iff {p : Pattern} {s : Text} {m : Nat} :
    m ∈ p.lengths s ↔ m ≤ s.length ∧ p.Matches (s.take m) := by
  constructor
  · exact lengths_sound p s m
  · intro ⟨hm, hp⟩
    have h := lengths_complete p (s.take m) (s.drop m) hp
    rwa [List.take_append_drop, List.length_take, Nat.min_eq_left hm] at h

/-! ## Progress -/

theorem nullable_of_matches_nil {p : Pattern} {w : Text} (h : p.Matches w) (hw : w = []) :
    p.nullable = true := by
  induction h with
  | empty => rfl
  | char => simp at hw
  | seq _ _ ihp ihq =>
    obtain ⟨hs, ht⟩ := List.append_eq_nil_iff.1 hw
    simp [nullable, ihp hs, ihq ht]
  | left _ ih => simp [nullable, ih hw]
  | right _ ih => simp [nullable, ih hw]
  | starNil => rfl
  | starCons => rfl

theorem firstMatch_pos {p : Pattern} {s : Text} {n : Nat} (hp : p.nullable = false)
    (h : p.firstMatch s = some n) : 0 < n := by
  rw [firstMatch_eq_head?] at h
  have hmem : n ∈ p.lengths s := List.mem_of_mem_head? h
  obtain ⟨-, hmatch⟩ := mem_lengths_iff.1 hmem
  rcases Nat.eq_zero_or_pos n with rfl | hpos
  · rw [nullable_of_matches_nil hmatch List.take_zero] at hp
    cases hp
  · exact hpos

end SmaliLint.Pattern
