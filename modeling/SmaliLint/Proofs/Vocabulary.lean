import SmaliLint.Proofs.Pattern.Greedy
import SmaliLint.Vocabulary

/-!
# The patterns of the vocabulary are greedy

Matching tries alternatives in the order in which they are written and takes the first that fits. For
every pattern of the vocabulary that is the longest one, so a token never ends early because of the
order of the alternatives of its kind (`tokenRules_greedy`).

* `longestFirst_sorted`, `greedy_keyword` : words that begin with one another, longer ones first;
* `greedy_run` : one or more characters of a class;
* `greedy_quoted`, `greedy_numeral` : the two patterns with a choice inside.
-/

namespace SmaliLint.Vocabulary
open Pattern

/-! ## Words by length -/

theorem mem_insertByLength {w v : String} {ws : List String} :
    v ∈ insertByLength w ws ↔ v = w ∨ v ∈ ws := by
  fun_induction insertByLength w ws with
  | case1 => simp
  | case2 u us h => simp
  | case3 u us h ih => simp only [List.mem_cons, ih, or_left_comm]

theorem insertByLength_sorted {w : String} {ws : List String}
    (h : ws.Pairwise fun u v => v.length ≤ u.length) :
    (insertByLength w ws).Pairwise fun u v => v.length ≤ u.length := by
  fun_induction insertByLength w ws with
  | case1 => simp
  | case2 u us hu =>
    refine List.pairwise_cons.2 ⟨fun v hv => ?_, h⟩
    obtain rfl | hv := List.mem_cons.1 hv
    · exact hu
    · exact Nat.le_trans ((List.pairwise_cons.1 h).1 v hv) hu
  | case3 u us hu ih =>
    obtain ⟨hus, h⟩ := List.pairwise_cons.1 h
    refine List.pairwise_cons.2 ⟨fun v hv => ?_, ih h⟩
    obtain rfl | hv := mem_insertByLength.1 hv
    · exact Nat.le_of_not_le hu
    · exact hus v hv

theorem longestFirst_sorted (ws : List String) :
    (longestFirst ws).Pairwise fun u v => v.length ≤ u.length := by
  induction ws with
  | nil => exact .nil
  | cons w ws ih => exact insertByLength_sorted ih

theorem greedy_keyword (ws : List String) : (keyword ws).Greedy := by
  refine (spells_oneOf _).greedy (List.pairwise_map.2 ?_)
  refine (longestFirst_sorted ws).imp fun {u v} hlen hpre => ?_
  rw [← String.length_toList, ← String.length_toList] at hlen
  exact hpre.eq_of_length_le hlen

theorem greedy_dotted (ws : List String) : (dotted ws).Greedy :=
  Greedy.seq_of_deterministic (deterministic_word ".") (greedy_keyword ws)

/-! ## Runs of characters -/

theorem greedy_run (test : Char → Bool) : (plus (.char test)).Greedy :=
  Greedy.seq_of_deterministic (deterministic_char test) (deterministic_char test).greedy_star

/-- Inside quotes a backslash starts an escape and nothing else does, so there is one way to go on. -/
theorem greedy_quoted : quoted.Greedy := by
  refine Greedy.between (Deterministic.greedy_star ?_) "\"" "\""
  refine (deterministic_char _).alt ((deterministic_word "\\").seq (deterministic_char _)) fun s => ?_
  cases s with
  | nil => exact .inl rfl
  | cons c s =>
    by_cases hc : c = '\\'
    · subst hc
      exact .inl rfl
    · refine .inr ?_
      simp [lengths, spells_word "\\" (c :: s), Ne.symm hc]

/-! ## Numerals -/

/-- A decimal numeral ends before the `x` of a hexadecimal one. -/
theorem greedy_digits : digits.Greedy := by
  have hhex := Greedy.seq_of_deterministic (deterministic_word "0x") (greedy_run hexDigit)
  refine hhex.alt (greedy_run _) fun s a ha b hb => ?_
  obtain ⟨⟨t, rfl⟩, hlen⟩ := mem_lengths_word_seq ha
  obtain rfl : b = 1 := List.mem_singleton.1 hb
  exact Nat.le_trans (by decide) hlen

/-- No digits begin with a minus sign, so the sign is never left out where there is one. -/
theorem greedy_numeral : numeral.Greedy := by
  have hsign : ∀ s, ∀ a ∈ (seq (word "-") digits).lengths s, ∀ b ∈ digits.lengths s, b ≤ a := by
    intro s a ha b hb
    obtain ⟨⟨t, rfl⟩, -⟩ := mem_lengths_word_seq ha
    cases hb
  have hsigned := Greedy.seq_of_deterministic (deterministic_word "-") greedy_digits
  intro s
  rw [numeral, Pattern.optional, lengths_maybe_seq]
  have := hsigned.alt greedy_digits hsign s
  simpa [lengths, oneOf] using this

/-! ## All rules -/

theorem greedy_stem {p : Pattern} {ws : List Text} (w : String) (hp : p.Spells ws) (h : LongerFirst ws) :
    (seq (word w) p).Greedy :=
  Greedy.seq_of_deterministic (deterministic_word w) (hp.greedy h)

theorem spells_optional (ws : List String) : (Pattern.optional ws).Spells (ws.map String.toList ++ [[]]) :=
  (spells_oneOf ws).maybe

theorem spells_hyphenated (ws : List String) :
    (hyphenated ws).Spells ((["-".toList].flatMap fun w => (ws.map String.toList).map (w ++ ·)) ++ [[]]) :=
  ((spells_word "-").seq (spells_oneOf ws)).maybe

theorem greedy_fieldAccess (mnemonic : String) : (fieldAccess mnemonic).Greedy :=
  greedy_stem mnemonic (spells_hyphenated _) (by decide)

/-- A longer form of a move never starts with a shorter one that is tried before it. -/
theorem greedy_moveForms : moveForms.Greedy := by
  have hwhat := (((spells_word "-result").seq (spells_optional ["-object", "-wide"])).alt
    (spells_oneOf ["-object", "-wide", "-exception"])).maybe
  have hwidth := (spells_optional ["/from16", "/16"]).seq spells_empty
  exact greedy_stem "move" (hwhat.seq hwidth) (by decide)

/-- **Every pattern of the vocabulary tries its longest match first.** -/
theorem tokenRules_greedy : ∀ r ∈ tokenRules, r.pattern.Greedy := by
  simp only [tokenRules, List.forall_mem_cons]
  exact
    ⟨((spells_optional ["\r"]).seq (spells_word "\n")).greedy (by decide),
      Greedy.seq_of_deterministic (deterministic_word "#") (deterministic_char _).greedy_star,
      greedy_keyword visibilities,
      greedy_keyword modifiers,
      greedy_run _,
      (deterministic_char _).greedy_star.between "L" ";",
      Greedy.seq_of_deterministic (deterministic_char _) (greedy_run _),
      greedy_dotted methodDirectives,
      greedy_dotted fieldDirectives,
      Greedy.seq_of_deterministic (deterministic_word ":") (greedy_run _),
      greedy_dotted directives,
      greedy_stem "invoke-" ((spells_oneOf _).seq ((spells_optional _).seq spells_empty)) (by decide),
      (deterministic_word "check-cast").greedy,
      (deterministic_word "new-instance").greedy,
      greedy_stem "const-string" (spells_optional _) (by decide),
      greedy_stem "const/" (spells_oneOf _) (by decide),
      greedy_stem "const" (spells_optional _) (by decide),
      greedy_stem "if-" ((spells_oneOf _).seq ((spells_optional _).seq spells_empty)) (by decide),
      greedy_fieldAccess "iget",
      greedy_fieldAccess "sget",
      greedy_fieldAccess "iput",
      greedy_fieldAccess "sput",
      greedy_moveForms,
      greedy_stem "return" (spells_hyphenated _) (by decide),
      greedy_quoted,
      greedy_numeral,
      (deterministic_char _).greedy_star.between "\x7b\x7b" "\x7d\x7d",
      (deterministic_char _).greedy,
      (deterministic_char _).greedy,
      (deterministic_char _).greedy,
      (greedy_run _).between "->" "(",
      (greedy_run _).seq_of_width (width_word "("),
      (greedy_run _).seq_of_width (width_word ":"),
      (deterministic_word "[").greedy,
      (deterministic_word "..").greedy,
      (deterministic_word ",").greedy,
      fun _ h => nomatch h⟩

end SmaliLint.Vocabulary
