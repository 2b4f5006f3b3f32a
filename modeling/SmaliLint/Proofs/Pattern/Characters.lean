import SmaliLint.Proofs.Pattern.Greedy
import SmaliLint.Proofs.Vocabulary

/-!
# Line ends in the matches of a pattern

Two tests that are read off the shape of a pattern bound its language from above:

* `Pattern.mentions c p` : a match may hold `c`; `not_mem_of_matches` : no match does if the test fails;
* `Pattern.endsIn c p` : a match may end in `c`; `getLast?_ne_of_matches` : likewise.

For the vocabulary they say that line feeds stand in newlines only, where they are the end, and that
nothing ends in a carriage return (`Vocabulary.matches_line_end`).
-/

namespace SmaliLint

namespace Pattern

/-- Whether a match may hold the character. -/
def mentions (c : Char) : Pattern → Bool
  | .never => false
  | .empty => false
  | .char test => test c
  | .seq p q => p.mentions c || q.mentions c
  | .alt p q => p.mentions c || q.mentions c
  | .star p => p.mentions c

/-- Whether a match may end in the character. -/
def endsIn (c : Char) : Pattern → Bool
  | .never => false
  | .empty => false
  | .char test => test c
  | .seq p q => q.endsIn c || (q.nullable && p.endsIn c)
  | .alt p q => p.endsIn c || q.endsIn c
  | .star p => p.endsIn c

theorem not_mem_of_matches {c : Char} {p : Pattern} {w : Text} (hw : p.Matches w)
    (h : p.mentions c = false) : c ∉ w := by
  induction hw with
  | empty => simp
  | @char test d hd =>
    intro hc
    rw [List.mem_singleton.1 hc] at h
    rw [mentions, hd] at h
    cases h
  | seq _ _ ihp ihq =>
    obtain ⟨hp, hq⟩ := Bool.or_eq_false_iff.1 h
    exact fun hc => (List.mem_append.1 hc).elim (ihp hp) (ihq hq)
  | left _ ih => exact ih (Bool.or_eq_false_iff.1 h).1
  | right _ ih => exact ih (Bool.or_eq_false_iff.1 h).2
  | starNil => simp
  | starCons _ _ ihp ihq => exact fun hc => (List.mem_append.1 hc).elim (ihp h) (ihq h)

theorem mentions_of_mem {c : Char} {p : Pattern} {w : Text} (hw : p.Matches w) (hc : c ∈ w) : p.mentions c = true := by
  cases h : p.mentions c with
  | true => rfl
  | false => exact absurd hc (not_mem_of_matches hw h)

theorem getLast?_append_ne {c : Char} {s t : Text} (hs : t = [] → s.getLast? ≠ some c)
    (ht : t.getLast? ≠ some c) : (s ++ t).getLast? ≠ some c := by
  rw [List.getLast?_append]
  cases hl : t.getLast? with
  | some d =>
    rw [Option.some_or]
    exact hl ▸ ht
  | none =>
    rw [Option.none_or]
    exact hs (List.getLast?_eq_none_iff.1 hl)

theorem getLast?_ne_of_matches {c : Char} {p : Pattern} {w : Text} (hw : p.Matches w)
    (h : p.endsIn c = false) : w.getLast? ≠ some c := by
  induction hw with
  | empty => simp
  | @char test d hd =>
    intro hc
    obtain rfl : d = c := by simpa using hc
    rw [endsIn, hd] at h
    cases h
  | seq _ ht ihp ihq =>
    obtain ⟨hq, hp⟩ := Bool.or_eq_false_iff.1 h
    refine getLast?_append_ne (fun hnil => ?_) (ihq hq)
    rw [nullable_of_matches_nil ht hnil, Bool.true_and] at hp
    exact ihp hp
  | left _ ih => exact ih (Bool.or_eq_false_iff.1 h).1
  | right _ ih => exact ih (Bool.or_eq_false_iff.1 h).2
  | starNil => simp
  | starCons _ _ ihp ihq => exact getLast?_append_ne (fun _ => ihp h) (ihq h)

end Pattern

namespace Vocabulary
open Pattern

theorem tokenRules_line_end : ∀ r ∈ tokenRules, r.kind ≠ .newline →
    r.pattern.mentions '\n' = false ∧ r.pattern.endsIn '\r' = false := by decide +kernel

theorem matches_newline {r : TokenRule} (hr : r ∈ tokenRules) (hk : r.kind = .newline) {w : Text} :
    r.pattern.Matches w ↔ w = ['\n'] ∨ w = ['\r', '\n'] := by
  have hspells : (Pattern.seq (Pattern.optional ["\r"]) (word "\n")).Spells [['\r', '\n'], ['\n']] :=
    (spells_optional ["\r"]).seq (spells_word "\n")
  have hrest : ∀ q ∈ tokenRules.tail, q.kind ≠ .newline := by decide
  rcases List.mem_cons.1 hr with rfl | hr
  · rw [hspells.matches_iff, List.mem_cons, List.mem_singleton, or_comm]
  · exact absurd hk (hrest r hr)

/-- **Line ends in the vocabulary.** A newline is a line feed, with or without a carriage return before it;
every other text holds no line feed and does not end in a carriage return. -/
theorem matches_line_end {r : TokenRule} (hr : r ∈ tokenRules) {w : Text} (hw : r.pattern.Matches w) :
    (r.kind = .newline ∧ (w = ['\n'] ∨ w = ['\r', '\n'])) ∨
      (r.kind ≠ .newline ∧ '\n' ∉ w ∧ w.getLast? ≠ some '\r') := by
  by_cases hk : r.kind = .newline
  · exact .inl ⟨hk, (matches_newline hr hk).1 hw⟩
  · obtain ⟨hn, hc⟩ := tokenRules_line_end r hr hk
    exact .inr ⟨hk, not_mem_of_matches hw hn, getLast?_ne_of_matches hw hc⟩

end Vocabulary

end SmaliLint
