import SmaliLint.Proofs.Lexer.Partition
import SmaliLint.Proofs.Vocabulary

/-!
# A token is the longest match, and of the earliest kind

Each pattern is matched by trying its alternatives in turn, and the rule that reaches furthest makes the
token. Since every pattern is greedy, what the reading finds can be said by the languages of the patterns
alone:

* `reach_eq_none_iff`, `matches_of_reach`, `le_reach` : how far a rule of the vocabulary reaches;
* `firstToken_congr` : the first token depends only on which texts of the vocabulary stand there;
* `firstToken_eq_error`, `firstToken_eq_kind` : the two ways in which the first token is found;
* `tokenize_longest_match` : what that means for the tokens of a text.
-/

namespace SmaliLint
open Vocabulary (TokenRule tokenRules tokenRules_greedy)

/-! ## One rule -/

theorem reach_eq_none_iff {r : TokenRule} {s : Text} :
    r.reach s = none ↔ ∀ w, w <+: s → ¬ r.pattern.Matches w :=
  Pattern.firstMatch_eq_none_iff

theorem matches_of_reach {r : TokenRule} {s : Text} {n : Nat} (h : r.reach s = some n) :
    r.pattern.Matches (s.take n) :=
  (Pattern.matches_of_firstMatch h).2

/-- A rule reaches at least as far as every prefix in its language. -/
theorem le_reach {r : TokenRule} (hr : r ∈ tokenRules) {s w : Text} (hw : w <+: s)
    (hm : r.pattern.Matches w) : ∃ n, r.reach s = some n ∧ w.length ≤ n := by
  cases h : r.reach s with
  | none => exact absurd hm (reach_eq_none_iff.1 h w hw)
  | some n => exact ⟨n, rfl, (tokenRules_greedy r hr).le_firstMatch h hw hm⟩

theorem reach_congr {r : TokenRule} (hr : r ∈ tokenRules) {s t : Text}
    (h : ∀ w, r.pattern.Matches w → (w <+: s ↔ w <+: t)) : r.reach s = r.reach t :=
  (tokenRules_greedy r hr).firstMatch_congr h

/-! ## All rules -/

theorem furthest_congr {s t : Text} {rules : List TokenRule} (h : ∀ r ∈ rules, r.reach s = r.reach t) :
    furthest s rules = furthest t rules := by
  induction rules with
  | nil => rfl
  | cons r rules ih =>
    obtain ⟨hr, hrules⟩ := List.forall_mem_cons.1 h
    rw [furthest, furthest, hr, ih hrules]

/-- **Two texts have the same first token** if they begin with the same texts of the vocabulary. -/
theorem firstToken_congr {s t : Text}
    (h : ∀ r ∈ tokenRules, ∀ w, r.pattern.Matches w → (w <+: s ↔ w <+: t)) :
    firstToken s = firstToken t := by
  rw [firstToken, firstToken, furthest_congr fun r hr => reach_congr hr (h r hr)]

theorem furthest_eq_none {s : Text} {rules : List TokenRule} (h : furthest s rules = none) :
    ∀ r ∈ rules, r.reach s = none := by
  fun_induction furthest s rules with
  | case1 => simp
  | case2 r rs hr ih => exact List.forall_mem_cons.2 ⟨hr, ih h⟩
  | case3 => cases h
  | case4 => cases h
  | case5 => cases h

theorem le_furthest {s : Text} {rules : List TokenRule} {k : TokenKind} {n : Nat}
    (h : furthest s rules = some (k, n)) : ∀ r ∈ rules, ∀ m, r.reach s = some m → m ≤ n := by
  fun_induction furthest s rules generalizing k n with
  | case1 => cases h
  | case2 r rs hr ih => exact List.forall_mem_cons.2 ⟨by simp [hr], ih h⟩
  | case3 r rs l hrs hr _ =>
    cases h
    refine List.forall_mem_cons.2 ⟨by simp [hr], fun q hq m hm => ?_⟩
    rw [furthest_eq_none hrs q hq] at hm
    cases hm
  | case4 r rs l k j hrs hr hlt ih =>
    cases h
    refine List.forall_mem_cons.2 ⟨fun m hm => ?_, ih hrs⟩
    rw [hr] at hm
    cases hm
    exact Nat.le_of_lt hlt
  | case5 r rs l k j hrs hr hlt ih =>
    cases h
    refine List.forall_mem_cons.2 ⟨by simp [hr], fun q hq m hm => ?_⟩
    exact Nat.le_trans (ih hrs q hq m hm) (Nat.le_of_not_lt hlt)

theorem tokenRules_kind_ne_error : ∀ r ∈ tokenRules, r.kind ≠ .error := by decide

/-- A character is a token of its own only if nothing that starts there is in any language. -/
theorem firstToken_eq_error {s : Text} {n : Nat} (h : firstToken s = (.error, n)) :
    n = 1 ∧ ∀ r ∈ tokenRules, ∀ w, w <+: s → ¬ r.pattern.Matches w := by
  unfold firstToken at h
  cases hf : furthest s tokenRules with
  | none =>
    rw [hf] at h
    cases h
    exact ⟨rfl, fun r hr => reach_eq_none_iff.1 (furthest_eq_none hf r hr)⟩
  | some found =>
    rw [hf] at h
    obtain ⟨before, r, after, hrules, hk, -, -⟩ := furthest_eq_some hf
    have hr : r ∈ tokenRules := hrules ▸ List.mem_append_right _ List.mem_cons_self
    refine absurd ?_ (tokenRules_kind_ne_error r hr)
    rw [hk]
    exact congrArg Prod.fst h

/-- Any other token is in the language of its rule; no language holds a longer prefix, and none of an
earlier rule holds the token. -/
theorem firstToken_eq_kind {s : Text} {k : TokenKind} {n : Nat} (h : firstToken s = (k, n)) (hk : k ≠ .error) :
    ∃ before r after, tokenRules = before ++ r :: after ∧ r.kind = k ∧ r.pattern.Matches (s.take n) ∧
      (∀ q ∈ tokenRules, ∀ w, w <+: s → q.pattern.Matches w → w.length ≤ n) ∧
      ∀ q ∈ before, ¬ q.pattern.Matches (s.take n) := by
  unfold firstToken at h
  cases hf : furthest s tokenRules with
  | none =>
    rw [hf] at h
    cases h
    exact absurd rfl hk
  | some found =>
    rw [hf] at h
    obtain rfl : found = (k, n) := h
    obtain ⟨before, r, after, hrules, hkind, hreach, hbefore⟩ := furthest_eq_some hf
    refine ⟨before, r, after, hrules, hkind, matches_of_reach hreach, ?_, ?_⟩
    · intro q hq w hw hm
      obtain ⟨m, hqm, hle⟩ := le_reach hq hw hm
      exact Nat.le_trans hle (le_furthest hf q hq m hqm)
    · intro q hq hm
      have hmem : q ∈ tokenRules := hrules ▸ List.mem_append_left _ hq
      obtain ⟨m, hqm, hle⟩ := le_reach hmem (List.take_prefix n s) hm
      have hlen := (Pattern.matches_of_firstMatch hreach).1
      have hlt := hbefore q hq m hqm
      rw [List.length_take, Nat.min_eq_left hlen] at hle
      omega

/-! ## Tokens -/

theorem exists_mem_tokenize {s : Text} {k : TokenKind} {n : Nat} (hs : s ≠ []) (h : firstToken s = (k, n)) :
    ∃ t ∈ tokenize s, t.kind = k ∧ t.content = s.take n := by
  cases s with
  | nil => exact absurd rfl hs
  | cons c s =>
    rw [tokenize, lexemes, h, place]
    exact ⟨_, List.mem_cons_self, rfl, rfl⟩

/-- **Longest match, the earliest kind first.** A token is in the language of its kind, no language of the vocabulary
holds a longer prefix of the text from there on, and no earlier one holds the token. A token without a kind is one
character, where no language holds a prefix. -/
theorem tokenize_longest_match (s : Text) (t : Token) (ht : t ∈ tokenize s) :
    t.content <+: s.drop t.span.start.offset.toNat ∧
      (t.kind ≠ .error →
        ∃ before r after, tokenRules = before ++ r :: after ∧ r.kind = t.kind ∧
          r.pattern.Matches t.content ∧
          (∀ q ∈ tokenRules, ∀ w, w <+: s.drop t.span.start.offset.toNat → q.pattern.Matches w →
            w.length ≤ t.content.length) ∧
          ∀ q ∈ before, ¬ q.pattern.Matches t.content) ∧
      (t.kind = .error →
        t.content.length = 1 ∧
          ∀ q ∈ tokenRules, ∀ w, w ≠ [] → w <+: s.drop t.span.start.offset.toNat →
            ¬ q.pattern.Matches w) := by
  obtain ⟨before, after, h⟩ := exists_standsIn ht
  have hfirst := h.first
  rw [h.drop_start]
  refine ⟨List.prefix_append _ _, ?_, ?_⟩
  · intro hk
    have hkind := firstToken_eq_kind hfirst hk
    rwa [List.take_left] at hkind
  · intro hk
    rw [hk] at hfirst
    obtain ⟨hlen, hnone⟩ := firstToken_eq_error hfirst
    exact ⟨hlen, fun q hq w _ hw => hnone q hq w hw⟩

/-- A register is declared before a name with a parenthesis, which reaches further here. -/
theorem tokenize_longest_match_name :
    ∃ t ∈ tokenize "p0(".toList, t.kind = .methodName ∧ t.content = "p0(".toList ∧
      ∃ before r after, tokenRules = before ++ r :: after ∧ r.kind = .methodName ∧
        r.pattern.Matches "p0(".toList ∧ ∀ q ∈ before, ¬ q.pattern.Matches "p0(".toList := by
  have hfirst : firstToken "p0(".toList = (.methodName, 3) := by decide +kernel
  obtain ⟨t, ht, hkind, hcontent⟩ := exists_mem_tokenize (by decide) hfirst
  have hcontent : t.content = "p0(".toList := hcontent
  obtain ⟨before, r, after, hrules, hr, hm, -, hbefore⟩ :=
    (tokenize_longest_match "p0(".toList t ht).2.1 (by simp [hkind])
  rw [hcontent] at hm hbefore
  exact ⟨t, ht, hkind, hcontent, before, r, after, hrules, hr.trans hkind, hm, hbefore⟩

end SmaliLint
