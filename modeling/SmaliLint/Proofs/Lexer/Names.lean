import SmaliLint.Proofs.Lexer.Words

/-!
# Names of methods and fields

A name is made of ASCII letters and digits, `$`, `_` and `-`; the parenthesis or the colon behind it is part of its
token. Whatever keyword, register or number the name begins with, the name reaches further. But the patterns of names
leave the hyphen out.

* `Text.OneToken s k` : the text `s` is one token, of the kind `k`; `oneToken_iff` : the first token is all of it;
* `oneToken_name_iff` : a name and what stands behind it, for any kind of name;
* `name_one_token_iff` : the names of methods and fields are one token just if there is no hyphen in them.
-/

namespace SmaliLint
open Vocabulary Pattern

/-! ## Texts of one token -/

/-- The text is one token of the given kind. -/
def Text.OneToken (s : Text) (k : TokenKind) : Prop := ∃ t, tokenize s = [t] ∧ t.kind = k ∧ t.content = s

theorem firstToken_of_tokenize {s : Text} {t : Token} (h : tokenize s = [t]) : firstToken s = (t.kind, s.length) := by
  have hstands : t.StandsIn s [] [] := tokenize_split (show tokenize s = [] ++ t :: [] from h)
  have htext : s = t.content := by simpa using hstands.text
  have hfirst := hstands.first
  rwa [List.append_nil, ← htext] at hfirst

theorem oneToken_iff {s : Text} {k : TokenKind} : s.OneToken k ↔ firstToken s = (k, s.length) := by
  constructor
  · rintro ⟨t, ht, rfl, -⟩
    exact firstToken_of_tokenize ht
  · intro h
    have hread : lexemes s = [⟨k, s⟩] := lexemes_last (l := ⟨k, s⟩) h
    refine ⟨⟨k, s, (LineIndex.ofText s).span 0 (0 + s.length)⟩, ?_, rfl, rfl⟩
    rw [tokenize, hread]
    rfl

/-- A text of one token is in the language of its kind, unless it is a single character. -/
theorem exists_rule_of_tokenize {s : Text} {t : Token} (h : tokenize s = [t]) (hlong : 1 < s.length) :
    ∃ r ∈ tokenRules, r.kind = t.kind ∧ r.pattern.Matches s := by
  have hfirst := firstToken_of_tokenize h
  by_cases hk : t.kind = .error
  · rw [hk] at hfirst
    have hone := (firstToken_eq_error hfirst).1
    omega
  · obtain ⟨before, r, after, hrules, hr, hm, -⟩ := firstToken_eq_kind hfirst hk
    rw [List.take_length] at hm
    exact ⟨r, hrules ▸ List.mem_append_right _ List.mem_cons_self, hr, hm⟩

/-! ## Names -/

theorem call_rule : ⟨.methodCall, all [word "->", plus (.char (nameChar "$<>_")), word "("]⟩ ∈ tokenRules := by
  simp [tokenRules]

section Rule
variable {k : TokenKind} {extra stop : String} {w : Text}

/-- A name is one token if nothing but a name of its kind is as long. -/
theorem oneToken_name (hrule : ⟨k, seq (plus (.char (nameChar extra))) (word stop)⟩ ∈ tokenRules) (hne : w ≠ [])
    (honly : ∀ q ∈ tokenRules, q.pattern.Matches (w ++ stop.toList) → q.kind = k)
    (hname : ∀ c ∈ w, nameChar extra c = true) : (w ++ stop.toList).OneToken k := by
  have hm : (seq (plus (.char (nameChar extra))) (word stop)).Matches (w ++ stop.toList) :=
    matches_name_iff.2 ⟨w, rfl, hne, hname⟩
  exact oneToken_iff.2 (firstToken_of_longest hrule (List.prefix_refl _) hm (fun _ _ _ hv _ => hv.length_le) honly)

/-- What is one token, and can be of no other kind, is a name of that kind. -/
theorem nameChar_of_tokenize (hrule : ⟨k, seq (plus (.char (nameChar extra))) (word stop)⟩ ∈ tokenRules)
    (hlong : 1 < (w ++ stop.toList).length)
    (honly : ∀ q ∈ tokenRules, q.pattern.Matches (w ++ stop.toList) → q.kind = k) {t : Token}
    (ht : tokenize (w ++ stop.toList) = [t]) : ∀ c ∈ w, nameChar extra c = true := by
  obtain ⟨q, hq, -, hm⟩ := exists_rule_of_tokenize ht hlong
  obtain rfl := rule_unique hq hrule (honly q hq hm)
  obtain ⟨u, hu, -, hname⟩ := matches_name_iff.1 hm
  rwa [List.append_cancel_right hu]

/-- **A name in the given alphabet** is one token just if it has no hyphen, provided that the pattern of its kind leaves
out the hyphen and nothing else. -/
theorem oneToken_name_iff (hrule : ⟨k, seq (plus (.char (nameChar extra))) (word stop)⟩ ∈ tokenRules) (hne : w ≠ [])
    (hlong : 1 < (w ++ stop.toList).length)
    (honly : ∀ q ∈ tokenRules, q.pattern.Matches (w ++ stop.toList) → q.kind = k)
    (hextra : ∀ c ∈ w, nameChar extra c = true ↔ c ≠ '-') :
    ((w ++ stop.toList).OneToken k ↔ '-' ∉ w) ∧ ((tokenize (w ++ stop.toList)).length = 1 ↔ '-' ∉ w) := by
  have hyphen : '-' ∉ w ↔ ∀ c ∈ w, nameChar extra c = true := by
    constructor
    · intro h c hc
      exact (hextra c hc).2 fun heq => h (heq ▸ hc)
    · intro h hmem
      exact (hextra '-' hmem).1 (h '-' hmem) rfl
  have hone : (w ++ stop.toList).OneToken k ↔ '-' ∉ w := by
    rw [hyphen]
    constructor
    · rintro ⟨t, ht, -, -⟩
      exact nameChar_of_tokenize hrule hlong honly ht
    · exact oneToken_name hrule hne honly
  refine ⟨hone, fun hlength => ?_, fun h => ?_⟩
  · obtain ⟨t, ht⟩ := List.length_eq_one_iff.1 hlength
    exact hyphen.2 (nameChar_of_tokenize hrule hlong honly ht)
  · obtain ⟨t, ht, -, -⟩ := hone.2 h
    rw [ht]
    rfl

end Rule

/-! ## Nothing else is as long -/

/-- Besides names and calls, what may hold a parenthesis or a colon does not begin as a name does. -/
theorem kinds_of_name : ∀ q ∈ tokenRules,
    (q.pattern.mentions '(' = true → q.kind = .methodName ∨ q.kind = .methodCall ∨
      ∀ n < 128, q.pattern.mayBegin [Char.ofNat n] = true → nameChar "$_-" (Char.ofNat n) = false) ∧
    (q.pattern.mentions ':' = true → q.kind = .fieldName ∨
      ∀ n < 128, q.pattern.mayBegin [Char.ofNat n] = true → nameChar "$_-" (Char.ofNat n) = false) := by decide +kernel

section Alphabet
variable {w : Text} (hne : w ≠ []) (hw : ∀ c ∈ w, nameChar "$_-" c = true)
include hne hw

theorem begins_as_name {stop : Text} {q : TokenRule} (hq : q ∈ tokenRules) (hm : q.pattern.Matches (w ++ stop)) :
    ¬∀ n < 128, q.pattern.mayBegin [Char.ofNat n] = true → nameChar "$_-" (Char.ofNat n) = false := by
  intro hunlike
  obtain ⟨c, rest, rfl⟩ := List.exists_cons_of_ne_nil hne
  have hc : nameChar "$_-" c = true := hw c List.mem_cons_self
  have hnot := hunlike c.toNat (nameChar_lt (by decide) hc)
  rw [Char.ofNat_toNat] at hnot
  exact ne_of_nameChar hc (hnot (mayBegin_head hq (List.prefix_refl _) hm)) rfl

theorem only_methodName : ∀ q ∈ tokenRules, q.pattern.Matches (w ++ "(".toList) → q.kind = .methodName := by
  intro q hq hm
  rcases (kinds_of_name q hq).1 (mentions_of_mem hm (by simp)) with h | h | h
  · exact h
  · -- A call has an arrow in it, and no name has.
    obtain rfl := rule_unique hq call_rule h
    obtain ⟨m, hcall, -⟩ := matches_between_iff.1 hm
    have harrow : '>' ∈ w ++ "(".toList := by
      rw [hcall]
      simp
    rcases List.mem_append.1 harrow with hmem | hmem
    · exact absurd rfl (ne_of_nameChar (hw '>' hmem) (by decide))
    · exact absurd hmem (by decide)
  · exact absurd h (begins_as_name hne hw hq hm)

theorem only_fieldName : ∀ q ∈ tokenRules, q.pattern.Matches (w ++ ":".toList) → q.kind = .fieldName := by
  intro q hq hm
  rcases (kinds_of_name q hq).2 (mentions_of_mem hm (by simp)) with h | h
  · exact h
  · exact absurd h (begins_as_name hne hw hq hm)

end Alphabet

/-- Of the characters of names, a pattern of names that lists `$` and `_` leaves out the hyphen only. -/
theorem nameChar_iff_ne_hyphen {extra : String} (hdollar : '$' ∈ extra.toList) (hline : '_' ∈ extra.toList)
    (hyphen : nameChar extra '-' = false) {c : Char} (hc : nameChar "$_-" c = true) :
    nameChar extra c = true ↔ c ≠ '-' := by
  constructor
  · exact fun h => ne_of_nameChar h hyphen
  · intro hne
    rcases Bool.or_eq_true_iff.1 hc with h | h
    · exact Bool.or_eq_true_iff.2 (.inl h)
    · have hcases : c = '$' ∨ c = '_' ∨ c = '-' := by simpa using h
      refine Bool.or_eq_true_iff.2 (.inr (List.contains_iff_mem.2 ?_))
      rcases hcases with rfl | rfl | rfl
      · exact hdollar
      · exact hline
      · exact absurd rfl hne

/-- **Names without a hyphen are one token, and no others.** Take any name of ASCII letters and digits, `$`, `_` and
`-`, whatever it begins with. With a parenthesis behind it, it is one token, the name of a method, just if it has no
hyphen; with a colon behind it, it is the name of a field, just if it has no hyphen. Otherwise it is not one token. -/
theorem name_one_token_iff (w : Text) (hne : w ≠ []) (hw : ∀ c ∈ w, nameChar "$_-" c = true) :
    ((w ++ ['(']).OneToken .methodName ↔ '-' ∉ w) ∧ ((tokenize (w ++ ['('])).length = 1 ↔ '-' ∉ w) ∧
      ((w ++ [':']).OneToken .fieldName ↔ '-' ∉ w) ∧ ((tokenize (w ++ [':'])).length = 1 ↔ '-' ∉ w) := by
  have hlong : ∀ stop, 1 < (w ++ [stop]).length := by
    intro stop
    have hpos := List.length_pos_of_ne_nil hne
    rw [List.length_append, List.length_singleton]
    omega
  obtain ⟨hmethod, hmethods⟩ := oneToken_name_iff method_rule hne (hlong '(') (only_methodName hne hw) fun c hc =>
    nameChar_iff_ne_hyphen (by decide) (by decide) (by decide) (hw c hc)
  obtain ⟨hfield, hfields⟩ := oneToken_name_iff field_rule hne (hlong ':') (only_fieldName hne hw) fun c hc =>
    nameChar_iff_ne_hyphen (by decide) (by decide) (by decide) (hw c hc)
  exact ⟨hmethod, hmethods, hfield, hfields⟩

/-- A name may begin with a keyword, a register and a number. -/
theorem name_one_token_iff_keyword :
    (∀ c ∈ "return_v0$0x1f".toList, nameChar "$_-" c = true) ∧
      Text.OneToken "return_v0$0x1f(".toList .methodName ∧ Text.OneToken "return_v0$0x1f:".toList .fieldName := by
  have hw : ∀ c ∈ "return_v0$0x1f".toList, nameChar "$_-" c = true := by decide
  obtain ⟨hmethod, -, hfield, -⟩ := name_one_token_iff "return_v0$0x1f".toList (by decide) hw
  exact ⟨hw, hmethod.2 (by decide), hfield.2 (by decide)⟩

/-- A hyphen ends the name before it, of which nothing is left but single characters. -/
theorem hyphenated_name_in_pieces :
    (∀ c ∈ "a-b".toList, nameChar "$_-" c = true) ∧
      (tokenize "a-b(".toList).map (fun t => (t.kind, t.content)) =
        [(.error, ['a']), (.error, ['-']), (.methodName, ['b', '('])] ∧
      ¬Text.OneToken "a-b(".toList .methodName := by
  have hread : (tokenize "a-b(".toList).map (fun t => (t.kind, t.content)) =
      [(.error, ['a']), (.error, ['-']), (.methodName, ['b', '('])] := by decide +kernel
  refine ⟨by decide, hread, ?_⟩
  rintro ⟨t, ht, -, -⟩
  rw [ht] at hread
  have hlength : 1 = 3 := congrArg List.length hread
  omega

end SmaliLint
