import SmaliLint.Proofs.Lexer.Names

/-!
# A token read alone

What stands behind a token has its share in where the token ends, since something longer might have begun there. But
once the token has ended, what stands behind it no longer counts.

* `length_le_of_firstToken` : nothing of the vocabulary that begins where a token begins goes on behind it;
* `firstToken_alone` : so the token is the first one of its own text, of the same kind;
* `oneToken_iff_exists` : the texts that are one token are those that occur as a token somewhere;
* `token_reads_alone` : every token of a text is one token alone, and its kind can be told from its text.
-/

namespace SmaliLint
open Vocabulary (TokenRule tokenRules)

/-- **Nothing that begins with a token is longer than it.** -/
theorem length_le_of_firstToken {s : Text} {k : TokenKind} {n : Nat} (h : firstToken s = (k, n)) {r : TokenRule}
    (hr : r ∈ tokenRules) {w : Text} (hw : w <+: s) (hm : r.pattern.Matches w) : w.length ≤ n := by
  by_cases hk : k = .error
  · rw [hk] at h
    exact absurd hm ((firstToken_eq_error h).2 r hr w hw)
  · obtain ⟨_, _, _, _, _, _, hlongest, -⟩ := firstToken_eq_kind h hk
    exact hlongest r hr w hw hm

/-- **What follows a token does not count once the token has ended.** -/
theorem firstToken_alone {w rest : Text} {k : TokenKind} (h : firstToken (w ++ rest) = (k, w.length)) :
    firstToken w = (k, w.length) := by
  rw [← h]
  refine firstToken_congr fun r hr v hv => ⟨fun hvw => hvw.trans (List.prefix_append w rest), fun hvs => ?_⟩
  have hle : v.length ≤ w.length := length_le_of_firstToken h hr hvs hv
  exact List.prefix_of_prefix_length_le hvs (List.prefix_append w rest) hle

/-- **A text is one token just if it is the text of some token.** -/
theorem oneToken_iff_exists {w : Text} {k : TokenKind} :
    w.OneToken k ↔ ∃ s, ∃ t ∈ tokenize s, t.kind = k ∧ t.content = w := by
  constructor
  · rintro ⟨t, ht, hkind, hcontent⟩
    exact ⟨w, t, by rw [ht]; exact List.mem_singleton_self t, hkind, hcontent⟩
  · rintro ⟨s, t, ht, rfl, rfl⟩
    obtain ⟨before, after, hstands⟩ := exists_standsIn ht
    exact oneToken_iff.2 (firstToken_alone hstands.first)

/-- A text is one token of one kind at most. -/
theorem Text.OneToken.kind_unique {w : Text} {k l : TokenKind} (hk : w.OneToken k) (hl : w.OneToken l) : k = l := by
  have hfirst := (oneToken_iff.1 hk).symm.trans (oneToken_iff.1 hl)
  exact congrArg Prod.fst hfirst

/-- **Every token reads alone as it reads in its text.** The text of a token, read alone, is one token, of the same kind
and with the same text. So tokens of the same text are of the same kind, whatever texts they stand in, wherever they
stand and whatever follows them. -/
theorem token_reads_alone (s : Text) (t : Token) (ht : t ∈ tokenize s) :
    (∃ u, tokenize t.content = [u] ∧ u.kind = t.kind ∧ u.content = t.content) ∧
      ∀ s' : Text, ∀ u ∈ tokenize s', u.content = t.content → u.kind = t.kind := by
  have halone : t.content.OneToken t.kind := oneToken_iff_exists.2 ⟨s, t, ht, rfl, rfl⟩
  refine ⟨halone, fun s' u hu hcontent => ?_⟩
  have hother : t.content.OneToken u.kind := oneToken_iff_exists.2 ⟨s', u, hu, rfl, hcontent⟩
  exact hother.kind_unique halone

/-- The mnemonic ends before a letter that a longer word might have begun with, and is the same mnemonic alone. -/
theorem token_reads_alone_mnemonic :
    ∃ t ∈ tokenize "return-voidable(".toList, t.content = "return-void".toList ∧ t.kind = .ret ∧
      ∃ u, tokenize "return-void".toList = [u] ∧ u.kind = .ret ∧ u.content = "return-void".toList := by
  have hfirst : firstToken "return-voidable(".toList = (.ret, 11) := by decide +kernel
  obtain ⟨t, ht, hkind, hcontent⟩ := exists_mem_tokenize (by decide) hfirst
  have hcontent : t.content = "return-void".toList := hcontent
  obtain ⟨⟨u, hu, hukind, hucontent⟩, -⟩ := token_reads_alone "return-voidable(".toList t ht
  rw [hcontent] at hu hucontent
  exact ⟨t, ht, hcontent, hkind, u, hu, hukind.trans hkind, hucontent⟩

end SmaliLint
