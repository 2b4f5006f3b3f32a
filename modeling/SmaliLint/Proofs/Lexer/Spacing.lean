import Mathlib.Data.List.Chain
import SmaliLint.Proofs.Lexer.Words
import SmaliLint.Proofs.Line

/-!
# Spaces stand apart

A space takes all the blanks there are, and a comment takes everything up to the end of its line. A logical line is
without comments, so in it no space stands next to another one.

* `Token.StandsIn.matches_rule` : a token is of the pattern of its kind, and nothing longer is;
* `not_space_after` : a space does not stand behind a space, nor behind a comment;
* `SpacesApart`, `spacesApart_of_mem_logicalLines` : so much for the lines of a text.
-/

namespace SmaliLint
open Vocabulary Pattern

/-! ## Tokens of a text -/

theorem Token.StandsIn.matches_rule {s before after : Text} {t : Token} (h : t.StandsIn s before after) {p : Pattern}
    (hrule : ⟨t.kind, p⟩ ∈ tokenRules) :
    p.Matches t.content ∧ ∀ v, v <+: t.content ++ after → p.Matches v → v.length ≤ t.content.length := by
  have hkind : t.kind ≠ .error := tokenRules_kind_ne_error _ hrule
  obtain ⟨_, r, _, hrules, hr, hmatch, hlongest, -⟩ := firstToken_eq_kind h.first hkind
  have hmem : r ∈ tokenRules := hrules ▸ List.mem_append_right _ List.mem_cons_self
  obtain rfl : r = ⟨t.kind, p⟩ := rule_unique hmem hrule hr
  rw [List.take_left] at hmatch
  exact ⟨hmatch, fun v hv hm => hlongest _ hrule v hv hm⟩

theorem space_rule : ⟨.space, plus (anyOf " \t")⟩ ∈ tokenRules := by simp [tokenRules]

theorem comment_rule : ⟨.comment, .seq (word "#") (.star (.char fun c => c != '\r' && c != '\n'))⟩ ∈ tokenRules := by
  simp [tokenRules]

/-- Blanks and comments go on as long as there are blanks. -/
theorem matches_append_blank {k : TokenKind} (hk : k = .space ∨ k = .comment) {p : Pattern} (hrule : ⟨k, p⟩ ∈ tokenRules)
    {w : Text} (hw : p.Matches w) {c : Char} (hc : c = ' ' ∨ c = '\t') : p.Matches (w ++ [c]) := by
  rcases hk with rfl | rfl
  · obtain rfl := congrArg TokenRule.pattern (rule_unique hrule space_rule rfl)
    obtain ⟨-, hblanks⟩ := matches_blanks_iff.1 hw
    refine matches_blanks_iff.2 ⟨by simp, List.forall_mem_append.2 ⟨hblanks, ?_⟩⟩
    simpa using hc
  · obtain rfl := congrArg TokenRule.pattern (rule_unique hrule comment_rule rfl)
    obtain ⟨mark, rest, rfl, hmark, hrest⟩ := matches_seq_iff.1 hw
    rw [List.append_assoc]
    refine matches_seq_iff.2 ⟨mark, rest ++ [c], rfl, hmark, matches_star_char_iff.2 ?_⟩
    refine List.forall_mem_append.2 ⟨matches_star_char_iff.1 hrest, ?_⟩
    rcases hc with rfl | rfl <;> simp

theorem not_space_after {s : Text} {ts us : List Token} {a b : Token} (h : tokenize s = ts ++ a :: b :: us)
    (ha : a.kind = .space ∨ a.kind = .comment) : b.kind ≠ .space := by
  intro hb
  have hstands := tokenize_split h
  have hnext : b.StandsIn s _ _ := tokenize_split (h.trans (by rw [← List.singleton_append, ← List.append_assoc]))
  obtain ⟨hblanks, -⟩ := hnext.matches_rule (hb ▸ space_rule)
  obtain ⟨hne, hblank⟩ := matches_blanks_iff.1 hblanks
  obtain ⟨c, rest, hcontent⟩ := List.exists_cons_of_ne_nil hne
  obtain ⟨p, hrule⟩ : ∃ p, ⟨a.kind, p⟩ ∈ tokenRules := by
    rcases ha with ha | ha
    · exact ⟨_, ha ▸ space_rule⟩
    · exact ⟨_, ha ▸ comment_rule⟩
  obtain ⟨hmatch, hlongest⟩ := hstands.matches_rule hrule
  have hlonger := hlongest (a.content ++ [c]) ?_ (matches_append_blank ha hrule hmatch (hblank c (by simp [hcontent])))
  · rw [List.length_append, List.length_singleton] at hlonger
    omega
  · rw [List.prefix_append_right_inj, Token.texts, List.flatMap_cons, hcontent]
    simp

/-! ## Lines -/

/-- No space stands right behind another one. -/
def SpacesApart (ts : List Token) : Prop := ts.IsChain fun a b => a.kind = .space → b.kind ≠ .space

/-- Behind a space or a comment the next token that is no comment is no space either. -/
theorem head?_filter_ne_space {c : Token} {ts : List Token} (hc : c.kind = .space ∨ c.kind = .comment)
    (h : (c :: ts).IsChain fun a b => a.kind = .space ∨ a.kind = .comment → b.kind ≠ .space) :
    ∀ t ∈ (ts.filter (·.kind ≠ .comment)).head?, t.kind ≠ .space := by
  induction ts generalizing c with
  | nil => simp
  | cons b ts ih =>
    obtain ⟨hnext, hrest⟩ := List.isChain_cons.1 h
    by_cases hb : b.kind = .comment
    · rw [List.filter_cons_of_neg (by simp [hb])]
      exact ih (.inr hb) hrest
    · rw [List.filter_cons_of_pos (by simp [hb])]
      simpa using hnext b rfl hc

theorem spacesApart_filter {ts : List Token}
    (h : ts.IsChain fun a b => a.kind = .space ∨ a.kind = .comment → b.kind ≠ .space) :
    SpacesApart (ts.filter (·.kind ≠ .comment)) := by
  induction ts with
  | nil => exact .nil
  | cons a ts ih =>
    have hrest := ih (List.isChain_cons.1 h).2
    by_cases ha : a.kind = .comment
    · rwa [List.filter_cons_of_neg (by simp [ha])]
    · rw [List.filter_cons_of_pos (by simp [ha])]
      exact List.isChain_cons.2 ⟨fun b hb hspace => head?_filter_ne_space (.inl hspace) h b hb, hrest⟩

/-- **In the lines of a text spaces stand apart.** -/
theorem spacesApart_of_mem_logicalLines {source : Text} {l : Line} (h : l ∈ logicalLines (tokenize source)) :
    SpacesApart l.toList := by
  have hall : (tokenize source).IsChain fun a b => a.kind = .space ∨ a.kind = .comment → b.kind ≠ .space :=
    List.isChain_iff_forall_rel_of_append_cons_cons.2 fun _ _ _ _ hsplit => not_space_after hsplit
  obtain ⟨piece, hstretch, -, htrim⟩ := exists_piece h
  rw [← htrim]
  have hpiece := List.IsChain.infix hall hstretch
  exact List.IsChain.infix (spacesApart_filter hpiece) (trim_isInfix piece)

end SmaliLint
