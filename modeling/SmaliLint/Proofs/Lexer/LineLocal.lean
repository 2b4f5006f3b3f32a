import SmaliLint.Proofs.Lexer.LongestMatch
import SmaliLint.Proofs.Pattern.Characters
import SmaliLint.Proofs.Position.Relocation

/-!
# Tokens are read line by line

No pattern looks past a line feed, so a text may be read in two parts if the first one ends with a line.

* `firstToken_append`, `lexemes_append`, `tokenize_append` : what follows an ended text does not change its
  tokens, and has the tokens it has alone, further down;
* `Token.StandsIn.line_end` : newlines hold one line feed, at their end, and other tokens hold none;
* `Token.covers`, `tokenize_covers` : exactly one token holds the character at an offset;
* `tokenize_line_local` : all of this together.
-/

namespace SmaliLint
open Vocabulary (TokenRule tokenRules matches_line_end matches_newline)

/-! ## Texts one after the other -/

/-- A text of the vocabulary has a line feed at its end at most. -/
theorem newline_not_mem_dropLast {r : TokenRule} (hr : r ∈ tokenRules) {w : Text} (hw : r.pattern.Matches w) :
    '\n' ∉ w.dropLast := by
  rcases matches_line_end hr hw with ⟨-, rfl | rfl⟩ | ⟨-, hn, -⟩
  · decide
  · decide
  · exact fun h => hn ((List.dropLast_sublist w).subset h)

/-- A text that does not reach into `b` begins `p ++ b` just if it begins `p`. -/
theorem prefix_append_iff {w p b : Text} (h : ∀ x, x ≠ [] → x <+: b → w ≠ p ++ x) : w <+: p ++ b ↔ w <+: p := by
  refine ⟨fun hw => ?_, fun hw => hw.trans (List.prefix_append p b)⟩
  rcases Nat.le_total w.length p.length with hle | hle
  · exact List.prefix_of_prefix_length_le hw (List.prefix_append p b) hle
  · obtain ⟨x, rfl⟩ := List.prefix_of_prefix_length_le (List.prefix_append p b) hw hle
    by_cases hx : x = []
    · simp [hx]
    · exact absurd rfl (h x hx ((List.prefix_append_right_inj p).1 hw))

/-- If nothing that starts in `p` reaches into `b`, then `p` is read on its own, and so is `b`. -/
theorem lexemes_append_of {p b : Text}
    (h : ∀ n, p.drop n ≠ [] → firstToken (p.drop n ++ b) = firstToken (p.drop n)) :
    lexemes (p ++ b) = lexemes p ++ lexemes b := by
  fun_induction lexemes p with
  | case1 => rfl
  | case2 c s first ih =>
    have hfirst : firstToken (c :: (s ++ b)) = first := h 0 (List.cons_ne_nil c s)
    have hle : first.2 ≤ (c :: s).length := firstToken_le c s
    have hrest : lexemes ((c :: s).drop first.2 ++ b) = lexemes ((c :: s).drop first.2) ++ lexemes b := by
      refine ih fun n => ?_
      rw [List.drop_drop]
      exact h _
    rw [List.cons_append, lexemes, hfirst, ← List.cons_append, List.take_append_of_le_length hle,
      List.drop_append_of_le_length hle, hrest, List.cons_append]

/-- No text of the vocabulary that begins before the end of a line goes on behind it. -/
theorem firstToken_append {p : Text} (hp : p.Ended) (hne : p ≠ []) (b : Text) :
    firstToken (p ++ b) = firstToken p := by
  refine firstToken_congr fun r hr w hw => prefix_append_iff fun x hx _ heq => ?_
  obtain rfl | ⟨q, rfl⟩ := hp.cases
  · exact hne rfl
  · refine newline_not_mem_dropLast hr hw ?_
    rw [heq, List.dropLast_append_of_ne_nil hx]
    simp

/-- **An ended text is read on its own**, and so is what follows it. -/
theorem lexemes_append {p : Text} (hp : p.Ended) (b : Text) : lexemes (p ++ b) = lexemes p ++ lexemes b :=
  lexemes_append_of fun n hne => firstToken_append (hp.drop n) hne b

/-! ## The places of the tokens -/

theorem place_append (x : LineIndex) (n : Nat) (ls ms : List Lexeme) :
    place x n (ls ++ ms) = place x n ls ++ place x (n + (Lexeme.texts ls).length) ms := by
  induction ls generalizing n with
  | nil => rfl
  | cons l ls ih =>
    rw [List.cons_append, place, place, ih, List.cons_append, Lexeme.texts, Lexeme.texts, List.flatMap_cons,
      List.length_append, Nat.add_assoc]

/-- Lexemes that stand within `s` are placed as if nothing came after it. -/
theorem place_append_left (s t : Text) {n : Nat} {ls : List Lexeme} (h : n + (Lexeme.texts ls).length ≤ s.length) :
    place (.ofText (s ++ t)) n ls = place (.ofText s) n ls := by
  induction ls generalizing n with
  | nil => rfl
  | cons l ls ih =>
    have hlen : (Lexeme.texts (l :: ls)).length = l.content.length + (Lexeme.texts ls).length := by
      rw [Lexeme.texts, List.flatMap_cons, List.length_append, Lexeme.texts]
    rw [hlen] at h
    have hspan : (LineIndex.ofText (s ++ t)).span n ↑(n + l.content.length) =
        (LineIndex.ofText s).span n ↑(n + l.content.length) := by
      simp only [LineIndex.span, LineIndex.position_eq]
      rw [Position.ofOffset_append_left _ _ _ (by omega), Position.ofOffset_append_left _ _ _ (by omega)]
    simp only [place, hspan]
    rw [ih (by omega)]

/-- Lexemes that stand behind an ended text are placed as if they stood alone, and then moved. -/
theorem place_append_right {s : Text} (hs : s.Ended) (t : Text) (n : Nat) (ls : List Lexeme) :
    place (.ofText (s ++ t)) (s.length + n) ls =
      (place (.ofText t) n ls).map (Token.relocate (.shift (s.count '\n') s.length)) := by
  induction ls generalizing n with
  | nil => rfl
  | cons l ls ih =>
    have hspan : (LineIndex.ofText (s ++ t)).span ↑(s.length + n) ↑(s.length + n + l.content.length) =
        ((LineIndex.ofText t).span n ↑(n + l.content.length)).relocate (.shift (s.count '\n') s.length) := by
      simp only [LineIndex.span, LineIndex.position_eq, Span.relocate, Nat.add_assoc]
      rw [Position.ofOffset_append_right _ hs, Position.ofOffset_append_right _ hs]
    simp only [place, hspan, List.map_cons, Token.relocate]
    rw [Nat.add_assoc, ih]

/-- **The tokens of two texts**, of which the first is ended: those of the first, and those of the second
so many lines further down. -/
theorem tokenize_append {p : Text} (hp : p.Ended) (b : Text) :
    tokenize (p ++ b) =
      tokenize p ++ (tokenize b).map (Token.relocate (.shift (p.count '\n') p.length)) := by
  have hlen : (Lexeme.texts (lexemes p)).length = p.length := by rw [texts_lexemes]
  have hright := place_append_right hp b 0 (lexemes b)
  rw [Nat.add_zero] at hright
  rw [tokenize, lexemes_append hp, place_append, place_append_left p b (by omega), Nat.zero_add, hlen, hright]
  rfl

/-! ## Line feeds -/

namespace Token.StandsIn

variable {s before after : Text} {t : Token} (h : t.StandsIn s before after)
include h

/-- A newline holds one line feed, at its end, and any other token holds none. -/
theorem line_end :
    (t.kind = .newline ∧ (t.content = ['\n'] ∨ t.content = ['\r', '\n'])) ∨
      (t.kind ≠ .newline ∧ '\n' ∉ t.content) := by
  by_cases hk : t.kind = .error
  · have hfirst := h.first
    rw [hk] at hfirst
    obtain ⟨hone, hnone⟩ := firstToken_eq_error hfirst
    obtain ⟨c, hc⟩ := List.length_eq_one_iff.1 hone
    refine .inr ⟨by simp [hk], fun hmem => ?_⟩
    obtain rfl : '\n' = c := by simpa [hc] using hmem
    have hnewline : tokenRules.head (by decide) ∈ tokenRules := List.head_mem _
    refine hnone _ hnewline ['\n'] ?_ ((matches_newline hnewline rfl).2 (.inl rfl))
    rw [hc]
    exact List.prefix_append _ _
  · obtain ⟨_, r, _, hrules, hkind, hm, -, -⟩ := firstToken_eq_kind h.first hk
    have hr : r ∈ tokenRules := hrules ▸ List.mem_append_right _ List.mem_cons_self
    rw [List.take_left] at hm
    rw [← hkind]
    exact (matches_line_end hr hm).imp_right fun h => ⟨h.1, h.2.1⟩

theorem start_line : t.span.start.line = before.count '\n' := by
  rw [h.start, h.text, List.append_assoc, Position.ofOffset_append_left _ _ _ (Nat.le_refl _),
    Position.line_ofOffset_length]

theorem stop_line : t.span.stop.line = ↑(before.count '\n' + t.content.count '\n') := by
  have hlen : (before.length + t.content.length : Int) = ↑(before ++ t.content).length := by
    rw [List.length_append, Int.natCast_add]
  rw [h.stop, h.text, hlen, Position.ofOffset_append_left _ _ _ (Nat.le_refl _),
    Position.line_ofOffset_length, List.count_append]

theorem same_line (hn : '\n' ∉ t.content) : t.span.start.line = t.span.stop.line := by
  rw [h.start_line, h.stop_line, List.count_eq_zero.2 hn, Nat.add_zero]

end Token.StandsIn

/-! ## The token at an offset -/

/-- Whether the character at the offset belongs to the token. -/
def Token.covers (t : Token) (offset : Int) : Bool :=
  t.span.start.offset ≤ offset && offset < t.span.stop.offset

theorem exists_token_at {ts : List Token} {o : Nat} (h : o < (Token.texts ts).length) :
    ∃ pre t post, ts = pre ++ t :: post ∧ (Token.texts pre).length ≤ o ∧
      o < (Token.texts pre).length + t.content.length := by
  induction ts generalizing o with
  | nil => simp [Token.texts] at h
  | cons t ts ih =>
    have hlen : ∀ ts, (Token.texts (t :: ts)).length = t.content.length + (Token.texts ts).length := by
      intro ts
      rw [Token.texts, List.flatMap_cons, List.length_append, Token.texts]
    rw [hlen] at h
    by_cases ho : o < t.content.length
    · exact ⟨[], t, ts, rfl, Nat.zero_le _, by simpa [Token.texts] using ho⟩
    · obtain ⟨pre, u, post, rfl, hle, hlt⟩ := ih (o := o - t.content.length) (by omega)
      refine ⟨t :: pre, u, post, rfl, ?_, ?_⟩
      · rw [hlen]
        omega
      · rw [hlen]
        omega

/-- A token covers the offsets from the end of the texts before it to its own end. -/
theorem covers_iff {s : Text} {ts us : List Token} {t : Token} (h : tokenize s = ts ++ t :: us) (o : Nat) :
    t.covers o = true ↔ (Token.texts ts).length ≤ o ∧ o < (Token.texts ts).length + t.content.length := by
  have hstands := tokenize_split h
  rw [Token.covers, hstands.start_offset, hstands.stop_offset]
  simp only [Bool.and_eq_true, decide_eq_true_eq]
  omega

/-- **Exactly one token covers an offset of the text.** -/
theorem tokenize_covers {s : Text} {o : Nat} (ho : o < s.length) :
    ∃ ts t us, tokenize s = ts ++ t :: us ∧ t.covers o = true ∧
      (tokenize s).filter (·.covers o) = [t] := by
  have htexts : Token.texts (tokenize s) = s := (texts_place _ _ _).trans (texts_lexemes s)
  have hin : o < (Token.texts (tokenize s)).length := by rwa [htexts]
  obtain ⟨ts, t, us, hsplit, hle, hlt⟩ := exists_token_at hin
  have hcovers : t.covers o = true := (covers_iff hsplit o).2 ⟨hle, hlt⟩
  have hbefore : ∀ u ∈ ts, ¬ u.covers o = true := by
    intro u hu
    obtain ⟨pre, post, rfl⟩ := List.append_of_mem hu
    have hsplit' : tokenize s = pre ++ u :: (post ++ t :: us) := by rw [hsplit]; simp
    have hlen : (Token.texts (pre ++ u :: post)).length =
        (Token.texts pre).length + u.content.length + (Token.texts post).length := by
      simp [Token.texts, Nat.add_assoc]
    rw [covers_iff hsplit']
    omega
  have hafter : ∀ u ∈ us, ¬ u.covers o = true := by
    intro u hu
    obtain ⟨pre, post, rfl⟩ := List.append_of_mem hu
    have hsplit' : tokenize s = (ts ++ t :: pre) ++ u :: post := by rw [hsplit]; simp
    have hlen : (Token.texts (ts ++ t :: pre)).length =
        (Token.texts ts).length + t.content.length + (Token.texts pre).length := by
      simp [Token.texts, Nat.add_assoc]
    rw [covers_iff hsplit']
    omega
  refine ⟨ts, t, us, hsplit, hcovers, ?_⟩
  rw [hsplit, List.filter_append, List.filter_eq_nil_iff.2 hbefore, List.nil_append,
    List.filter_cons, if_pos hcovers, List.filter_eq_nil_iff.2 hafter]

/-- The token that covers a line feed is a newline, and ends with it. -/
theorem covers_line_feed {s : Text} {ts us : List Token} {t : Token} (h : tokenize s = ts ++ t :: us) {o : Nat}
    (ho : s[o]? = some '\n') (hcovers : t.covers o = true) :
    t.kind = .newline ∧ t.content.getLast? = some '\n' ∧ t.span.stop.offset = o + 1 := by
  have hstands := tokenize_split h
  obtain ⟨hle, hlt⟩ := (covers_iff h o).1 hcovers
  have hget : t.content[o - (Token.texts ts).length]? = some '\n' := by
    rw [hstands.text, List.append_assoc, List.getElem?_append_right hle,
      List.getElem?_append_left (by omega)] at ho
    exact ho
  rcases hstands.line_end with ⟨hk, hc⟩ | ⟨-, hn⟩
  · have hlast : t.content.getLast? = some '\n' ∧ o + 1 = (Token.texts ts).length + t.content.length := by
      rcases hc with hc | hc
      · rw [hc] at hlt ⊢
        simp at hlt ⊢
        omega
      · rw [hc] at hlt hget ⊢
        have hne : o - (Token.texts ts).length ≠ 0 := by
          intro h0
          rw [h0] at hget
          simp at hget
        simp at hlt ⊢
        omega
    refine ⟨hk, hlast.1, ?_⟩
    rw [hstands.stop_offset, ← hlast.2]
    rfl
  · exact absurd (List.mem_of_getElem? hget) hn

/-- **Tokens are read line by line.** Behind a line feed a text is read as it is alone, further down and further on.
Every line feed is covered by a newline that ends with it and holds no more than a carriage return before it; every
other token stands on one line. -/
theorem tokenize_line_local :
    (∀ a b : Text, tokenize (a ++ '\n' :: b) =
        tokenize (a ++ ['\n']) ++
          (tokenize b).map (Token.relocate (.shift ((a ++ ['\n']).count '\n') (a ++ ['\n']).length))) ∧
      ∀ s : Text,
        (∀ o : Nat, s[o]? = some '\n' →
          ∃ t, (tokenize s).filter (·.covers o) = [t] ∧ t.kind = .newline ∧
            t.content.getLast? = some '\n' ∧ t.span.stop.offset = o + 1) ∧
        (∀ t ∈ tokenize s, t.kind = .newline → t.content = ['\n'] ∨ t.content = ['\r', '\n']) ∧
        ∀ t ∈ tokenize s, t.kind ≠ .newline → '\n' ∉ t.content ∧ t.span.start.line = t.span.stop.line := by
  refine ⟨fun a b => ?_, fun s => ⟨fun o ho => ?_, fun t ht hk => ?_, fun t ht hk => ?_⟩⟩
  · rw [← tokenize_append (Text.ended_append_newline a), List.append_assoc, List.singleton_append]
  · obtain ⟨hlt, -⟩ := List.getElem?_eq_some_iff.1 ho
    obtain ⟨ts, t, us, hsplit, hcovers, hfilter⟩ := tokenize_covers hlt
    exact ⟨t, hfilter, covers_line_feed hsplit ho hcovers⟩
  · obtain ⟨before, after, hstands⟩ := exists_standsIn ht
    rcases hstands.line_end with ⟨-, hc⟩ | ⟨hne, -⟩
    · exact hc
    · exact absurd hk hne
  · obtain ⟨before, after, hstands⟩ := exists_standsIn ht
    rcases hstands.line_end with ⟨heq, -⟩ | ⟨-, hn⟩
    · exact absurd heq hk
    · exact ⟨hn, hstands.same_line hn⟩

end SmaliLint
