import SmaliLint.Lexer
import SmaliLint.Proofs.Pattern.Greedy
import SmaliLint.Proofs.Position.LineIndex

/-!
# The tokens of a text cover it

* `Token.StandsIn s before t after` : the token `t` stands in `s` between two other texts, is the first
  token of what starts with it, and is stamped with the positions of its two ends;
* `tokenize_split` : every token stands between the texts of the tokens before and after it;
* `tokenize_partition` : the tokens are not empty, make up the text, and meet end to end.
-/

namespace SmaliLint

/-- The tokens' texts, one after the other. -/
def Token.texts (ts : List Token) : Text := ts.flatMap (·.content)

/-- The lexemes' texts, one after the other. -/
def Lexeme.texts (ls : List Lexeme) : Text := ls.flatMap (·.content)

/-- The token `t` is what stands in `s` between `before` and `after`, and is there by right: it is the
first token of the text from there on, and its span runs from the one end to the other. -/
structure Token.StandsIn (s before : Text) (t : Token) (after : Text) : Prop where
  text : s = before ++ t.content ++ after
  first : firstToken (t.content ++ after) = (t.kind, t.content.length)
  nonempty : t.content ≠ []
  start : t.span.start = .ofOffset .utf32 s before.length
  stop : t.span.stop = .ofOffset .utf32 s (before.length + t.content.length)

/-! ## Lexemes -/

theorem firstToken_le (c : Char) (s : Text) : (firstToken (c :: s)).2 ≤ (c :: s).length := by
  unfold firstToken
  cases h : furthest (c :: s) Vocabulary.tokenRules with
  | none => simp
  | some found =>
    obtain ⟨before, r, after, -, -, hn, -⟩ := furthest_eq_some h
    exact (Pattern.matches_of_firstMatch hn).1

theorem texts_lexemes (s : Text) : Lexeme.texts (lexemes s) = s := by
  fun_induction lexemes s with
  | case1 => rfl
  | case2 c s first ih =>
    rw [Lexeme.texts, List.flatMap_cons, ← Lexeme.texts, ih]
    exact List.take_append_drop _ _

/-- Each lexeme is the first token of what is left of the text where it starts. -/
theorem lexemes_split {s : Text} {pre post : List Lexeme} {l : Lexeme} (h : lexemes s = pre ++ l :: post) :
    firstToken (l.content ++ Lexeme.texts post) = (l.kind, l.content.length) ∧ l.content ≠ [] := by
  induction pre generalizing s with
  | nil =>
    cases s with
    | nil => simp [lexemes] at h
    | cons c s =>
      rw [lexemes] at h
      simp only [List.nil_append, List.cons.injEq] at h
      obtain ⟨rfl, rfl⟩ := h
      have hlen : ((c :: s).take (firstToken (c :: s)).2).length = (firstToken (c :: s)).2 := by
        rw [List.length_take, Nat.min_eq_left (firstToken_le c s)]
      constructor
      · rw [texts_lexemes, List.take_append_drop, hlen]
      · have hpos := firstToken_pos (c :: s)
        rw [← hlen] at hpos
        exact List.ne_nil_of_length_pos hpos
  | cons m pre ih =>
    cases s with
    | nil => simp [lexemes] at h
    | cons c s =>
      rw [lexemes] at h
      simp only [List.cons_append, List.cons.injEq] at h
      exact ih h.2

/-! ## Tokens -/

theorem texts_place (x : LineIndex) (n : Nat) (ls : List Lexeme) :
    Token.texts (place x n ls) = Lexeme.texts ls := by
  induction ls generalizing n with
  | nil => rfl
  | cons l ls ih =>
    rw [place, Token.texts, List.flatMap_cons, ← Token.texts, ih, Lexeme.texts, Lexeme.texts, List.flatMap_cons]

/-- A token is stamped with where the texts of those before it end. -/
theorem place_split {x : LineIndex} {n : Nat} {ls : List Lexeme} {ts us : List Token} {t : Token}
    (h : place x n ls = ts ++ t :: us) :
    ∃ pre post, ls = pre ++ ⟨t.kind, t.content⟩ :: post ∧ Lexeme.texts pre = Token.texts ts ∧
      Lexeme.texts post = Token.texts us ∧
      t.span = x.span ↑(n + (Token.texts ts).length) ↑(n + (Token.texts ts).length + t.content.length) := by
  induction ts generalizing n ls with
  | nil =>
    cases ls with
    | nil => simp [place] at h
    | cons l ls =>
      simp only [place, List.nil_append, List.cons.injEq] at h
      obtain ⟨rfl, rfl⟩ := h
      exact ⟨[], ls, rfl, rfl, (texts_place _ _ _).symm, rfl⟩
  | cons u ts ih =>
    cases ls with
    | nil => simp [place] at h
    | cons l ls =>
      simp only [place, List.cons_append, List.cons.injEq] at h
      obtain ⟨rfl, h⟩ := h
      obtain ⟨pre, post, rfl, hpre, hpost, hspan⟩ := ih h
      refine ⟨l :: pre, post, rfl, ?_, hpost, ?_⟩
      · rw [Lexeme.texts, List.flatMap_cons, ← Lexeme.texts, hpre]
        rfl
      · rw [hspan, Token.texts, Token.texts, List.flatMap_cons, List.length_append, Nat.add_assoc n]

/-- **Every token stands between the texts of those before and after it.** -/
theorem tokenize_split {s : Text} {ts us : List Token} {t : Token} (h : tokenize s = ts ++ t :: us) :
    t.StandsIn s (Token.texts ts) (Token.texts us) := by
  obtain ⟨pre, post, hls, hpre, hpost, hspan⟩ := place_split h
  obtain ⟨hfirst, hne⟩ := lexemes_split hls
  have htext := texts_lexemes s
  rw [hls, Lexeme.texts, List.flatMap_append, List.flatMap_cons, ← Lexeme.texts, ← Lexeme.texts, hpre,
    hpost, ← List.append_assoc] at htext
  rw [hpost] at hfirst
  refine ⟨htext.symm, hfirst, hne, ?_, ?_⟩
  · rw [hspan, Nat.zero_add]
    exact LineIndex.position_eq s _
  · rw [hspan, Nat.zero_add]
    exact LineIndex.position_eq s _

/-! ## What a token's place says about its text -/

theorem Position.offset_ofOffset {u : Units} {s : Text} {n : Nat} (h : n ≤ s.length) :
    (Position.ofOffset u s n).offset = n := by
  simp [Position.ofOffset, Text.clampOffset, Nat.min_eq_left h]

namespace Token.StandsIn

variable {s before after : Text} {t : Token} (h : t.StandsIn s before after)
include h

theorem length_le : before.length + t.content.length ≤ s.length := by
  rw [h.text, List.length_append, List.length_append]
  omega

theorem start_offset : t.span.start.offset = before.length := by
  have := h.length_le
  rw [h.start, Position.offset_ofOffset (by omega)]

theorem stop_offset : t.span.stop.offset = ↑(before.length + t.content.length) := by
  rw [h.stop]
  exact Position.offset_ofOffset h.length_le

theorem drop_start : s.drop t.span.start.offset.toNat = t.content ++ after := by
  rw [h.start_offset, Int.toNat_natCast, h.text, List.append_assoc, List.drop_left]

theorem content_eq_slice : t.content = (s.take t.span.stop.offset.toNat).drop t.span.start.offset.toNat := by
  rw [h.start_offset, h.stop_offset, Int.toNat_natCast, Int.toNat_natCast, h.text, ← List.length_append,
    List.take_left, List.drop_left]

theorem stamped :
    t.span.start = .ofOffset .utf32 s t.span.start.offset ∧ t.span.stop = .ofOffset .utf32 s t.span.stop.offset := by
  constructor
  · rw [h.start_offset]
    exact h.start
  · rw [h.stop_offset]
    exact h.stop

end Token.StandsIn

/-- Every token of a text stands somewhere in it. -/
theorem exists_standsIn {s : Text} {t : Token} (ht : t ∈ tokenize s) :
    ∃ before after, t.StandsIn s before after := by
  obtain ⟨ts, us, h⟩ := List.append_of_mem ht
  exact ⟨_, _, tokenize_split h⟩

/-! ## The partition -/

/-- **The tokens partition the text.** None is empty; their texts put together are the text; each is what
the text holds between its two offsets; the first starts at the start and the last ends at the end;
where one ends the next one starts; and every position is that of its offset in the text. -/
theorem tokenize_partition (s : Text) :
    (∀ t ∈ tokenize s, t.content ≠ []) ∧
      (tokenize s).flatMap (·.content) = s ∧
      (∀ t ∈ tokenize s, t.content = (s.take t.span.stop.offset.toNat).drop t.span.start.offset.toNat) ∧
      (∀ t, (tokenize s).head? = some t → t.span.start.offset = 0) ∧
      (∀ t, (tokenize s).getLast? = some t → t.span.stop.offset = s.length) ∧
      (∀ ts t u us, tokenize s = ts ++ t :: u :: us → t.span.stop = u.span.start) ∧
      ∀ t ∈ tokenize s, t.span.start = .ofOffset .utf32 s t.span.start.offset ∧
        t.span.stop = .ofOffset .utf32 s t.span.stop.offset := by
  refine ⟨fun t ht => ?_, ?_, fun t ht => ?_, fun t ht => ?_, fun t ht => ?_, fun ts t u us h => ?_,
    fun t ht => ?_⟩
  · obtain ⟨before, after, h⟩ := exists_standsIn ht
    exact h.nonempty
  · exact (texts_place _ _ _).trans (texts_lexemes s)
  · obtain ⟨before, after, h⟩ := exists_standsIn ht
    exact h.content_eq_slice
  · obtain ⟨us, h⟩ := List.head?_eq_some_iff.1 ht
    have hsplit : tokenize s = [] ++ t :: us := h
    exact (tokenize_split hsplit).start_offset
  · obtain ⟨ts, h⟩ := List.getLast?_eq_some_iff.1 ht
    have hstands := tokenize_split h
    have hlen : s.length = (Token.texts ts).length + t.content.length := by
      simpa [Token.texts] using congrArg List.length hstands.text
    rw [hstands.stop_offset, hlen]
  · have hsplit : tokenize s = (ts ++ [t]) ++ u :: us := by rw [h, List.append_assoc, List.singleton_append]
    have hlen : (Token.texts (ts ++ [t])).length = (Token.texts ts).length + t.content.length := by
      simp [Token.texts]
    rw [(tokenize_split h).stop, (tokenize_split hsplit).start, hlen]
    rfl
  · obtain ⟨before, after, h⟩ := exists_standsIn ht
    exact h.stamped

end SmaliLint
