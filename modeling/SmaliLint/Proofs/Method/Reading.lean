import SmaliLint.Method.Declaration

/-!
# What is read off a declaration

A declaration is read to its end whatever is wrong with it. The modifiers and the return type that come out are told by
the tokens, wherever the tokens between them were not expected.

* `hasModifier ts name` : one of the tokens is the modifier of that name; `Line.hasModifier` : one before the name of the
  method is; `has_ofLine` : that is what a declaration has;
* `Line.declaredType?` : the first type behind the first closing parenthesis behind the name, with the brackets before
  it; `returnType_ofLine` : that is its return type;
* `ReturnKind.ofTokens`, `ReturnType.ofTokens_eq` : the kind of value that brackets and a type stand for, and where they
  stand.
-/

namespace SmaliLint

/-! ## Tokens of a declaration -/

/-- Whether one of the tokens is the modifier of the given name. -/
def hasModifier (ts : List Token) (name : String) : Bool := ts.any fun t => t.kind = .modifier && t.reads name

/-- Whether the token is a closing parenthesis. -/
def Token.closes (t : Token) : Bool := t.kind = .paren && t.reads ")"

/-- Whether the token is a type. -/
def Token.isType (t : Token) : Bool := t.kind = .builtinType || t.kind = .classType

/-- The tokens behind the first one that passes the test. -/
def tokensBehind (test : Token → Bool) (ts : List Token) : List Token := (ts.dropWhile (!test ·)).tail

theorem tokensBehind_cons (test : Token → Bool) (t : Token) (ts : List Token) :
    tokensBehind test (t :: ts) = if test t then ts else tokensBehind test ts := by
  unfold tokensBehind
  rw [List.dropWhile_cons]
  cases test t <;> rfl

/-- The first type among the tokens, and the array brackets before it. -/
def typeAmong? (ts : List Token) : Option (List Token × Token) :=
  (ts.find? Token.isType).map fun type => ((ts.takeWhile (!·.isType)).filter (·.kind = .arrayOp), type)

namespace Line

/-- Whether a modifier of the given name stands before the name of the method. -/
def hasModifier (l : Line) (name : String) : Bool :=
  SmaliLint.hasModifier (l.tail.takeWhile (·.kind ≠ .methodName)) name

/-- The type behind the parameters, and the array brackets before it. -/
def declaredType? (l : Line) : Option (List Token × Token) :=
  typeAmong? (tokensBehind Token.closes (tokensBehind (·.kind = .methodName) l.tail))

end Line

/-! ## Types -/

/-- A line of some tokens and a last one runs from the first of them to the last. -/
theorem Line.span_of_toList {l : Line} {ts : List Token} {t : Token} (h : l.toList = ts ++ [t]) :
    l.span = ⟨(ts.headD t).span.start, t.span.stop⟩ := by
  obtain ⟨head, tail⟩ := l
  cases ts with
  | nil =>
    obtain ⟨rfl, rfl⟩ := List.cons.inj h
    rfl
  | cons first ts =>
    obtain ⟨rfl, rfl⟩ := List.cons.inj h
    simp [Line.span, Line.last, List.getLastD_eq_getLast?]

/-- What brackets and a type stand for. -/
def ReturnKind.ofTokens (brackets : List Token) (type : Token) : ReturnKind :=
  if brackets ≠ [] ∨ type.kind = .classType then .reference
  else if type.reads "V" then .void
  else .builtin

namespace ReturnType

/-- What brackets and a type, if there are any, say that a method returns. -/
def ofTokens? : Option (List Token × Token) → ReturnType
  | none => .unknown
  | some (brackets, type) => .ofTokens brackets type

theorem toList_ofTokens (brackets : List Token) (type : Token) {kind : ReturnKind} {written : Line}
    (h : ofTokens brackets type = .known kind written) : written.toList = brackets ++ [type] := by
  unfold ofTokens at h
  split at h
  · cases h
    rfl
  · split at h
    · cases h
      rfl
    · split at h <;> cases h <;> rfl

theorem ofTokens_eq (brackets : List Token) (type : Token) :
    ∃ written, ofTokens brackets type = .known (.ofTokens brackets type) written ∧
      written.toList = brackets ++ [type] := by
  have hknown : ∃ written, ofTokens brackets type = .known (.ofTokens brackets type) written := by
    unfold ofTokens ReturnKind.ofTokens
    cases brackets with
    | cons b bs => simp
    | nil =>
      by_cases hclass : type.kind = .classType
      · simp [hclass]
      · by_cases hvoid : type.reads "V" = true <;> simp [hclass, hvoid]
  obtain ⟨written, hwritten⟩ := hknown
  exact ⟨written, hwritten, toList_ofTokens brackets type hwritten⟩

end ReturnType

namespace Declaration

/-! ## Return types -/

theorem returnType_prepend (ds : List Diagnostic) (d : Declaration) : (d.prepend ds).returnType = d.returnType := rfl

theorem modifiers_prepend (ds : List Diagnostic) (d : Declaration) : (d.prepend ds).modifiers = d.modifiers := rfl

theorem returnType_readReturnType (last : Token) (modifiers brackets : List Token) (flagged : Bool) (ts : List Token) :
    (readReturnType last modifiers brackets flagged ts).returnType =
      .ofTokens? ((typeAmong? ts).map fun r => (brackets ++ r.1, r.2)) := by
  fun_induction readReturnType last modifiers brackets flagged ts with
  | case1 => rfl
  | case2 brackets flagged t ts harray ih =>
    have htype : t.isType = false := by simp [Token.isType, harray]
    rw [ih]
    simp [typeAmong?, htype, harray, Option.map_map, Function.comp_def]
  | case3 brackets flagged t ts harray htype =>
    have htype : t.isType = true := by simpa [Token.isType] using htype
    simp [typeAmong?, htype, ReturnType.ofTokens?]
  | case4 brackets flagged t ts harray htype ih =>
    have htype : t.isType = false := by simpa [Token.isType] using htype
    rw [returnType_prepend, ih]
    simp [typeAmong?, htype, harray]

theorem returnType_readParameters (last : Token) (modifiers : List Token) (flagged : Bool) (ts : List Token) :
    (readParameters last modifiers flagged ts).returnType = .ofTokens? (typeAmong? (tokensBehind Token.closes ts)) := by
  fun_induction readParameters last modifiers flagged ts with
  | case1 => rfl
  | case2 flagged t ts hclose =>
    have hcloses : t.closes = true := by simpa [Token.closes] using hclose
    rw [tokensBehind_cons, if_pos hcloses, returnType_readReturnType]
    simp
  | case3 flagged t ts hclose _ ih =>
    have hcloses : ¬ t.closes = true := by simpa [Token.closes] using hclose
    rw [tokensBehind_cons, if_neg hcloses, ih]
  | case4 flagged t ts hclose _ ih =>
    have hcloses : ¬ t.closes = true := by simpa [Token.closes] using hclose
    rw [tokensBehind_cons, if_neg hcloses, returnType_prepend, ih]

theorem readModifiers_name (line : Line) (visibility : Option Token) (modifiers : List Token) (afterSpace : Bool)
    {t : Token} (ht : t.kind = .methodName) (ts : List Token) :
    ∃ ds, readModifiers line visibility modifiers afterSpace (t :: ts) =
      (readParameters line.last modifiers false ts).prepend ds := by
  rw [readModifiers, if_neg (by simp [ht])]
  simp only [ht]
  exact ⟨_, rfl⟩

/-- Before the name, a token that is a new modifier is noted, and the reading goes on behind any token. -/
theorem readModifiers_word (line : Line) (visibility : Option Token) (modifiers : List Token) (afterSpace : Bool)
    {t : Token} (ht : t.kind ≠ .methodName) (ts : List Token) :
    ∃ ds visibility' modifiers' afterSpace', readModifiers line visibility modifiers afterSpace (t :: ts) =
        (readModifiers line visibility' modifiers' afterSpace' ts).prepend ds ∧
      ∀ name, modifiers'.any (·.reads name) = (modifiers.any (·.reads name) || hasModifier [t] name) := by
  have hother : t.kind ≠ .modifier → ∀ name, modifiers.any (·.reads name) =
      (modifiers.any (·.reads name) || hasModifier [t] name) := by
    intro hk name
    simp [hasModifier, hk]
  rw [readModifiers]
  by_cases hspace : t.kind = .space
  · rw [if_pos hspace]
    exact ⟨_, _, _, _, rfl, hother (by simp [hspace])⟩
  · rw [if_neg hspace]
    dsimp only
    split
    next hk =>
      split
      next => exact ⟨_, _, _, _, rfl, hother (by simp [hk])⟩
      next => exact ⟨_, _, _, _, rfl, hother (by simp [hk])⟩
    next hk =>
      split
      next first hfirst =>
        refine ⟨_, _, _, _, rfl, fun name => ?_⟩
        have hmem : first ∈ modifiers := List.mem_of_find?_eq_some hfirst
        have hsame : first.content = t.content := by simpa using List.find?_some hfirst
        have hreads : t.reads name = true → modifiers.any (·.reads name) = true := by
          intro hname
          rw [Token.reads, ← hsame] at hname
          exact List.any_eq_true.2 ⟨first, hmem, hname⟩
        cases hname : t.reads name with
        | false => simp [hasModifier, hname]
        | true => simp [hreads hname]
      next => exact ⟨_, _, _, _, rfl, fun name => by simp [hasModifier, hk]⟩
    next hk => exact absurd hk ht
    next hk _ => exact ⟨_, _, _, _, rfl, hother hk⟩

theorem returnType_readModifiers (line : Line) (visibility : Option Token) (modifiers : List Token) (afterSpace : Bool)
    (ts : List Token) :
    (readModifiers line visibility modifiers afterSpace ts).returnType =
      .ofTokens? (typeAmong? (tokensBehind Token.closes (tokensBehind (·.kind = .methodName) ts))) := by
  induction ts generalizing visibility modifiers afterSpace with
  | nil => rfl
  | cons t ts ih =>
    rw [tokensBehind_cons]
    by_cases ht : t.kind = .methodName
    · obtain ⟨ds, hread⟩ := readModifiers_name line visibility modifiers afterSpace ht ts
      rw [hread, if_pos (decide_eq_true ht), returnType_prepend, returnType_readParameters]
    · obtain ⟨ds, _, _, _, hread, -⟩ := readModifiers_word line visibility modifiers afterSpace ht ts
      rw [hread, if_neg (by simpa using ht), returnType_prepend, ih]

/-- **The return type of a declaration**, in which anything may be wrong. -/
theorem returnType_ofLine (l : Line) : (ofLine l).returnType = .ofTokens? l.declaredType? :=
  returnType_readModifiers l none [] false l.tail

/-! ## Modifiers -/

theorem modifiers_readReturnType (last : Token) (modifiers brackets : List Token) (flagged : Bool) (ts : List Token) :
    (readReturnType last modifiers brackets flagged ts).modifiers = modifiers := by
  fun_induction readReturnType last modifiers brackets flagged ts with
  | case1 => rfl
  | case2 _ _ _ _ _ ih => exact ih
  | case3 => rfl
  | case4 _ _ _ _ _ _ ih => exact ih

theorem modifiers_readParameters (last : Token) (modifiers : List Token) (flagged : Bool) (ts : List Token) :
    (readParameters last modifiers flagged ts).modifiers = modifiers := by
  fun_induction readParameters last modifiers flagged ts with
  | case1 => rfl
  | case2 => exact modifiers_readReturnType _ _ _ _ _
  | case3 _ _ _ _ _ ih => exact ih
  | case4 _ _ _ _ _ ih => exact ih

theorem any_modifiers_readModifiers (line : Line) (visibility : Option Token) (modifiers : List Token)
    (afterSpace : Bool) (ts : List Token) (name : String) :
    (readModifiers line visibility modifiers afterSpace ts).modifiers.any (·.reads name) =
      (modifiers.any (·.reads name) || hasModifier (ts.takeWhile (·.kind ≠ .methodName)) name) := by
  induction ts generalizing visibility modifiers afterSpace with
  | nil => simp [readModifiers, hasModifier]
  | cons t ts ih =>
    by_cases ht : t.kind = .methodName
    · obtain ⟨ds, hread⟩ := readModifiers_name line visibility modifiers afterSpace ht ts
      rw [hread, modifiers_prepend, modifiers_readParameters, List.takeWhile_cons_of_neg (by simp [ht])]
      simp [hasModifier]
    · obtain ⟨ds, _, _, _, hread, hmodifiers⟩ := readModifiers_word line visibility modifiers afterSpace ht ts
      rw [hread, modifiers_prepend, ih, hmodifiers, List.takeWhile_cons_of_pos (by simpa using ht)]
      simp [hasModifier, Bool.or_assoc]

/-- **The modifiers of a declaration**, in which anything may be wrong. -/
theorem has_ofLine (l : Line) (name : String) : (ofLine l).has name = l.hasModifier name := by
  unfold has ofLine
  rw [any_modifiers_readModifiers]
  simp [Line.hasModifier]

end Declaration

end SmaliLint
