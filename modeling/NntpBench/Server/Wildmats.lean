import NntpBench.Server.Selectors

namespace NntpBench.Server

open Protocol Terminator

/-- The pieces of a name that a character of a pattern stands for. -/
def StandsFor (c : Char) (piece : Str) : Prop :=
  if c = '*' then True else if c = '?' then piece.length = 1 else piece = [c]

/-- The name can be cut into pieces that the characters of the pattern stand for. -/
def PatternMatches (pattern name : Str) : Prop :=
  ∃ pieces, List.Forall₂ StandsFor pattern pieces ∧ pieces.flatten = name

theorem patternMatches_nil (name : Str) : PatternMatches [] name ↔ name = [] := by
  constructor
  · rintro ⟨pieces, hpieces, rfl⟩
    rw [List.forall₂_nil_left_iff.mp hpieces]
    rfl
  · intro hname
    exact ⟨[], .nil, hname.symm⟩

theorem patternMatches_cons (c : Char) (rest name : Str) :
    PatternMatches (c :: rest) name ↔
      ∃ piece after, StandsFor c piece ∧ PatternMatches rest after ∧ piece ++ after = name := by
  constructor
  · rintro ⟨pieces, hpieces, rfl⟩
    obtain ⟨piece, others, hpiece, hothers, rfl⟩ := List.forall₂_cons_left_iff.mp hpieces
    exact ⟨piece, others.flatten, hpiece, ⟨others, hothers, rfl⟩, rfl⟩
  · rintro ⟨piece, after, hpiece, ⟨others, hothers, rfl⟩, rfl⟩
    exact ⟨piece :: others, .cons hpiece hothers, rfl⟩

theorem patternMatches_star (rest name : Str) :
    PatternMatches ('*' :: rest) name ↔
      PatternMatches rest name ∨ ∃ c after, name = c :: after ∧
        PatternMatches ('*' :: rest) after := by
  have hstar : ∀ piece, StandsFor '*' piece := fun _ => trivial
  rw [patternMatches_cons]
  constructor
  · rintro ⟨piece, after, -, hafter, rfl⟩
    cases piece with
    | nil => exact .inl hafter
    | cons c piece =>
      right
      refine ⟨c, piece ++ after, rfl, ?_⟩
      rw [patternMatches_cons]
      exact ⟨piece, after, hstar piece, hafter, rfl⟩
  · rintro (hrest | ⟨c, after, rfl, hafter⟩)
    · exact ⟨[], name, hstar [], hrest, rfl⟩
    · obtain ⟨piece, behind, -, hbehind, rfl⟩ := (patternMatches_cons _ _ _).mp hafter
      exact ⟨c :: piece, behind, hstar _, hbehind, rfl⟩

theorem patternMatches_one {c : Char} (hc : c ≠ '*') (rest name : Str) :
    PatternMatches (c :: rest) name ↔
      ∃ actual after, name = actual :: after ∧ (c = '?' ∨ c = actual) ∧
        PatternMatches rest after := by
  rw [patternMatches_cons]
  simp only [StandsFor, if_neg hc]
  constructor
  · rintro ⟨piece, after, hpiece, hafter, rfl⟩
    split_ifs at hpiece with hone
    · obtain ⟨actual, rfl⟩ := List.length_eq_one_iff.mp hpiece
      exact ⟨actual, after, rfl, .inl hone, hafter⟩
    · subst hpiece
      exact ⟨c, after, rfl, .inr rfl, hafter⟩
  · rintro ⟨actual, after, rfl, hactual, hafter⟩
    refine ⟨[actual], after, ?_, hafter, rfl⟩
    split_ifs with hone
    · rfl
    · rw [hactual.resolve_left hone]

theorem wildmatPatternMatches_iff (pattern name : Str) :
    wildmatPatternMatches pattern name = true ↔ PatternMatches pattern name := by
  fun_induction wildmatPatternMatches pattern name with
  | case1 => simp [patternMatches_nil]
  | case2 c rest => simp [patternMatches_nil]
  | case3 rest ih =>
    rw [ih, patternMatches_star]
    simp
  | case4 rest c group ih ih' =>
    rw [Bool.or_eq_true, ih, ih', patternMatches_star rest (c :: group)]
    simp
  | case5 rest c group ih =>
    rw [ih, patternMatches_one (by decide)]
    simp
  | case6 expected rest actual group hstar hone ih =>
    have hone : expected ≠ '?' := hone
    rw [Bool.and_eq_true, beq_iff_eq, ih, patternMatches_one hstar]
    simp [hone]
  | case7 expected rest hstar =>
    rw [patternMatches_one hstar]
    simp

def isNegated (pattern : Str) : Bool := pattern.head? = some '!'

def stripNegation (pattern : Str) : Str := if isNegated pattern then pattern.tail else pattern

def wildmatStep (group : Str) (matched : Option Bool) (pattern : Str) : Option Bool :=
  if wildmatPatternMatches (stripNegation pattern) group then some (!isNegated pattern) else matched

theorem wildmatMatches_asBytes (patterns group : Str) :
    wildmatMatches (asBytes patterns) (asBytes group) =
      ((patterns.splitOn ',').foldl (wildmatStep group) none).getD false := by
  unfold wildmatMatches
  rw [show fromUtf8 (asBytes patterns) = some patterns from Utf8.decode_encode _,
    show fromUtf8 (asBytes group) = some group from Utf8.decode_encode _]
  have hstep : wildmatStep group = fun matched pattern =>
      if wildmatPatternMatches (if pattern.head? = some '!' then pattern.tail else pattern)
        group then
        some (!decide (pattern.head? = some '!'))
      else matched := by
    funext matched pattern
    simp [wildmatStep, stripNegation, isNegated]
  rw [hstep]

/-- After the loop stands the verdict of the rightmost pattern that matches, or what was there
before the loop if none does. -/
theorem foldl_wildmatStep (group : Str) (verdict : Bool) (patterns : List Str) :
    ∀ matched, patterns.foldl (wildmatStep group) matched = some verdict ↔
      (∃ before pattern after, patterns = before ++ pattern :: after ∧
        PatternMatches (stripNegation pattern) group ∧ (!isNegated pattern) = verdict ∧
        ∀ later ∈ after, ¬ PatternMatches (stripNegation later) group) ∨
      (matched = some verdict ∧ ∀ later ∈ patterns, ¬ PatternMatches (stripNegation later)
        group) := by
  induction patterns with
  | nil => simp
  | cons first rest ih =>
    intro matched
    have hfirst := wildmatPatternMatches_iff (stripNegation first) group
    rw [List.foldl_cons, ih]
    constructor
    · rintro (⟨before, pattern, after, rfl, hmatches⟩ | ⟨hstep, hrest⟩)
      · exact .inl ⟨first :: before, pattern, after, rfl, hmatches⟩
      · unfold wildmatStep at hstep
        split_ifs at hstep with hmatches
        · exact .inl ⟨[], first, rest, rfl, hfirst.mp hmatches, Option.some.inj hstep, hrest⟩
        · rw [hfirst] at hmatches
          exact .inr ⟨hstep, List.forall_mem_cons.mpr ⟨hmatches, hrest⟩⟩
    · rintro (⟨before, pattern, after, hsplit, hmatches, hverdict, hafter⟩ | ⟨hmatched, hnone⟩)
      · cases before with
        | nil =>
          obtain ⟨rfl, rfl⟩ := List.cons.inj hsplit
          right
          refine ⟨?_, hafter⟩
          rw [wildmatStep, if_pos (hfirst.mpr hmatches), hverdict]
        | cons _ before =>
          obtain ⟨rfl, rfl⟩ := List.cons.inj hsplit
          exact .inl ⟨before, pattern, after, rfl, hmatches, hverdict, hafter⟩
      · obtain ⟨hnot, hrest⟩ := List.forall_mem_cons.mp hnone
        right
        refine ⟨?_, hrest⟩
        rw [wildmatStep, if_neg (mt hfirst.mp hnot)]
        exact hmatched

/-- A wildmat takes a group exactly when its rightmost pattern that matches the whole name is not
negated. -/
theorem wildmat_decided_by_rightmost (wildmat : Wildmat) (group : Str) :
    wildmatMatches (asBytes wildmat.value) (asBytes group) = true ↔
      ∃ before pattern after, wildmat.value.splitOn ',' = before ++ pattern :: after ∧
        PatternMatches (stripNegation pattern) group ∧ isNegated pattern = false ∧
        ∀ later ∈ after, ¬ PatternMatches (stripNegation later) group := by
  have hsome : ∀ matched : Option Bool, matched.getD false = true ↔ matched = some true := by
    intro matched
    cases matched <;> simp
  rw [wildmatMatches_asBytes, hsome, foldl_wildmatStep]
  simp

example : wildmatMatches (ascii "alt.*,!alt.b?n") (ascii "alt.bin") = false := by decide +kernel

end NntpBench.Server
