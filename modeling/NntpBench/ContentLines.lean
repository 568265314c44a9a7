import NntpBench.ResponseContent
import NntpBench.Transfer

namespace NntpBench.Protocol

open Terminator

variable {lines : List Bytes} {transformation : BodyTransformation} {line : Bytes}

theorem wireLines_nil : wireLines [] = [] := rfl

theorem wireLines_append (lines lines' : List Bytes) :
    wireLines (lines ++ lines') = wireLines lines ++ wireLines lines' := by
  simp [wireLines]

theorem wireLines_eq_nil_iff : wireLines lines = [] ↔ lines = [] := by
  cases lines with
  | nil => simp [wireLines_nil]
  | cons line lines => simp [wireLines_cons]

theorem exists_append_of_wireLines {lines' : List Bytes} {rest : Bytes}
    (h : ∀ line ∈ lines, IsLineContent line) (h' : ∀ line ∈ lines', IsLineContent line)
    (heq : wireLines lines' = wireLines lines ++ rest) :
    ∃ more, lines' = lines ++ more ∧ rest = wireLines more := by
  induction lines generalizing lines' with
  | nil => exact ⟨lines', rfl, heq.symm⟩
  | cons line lines ih =>
    cases lines' with
    | nil => simp [wireLines_nil, wireLines_cons] at heq
    | cons line' lines' =>
      rw [List.forall_mem_cons] at h h'
      rw [wireLines_cons, wireLines_cons, List.append_assoc, List.cons_append, List.cons_append]
        at heq
      obtain ⟨hline, hrest⟩ := line_append_inj h'.1 h.1 heq
      obtain ⟨more, hmore, hwire⟩ := ih h.2 h'.2 hrest
      exact ⟨more, by rw [hline, hmore, List.cons_append], hwire⟩

theorem wireLines_inj {lines' : List Bytes} (h : ∀ line ∈ lines, IsLineContent line)
    (h' : ∀ line ∈ lines', IsLineContent line) (heq : wireLines lines = wireLines lines') :
    lines = lines' := by
  have hstart : wireLines lines' = wireLines lines ++ [] := by
    rw [heq, List.append_nil]
  obtain ⟨more, hmore, hnil⟩ := exists_append_of_wireLines h h' hstart
  rw [hmore, wireLines_eq_nil_iff.mp hnil.symm, List.append_nil]

section Loop

variable {ε σ : Type} {bad : ε}

theorem exists_wireLines_of_ok {step : σ → Bytes → Bytes → Except ε σ} {state final : σ}
    {content : Bytes} (h : forStrictLines bad step state content = .ok final) :
    ∃ lines, content = wireLines lines ∧ ∀ line ∈ lines, IsLineContent line := by
  -- What a loop gets through is a list of lines.
  induction hlength : content.length using Nat.strong_induction_on generalizing content state with
  | _ length ih =>
    by_cases hnil : content = []
    · exact ⟨[], hnil, by simp⟩
    · have hloop := h
      rw [forStrictLines_eq bad step state hnil] at h
      cases hend : strictCrlfLineContentEndFrom content 0 with
      | none => simp [hend] at h
      | some lineEnd =>
        obtain ⟨line, rest, rfl, hline, rfl⟩ := exists_line_of_strictCrlfLineContentEnd hend
        rw [forStrictLines_line bad step hline] at hloop
        split at hloop
        · have hshort : rest.length < length := by
            rw [← hlength, List.length_append, List.length_cons, List.length_cons]
            omega
          obtain ⟨lines, hrest, hlines⟩ := ih rest.length hshort hloop rfl
          refine ⟨line :: lines, ?_, ?_⟩
          · rw [wireLines_cons, ← hrest]
          · rw [List.forall_mem_cons]
            exact ⟨hline, hlines⟩
        · cases hloop

theorem forStrictLines_wireLines (step : σ → Bytes → Except ε σ)
    (h : ∀ line ∈ lines, IsLineContent line) (state : σ) :
    forStrictLines bad (fun state line _ => step state line) state (wireLines lines) =
      lines.foldlM step state := by
  induction lines generalizing state with
  | nil => rfl
  | cons line lines ih =>
    rw [List.forall_mem_cons] at h
    rw [wireLines_cons, forStrictLines_line _ _ h.1, List.foldlM_cons]
    cases step state line with
    | error error => rfl
    | ok next => exact ih h.2 next

theorem validateCrlfLines_wireLines (h : ∀ line ∈ lines, IsLineContent line) (init : σ)
    (validate : σ → Bytes → Option σ) :
    validateCrlfLines (wireLines lines) init validate =
      lines.foldlM (fun state line => if isBareDotLine line then none else validate state line)
        init := by
  unfold validateCrlfLines
  rw [forStrictLines_wireLines _ h]
  clear h
  induction lines generalizing init with
  | nil => rfl
  | cons line lines ih =>
    rw [List.foldlM_cons, List.foldlM_cons]
    split_ifs with hdot
    · rfl
    · cases validate init line with
      | none => rfl
      | some next => exact ih next

end Loop

theorem exists_wireLines_of_validateCrlfLines {σ : Type} {content : Bytes} {init final : σ}
    {validate : σ → Bytes → Option σ} (h : validateCrlfLines content init validate = some final) :
    ∃ lines, content = wireLines lines ∧ ∀ line ∈ lines, IsLineContent line := by
  unfold validateCrlfLines at h
  generalize hloop : forStrictLines _ _ init content = outcome at h
  cases outcome with
  | error error => cases h
  | ok state => exact exists_wireLines_of_ok hloop

theorem allCrlfLines_wireLines (h : ∀ line ∈ lines, IsLineContent line) (validate : Bytes → Bool) :
    allCrlfLines (wireLines lines) validate =
      lines.all fun line => !isBareDotLine line && validate line := by
  unfold allCrlfLines
  rw [validateCrlfLines_wireLines h]
  clear h
  induction lines with
  | nil => rfl
  | cons line lines ih =>
    rw [List.foldlM_cons, List.all_cons]
    by_cases hdot : isBareDotLine line = true
    · simp [hdot]
    · rw [Bool.not_eq_true] at hdot
      by_cases hvalid : validate line = true
      · simpa [hdot, hvalid] using ih
      · simp [hdot, hvalid]

theorem nul_mem_wireLines : NUL ∈ wireLines lines ↔ ∃ line ∈ lines, NUL ∈ line := by
  unfold wireLines
  simp only [List.mem_flatMap, List.mem_append]
  constructor
  · rintro ⟨line, hline, hmem | hmem⟩
    · exact ⟨line, hline, hmem⟩
    · exact absurd hmem (by decide)
  · rintro ⟨line, hline, hmem⟩
    exact ⟨line, hline, Or.inl hmem⟩

def bodyStep (transformation : BodyTransformation) (line : Bytes) :
    Except ArticleParseError BodyTransformation :=
  if ascii "." <+: line then
    if ascii ".." <+: line then .ok .unstuff else .error .invalidBody
  else .ok transformation

theorem foldlM_bodyStep_iff (h : ∀ line ∈ lines, IsLineContent line) (first : BodyTransformation) :
    lines.foldlM bodyStep first = .ok transformation ↔
      (∀ line ∈ lines, WireLine line) ∧
        transformation = if lines.any fun line => ascii "." <+: line then .unstuff else first := by
  induction lines generalizing first with
  | nil => simp [pure, Except.pure, eq_comm]
  | cons line lines ih =>
    rw [List.forall_mem_cons] at h
    rw [List.foldlM_cons, List.any_cons, List.forall_mem_cons]
    by_cases hdot : ascii "." <+: line
    · by_cases htwo : ascii ".." <+: line
      · have hwire : WireLine line := ⟨h.1, fun _ => htwo⟩
        have hrest := ih h.2 .unstuff
        simp only [ite_self] at hrest
        simp only [bodyStep, hdot, htwo, if_true, decide_true, Bool.true_or, hwire, true_and]
        exact hrest
      · have hwire : ¬ WireLine line := fun hline => htwo (hline.stuffed hdot)
        simp only [bodyStep, hdot, htwo, if_true, if_false, hwire, false_and, iff_false]
        exact nofun
    · have hwire : WireLine line := ⟨h.1, fun hstart => absurd hstart hdot⟩
      simp only [bodyStep, hdot, if_false, decide_false, Bool.false_or, hwire, true_and]
      exact ih h.2 first

theorem validateBodyContent_wireLines_iff (h : ∀ line ∈ lines, IsLineContent line) :
    validateBodyContent (wireLines lines) = .ok transformation ↔
      (∀ line ∈ lines, WireLine line) ∧ (∀ line ∈ lines, NUL ∉ line) ∧
        transformation = if lines.any fun line => ascii "." <+: line then .unstuff else .none := by
  have hnul : NUL ∈ wireLines lines ↔ ¬ ∀ line ∈ lines, NUL ∉ line := by
    rw [nul_mem_wireLines]
    push Not
    rfl
  have hloop : forStrictLines .invalidBody (fun transformation line _ =>
    bodyStep transformation line)
      .none (wireLines lines) = .ok transformation ↔ _ :=
    forStrictLines_wireLines bodyStep h .none ▸ foldlM_bodyStep_iff h .none
  unfold validateBodyContent
  by_cases hmem : NUL ∈ wireLines lines
  · have hnot := hnul.mp hmem
    simp only [hmem, if_true, hnot, false_and, and_false, iff_false]
    exact nofun
  · have hclean := not_not.mp (mt hnul.mpr hmem)
    rw [if_neg hmem, and_iff_right hclean]
    exact hloop

theorem WireLine.exists_stuffLine (h : WireLine line) :
    ∃ raw, line = stuffLine raw ∧ IsLineContent raw := by
  by_cases hdot : ascii "." <+: line
  · obtain ⟨rest, rfl⟩ := h.stuffed hdot
    refine ⟨ascii "." ++ rest, ?_, ?_⟩
    · rw [stuffLine, if_pos (List.prefix_append _ _)]
      rfl
    · have hcontent := (isLineContent_append.mp h.content).2
      exact isLineContent_append.mpr ⟨by decide, hcontent⟩
  · exact ⟨line, by rw [stuffLine, if_neg hdot], h.content⟩

theorem exists_map_stuffLine (h : ∀ line ∈ lines, WireLine line) :
    ∃ raw : List Bytes, lines = raw.map stuffLine ∧ ∀ line ∈ raw, IsLineContent line := by
  induction lines with
  | nil => exact ⟨[], rfl, by simp⟩
  | cons line lines ih =>
    rw [List.forall_mem_cons] at h
    obtain ⟨first, hfirst, hcontent⟩ := h.1.exists_stuffLine
    obtain ⟨raw, hraw, hlines⟩ := ih h.2
    refine ⟨first :: raw, by rw [List.map_cons, ← hfirst, ← hraw], ?_⟩
    rw [List.forall_mem_cons]
    exact ⟨hcontent, hlines⟩

theorem stuffLine_of_not_dot (h : ¬ ascii "." <+: line) : stuffLine line = line :=
  if_neg h

theorem dot_stuffLine_iff : ascii "." <+: stuffLine line ↔ ascii "." <+: line := by
  unfold stuffLine
  split_ifs with hdot
  · exact ⟨fun _ => hdot, fun _ => List.prefix_append _ _⟩
  · exact Iff.rfl

theorem wireLine_of_stuffed (h : ∀ line ∈ lines, IsLineContent line) :
    ∀ line ∈ lines.map stuffLine, WireLine line := by
  intro line hline
  obtain ⟨raw, hraw, rfl⟩ := List.mem_map.mp hline
  exact wireLine_stuffLine (h raw hraw)

theorem isLineContent_of_stuffed (h : ∀ line ∈ lines, IsLineContent line) :
    ∀ line ∈ lines.map stuffLine, IsLineContent line :=
  fun line hline => (wireLine_of_stuffed h line hline).content

theorem materializeBody_stuffed (h : ∀ line ∈ lines, IsLineContent line)
    (hvalid : validateBodyContent (wireLines (lines.map stuffLine)) = .ok transformation) :
    materializeBody (wireLines (lines.map stuffLine)) transformation = wireLines lines := by
  obtain ⟨-, -, rfl⟩ :=
    (validateBodyContent_wireLines_iff (isLineContent_of_stuffed h)).mp hvalid
  cases hany : (lines.map stuffLine).any fun line => ascii "." <+: line with
  | true => exact unstuff_wireLines h
  | false =>
    have hsame : lines.map stuffLine = lines := by
      rw [List.any_eq_false] at hany
      nth_rewrite 2 [← List.map_id lines]
      apply List.map_congr_left
      intro line hline
      apply stuffLine_of_not_dot
      rw [← dot_stuffLine_iff]
      simpa using hany _ (List.mem_map_of_mem hline)
    rw [hsame]
    rfl

theorem payloadLinesFrom_line (h : IsLineContent line) (before rest : Bytes) :
    payloadLinesFrom before (line ++ CR :: LF :: rest) =
      (before ++ line) :: payloadLinesFrom [] rest := by
  induction line generalizing before with
  | nil => simp [payloadLinesFrom]
  | cons byte line ih =>
    obtain ⟨hcr, hlf, hline⟩ := isLineContent_cons.mp h
    rw [List.cons_append, payloadLinesFrom.eq_def]
    simp only [hcr, hlf, if_false, ih hline, List.append_assoc, List.singleton_append]

theorem crlfNormalizedPayloadLines_wireLines (h : ∀ line ∈ lines, IsLineContent line)
    (rest : Bytes) :
    crlfNormalizedPayloadLines (wireLines lines ++ rest) =
      lines ++ crlfNormalizedPayloadLines rest := by
  unfold crlfNormalizedPayloadLines
  induction lines with
  | nil => rfl
  | cons line lines ih =>
    rw [List.forall_mem_cons] at h
    rw [wireLines_cons, List.append_assoc, List.cons_append, List.cons_append,
      payloadLinesFrom_line h.1, ih h.2, List.nil_append, List.cons_append]

end NntpBench.Protocol
