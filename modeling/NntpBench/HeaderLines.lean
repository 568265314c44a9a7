import NntpBench.ContentLines
import NntpBench.InitialLine

namespace NntpBench.Protocol

open Terminator

variable {name value line after : Bytes} {lines : List Bytes} {before : Bool}

/-- The iterator holds the bytes from its position on. -/
structure HeaderIter where
  data : Bytes
  deriving DecidableEq, Repr

namespace HeaderIter

/-- One round of `next`: a line is passed over, or it ends the search. -/
def nextLine (line after : Bytes) : Except (Option ((Bytes × Bytes) × HeaderIter)) Unit :=
  match line with
  | [] => .ok ()
  | first :: _ =>
    if isBlank first then .ok ()
    else
      match memchr 58 line with
      | none => .error none
      | some colonPos =>
        .error (some ((line.take colonPos, (line.drop (colonPos + 1)).dropWhile isBlank), ⟨after⟩))

def next (self : HeaderIter) : Option ((Bytes × Bytes) × HeaderIter) :=
  match forStrictLines none (fun _ line after => nextLine line after) () self.data with
  | .ok () => none
  | .error found => found

end HeaderIter

def Headers.iter (self : Headers) : HeaderIter := ⟨self.data⟩

theorem exists_line_of_error {ε σ : Type} {bad : ε} {step : σ → Bytes → Bytes → Except ε σ}
    {state : σ} {data : Bytes} {e : ε} (h : forStrictLines bad step state data = .error e) :
    e = bad ∨ ∃ state line after,
      step state line after = .error e ∧ IsLineContent line ∧ after.length < data.length := by
  -- What ends a loop early ended it in front of the bytes after a line.
  induction hlength : data.length using Nat.strong_induction_on generalizing data state with
  | _ length ih =>
    by_cases hnil : data = []
    · rw [hnil, forStrictLines_nil] at h
      cases h
    · have hloop := h
      rw [forStrictLines_eq bad step state hnil] at h
      cases hend : strictCrlfLineContentEndFrom data 0 with
      | none =>
        rw [hend] at h
        exact Or.inl (Except.error.inj h).symm
      | some lineEnd =>
        obtain ⟨line, rest, rfl, hline, rfl⟩ := exists_line_of_strictCrlfLineContentEnd hend
        have hshort : rest.length < length := by
          rw [← hlength, List.length_append, List.length_cons, List.length_cons]
          omega
        rw [forStrictLines_line bad step hline] at hloop
        cases hstep : step state line rest with
        | error found =>
          rw [hstep] at hloop
          cases hloop
          exact Or.inr ⟨state, line, rest, hstep, hline, hshort⟩
        | ok next =>
          rw [hstep] at hloop
          rcases ih rest.length hshort hloop rfl with hbad | ⟨state, line, after, hstep, hline, hlt⟩
          · exact Or.inl hbad
          · exact Or.inr ⟨state, line, after, hstep, hline, hlt.trans hshort⟩

theorem HeaderIter.length_next {self rest : HeaderIter} {pair : Bytes × Bytes}
    (h : self.next = some (pair, rest)) : rest.data.length < self.data.length := by
  unfold next at h
  split at h
  · cases h
  · next found hfound =>
    rw [h] at hfound
    rcases exists_line_of_error hfound with hbad | ⟨-, line, after, hstep, -, hlt⟩
    · cases hbad
    · unfold nextLine at hstep
      split at hstep
      · cases hstep
      · split_ifs at hstep
        split at hstep
        · cases hstep
        · cases hstep
          exact hlt

def HeaderIter.collect (self : HeaderIter) : List (Bytes × Bytes) :=
  match _h : self.next with
  | none => []
  | some (pair, rest) => pair :: rest.collect
termination_by self.data.length
decreasing_by exact length_next _h

def isFold (line : Bytes) : Bool := line.head?.any isBlank

def isFieldLine (line : Bytes) : Bool := line ≠ [] && !isFold line

def fieldName (line : Bytes) : Bytes := line.takeWhile (· ≠ 58)

def fieldValue (line : Bytes) : Bytes :=
  (line.drop ((fieldName line).length + 1)).dropWhile isBlank

structure ValidName (name : Bytes) : Prop where
  ne_nil : name ≠ []
  visible : ∀ byte ∈ name, 33 ≤ byte ∧ byte ≤ 126
  colon : 58 ∉ name

theorem ValidName.not_blank (h : ValidName name) :
    ∀ byte ∈ name, isBlank byte = false := by
  intro byte hbyte
  have hvisible := (h.visible byte hbyte).1
  rw [Bool.eq_false_iff]
  intro hblank
  rcases (by simpa [isBlank] using hblank : byte = SP ∨ byte = HT) with rfl | rfl
  · exact absurd hvisible (by decide)
  · exact absurd hvisible (by decide)

section Field

variable {name : Bytes} (h : ValidName name) (value : Bytes)
include h

theorem fieldName_field : fieldName (name ++ 58 :: value) = name := by
  unfold fieldName
  have hname : ∀ byte ∈ name, decide (byte ≠ 58) = true := by
    intro byte hbyte
    rw [decide_eq_true_eq]
    rintro rfl
    exact h.colon hbyte
  rw [List.takeWhile_append_of_pos hname]
  simp

theorem fieldValue_field : fieldValue (name ++ 58 :: value) = value.dropWhile isBlank := by
  unfold fieldValue
  rw [fieldName_field h, ← List.drop_drop, List.drop_left]
  rfl

theorem memchr_field : memchr 58 (name ++ 58 :: value) = some name.length :=
  memchr_append_cons h.colon value

theorem isFold_field : isFold (name ++ 58 :: value) = false := by
  unfold isFold
  match name, h with
  | first :: name, h => exact h.not_blank first List.mem_cons_self

theorem isFieldLine_field : isFieldLine (name ++ 58 :: value) = true := by
  rw [isFieldLine, isFold_field h]
  simp

end Field

theorem validateHeaderLine_field (hname : ValidName name) (scan : HeaderScan) (after : Bytes) :
    validateHeaderLine scan (name ++ 58 :: value) after =
      if value = [] then
        if after.head? = some SP then
          .ok { scan with pos := scan.pos + (name ++ 58 :: value).length + 2, hasHeader := true }
        else .error (.invalidHeader .missingSpaceAfterColon)
      else if value.head? ≠ some SP then .error (.invalidHeader .missingSpaceAfterColon)
      else if NUL ∈ value.drop 1 then .error (.invalidHeader .invalidContent)
      else .ok
        { scan with pos := scan.pos + (name ++ 58 :: value).length + 2, hasHeader := true } := by
  -- The check of a field line.
  have hfold := isFold_field hname value
  have hmemchr := memchr_field hname value
  have hlength : name.length ≠ 0 := by
    simpa using hname.ne_nil
  have hbytes : (name.any fun byte => isBlank byte || !(33 ≤ byte && byte ≤ 126)) = false := by
    rw [List.any_eq_false]
    intro byte hbyte
    have hvisible := hname.visible byte hbyte
    simp [hname.not_blank byte hbyte, hvisible]
  have htake : (name ++ 58 :: value).take name.length = name := List.take_left
  have hget : (name ++ 58 :: value)[name.length + 1]? = value.head? := by
    rw [List.getElem?_append_right (by omega), Nat.add_sub_cancel_left, List.getElem?_cons_succ,
      List.head?_eq_getElem?]
  have hdrop : (name ++ 58 :: value).drop (name.length + 2) = value.drop 1 := by
    rw [← List.drop_drop, List.drop_left]
    rfl
  have hend : name.length + 1 = (name ++ 58 :: value).length ↔ value = [] := by
    rw [List.length_append, List.length_cons, ← List.length_eq_zero_iff]
    omega
  generalize hline : name ++ 58 :: value = line at *
  match line, hline with
  | [], hline => simp at hline
  | first :: rest, hline =>
    have hfirst : isBlank first = false := hfold
    unfold validateHeaderLine
    simp only [hfirst, Bool.false_eq_true, if_false, hmemchr, hlength, htake, hbytes, hend, hget,
      hdrop, length_crlf]

theorem exists_field_of_ok {scan next : HeaderScan} (hline : isFieldLine line = true)
    (h : validateHeaderLine scan line after = .ok next) :
    ∃ name value, line = name ++ 58 :: value ∧ ValidName name := by
  -- A line that is a field and passes its check has a name and a value.
  unfold validateHeaderLine at h
  match line, hline with
  | [], hline => cases hline
  | first :: rest, hline =>
    have hfirst : isBlank first = false := by
      simpa [isFieldLine, isFold] using hline
    simp only [hfirst, Bool.false_eq_true, if_false] at h
    cases hmemchr : memchr 58 (first :: rest) with
    | none =>
      rw [hmemchr] at h
      cases h
    | some colonPos =>
      simp only [hmemchr] at h
      obtain ⟨name, value, hsplit, hlength, hcolon⟩ := memchr_eq_some_iff.mp hmemchr
      rw [hsplit, ← hlength, List.take_left] at h
      split_ifs at h with hempty hbytes
      all_goals
        refine ⟨name, value, hsplit, ?_, ?_, hcolon⟩
        · rintro rfl
          exact hempty rfl
        · intro byte hbyte
          rw [Bool.not_eq_true, List.any_eq_false] at hbytes
          have hvisible := hbytes byte hbyte
          simp only [Bool.or_eq_true, not_or, Bool.not_eq_true, Bool.not_eq_false',
            Bool.and_eq_true, decide_eq_true_eq] at hvisible
          exact hvisible.2

/-- A value is behind its colon and a space, or it is on a continuation line. -/
structure FieldParts (line after name value : Bytes) : Prop where
  line_eq : line = name ++ 58 :: value
  name : ValidName name
  space : if value = [] then after.head? = some SP else value.head? = some SP
  nul : NUL ∉ value

/-- A line that `validate_headers` accepts in front of the bytes `after`; `before` says whether a
line stands before it. -/
def CheckedLine (before : Bool) (line after : Bytes) : Prop :=
  if line = [] then True
  else if isFold line then before = true ∧ line.all isBlank = false ∧ NUL ∉ line
  else ∃ name value, FieldParts line after name value

def HeaderLines : Bool → List Bytes → Prop
  | _, [] => True
  | before, line :: lines => CheckedLine before line (wireLines lines) ∧ HeaderLines true lines

def HeaderScan.pass (self : HeaderScan) (line : Bytes) : HeaderScan :=
  { pos := self.pos + line.length + 2
    hasHeader := self.hasHeader || isFieldLine line
    transformation := if isFold line then .unfold else self.transformation }

theorem validateHeaderLine_eq_ok_iff {scan next : HeaderScan} :
    validateHeaderLine scan line after = .ok next ↔
      CheckedLine (scan.pos ≠ 0) line after ∧ next = scan.pass line := by
  unfold CheckedLine HeaderScan.pass
  by_cases hnil : line = []
  · subst hnil
    simp [validateHeaderLine, isFieldLine, isFold, eq_comm]
  rw [if_neg hnil]
  by_cases hfold : isFold line = true
  · -- a continuation line
    have hfield : isFieldLine line = false := by
      simp [isFieldLine, hfold]
    rw [if_pos hfold, if_pos hfold, hfield, Bool.or_false]
    match line, hfold with
    | first :: rest, hfold =>
      have hfirst : isBlank first = true := hfold
      unfold validateHeaderLine
      simp only [hfirst, if_true]
      by_cases hpos : scan.pos = 0
      · simp [hpos]
      by_cases htext : (first :: rest).all isBlank = true
      · simp [hpos, htext]
      by_cases hnul : NUL ∈ first :: rest
      · simp [hpos, htext, hnul]
      · rw [if_neg hpos, if_neg htext, if_neg hnul]
        have hchecked : decide (scan.pos ≠ 0) = true ∧ (first :: rest).all isBlank = false ∧
            NUL ∉ first :: rest :=
          ⟨decide_eq_true hpos, Bool.eq_false_iff.mpr htext, hnul⟩
        simp [hchecked, eq_comm]
  · -- a field
    rw [if_neg hfold, if_neg hfold]
    have hfield : isFieldLine line = true := by
      simp [isFieldLine, hfold, hnil]
    rw [hfield, Bool.or_true]
    constructor
    · intro h
      obtain ⟨name, value, rfl, hname⟩ := exists_field_of_ok hfield h
      rw [validateHeaderLine_field hname] at h
      split_ifs at h with hvalue hspace hspace hnul
      · refine ⟨⟨name, value, rfl, hname, by rw [if_pos hvalue]; exact hspace, ?_⟩, ?_⟩
        · simp [hvalue]
        · exact (Except.ok.inj h).symm
      · rw [not_not] at hspace
        refine ⟨⟨name, value, rfl, hname, by rw [if_neg hvalue]; exact hspace, ?_⟩, ?_⟩
        · match value, hspace with
          | first :: rest, hspace =>
            obtain rfl : first = SP := by simpa using hspace
            rw [List.mem_cons, not_or]
            exact ⟨by decide, hnul⟩
        · exact (Except.ok.inj h).symm
    · rintro ⟨⟨name, value, rfl, hname, hspace, hnul⟩, rfl⟩
      rw [validateHeaderLine_field hname]
      by_cases hvalue : value = []
      · rw [if_pos hvalue] at hspace
        rw [if_pos hvalue, if_pos hspace]
      · rw [if_neg hvalue] at hspace
        have hdrop : NUL ∉ value.drop 1 := fun hmem => hnul (List.mem_of_mem_drop hmem)
        rw [if_neg hvalue, if_neg (not_not.mpr hspace), if_neg hdrop]

theorem forStrictLines_headers_iff (h : ∀ line ∈ lines, IsLineContent line) (scan : HeaderScan)
    {final : HeaderScan} :
    forStrictLines .bufferTooShort validateHeaderLine scan (wireLines lines) = .ok final ↔
      HeaderLines (scan.pos ≠ 0) lines ∧ final = lines.foldl HeaderScan.pass scan := by
  induction lines generalizing scan with
  | nil => simp [wireLines_nil, HeaderLines, eq_comm]
  | cons line lines ih =>
    rw [List.forall_mem_cons] at h
    rw [wireLines_cons, forStrictLines_line _ _ h.1, HeaderLines, List.foldl_cons]
    have hpass : (scan.pass line).pos ≠ 0 := by
      unfold HeaderScan.pass
      dsimp only
      omega
    have hrest := ih h.2 (scan.pass line)
    simp only [hpass, ne_eq, not_false_eq_true, decide_true] at hrest
    cases hstep : validateHeaderLine scan line (wireLines lines) with
    | error e =>
      have hnot : ¬ CheckedLine (scan.pos ≠ 0) line (wireLines lines) := by
        intro hchecked
        have hok := validateHeaderLine_eq_ok_iff.mpr ⟨hchecked, rfl⟩
        rw [hstep] at hok
        cases hok
      constructor
      · intro herror
        cases herror
      · intro hlines
        exact absurd hlines.1.1 hnot
    | ok next =>
      obtain ⟨hchecked, rfl⟩ := validateHeaderLine_eq_ok_iff.mp hstep
      dsimp only
      rw [hrest]
      simp only [hchecked, true_and]

theorem foldl_pass (lines : List Bytes) (scan : HeaderScan) :
    (lines.foldl HeaderScan.pass scan).hasHeader = (scan.hasHeader || lines.any isFieldLine) ∧
      (lines.foldl HeaderScan.pass scan).transformation =
        if lines.any isFold then .unfold else scan.transformation := by
  induction lines generalizing scan with
  | nil => simp
  | cons line lines ih =>
    rw [List.foldl_cons, (ih _).1, (ih _).2, List.any_cons, List.any_cons]
    unfold HeaderScan.pass
    refine ⟨Bool.or_assoc _ _ _, ?_⟩
    cases isFold line with
    | false => rw [Bool.false_or]; rfl
    | true => simp

theorem validateHeaders_wireLines_iff (h : ∀ line ∈ lines, IsLineContent line)
    {transformation : HeaderTransformation} :
    validateHeaders (wireLines lines) = .ok transformation ↔
      HeaderLines false lines ∧ lines.any isFieldLine = true ∧
        transformation = if lines.any isFold then .unfold else .none := by
  -- The header blocks that `validate_headers` accepts.
  have hfold := foldl_pass lines ⟨0, false, .none⟩
  have hiff := @forStrictLines_headers_iff lines h ⟨0, false, .none⟩
  rw [Bool.false_or] at hfold
  have hstart : decide ((⟨0, false, .none⟩ : HeaderScan).pos ≠ 0) = false := rfl
  rw [hstart] at hiff
  unfold validateHeaders
  constructor
  · intro hvalid
    cases hloop : forStrictLines .bufferTooShort validateHeaderLine ⟨0, false, .none⟩
        (wireLines lines) with
    | error e =>
      rw [hloop] at hvalid
      cases hvalid
    | ok final =>
      obtain ⟨hlines, rfl⟩ := hiff.mp hloop
      simp only [hloop, hfold.1] at hvalid
      split_ifs at hvalid with hfield
      exact ⟨hlines, hfield, (Except.ok.inj hvalid).symm.trans hfold.2⟩
  · rintro ⟨hlines, hfield, rfl⟩
    rw [hiff.mpr ⟨hlines, rfl⟩]
    dsimp only
    rw [if_pos (hfold.1.trans hfield), hfold.2]

/-- The lines from a current line on, with every continuation joined to the line before it. -/
def joinFolds : Bytes → List Bytes → List Bytes
  | current, [] => [current]
  | current, line :: lines =>
    if isFold line then joinFolds (current ++ SP :: line.dropWhile isBlank) lines
    else current :: joinFolds line lines

def unfoldedLines : List Bytes → List Bytes
  | [] => []
  | line :: lines => joinFolds line lines

theorem unfoldFrom_of_ne {byte : UInt8} {folding : Bool} (hbyte : byte ≠ CR)
    (hfolding : (folding && isBlank byte) = false) (rest : Bytes) :
    unfoldFrom folding (byte :: rest) = byte :: unfoldFrom false rest := by
  rw [unfoldFrom.eq_def]
  simp only [hfolding, Bool.false_eq_true, if_false]
  match rest with
  | [] => rfl
  | [_] => rfl
  | c :: d :: after => simp [hbyte]

theorem unfoldFrom_crlf {rest : Bytes} (h : isFold rest = false) :
    unfoldFrom false (CR :: LF :: rest) = CR :: LF :: unfoldFrom false rest := by
  rw [unfoldFrom.eq_def]
  match rest, h with
  | [], _ => rfl
  | d :: after, h =>
    have hblank : isBlank d = false := h
    simp only [hblank, Bool.and_false, Bool.false_and, Bool.false_eq_true, if_false]
    rw [unfoldFrom_of_ne (by decide) rfl]

theorem unfoldFrom_line (h : IsLineContent line) (rest : Bytes) :
    unfoldFrom false (line ++ rest) = line ++ unfoldFrom false rest := by
  induction line with
  | nil => rfl
  | cons byte line ih =>
    obtain ⟨hcr, -, hline⟩ := isLineContent_cons.mp h
    rw [List.cons_append, unfoldFrom_of_ne hcr rfl, ih hline, List.cons_append]

theorem unfoldFrom_fold (h : IsLineContent line) (rest : Bytes) :
    unfoldFrom true (line ++ CR :: rest) = line.dropWhile isBlank ++
      unfoldFrom false (CR :: rest) := by
  induction line with
  | nil =>
    rw [List.nil_append, List.dropWhile_nil, List.nil_append, unfoldFrom.eq_def, unfoldFrom.eq_def]
    simp [show isBlank CR = false by decide]
  | cons byte line ih =>
    obtain ⟨hcr, -, hline⟩ := isLineContent_cons.mp h
    cases hblank : isBlank byte with
    | true =>
      rw [List.cons_append, unfoldFrom.eq_def, List.dropWhile_cons_of_pos hblank, ← ih hline]
      simp [hblank]
    | false =>
      rw [List.cons_append, unfoldFrom_of_ne hcr (by simp [hblank]), unfoldFrom_line hline,
        List.dropWhile_cons_of_neg (by simp [hblank]), List.cons_append]

theorem isLineContent_dropWhile (h : IsLineContent line) :
    IsLineContent (line.dropWhile isBlank) :=
  ⟨fun hmem => h.1 ((List.dropWhile_sublist _).mem hmem),
    fun hmem => h.2 ((List.dropWhile_sublist _).mem hmem)⟩

theorem isLineContent_join {current : Bytes} (hcurrent : IsLineContent current)
    (hline : IsLineContent line) : IsLineContent (current ++ SP :: line.dropWhile isBlank) := by
  rw [isLineContent_append, isLineContent_cons]
  exact ⟨hcurrent, by decide, by decide, isLineContent_dropWhile hline⟩

theorem isFold_wireLines_cons (line : Bytes) (lines : List Bytes) :
    isFold (wireLines (line :: lines)) = isFold line := by
  rw [wireLines_cons]
  cases line with
  | nil => rfl
  | cons first rest => rfl

theorem unfoldFrom_wireLines {current : Bytes} (hcurrent : IsLineContent current)
    (hlines : ∀ line ∈ lines, IsLineContent line) :
    unfoldFrom false (wireLines (current :: lines)) = wireLines (joinFolds current lines) := by
  induction lines generalizing current with
  | nil =>
    rw [wireLines_cons, unfoldFrom_line hcurrent, joinFolds, wireLines_cons]
    rfl
  | cons line lines ih =>
    rw [List.forall_mem_cons] at hlines
    rw [wireLines_cons, unfoldFrom_line hcurrent, joinFolds]
    cases hfold : isFold line with
    | true =>
      -- the line end and the blanks become one space
      have hnext := ih (isLineContent_join hcurrent hlines.1) hlines.2
      rw [wireLines_cons, unfoldFrom_line (isLineContent_join hcurrent hlines.1)] at hnext
      rw [if_pos rfl, ← hnext, wireLines_cons, List.append_assoc]
      match line, hfold, hlines.1 with
      | first :: rest, hfold, hline =>
        have hblank : isBlank first = true := hfold
        have hrest := (isLineContent_cons.mp hline).2.2
        have hstep : unfoldFrom false (CR :: LF :: (first :: rest ++ CR :: LF :: wireLines lines)) =
            SP :: unfoldFrom true (rest ++ CR :: LF :: wireLines lines) := by
          rw [unfoldFrom.eq_def]
          simp [hblank]
        rw [hstep, unfoldFrom_fold hrest, List.dropWhile_cons_of_pos hblank, List.cons_append]
    | false =>
      have hrest : isFold (wireLines (line :: lines)) = false := by
        rw [isFold_wireLines_cons, hfold]
      rw [unfoldFrom_crlf hrest, ih hlines.1 hlines.2, if_neg (by decide), wireLines_cons]

theorem unfoldHeaderContinuations_wireLines (h : ∀ line ∈ lines, IsLineContent line) :
    unfoldHeaderContinuations (wireLines lines) = wireLines (unfoldedLines lines) := by
  cases lines with
  | nil => rfl
  | cons line lines =>
    rw [List.forall_mem_cons] at h
    exact unfoldFrom_wireLines h.1 h.2

theorem joinFolds_of_none {current : Bytes} (h : lines.any isFold = false) :
    joinFolds current lines = current :: lines := by
  induction lines generalizing current with
  | nil => rfl
  | cons line lines ih =>
    rw [List.any_cons, Bool.or_eq_false_iff] at h
    rw [joinFolds, h.1, if_neg (by decide), ih h.2]

theorem isLineContent_joinFolds {current : Bytes} (hcurrent : IsLineContent current)
    (hlines : ∀ line ∈ lines, IsLineContent line) :
    ∀ line ∈ joinFolds current lines, IsLineContent line := by
  induction lines generalizing current with
  | nil => simpa [joinFolds] using hcurrent
  | cons line lines ih =>
    rw [List.forall_mem_cons] at hlines
    rw [joinFolds]
    split_ifs
    · exact ih (isLineContent_join hcurrent hlines.1) hlines.2
    · rw [List.forall_mem_cons]
      exact ⟨hcurrent, ih hlines.1 hlines.2⟩

theorem isLineContent_unfoldedLines (h : ∀ line ∈ lines, IsLineContent line) :
    ∀ line ∈ unfoldedLines lines, IsLineContent line := by
  cases lines with
  | nil => exact h
  | cons line lines =>
    rw [List.forall_mem_cons] at h
    exact isLineContent_joinFolds h.1 h.2

theorem Headers.parse_wireLines_iff (h : ∀ line ∈ lines, IsLineContent line) {headers : Headers} :
    Headers.parse (wireLines lines) = .ok headers ↔
      HeaderLines false lines ∧ lines.any isFieldLine = true ∧
        headers.data = wireLines (unfoldedLines lines) := by
  -- A parsed header block is its unfolded lines.
  have hdata : (Headers.fromTransformation (wireLines lines)
      (if lines.any isFold then .unfold else .none)).data = wireLines (unfoldedLines lines) := by
    cases hfold : lines.any isFold with
    | true => exact unfoldHeaderContinuations_wireLines h
    | false =>
      cases lines with
      | nil => rfl
      | cons line lines =>
        rw [List.any_cons, Bool.or_eq_false_iff] at hfold
        rw [unfoldedLines, joinFolds_of_none hfold.2]
        rfl
  unfold Headers.parse
  constructor
  · intro hparse
    obtain ⟨transformation, hvalid, hok⟩ := ExceptBind.bind_eq_ok.mp hparse
    obtain ⟨hlines, hfield, rfl⟩ := (validateHeaders_wireLines_iff h).mp hvalid
    refine ⟨hlines, hfield, ?_⟩
    rw [← hdata, ← Except.ok.inj hok]
  · rintro ⟨hlines, hfield, hheaders⟩
    have hvalid := (validateHeaders_wireLines_iff h).mpr ⟨hlines, hfield, rfl⟩
    rw [hvalid, ExceptBind.ok_bind]
    rw [← hdata] at hheaders
    exact congrArg Except.ok (congrArg Headers.mk hheaders.symm)

/-- No continuation stands directly behind an empty line. -/
def FoldsAttached (lines : List Bytes) : Prop :=
  lines.IsChain fun line next => ¬ (line = [] ∧ isFold next = true)

instance (lines : List Bytes) : Decidable (FoldsAttached lines) :=
  inferInstanceAs (Decidable (lines.IsChain fun line next => ¬ (line = [] ∧ isFold next = true)))

theorem foldsAttached_cons_of_ne (h : line ≠ []) (lines : List Bytes) :
    FoldsAttached (line :: lines) ↔ FoldsAttached lines := by
  unfold FoldsAttached
  cases lines with
  | nil => simp
  | cons next lines => simp [List.isChain_cons_cons, h]

theorem foldsAttached_empty (lines : List Bytes) :
    FoldsAttached ([] :: lines) ↔ (∀ line ∈ lines.head?, isFold line = false) ∧
      FoldsAttached lines := by
  unfold FoldsAttached
  cases lines with
  | nil => simp
  | cons next lines => simp [List.isChain_cons_cons]

theorem isFold_append (h : line ≠ []) (rest : Bytes) :
    isFold (line ++ rest) = isFold line := by
  match line, h with
  | first :: line, _ => rfl

theorem ne_nil_of_isFold (h : isFold line = true) : line ≠ [] := by
  rintro rfl
  cases h

theorem exists_joinFolds_eq (current : Bytes) (lines : List Bytes) :
    ∃ rest others, joinFolds current lines = (current ++ rest) :: others := by
  induction lines generalizing current with
  | nil => exact ⟨[], [], by simp [joinFolds]⟩
  | cons line lines ih =>
    rw [joinFolds]
    split_ifs
    · obtain ⟨rest, others, hjoin⟩ := ih (current ++ SP :: line.dropWhile isBlank)
      exact ⟨SP :: line.dropWhile isBlank ++ rest, others, by rw [hjoin, List.append_assoc]⟩
    · exact ⟨[], _, by rw [List.append_nil]⟩

theorem joinFolds_attached_iff {current : Bytes} (h : isFold current = false) :
    (∀ line ∈ joinFolds current lines, isFold line = false) ↔ FoldsAttached (current :: lines) := by
  -- The joined lines start no continuation exactly if every continuation was attached.
  induction lines generalizing current with
  | nil => simp [joinFolds, h, FoldsAttached]
  | cons line lines ih =>
    rw [joinFolds]
    cases hfold : isFold line with
    | false =>
      have hattached : FoldsAttached (current :: line :: lines) ↔
          FoldsAttached (line :: lines) := by
        unfold FoldsAttached
        simp [List.isChain_cons_cons, hfold]
      rw [if_neg (by decide), List.forall_mem_cons, ih hfold, hattached]
      simp [h]
    | true =>
      rw [if_pos rfl]
      by_cases hnil : current = []
      · -- the joined line starts with the space
        subst hnil
        have hnot : ¬ FoldsAttached ([] :: line :: lines) := by
          rw [foldsAttached_empty]
          simp [hfold]
        obtain ⟨rest, others, hjoin⟩ := exists_joinFolds_eq ([] ++ SP :: line.dropWhile isBlank)
          lines
        rw [hjoin]
        constructor
        · intro hall
          cases hall _ List.mem_cons_self
        · intro hattached
          exact absurd hattached hnot
      · have hjoined : isFold (current ++ SP :: line.dropWhile isBlank) = false := by
          rw [isFold_append hnil, h]
        rw [ih hjoined, foldsAttached_cons_of_ne (by simp), foldsAttached_cons_of_ne hnil,
          foldsAttached_cons_of_ne (ne_nil_of_isFold hfold)]

theorem HeaderLines.head_not_fold
    (h : HeaderLines false (line :: lines)) : isFold line = false := by
  rw [HeaderLines, CheckedLine] at h
  rw [Bool.eq_false_iff]
  intro hfold
  rw [if_neg (ne_nil_of_isFold hfold), if_pos hfold] at h
  cases h.1.1

theorem unfoldedLines_attached_iff (h : HeaderLines false lines) :
    (∀ line ∈ unfoldedLines lines, isFold line = false) ↔ FoldsAttached lines := by
  cases lines with
  | nil => simp [unfoldedLines, FoldsAttached]
  | cons line lines => exact joinFolds_attached_iff h.head_not_fold

/-- A line that may become a line of the unfolded block: empty, or a field whose value may still
follow in the bytes `after`. -/
def CurrentLine (current after : Bytes) : Prop :=
  current = [] ∨ ∃ name value, FieldParts current after name value

theorem CurrentLine.join {current : Bytes} (h : CurrentLine current (line ++ after))
    (hne : current ≠ []) (hnul : NUL ∉ line) (rest : Bytes) :
    CurrentLine (current ++ SP :: line.dropWhile isBlank) rest := by
  obtain ⟨name, value, rfl, hname, hspace, hvalue⟩ := h.resolve_left hne
  refine Or.inr ⟨name, value ++ SP :: line.dropWhile isBlank, by simp, hname, ?_, ?_⟩
  · rw [if_neg (by simp)]
    cases value with
    | nil => rfl
    | cons first value => simpa using hspace
  · have hfold : NUL ∉ line.dropWhile isBlank :=
      fun hmem => hnul ((List.dropWhile_sublist _).mem hmem)
    simp [hvalue, hfold, show NUL ≠ SP by decide]

theorem CheckedLine.current (h : CheckedLine before line after)
    (hfold : isFold line = false) : CurrentLine line after := by
  unfold CheckedLine at h
  by_cases hnil : line = []
  · exact Or.inl hnil
  · rw [if_neg hnil, if_neg (by simp [hfold])] at h
    exact Or.inr h

theorem CurrentLine.checked (h : CurrentLine line after) (hafter : isFold after = false)
    (rest : Bytes) : CheckedLine before line rest := by
  unfold CheckedLine
  rcases h with rfl | ⟨name, value, hparts⟩
  · simp
  · have hfold : isFold line = false := by
      rw [hparts.line_eq]
      exact isFold_field hparts.name value
    have hnil : line ≠ [] := by
      rw [hparts.line_eq]
      simp
    rw [if_neg hnil, if_neg (by simp [hfold])]
    refine ⟨name, value, hparts.line_eq, hparts.name, ?_, hparts.nul⟩
    have hspace := hparts.space
    split_ifs at hspace ⊢ with hvalue
    · -- a field without a value is followed by a continuation
      rw [isFold, hspace] at hafter
      cases hafter
    · exact hspace

theorem headerLines_joinFolds {current : Bytes} (hcurrent : CurrentLine current (wireLines lines))
    (hlines : HeaderLines true lines)
    (hattached : FoldsAttached (current :: lines)) : HeaderLines before
    (joinFolds current lines) := by
  induction lines generalizing current before with
  | nil => exact ⟨hcurrent.checked rfl _, trivial⟩
  | cons line lines ih =>
    rw [HeaderLines] at hlines
    rw [joinFolds]
    cases hfold : isFold line with
    | true =>
      have hline := hlines.1
      rw [CheckedLine, if_neg (ne_nil_of_isFold hfold), if_pos hfold] at hline
      have hne : current ≠ [] := by
        rintro rfl
        rw [foldsAttached_empty] at hattached
        have hnot := hattached.1 line rfl
        rw [hfold] at hnot
        cases hnot
      rw [foldsAttached_cons_of_ne hne, foldsAttached_cons_of_ne (ne_nil_of_isFold hfold)]
        at hattached
      rw [wireLines_cons] at hcurrent
      rw [if_pos rfl]
      apply ih (hcurrent.join hne hline.2.2 _) hlines.2
      rw [foldsAttached_cons_of_ne (by simp)]
      exact hattached
    | false =>
      have hafter : isFold (wireLines (line :: lines)) = false := by
        rw [isFold_wireLines_cons, hfold]
      have htail : FoldsAttached (line :: lines) := (List.isChain_cons_cons.mp hattached).2
      rw [if_neg (by decide)]
      exact ⟨hcurrent.checked hafter _, ih (hlines.1.current hfold) hlines.2 htail⟩

theorem headerLines_unfoldedLines (h : HeaderLines false lines)
    (hattached : FoldsAttached lines) : HeaderLines false (unfoldedLines lines) := by
  cases lines with
  | nil => trivial
  | cons line lines =>
    have hfirst := h.head_not_fold
    rw [HeaderLines] at h
    exact headerLines_joinFolds (h.1.current hfirst) h.2 hattached

theorem isFieldLine_append (h : isFieldLine line = true) (rest : Bytes) :
    isFieldLine (line ++ rest) = true := by
  match line, h with
  | first :: line, h => simpa [isFieldLine, isFold] using h

theorem any_isFieldLine_joinFolds {current : Bytes}
    (h : (isFieldLine current || lines.any isFieldLine) = true) :
    (joinFolds current lines).any isFieldLine = true := by
  induction lines generalizing current with
  | nil => simpa [joinFolds] using h
  | cons line lines ih =>
    rw [joinFolds]
    cases hfold : isFold line with
    | true =>
      have hline : isFieldLine line = false := by
        simp [isFieldLine, hfold]
      rw [if_pos rfl]
      apply ih
      rw [List.any_cons, hline, Bool.false_or] at h
      rw [Bool.or_eq_true] at h ⊢
      exact h.imp_left fun hcurrent => isFieldLine_append hcurrent _
    | false =>
      rw [if_neg (by decide), List.any_cons]
      rw [List.any_cons, Bool.or_eq_true] at h
      rw [Bool.or_eq_true]
      exact h.imp_right fun hlines => ih hlines

theorem any_isFieldLine_unfoldedLines (h : lines.any isFieldLine = true) :
    (unfoldedLines lines).any isFieldLine = true := by
  cases lines with
  | nil => exact h
  | cons line lines =>
    rw [List.any_cons] at h
    exact any_isFieldLine_joinFolds h

theorem unfoldedLines_of_none (h : ∀ line ∈ lines, isFold line = false) :
    unfoldedLines lines = lines := by
  cases lines with
  | nil => rfl
  | cons line lines =>
    rw [List.forall_mem_cons] at h
    exact joinFolds_of_none (List.any_eq_false.mpr fun line hline => by simp [h.2 line hline])

def fieldPair (line : Bytes) : Bytes × Bytes := (fieldName line, fieldValue line)

theorem CheckedLine.exists_parts (h : CheckedLine before line after)
    (hfield : isFieldLine line = true) :
    ∃ name value, FieldParts line after name value := by
  rw [isFieldLine, Bool.and_eq_true, decide_eq_true_eq, Bool.not_eq_true'] at hfield
  rw [CheckedLine, if_neg hfield.1, if_neg (by simp [hfield.2])] at h
  exact h

theorem CheckedLine.memchr_colon (h : CheckedLine before line after)
    (hfield : isFieldLine line = true) :
    memchr 58 line = some (fieldName line).length := by
  obtain ⟨name, value, hparts⟩ := h.exists_parts hfield
  rw [hparts.line_eq, fieldName_field hparts.name]
  exact memchr_field hparts.name value

theorem take_fieldName (line : Bytes) : line.take (fieldName line).length = fieldName line :=
  (List.prefix_iff_eq_take.mp (List.takeWhile_prefix _)).symm

theorem nextLine_eq {rest : Bytes} (h : CheckedLine before line after) :
    HeaderIter.nextLine line rest =
      if isFieldLine line then .error (some (fieldPair line, ⟨rest⟩)) else .ok () := by
  have hcolon := h.memchr_colon
  have htake := take_fieldName line
  unfold HeaderIter.nextLine fieldPair fieldValue
  match line with
  | [] => rfl
  | first :: line =>
    cases hfirst : isBlank first with
    | true => simp [isFieldLine, isFold, hfirst]
    | false =>
      have hfield : isFieldLine (first :: line) = true := by
        simp [isFieldLine, isFold, hfirst]
      simp only [hfirst, hfield, hcolon hfield, htake, Bool.false_eq_true, if_false, if_true]

theorem getLine_eq (h : CheckedLine before line after) (lookup : Bytes) :
    Headers.getLine lookup line =
      if isFieldLine line && eqIgnoreAsciiCase (fieldName line) lookup then
        .error (some (fieldValue line))
      else .ok () := by
  have hcolon := h.memchr_colon
  have htake := take_fieldName line
  unfold Headers.getLine fieldValue
  match line with
  | [] => rfl
  | first :: line =>
    cases hfirst : isBlank first with
    | true => simp [isFieldLine, isFold, hfirst]
    | false =>
      have hfield : isFieldLine (first :: line) = true := by
        simp [isFieldLine, isFold, hfirst]
      simp only [hfirst, hfield, hcolon hfield, htake, Bool.false_eq_true, if_false, Bool.true_and]

theorem HeaderIter.collect_eq (self : HeaderIter) :
    self.collect =
      match self.next with
      | none => []
      | some (pair, rest) => pair :: rest.collect := by
  rw [collect]
  split
  · next h => rw [h]
  · next pair rest h => rw [h]

theorem HeaderIter.collect_congr {self other : HeaderIter} (h : self.next = other.next) :
    self.collect = other.collect := by
  rw [collect_eq, collect_eq, h]

theorem HeaderIter.collect_wireLines (h : ∀ line ∈ lines, IsLineContent line)
    (hlines : HeaderLines before lines) :
    collect ⟨wireLines lines⟩ = (lines.filter isFieldLine).map fieldPair := by
  -- The iterator yields a pair for every field line.
  induction lines generalizing before with
  | nil =>
    rw [collect_eq]
    rfl
  | cons line lines ih =>
    rw [List.forall_mem_cons] at h
    rw [HeaderLines] at hlines
    have hrest := ih h.2 hlines.2
    have hstep := @nextLine_eq _ _ _ (wireLines lines) hlines.1
    cases hfield : isFieldLine line with
    | true =>
      rw [hfield, if_pos rfl] at hstep
      have hnext : next ⟨wireLines (line :: lines)⟩ = some (fieldPair line, ⟨wireLines lines⟩) := by
        unfold next
        rw [wireLines_cons, forStrictLines_line _ _ h.1, hstep]
      rw [collect_eq, hnext, List.filter_cons_of_pos hfield, List.map_cons, ← hrest]
    | false =>
      rw [hfield, if_neg (by decide)] at hstep
      have hnext : next ⟨wireLines (line :: lines)⟩ = next ⟨wireLines lines⟩ := by
        unfold next
        rw [wireLines_cons, forStrictLines_line _ _ h.1, hstep]
      rw [collect_congr hnext, hrest, List.filter_cons_of_neg (by simp [hfield])]

theorem Headers.get_wireLines (h : ∀ line ∈ lines, IsLineContent line)
    (hlines : HeaderLines before lines) (name : Str) :
    Headers.get ⟨wireLines lines⟩ name =
      (((lines.filter isFieldLine).map fieldPair).find? fun pair =>
        eqIgnoreAsciiCase pair.1 (asBytes name)).map Prod.snd := by
  -- `get` finds the first field with a name.
  unfold Headers.get
  dsimp only
  induction lines generalizing before with
  | nil => rfl
  | cons line lines ih =>
    rw [List.forall_mem_cons] at h
    rw [HeaderLines] at hlines
    rw [wireLines_cons, forStrictLines_line _ _ h.1, getLine_eq hlines.1]
    have hrest := ih h.2 hlines.2
    cases hfield : isFieldLine line with
    | true =>
      rw [List.filter_cons_of_pos hfield, List.map_cons, List.find?_cons, Bool.true_and]
      cases hname : eqIgnoreAsciiCase (fieldName line) (asBytes name) with
      | true =>
        have hpair : eqIgnoreAsciiCase (fieldPair line).1 (asBytes name) = true := hname
        rw [hpair]
        rfl
      | false =>
        have hpair : eqIgnoreAsciiCase (fieldPair line).1 (asBytes name) = false := hname
        rw [hpair]
        exact hrest
    | false =>
      rw [List.filter_cons_of_neg (by simp [hfield])]
      exact hrest

theorem Headers.isLineContent_of_get {headers : Headers} {name : Str} {value : Bytes}
    (h : headers.get name = some value) : IsLineContent value := by
  unfold get at h
  split at h
  · cases h
  · next found hfound =>
    subst h
    rcases exists_line_of_error hfound with hbad | ⟨-, line, -, hstep, hline, -⟩
    · cases hbad
    · unfold getLine at hstep
      split at hstep
      · cases hstep
      · split_ifs at hstep
        split at hstep
        · cases hstep
        · split_ifs at hstep
          cases hstep
          exact isLineContent_dropWhile ⟨fun hmem => hline.1 (List.mem_of_mem_drop hmem),
            fun hmem => hline.2 (List.mem_of_mem_drop hmem)⟩

/-- The fields from a current one on, each with the continuations up to the next field. -/
def fieldsFrom (field : Bytes) (folds : List Bytes) : List Bytes → List (Bytes × List Bytes)
  | [] => [(field, folds)]
  | line :: lines =>
    if isFieldLine line then (field, folds) :: fieldsFrom line [] lines
    else if isFold line then fieldsFrom field (folds ++ [line]) lines
    else fieldsFrom field folds lines

def fieldsOf : List Bytes → List (Bytes × List Bytes)
  | [] => []
  | line :: lines => if isFieldLine line then fieldsFrom line [] lines else fieldsOf lines

/-- A pair with the name of a field, whose value starts with the field's own value and has every
byte of its continuations but blanks. -/
structure Carries (pair : Bytes × Bytes) (field : Bytes × List Bytes) : Prop where
  name : pair.1 = fieldName field.1
  value : fieldValue field.1 <+: pair.2
  folds : ∀ fold ∈ field.2, ∀ byte ∈ fold, isBlank byte = false → byte ∈ pair.2

theorem mem_dropWhile_isBlank {byte : UInt8} (hmem : byte ∈ line)
    (hbyte : isBlank byte = false) : byte ∈ line.dropWhile isBlank := by
  have hsplit : line.takeWhile isBlank ++ line.dropWhile isBlank = line :=
    List.takeWhile_append_dropWhile
  rw [← hsplit, List.mem_append] at hmem
  rcases hmem with hmem | hmem
  · rw [List.mem_takeWhile_imp hmem] at hbyte
    cases hbyte
  · exact hmem

theorem dropWhile_isPrefix_append (value rest : Bytes) :
    value.dropWhile isBlank <+: (value ++ rest).dropWhile isBlank := by
  rw [List.dropWhile_append]
  split_ifs with hblank
  · rw [List.isEmpty_iff.mp hblank]
    exact List.nil_prefix
  · exact List.prefix_append _ _

theorem carries_fieldPair (line : Bytes) : Carries (fieldPair line) (line, []) where
  name := rfl
  value := List.prefix_refl _
  folds := by simp

theorem Carries.join {current field : Bytes} {folds : List Bytes}
    (hparts : FieldParts current after name value)
    (h : Carries (fieldPair current) (field, folds)) :
    Carries (fieldPair (current ++ SP :: line.dropWhile isBlank)) (field, folds ++ [line]) := by
  have hvalue : fieldValue (current ++ SP :: line.dropWhile isBlank) =
      (value ++ SP :: line.dropWhile isBlank).dropWhile isBlank := by
    rw [hparts.line_eq, List.append_assoc, List.cons_append, fieldValue_field hparts.name]
  have hgrows : fieldValue current <+: fieldValue (current ++ SP :: line.dropWhile isBlank) := by
    rw [hvalue, hparts.line_eq, fieldValue_field hparts.name]
    exact dropWhile_isPrefix_append _ _
  refine ⟨?_, h.value.trans hgrows, ?_⟩
  · rw [← h.name, fieldPair, fieldPair, hparts.line_eq, List.append_assoc, List.cons_append]
    dsimp only
    rw [fieldName_field hparts.name, fieldName_field hparts.name]
  · intro fold hfold byte hbyte hvisible
    rw [List.mem_append, List.mem_singleton] at hfold
    rcases hfold with hfold | rfl
    · exact hgrows.subset (h.folds fold hfold byte hbyte hvisible)
    · change byte ∈ fieldValue (current ++ SP :: fold.dropWhile isBlank)
      rw [hvalue]
      apply mem_dropWhile_isBlank _ hvisible
      rw [List.mem_append, List.mem_cons]
      exact Or.inr (Or.inr (mem_dropWhile_isBlank hbyte hvisible))

def pairsOf (lines : List Bytes) : List (Bytes × Bytes) := (lines.filter isFieldLine).map fieldPair

theorem pairsOf_cons_field (h : isFieldLine line = true) (lines : List Bytes) :
    pairsOf (line :: lines) = fieldPair line :: pairsOf lines := by
  rw [pairsOf, List.filter_cons_of_pos h]
  rfl

theorem pairsOf_cons_empty (lines : List Bytes) : pairsOf ([] :: lines) = pairsOf lines := rfl

theorem FieldParts.isFieldLine
    (h : FieldParts line after name value) : isFieldLine line = true := by
  rw [h.line_eq]
  exact isFieldLine_field h.name value

/-- The pairs of the joined lines carry the fields; `current` is a field that is still open, or an
empty line behind a field whose pair is complete. -/
theorem carries_joinFolds (hlines : HeaderLines true lines) :
    (∀ {current field name value : Bytes} {folds : List Bytes}, FoldsAttached lines →
      FieldParts current (wireLines lines) name value → Carries (fieldPair current) (field, folds) →
      List.Forall₂ Carries (pairsOf (joinFolds current lines)) (fieldsFrom field folds lines)) ∧
    ∀ {pair : Bytes × Bytes} {field : Bytes} {folds : List Bytes}, FoldsAttached ([] :: lines) →
      Carries pair (field, folds) →
      List.Forall₂ Carries (pair :: pairsOf (joinFolds [] lines))
        (fieldsFrom field folds lines) := by
  induction lines with
  | nil =>
    constructor
    · intro current field name value folds _ hparts hcarries
      rw [joinFolds, pairsOf_cons_field hparts.isFieldLine]
      exact .cons hcarries .nil
    · intro pair field folds _ hcarries
      exact .cons hcarries .nil
  | cons line lines ih =>
    rw [HeaderLines] at hlines
    obtain ⟨hopen, hclosed⟩ := ih hlines.2
    -- a field line closes the field before it
    have hfield {pair : Bytes × Bytes} {field : Bytes} {folds : List Bytes}
        (hline : isFieldLine line = true) (hattached : FoldsAttached lines)
        (hcarries : Carries pair (field, folds)) :
        List.Forall₂ Carries (pair :: pairsOf (joinFolds line lines))
          (fieldsFrom field folds (line :: lines)) := by
      obtain ⟨name, value, hparts⟩ := hlines.1.exists_parts hline
      rw [fieldsFrom, if_pos hline]
      exact .cons hcarries (hopen hattached hparts (carries_fieldPair line))
    have hne (hline : isFieldLine line = true) : line ≠ [] := by
      rintro rfl
      cases hline
    have hnotFold (hline : isFieldLine line = true) : isFold line = false := by
      simpa [isFieldLine, hne hline] using hline
    have hempty (hline : isFieldLine line = false) (hfold : isFold line = false) : line = [] := by
      simpa [isFieldLine, hfold] using hline
    constructor
    · intro current field name value folds hattached hparts hcarries
      rw [joinFolds]
      cases hline : isFieldLine line with
      | true =>
        rw [foldsAttached_cons_of_ne (hne hline)] at hattached
        rw [hnotFold hline, if_neg (by decide), pairsOf_cons_field hparts.isFieldLine]
        exact hfield hline hattached hcarries
      | false =>
        have hskip : ¬ isFieldLine line = true := by
          simp [hline]
        rw [fieldsFrom, if_neg hskip]
        cases hfold : isFold line with
        | true =>
          have hchecked := hlines.1
          rw [CheckedLine, if_neg (ne_nil_of_isFold hfold), if_pos hfold] at hchecked
          rw [foldsAttached_cons_of_ne (ne_nil_of_isFold hfold)] at hattached
          have hcurrent : current ≠ [] := by
            rw [hparts.line_eq]
            simp
          have hafter : CurrentLine current (line ++ CR :: LF :: wireLines lines) := by
            rw [← wireLines_cons]
            exact Or.inr ⟨name, value, hparts⟩
          obtain ⟨name', value', hparts'⟩ :=
            (hafter.join hcurrent hchecked.2.2 (wireLines lines)).resolve_left (by simp)
          rw [if_pos rfl, if_pos rfl]
          exact hopen hattached hparts' (hcarries.join hparts)
        | false =>
          obtain rfl := hempty hline hfold
          rw [if_neg (by decide), if_neg (by decide), pairsOf_cons_field hparts.isFieldLine]
          exact hclosed hattached hcarries
    · intro pair field folds hattached hcarries
      rw [joinFolds]
      rw [foldsAttached_empty] at hattached
      have hfold := hattached.1 line rfl
      rw [hfold, if_neg (by decide), pairsOf_cons_empty]
      cases hline : isFieldLine line with
      | true =>
        have hrest := hattached.2
        rw [foldsAttached_cons_of_ne (hne hline)] at hrest
        exact hfield hline hrest hcarries
      | false =>
        obtain rfl := hempty hline hfold
        rw [fieldsFrom, hline, if_neg (by decide), hfold, if_neg (by decide)]
        exact hclosed hattached.2 hcarries

theorem carries_unfoldedLines (hlines : HeaderLines before lines) (hattached : FoldsAttached lines)
    (hfirst : ∀ line ∈ lines.head?, isFold line = false) :
    List.Forall₂ Carries (pairsOf (unfoldedLines lines)) (fieldsOf lines) := by
  -- The same from the start of a block, before its first field.
  induction lines generalizing before with
  | nil => exact .nil
  | cons line lines ih =>
    rw [HeaderLines] at hlines
    rw [unfoldedLines, fieldsOf]
    cases hline : isFieldLine line with
    | true =>
      obtain ⟨name, value, hparts⟩ := hlines.1.exists_parts hline
      have hne : line ≠ [] := by
        rintro rfl
        cases hline
      rw [foldsAttached_cons_of_ne hne] at hattached
      exact (carries_joinFolds hlines.2).1 hattached hparts (carries_fieldPair line)
    | false =>
      have hfold := hfirst line rfl
      obtain rfl : line = [] := by simpa [isFieldLine, hfold] using hline
      rw [foldsAttached_empty] at hattached
      have hrest := ih hlines.2 hattached.2 hattached.1
      rw [if_neg (by decide)]
      cases lines with
      | nil => exact hrest
      | cons next lines =>
        have hnext := hattached.1 next rfl
        rw [joinFolds, hnext, if_neg (by decide), pairsOf_cons_empty]
        exact hrest

theorem exists_wireLines_of_headers {data : Bytes} {headers : Headers}
    (h : Headers.parse data = .ok headers) :
    ∃ lines, data = wireLines lines ∧ ∀ line ∈ lines, IsLineContent line := by
  obtain ⟨transformation, hvalid, -⟩ := ExceptBind.bind_eq_ok.mp h
  unfold validateHeaders at hvalid
  split at hvalid
  · cases hvalid
  · next scan hloop => exact exists_wireLines_of_ok hloop

/-- **A header block is unfolded without loss exactly if every continuation has a line to
continue.** Then the unfolded block has no continuation line, it parses to itself, its pairs are the
fields of the block with their continuations, and `get` finds the first of them with a name. -/
theorem header_block_unfolds_iff (data : Bytes) (headers : Headers)
    (h : Headers.parse data = .ok headers) :
    ∃ lines, data = wireLines lines ∧ (∀ line ∈ lines, IsLineContent line) ∧
      (((∃ unfolded, headers.data = wireLines unfolded ∧
            ∀ line ∈ unfolded, IsLineContent line ∧ isFold line = false) ∧
          Headers.parse headers.data = .ok headers ∧
          List.Forall₂ Carries headers.iter.collect (fieldsOf lines) ∧
          ∀ name, headers.get name =
            (headers.iter.collect.find? fun pair =>
              eqIgnoreAsciiCase pair.1 (asBytes name)).map Prod.snd) ↔
        FoldsAttached lines) := by
  obtain ⟨lines, rfl, hcontent⟩ := exists_wireLines_of_headers h
  obtain ⟨hlines, hfield, hdata⟩ := (Headers.parse_wireLines_iff hcontent).mp h
  obtain ⟨data⟩ := headers
  dsimp only at hdata
  subst hdata
  have hunfolded := isLineContent_unfoldedLines hcontent
  refine ⟨lines, rfl, hcontent, ?_⟩
  constructor
  · rintro ⟨⟨unfolded, hsame, hnone⟩, -⟩
    obtain rfl : unfolded = unfoldedLines lines :=
      wireLines_inj (fun line hline => (hnone line hline).1) hunfolded hsame.symm
    rw [← unfoldedLines_attached_iff hlines]
    exact fun line hline => (hnone line hline).2
  · intro hattached
    have hnone := (unfoldedLines_attached_iff hlines).mpr hattached
    have hagain := headerLines_unfoldedLines hlines hattached
    have hpairs : HeaderIter.collect ⟨wireLines (unfoldedLines lines)⟩ =
        pairsOf (unfoldedLines lines) := HeaderIter.collect_wireLines hunfolded hagain
    have hfirst : ∀ line ∈ lines.head?, isFold line = false := by
      cases lines with
      | nil => simp
      | cons line lines => simpa using hlines.head_not_fold
    refine ⟨⟨_, rfl, fun line hline => ⟨hunfolded line hline, hnone line hline⟩⟩, ?_, ?_, ?_⟩
    · rw [Headers.parse_wireLines_iff hunfolded, unfoldedLines_of_none hnone]
      exact ⟨hagain, any_isFieldLine_unfoldedLines hfield, rfl⟩
    · rw [Headers.iter, hpairs]
      exact carries_unfoldedLines hlines hattached hfirst
    · intro name
      rw [Headers.iter, hpairs]
      exact Headers.get_wireLines hunfolded hagain name

/-- A folded field and a field behind an empty line. -/
theorem header_block_unfolds_subject :
    ∃ headers, Headers.parse (ascii "Subject: a\r\n b\r\n\r\nFrom: c\r\n") = .ok headers ∧
      headers.data = ascii "Subject: a b\r\n\r\nFrom: c\r\n" ∧
      Headers.parse headers.data = .ok headers := by
  have hparse : Headers.parse (ascii "Subject: a\r\n b\r\n\r\nFrom: c\r\n") =
      .ok ⟨ascii "Subject: a b\r\n\r\nFrom: c\r\n"⟩ := by
    decide +kernel
  obtain ⟨lines, hdata, hlines, hiff⟩ := header_block_unfolds_iff _ _ hparse
  obtain rfl : lines = [ascii "Subject: a", ascii " b", [], ascii "From: c"] :=
    wireLines_inj hlines (by decide) (hdata.symm.trans (by decide))
  exact ⟨_, hparse, rfl, (hiff.mpr (by decide)).2.1⟩

/-- The text of a continuation behind an empty line is in no field. -/
theorem continuation_of_empty_line_is_lost :
    ∃ headers, Headers.parse (ascii "A: b\r\n\r\n c\r\n") = .ok headers ∧
      headers.data = ascii "A: b\r\n c\r\n" ∧ Headers.parse headers.data ≠ .ok headers ∧
      headers.iter.collect = [(ascii "A", ascii "b")] := by
  refine ⟨⟨ascii "A: b\r\n c\r\n"⟩, ?_, rfl, ?_, ?_⟩
  · decide +kernel
  · decide +kernel
  · decide +kernel

end NntpBench.Protocol
