import NntpBench.Terminator

namespace NntpBench.Terminator

variable {line data : Bytes}

/-- A line's own bytes: no CR and no LF. -/
def IsLineContent (line : Bytes) : Prop := CR ∉ line ∧ LF ∉ line

instance (line : Bytes) : Decidable (IsLineContent line) :=
  inferInstanceAs (Decidable (_ ∧ _))

@[simp]
theorem isLineContent_nil : IsLineContent [] := by simp [IsLineContent]

theorem isLineContent_cons {b : UInt8} :
    IsLineContent (b :: line) ↔ b ≠ CR ∧ b ≠ LF ∧ IsLineContent line := by
  simp only [IsLineContent, List.mem_cons, not_or]
  constructor
  · intro h
    exact ⟨Ne.symm h.1.1, Ne.symm h.2.1, h.1.2, h.2.2⟩
  · intro h
    exact ⟨⟨Ne.symm h.1, h.2.2.1⟩, Ne.symm h.2.1, h.2.2.2⟩

theorem isLineContent_append {left right : Bytes} :
    IsLineContent (left ++ right) ↔ IsLineContent left ∧ IsLineContent right := by
  simp only [IsLineContent, List.mem_append, not_or]
  tauto

theorem scanResponseLine_append (h : IsLineContent line) (rest : Bytes) (index : Nat) :
    scanResponseLine index (line ++ rest) = scanResponseLine (index + line.length) rest := by
  induction line generalizing index with
  | nil => rfl
  | cons b line ih =>
    obtain ⟨hcr, hlf, hline⟩ := isLineContent_cons.mp h
    rw [List.cons_append, scanResponseLine.eq_def]
    simp only [hcr, hlf, if_false, ih hline, List.length_cons]
    congr 1
    omega

/-- The shapes a byte string can have for the line scanner: no line end yet, a final CR, a
complete line, or a bare CR or LF. -/
inductive LineShape (data : Bytes) : ResponseLineStatus → Prop where
  | pending (hline : IsLineContent data) : LineShape data .needMore
  | pendingCr {line : Bytes} (hdata : data = line ++ [CR]) (hline : IsLineContent line) :
    LineShape data .needMore
  | complete {line rest : Bytes} (hdata : data = line ++ CR :: LF :: rest)
    (hline : IsLineContent line) : LineShape data (.completeAt (line.length + 2))
  | bareCr {line rest : Bytes} {c : UInt8} (hdata : data = line ++ CR :: c :: rest)
    (hline : IsLineContent line) (hc : c ≠ LF) : LineShape data .invalid
  | bareLf {line rest : Bytes} (hdata : data = line ++ LF :: rest)
    (hline : IsLineContent line) : LineShape data .invalid

theorem lineShape_of_split {rest : Bytes} (hline : IsLineContent line)
    (hrest : rest = [] ∨ rest.head? = some CR ∨ rest.head? = some LF) :
    LineShape (line ++ rest) (detectResponseLineEnd (line ++ rest)) := by
  rw [detectResponseLineEnd, scanResponseLine_append hline, Nat.zero_add]
  match rest, hrest with
  | [], _ =>
    refine LineShape.pending ?_
    rwa [List.append_nil]
  | [b], hrest =>
    rcases hrest with hb | hb | hb
    · simp at hb
    · obtain rfl := Option.some.inj hb
      exact LineShape.pendingCr rfl hline
    · obtain rfl := Option.some.inj hb
      exact LineShape.bareLf rfl hline
  | b :: c :: rest, hrest =>
    rcases hrest with hb | hb | hb
    · simp at hb
    · obtain rfl := Option.some.inj hb
      by_cases hc : c = LF
      · subst hc
        have hval : scanResponseLine line.length (CR :: LF :: rest) =
            .completeAt (line.length + 2) := by
          simp [scanResponseLine]
        rw [hval]
        exact LineShape.complete rfl hline
      · have hval : scanResponseLine line.length (CR :: c :: rest) = .invalid := by
          simp [scanResponseLine, hc]
        rw [hval]
        exact LineShape.bareCr rfl hline hc
    · obtain rfl := Option.some.inj hb
      have hval : scanResponseLine line.length (LF :: c :: rest) = .invalid := by
        simp [scanResponseLine]
      rw [hval]
      exact LineShape.bareLf rfl hline

theorem exists_line_split (data : Bytes) :
    ∃ line rest, data = line ++ rest ∧ IsLineContent line ∧
      (rest = [] ∨ rest.head? = some CR ∨ rest.head? = some LF) := by
  induction data with
  | nil => exact ⟨[], [], rfl, by simp, Or.inl rfl⟩
  | cons b data ih =>
    by_cases hcr : b = CR
    · exact ⟨[], b :: data, rfl, by simp, by simp [hcr]⟩
    by_cases hlf : b = LF
    · exact ⟨[], b :: data, rfl, by simp, by simp [hlf]⟩
    obtain ⟨line, rest, rfl, hline, hrest⟩ := ih
    exact ⟨b :: line, rest, rfl, isLineContent_cons.mpr ⟨hcr, hlf, hline⟩, hrest⟩

theorem lineShape (data : Bytes) : LineShape data (detectResponseLineEnd data) := by
  obtain ⟨line, rest, rfl, hline, hrest⟩ := exists_line_split data
  exact lineShape_of_split hline hrest

theorem detectResponseLineEnd_line (h : IsLineContent line) (rest : Bytes) :
    detectResponseLineEnd (line ++ CR :: LF :: rest) = .completeAt (line.length + 2) := by
  rw [detectResponseLineEnd, scanResponseLine_append h]
  simp [scanResponseLine]

theorem line_append_inj {line' rest rest' : Bytes} (h : IsLineContent line)
    (h' : IsLineContent line') (heq : line ++ CR :: LF :: rest = line' ++ CR :: LF :: rest') :
    line = line' ∧ rest = rest' := by
  have hdetect := congrArg detectResponseLineEnd heq
  rw [detectResponseLineEnd_line h, detectResponseLineEnd_line h'] at hdetect
  have hlength : line.length = line'.length := by
    simpa using hdetect
  obtain ⟨hline, hrest⟩ := List.append_inj heq hlength
  exact ⟨hline, (List.cons.inj (List.cons.inj hrest).2).2⟩

theorem detectResponseLineEnd_eq_completeAt {fin : Nat}
    (h : detectResponseLineEnd data = .completeAt fin) :
    ∃ line rest, data = line ++ CR :: LF :: rest ∧ IsLineContent line ∧
      fin = line.length + 2 := by
  have hshape := lineShape data
  rw [h] at hshape
  cases hshape with
  | complete hdata hline => exact ⟨_, _, hdata, hline, rfl⟩

theorem exists_line_of_strictCrlfLineContentEnd {lineEnd : Nat}
    (h : strictCrlfLineContentEndFrom data 0 = some lineEnd) :
    ∃ line rest, data = line ++ CR :: LF :: rest ∧ IsLineContent line ∧ lineEnd = line.length := by
  rw [strictCrlfLineContentEndFrom, detectResponseLineEndFrom, getFrom_zero] at h
  cases hdetect : detectResponseLineEnd data with
  | needMore => simp [hdetect] at h
  | invalid => simp [hdetect] at h
  | completeAt fin =>
    obtain ⟨line, rest, hdata, hline, rfl⟩ := detectResponseLineEnd_eq_completeAt hdetect
    simp only [hdetect, length_crlf, Nat.zero_add, Nat.add_sub_cancel, Option.some.injEq] at h
    exact ⟨line, rest, hdata, hline, h.symm⟩

@[simp]
theorem stripCompleteCrlfLine_crlf (h : IsLineContent line) :
    stripCompleteCrlfLine (line ++ CRLF) = some line := by
  have hdetect : detectResponseLineEnd (line ++ CRLF) = .completeAt (line.length + 2) :=
    detectResponseLineEnd_line h []
  have hlength : (line ++ CRLF).length = line.length + 2 := by rw [List.length_append, length_crlf]
  rw [stripCompleteCrlfLine, hdetect]
  simp only [hlength, if_true, Nat.add_sub_cancel, List.take_left]

theorem stripCompleteCrlfLine_eq_some {content : Bytes}
    (h : stripCompleteCrlfLine line = some content) : line = content ++ CRLF ∧
      IsLineContent content := by
  unfold stripCompleteCrlfLine at h
  cases hdetect : detectResponseLineEnd line with
  | needMore => simp [hdetect] at h
  | invalid => simp [hdetect] at h
  | completeAt fin =>
    obtain ⟨before, rest, rfl, hbefore, rfl⟩ := detectResponseLineEnd_eq_completeAt hdetect
    simp only [hdetect] at h
    split_ifs at h with hlength
    simp only [List.length_append, List.length_cons] at hlength
    obtain rfl : rest = [] := List.eq_nil_of_length_eq_zero (by omega)
    have htake : (before ++ CR :: LF :: []).take ((before ++ CR :: LF :: []).length - 2) =
        before := by
      simp
    rw [htake] at h
    cases h
    exact ⟨rfl, hbefore⟩

theorem findCrlfLineEnd_of_detect {fin : Nat}
    (h : detectResponseLineEnd data = .completeAt fin) : findCrlfLineEnd data 0 = some fin := by
  obtain ⟨line, rest, rfl, hline, rfl⟩ := detectResponseLineEnd_eq_completeAt h
  have hfind : ListSearch.findSub CRLF (line ++ CR :: LF :: rest) = some line.length :=
    ListSearch.findSub_append_of_notMem hline.1 rest
  rw [findCrlfLineEnd, getFrom_zero, Option.bind_some, hfind, Option.map_some, length_crlf]
  simp

theorem detectResponseLineEnd_append (more : Bytes) (h : detectResponseLineEnd data ≠ .needMore) :
    detectResponseLineEnd (data ++ more) = detectResponseLineEnd data := by
  have hshape := lineShape data
  revert hshape h
  generalize detectResponseLineEnd data = status
  intro h hshape
  cases hshape with
  | pending => exact absurd rfl h
  | pendingCr => exact absurd rfl h
  | complete hdata hline =>
    rw [hdata, List.append_assoc]
    exact detectResponseLineEnd_line hline _
  | bareCr hdata hline hc =>
    rw [hdata, List.append_assoc, detectResponseLineEnd, scanResponseLine_append hline]
    simp [scanResponseLine, hc]
  | bareLf hdata hline =>
    rw [hdata, List.append_assoc, detectResponseLineEnd, scanResponseLine_append hline]
    simp [scanResponseLine]

/-- The lines of a stream as LF ends them, and the bytes after its last LF. -/
def lfLines : Bytes → List Bytes × Bytes
  | [] => ([], [])
  | byte :: rest =>
    if byte = LF then ([LF] :: (lfLines rest).1, (lfLines rest).2)
    else
      match lfLines rest with
      | ([], tail) => ([], byte :: tail)
      | (line :: lines, tail) => ((byte :: line) :: lines, tail)

/-- The stream has these LF lines and this tail. -/
structure LfCut (stream : Bytes) (lines : List Bytes) (tail : Bytes) : Prop where
  stream_eq : stream = lines.flatten ++ tail
  ends : ∀ line ∈ lines, ∃ before, line = before ++ [LF] ∧ LF ∉ before
  tail_open : LF ∉ tail

theorem lfCut_lfLines (stream : Bytes) : LfCut stream (lfLines stream).1 (lfLines stream).2 := by
  induction stream with
  | nil => exact ⟨rfl, by simp [lfLines], by simp [lfLines]⟩
  | cons byte rest ih =>
    obtain ⟨hstream, hends, htail⟩ := ih
    rw [lfLines]
    by_cases hlf : byte = LF
    · rw [if_pos hlf]
      refine ⟨?_, ?_, htail⟩
      · rw [List.flatten_cons, List.append_assoc, ← hstream, hlf, List.singleton_append]
      · rw [List.forall_mem_cons]
        exact ⟨⟨[], rfl, by simp⟩, hends⟩
    · rw [if_neg hlf]
      generalize lfLines rest = cut at hstream hends htail
      match cut with
      | ([], tail) => exact ⟨by simp [hstream], by simp, by simpa [Ne.symm hlf] using htail⟩
      | (line :: lines, tail) =>
        rw [List.forall_mem_cons] at hends
        obtain ⟨⟨before, hline, hbefore⟩, hends⟩ := hends
        refine ⟨by simp [hstream], ?_, htail⟩
        rw [List.forall_mem_cons]
        refine ⟨⟨byte :: before, by simp [hline], ?_⟩, hends⟩
        simp [Ne.symm hlf, hbefore]

theorem lfLines_of_notMem {bytes : Bytes} (h : LF ∉ bytes) : lfLines bytes = ([], bytes) := by
  induction bytes with
  | nil => rfl
  | cons byte rest ih =>
    obtain ⟨hne, hrest⟩ := List.ne_and_not_mem_of_not_mem_cons h
    rw [lfLines, if_neg hne.symm, ih hrest]

theorem lfLines_line {before : Bytes} (h : LF ∉ before) (rest : Bytes) :
    lfLines (before ++ LF :: rest) = ((before ++ [LF]) :: (lfLines rest).1, (lfLines rest).2) := by
  induction before with
  | nil => simp [lfLines]
  | cons byte before ih =>
    obtain ⟨hne, hbefore⟩ := List.ne_and_not_mem_of_not_mem_cons h
    rw [List.cons_append, lfLines, if_neg hne.symm, ih hbefore]
    rfl

namespace LfCut

variable {stream line tail : Bytes} {lines : List Bytes}

theorem of_cons (h : LfCut stream (line :: lines) tail) :
    LfCut (lines.flatten ++ tail) lines tail where
  stream_eq := rfl
  ends := fun line hline => h.ends line (List.mem_cons_of_mem _ hline)
  tail_open := h.tail_open

theorem split_of_lf {front back : Bytes} (h : LfCut (front ++ back) lines tail)
    (hfront : front = [] ∨ [LF] <:+ front) :
    ∃ before after, lines = before ++ after ∧ front = before.flatten ∧ LfCut back after tail := by
  -- Bytes in front that stop at an LF stop at the end of a line.
  induction lines generalizing front with
  | nil =>
    have hnot : LF ∉ front := fun hmem => h.tail_open (by
      rw [← List.nil_append tail, ← List.flatten_nil, ← h.stream_eq]
      exact List.mem_append_left _ hmem)
    obtain rfl : front = [] := hfront.resolve_right fun hsuffix =>
      hnot (hsuffix.subset List.mem_cons_self)
    exact ⟨[], [], rfl, rfl, h⟩
  | cons line lines ih =>
    rcases hfront with rfl | hfront
    · exact ⟨[], line :: lines, rfl, rfl, h⟩
    · obtain ⟨content, hline, hcontent⟩ := h.ends line List.mem_cons_self
      have hstream := h.stream_eq
      rw [List.flatten_cons, List.append_assoc, List.append_eq_append_iff] at hstream
      rcases hstream with ⟨more, hmore, hback⟩ | ⟨more, hmore, hrest⟩
      · -- The line would go on behind its LF.
        obtain rfl : more = [] := by
          rcases List.eq_nil_or_concat more with hnil | ⟨init, last, hconcat⟩
          · exact hnil
          · rw [hconcat, List.concat_eq_append, ← List.append_assoc, hline] at hmore
            have hinit := (List.append_inj' hmore rfl).1
            refine absurd ?_ hcontent
            rw [hinit]
            exact List.mem_append_left _ (hfront.subset List.mem_cons_self)
        rw [List.append_nil] at hmore
        rw [List.nil_append] at hback
        refine ⟨[line], lines, rfl, by simp [hmore], ?_⟩
        rw [hback]
        exact h.of_cons
      · have hends : more = [] ∨ [LF] <:+ more := by
          by_cases hnil : more = []
          · exact Or.inl hnil
          · rw [hmore] at hfront
            exact Or.inr (List.suffix_of_suffix_length_le hfront (List.suffix_append _ _)
              (List.length_pos_of_ne_nil hnil))
        have hcut : LfCut (more ++ back) lines tail := by
          rw [← hrest]
          exact h.of_cons
        obtain ⟨before, after, hlines, hflatten, hafter⟩ := ih hcut hends
        exact ⟨line :: before, after, by simp [hlines], by simp [hmore, hflatten], hafter⟩

theorem lfLines_eq (h : LfCut stream lines tail) : lfLines stream = (lines, tail) := by
  induction lines generalizing stream with
  | nil =>
    rw [h.stream_eq, List.flatten_nil, List.nil_append]
    exact lfLines_of_notMem h.tail_open
  | cons line lines ih =>
    obtain ⟨before, hline, hbefore⟩ := h.ends line List.mem_cons_self
    have hstream : stream = before ++ LF :: (lines.flatten ++ tail) := by
      rw [h.stream_eq, hline]
      simp
    rw [hstream, lfLines_line hbefore, ih h.of_cons, hline]

end LfCut

section Loop

variable {ε σ : Type*} (bad : ε) (step : σ → Bytes → Bytes → Except ε σ)

/-- The bytes of the current line are collected in `line` until its CRLF. -/
def scanStrictLines (state : σ) (line : Bytes) : Bytes → Except ε σ
  | [] => if line = [] then .ok state else .error bad
  | b :: rest =>
    if b = CR then
      match rest with
      | [] => .error bad
      | c :: after =>
        if c = LF then
          match step state line after with
          | .ok state => scanStrictLines state [] after
          | .error e => .error e
        else .error bad
    else if b = LF then .error bad
    else scanStrictLines state (line ++ [b]) rest

/-- The loop `while pos < data.len()` over the strict CRLF lines of `data`: `step` gets each line
and the bytes after it, and `bad` is the result when what is left is not a strict line. -/
def forStrictLines (state : σ) (data : Bytes) : Except ε σ :=
  scanStrictLines bad step state [] data

theorem scanStrictLines_append (h : IsLineContent line) (state : σ) (before rest : Bytes) :
    scanStrictLines bad step state before (line ++ rest) =
      scanStrictLines bad step state (before ++ line) rest := by
  induction line generalizing before with
  | nil => simp
  | cons b line ih =>
    obtain ⟨hcr, hlf, hline⟩ := isLineContent_cons.mp h
    rw [List.cons_append, scanStrictLines.eq_def]
    simp only [hcr, hlf, if_false, ih hline, List.append_assoc, List.singleton_append]

@[simp]
theorem forStrictLines_nil (state : σ) : forStrictLines bad step state [] = .ok state := rfl

theorem forStrictLines_line (h : IsLineContent line) (state : σ) (rest : Bytes) :
    forStrictLines bad step state (line ++ CR :: LF :: rest) =
      match step state line rest with
      | .ok state => forStrictLines bad step state rest
      | .error e => .error e := by
  rw [forStrictLines, scanStrictLines_append bad step h, List.nil_append]
  simp [scanStrictLines, forStrictLines]

theorem strictCrlfLineContentEndFrom_zero (data : Bytes) :
    strictCrlfLineContentEndFrom data 0 =
      match detectResponseLineEnd data with
      | .completeAt fin => some (fin - CRLF.length)
      | .needMore => none
      | .invalid => none := by
  unfold strictCrlfLineContentEndFrom detectResponseLineEndFrom
  rw [getFrom_zero]
  cases hstatus : detectResponseLineEnd data <;> simp [hstatus]

theorem forStrictLines_eq (state : σ) (hne : data ≠ []) :
    forStrictLines bad step state data =
      match strictCrlfLineContentEndFrom data 0 with
      | none => .error bad
      | some lineEnd =>
        match step state (data.take lineEnd) (data.drop (lineEnd + CRLF.length)) with
        | .ok state => forStrictLines bad step state (data.drop (lineEnd + CRLF.length))
        | .error e => .error e := by
  -- The loop in the form of the source: find the line end from here, or fail.
  have hscan : ∀ {line : Bytes} (rest : Bytes), IsLineContent line →
      forStrictLines bad step state (line ++ rest) = scanStrictLines bad step state line rest := by
    intro line rest hline
    rw [forStrictLines, scanStrictLines_append bad step hline, List.nil_append]
  rw [strictCrlfLineContentEndFrom_zero]
  have hshape := lineShape data
  revert hshape
  generalize detectResponseLineEnd data = status
  intro hshape
  cases hshape with
  | pending hline =>
    have h := hscan [] hline
    rw [List.append_nil] at h
    rw [h, scanStrictLines, if_neg hne]
  | pendingCr hdata hline => simp [hdata, hscan _ hline, scanStrictLines]
  | complete hdata hline =>
    subst hdata
    rw [forStrictLines_line bad step hline]
    simp
  | bareCr hdata hline hc => simp [hdata, hscan _ hline, scanStrictLines, hc]
  | bareLf hdata hline =>
    rw [hdata, hscan _ hline, scanStrictLines.eq_def]
    simp

end Loop

end NntpBench.Terminator
