import NntpBench.Terminator

namespace NntpBench.Terminator

open ListSearch Slices

variable {seen slice : Bytes}

namespace MultilineTerminatorDetector

@[simp]
theorem length_asSlice (self : MultilineTerminatorDetector) : self.asSlice.length = self.len := by
  have hdata := self.data_length
  have hlen := self.len_le
  simp only [asSlice, List.length_take]
  omega

@[simp]
theorem asSlice_default : default.asSlice = [] := rfl

theorem asSlice_update (self : MultilineTerminatorDetector) (chunk : Bytes) :
    (self.update chunk).asSlice = (self.asSlice ++ chunk).rtake TERMINATOR_TAIL_SIZE := by
  -- The detector holds the last four bytes of everything it was given.
  have hdata := self.data_length
  have hlen := self.len_le
  unfold update
  split_ifs with hlong hempty hfull
  · rw [rtake_append_of_le_length hlong]
    simp only [asSlice]
    rw [List.take_of_length_le (by simp only [List.length_drop]; omega)]
    rfl
  · subst hempty
    rw [List.append_nil, rtake_of_length_le (by simpa using hlen)]
  · have hmoved : (copyWithin self.data (self.len - (TERMINATOR_TAIL_SIZE - chunk.length))
        self.len 0).length = TERMINATOR_TAIL_SIZE := by
      rw [length_copyWithin (by omega), hdata]
    have hkeep : self.len - (self.len - (TERMINATOR_TAIL_SIZE - chunk.length)) =
        TERMINATOR_TAIL_SIZE - chunk.length := by
      omega
    have hkept : (copyWithin self.data (self.len - (TERMINATOR_TAIL_SIZE - chunk.length))
        self.len 0).take (TERMINATOR_TAIL_SIZE - chunk.length) =
        self.data.extract (self.len - (TERMINATOR_TAIL_SIZE - chunk.length)) self.len := by
      have h := take_copyWithin_zero (Nat.sub_le self.len (TERMINATOR_TAIL_SIZE - chunk.length))
        (by omega : self.len ≤ self.data.length)
      rwa [hkeep] at h
    have htotal : TERMINATOR_TAIL_SIZE = TERMINATOR_TAIL_SIZE - chunk.length + chunk.length := by
      omega
    rw [rtake_append_of_length_le (by omega)]
    simp only [asSlice]
    nth_rewrite 1 [htotal]
    rw [take_writeAt (by omega), hkept, List.extract_eq_take_drop, List.rtake, List.length_take,
      List.drop_take]
    congr 2
    · omega
    · congr 1
      omega
  · rw [rtake_of_length_le]
    · simp only [asSlice]
      rw [take_writeAt (by omega)]
    · simp only [List.length_append, length_asSlice]
      omega

end MultilineTerminatorDetector

theorem le_length_and_take_eq_iff {pat xs : Bytes} {n : Nat} {p : Prop} (hn : pat.length = n) :
    (n ≤ xs.length ∧ p ∧ xs.take n = pat) ↔ p ∧ pat <+: xs := by
  subst hn
  rw [List.prefix_iff_eq_take]
  constructor
  · intro h
    exact ⟨h.2.1, h.2.2.symm⟩
  · intro h
    have hlen := congrArg List.length h.2
    simp only [List.length_take] at hlen
    exact ⟨by omega, h.1, h.2.symm⟩

theorem findSpanningTerminator_eq (tail chunk : Bytes) :
    findSpanningTerminator tail tail.length chunk chunk.length =
      if (4 ≤ tail.length ∧ tail.rtake 4 = [13, 10, 46, 13]) ∧ [10] <+: chunk then some 1
      else if (3 ≤ tail.length ∧ tail.rtake 3 = [13, 10, 46]) ∧ [13, 10] <+: chunk then some 2
      else if (2 ≤ tail.length ∧ tail.rtake 2 = [13, 10]) ∧ [46, 13, 10] <+: chunk then some 3
      else if (1 ≤ tail.length ∧ tail.rtake 1 = [13]) ∧ [10, 46, 13, 10] <+: chunk then some 4
      else none := by
  have hslice : ∀ n, tail.extract (tail.length - n) tail.length = tail.rtake n := by
    intro n
    rw [List.extract_eq_take_drop, List.rtake, List.take_of_length_le (by simp)]
  have hcond : ∀ {n k : Nat} {pat : Bytes} {p : Prop}, pat.length = k →
      ((tail.length ≥ n ∧ chunk.length ≥ k ∧ p ∧ chunk.take k = pat) ↔
        ((n ≤ tail.length ∧ p) ∧ pat <+: chunk)) := by
    intro n k pat p hk
    rw [ge_iff_le, ge_iff_le, le_length_and_take_eq_iff hk, and_assoc]
  unfold findSpanningTerminator
  simp only [hslice, hcond (show (ascii "\n").length = 1 from rfl),
    hcond (show (ascii "\r\n").length = 2 from rfl),
    hcond (show (ascii ".\r\n").length = 3 from rfl),
    hcond (show (ascii "\n.\r\n").length = 4 from rfl)]
  by_cases hshort : tail.length < 1 ∨ chunk.length < 1
  · rw [if_pos hshort]
    rcases hshort with htail | hchunk
    · have hnil : tail = [] := List.eq_nil_of_length_eq_zero (by omega)
      simp [hnil]
    · have hnil : chunk = [] := List.eq_nil_of_length_eq_zero (by omega)
      simp [hnil]
  · rw [if_neg hshort]
    rfl

/-- The four spanning cases and the search inside the chunk together are one leftmost search
over the kept tail and the chunk. -/
theorem spanning_or_findStreamingTerminatorEnd (tail chunk : Bytes) (hlen : tail.length ≤ 4) :
    (if tail.length = 0 then none
      else findSpanningTerminator tail tail.length chunk chunk.length).or
        (findStreamingTerminatorEnd chunk) =
      (findSub TERMINATOR (tail ++ chunk)).map (· + TERMINATOR.length - tail.length) := by
  rw [findSpanningTerminator_eq]
  -- A tail of at most four bytes leaves one search step per byte before the chunk's own search.
  match tail, hlen with
  | [], _ => simp [findStreamingTerminatorEnd]
  | [d], _ =>
    simp [terminator_eq, findSub, findStreamingTerminatorEnd, List.rtake, eq_comm (b := d)]
    split_ifs <;> simp [Function.comp_def]
  | [c, d], _ =>
    simp [terminator_eq, findSub, findStreamingTerminatorEnd, List.rtake, eq_comm (b := c),
      eq_comm (b := d), and_assoc]
    split_ifs <;> simp [Function.comp_def]
  | [b, c, d], _ =>
    simp [terminator_eq, findSub, findStreamingTerminatorEnd, List.rtake, eq_comm (b := b),
      eq_comm (b := c), eq_comm (b := d), and_assoc]
    split_ifs <;> simp [Function.comp_def]
  | [a, b, c, d], _ =>
    simp [terminator_eq, findSub, findStreamingTerminatorEnd, List.rtake, eq_comm (b := a),
      eq_comm (b := b), eq_comm (b := c), eq_comm (b := d), and_assoc]
    split_ifs <;> simp [Function.comp_def]

theorem detectStreamingTerminator_eq (tail : MultilineTerminatorDetector) (chunk : Bytes) :
    detectStreamingTerminator tail chunk =
      (findSub TERMINATOR (tail.asSlice ++ chunk)).map
        (· + TERMINATOR.length - tail.asSlice.length) := by
  have hlen : tail.asSlice.length ≤ 4 := by
    rw [MultilineTerminatorDetector.length_asSlice]
    exact tail.len_le
  have h := spanning_or_findStreamingTerminatorEnd tail.asSlice chunk hlen
  simpa only [detectStreamingTerminator, MultilineTerminatorDetector.length_asSlice] using h

theorem matchingLength_eq_right_iff {as es : Bytes} :
    matchingLength as es = es.length ↔ es <+: as := by
  induction as generalizing es with
  | nil => cases es <;> simp [matchingLength]
  | cons a as ih =>
    cases es with
    | nil => simp [matchingLength]
    | cons e es =>
      simp only [matchingLength, List.length_cons, List.cons_prefix_cons, ← ih]
      split_ifs with h
      · simp [h]
      · simp [Ne.symm h]

theorem matchingLength_eq_left_iff {as es : Bytes} :
    matchingLength as es = as.length ↔ as <+: es := by
  induction as generalizing es with
  | nil => cases es <;> simp [matchingLength]
  | cons a as ih =>
    cases es with
    | nil => simp [matchingLength]
    | cons e es =>
      simp only [matchingLength, List.length_cons, List.cons_prefix_cons, ← ih]
      split_ifs with h
      · simp [h]
      · simp [h]

theorem EmptyMultilineTerminator.detect_eq (self : EmptyMultilineTerminator) (chunk : Bytes)
    (hseen : seen <+: DOT_TERMINATOR) (hlen : self.prefixLen = seen.length) :
    (DOT_TERMINATOR <+: seen ++ chunk ∧
      self.detect chunk = (.foundAt (DOT_TERMINATOR.length - seen.length), default)) ∨
    (¬ DOT_TERMINATOR <+: seen ++ chunk ∧ seen ++ chunk <+: DOT_TERMINATOR ∧
      ∃ next, self.detect chunk = (.needMore, next) ∧
        next.prefixLen = (seen ++ chunk).length) ∨
    (¬ DOT_TERMINATOR <+: seen ++ chunk ∧ ¬ seen ++ chunk <+: DOT_TERMINATOR ∧
      ∃ next, self.detect chunk = (.notFound seen.length, next) ∧ next.prefixLen = 0) := by
  -- The detector at content start compares all bytes so far, `seen ++ chunk`, with `.CRLF`.
  obtain ⟨rest, hrest⟩ := hseen
  have hdrop : DOT_TERMINATOR.drop self.prefixLen = rest := by
    rw [← hrest, hlen, List.drop_left]
  have hfound : DOT_TERMINATOR <+: seen ++ chunk ↔ rest <+: chunk := by
    rw [← hrest, List.prefix_append_right_inj]
  have hmore : seen ++ chunk <+: DOT_TERMINATOR ↔ chunk <+: rest := by
    rw [← hrest, List.prefix_append_right_inj]
  have htotal : DOT_TERMINATOR.length = seen.length + rest.length := by
    rw [← hrest, List.length_append]
  have hlt := self.prefixLen_lt
  rw [hfound, hmore]
  unfold detect
  dsimp only
  split_ifs with hother hdone hall
  · obtain ⟨hzero, byte, hbyte, hne⟩ := hother
    have hseen : seen = [] := List.eq_nil_of_length_eq_zero (by omega)
    subst hseen
    obtain ⟨tail, rfl⟩ := List.head?_eq_some_iff.mp hbyte
    simp only [List.nil_append] at hrest
    subst hrest
    refine Or.inr (Or.inr ⟨?_, ?_, self, by simp, hzero⟩)
    · simpa [dot_terminator_eq] using fun h => absurd h.symm hne
    · simpa [dot_terminator_eq] using fun h => absurd h hne
  · rw [hdrop] at hdone
    have hmatched : matchingLength chunk rest = rest.length := by omega
    refine Or.inl ⟨matchingLength_eq_right_iff.mp hmatched, ?_⟩
    rw [hdrop, hmatched, htotal, Nat.add_sub_cancel_left]
  · rw [hdrop] at hdone hall
    refine Or.inr (Or.inl ⟨?_, matchingLength_eq_left_iff.mp hall, _, rfl, ?_⟩)
    · intro h
      have := matchingLength_eq_right_iff.mpr h
      omega
    · change self.prefixLen + matchingLength chunk (DOT_TERMINATOR.drop self.prefixLen) = _
      rw [hdrop, hall, hlen, List.length_append]
  · rw [hdrop] at hdone hall
    refine Or.inr (Or.inr ⟨?_, ?_, default, by rw [hlen], rfl⟩)
    · intro h
      have := matchingLength_eq_right_iff.mpr h
      omega
    · intro h
      exact hall (matchingLength_eq_left_iff.mpr h)

namespace DotTerminatedBlocks

theorem bounds_of_empty (h : DOT_TERMINATOR <+: slice) :
    bounds slice = some (0, DOT_TERMINATOR.length) := by
  rw [bounds, if_pos h]

theorem bounds_of_content (h : ¬ DOT_TERMINATOR <+: slice) :
    bounds slice = (findSub TERMINATOR slice).map fun i => (i + 2, i + 5) := by
  rw [bounds, if_neg h, findStreamingTerminatorEnd, Option.map_map]
  rfl

theorem bounds_eq_none_iff :
    bounds slice = none ↔ ¬ DOT_TERMINATOR <+: slice ∧ findSub TERMINATOR slice = none := by
  by_cases h : DOT_TERMINATOR <+: slice
  · simp [bounds_of_empty h, h]
  · simp [bounds_of_content h, h]

theorem bounds_of_startsDot (hstart : slice <+: DOT_TERMINATOR)
    (h : ¬ DOT_TERMINATOR <+: slice) : bounds slice = none := by
  refine bounds_eq_none_iff.mpr ⟨h, findSub_eq_none_iff.mpr ?_⟩
  intro j hj hpre
  have hend := length_le_of_prefix_drop hj hpre
  have hlen := hstart.length_le
  simp only [length_terminator, length_dot_terminator] at hend hlen
  omega

theorem bounds_spec {contentEnd blockEnd : Nat} (h : bounds slice = some (contentEnd, blockEnd)) :
    blockEnd = contentEnd + DOT_TERMINATOR.length ∧ blockEnd ≤ slice.length := by
  by_cases hempty : DOT_TERMINATOR <+: slice
  · rw [bounds_of_empty hempty] at h
    obtain ⟨rfl, rfl⟩ := Prod.mk.inj (Option.some.inj h)
    exact ⟨by simp, hempty.length_le⟩
  · rw [bounds_of_content hempty] at h
    obtain ⟨i, hi, heq⟩ := Option.map_eq_some_iff.mp h
    obtain ⟨rfl, rfl⟩ := Prod.mk.inj heq
    have hend := findSub_end_le hi
    simp only [length_terminator] at hend
    exact ⟨by simp, by omega⟩

theorem bounds_append_of_some {r : Nat × Nat} (more : Bytes)
    (h : bounds slice = some r) : bounds (slice ++ more) = some r := by
  by_cases hempty : DOT_TERMINATOR <+: slice
  · rw [bounds_of_empty (hempty.trans (List.prefix_append _ _)), ← h, bounds_of_empty hempty]
  · rw [bounds_of_content hempty] at h
    obtain ⟨i, hi, rfl⟩ := Option.map_eq_some_iff.mp h
    have hend := findSub_end_le hi
    simp only [length_terminator] at hend
    have hstart : ¬ DOT_TERMINATOR <+: slice ++ more := by
      intro hp
      exact hempty (List.prefix_of_prefix_length_le hp (List.prefix_append _ _) (by simp; omega))
    rw [bounds_of_content hstart, findSub_append_of_some more hi]
    rfl

end DotTerminatedBlocks

theorem DotTerminatedBlocks.bounds_nil : DotTerminatedBlocks.bounds [] = none := by decide

theorem findDotTerminatedBlock_eq {data : Bytes} {start : Nat} (h : start ≤ data.length) :
    findDotTerminatedBlock data start =
      (DotTerminatedBlocks.bounds (data.drop start)).map fun (contentEnd, blockEnd) =>
        { bytes := data.extract start (start + blockEnd)
          content := data.extract start (start + contentEnd)
          terminator := data.extract (start + contentEnd) (start + blockEnd)
          start
          contentEnd := start + contentEnd
          blockEnd := start + blockEnd } := by
  unfold findDotTerminatedBlock dotTerminatedBlocks DotTerminatedBlocks.next
  dsimp only
  rw [getFrom_of_le h, Option.bind_some]
  split_ifs with hnil
  · rw [hnil, DotTerminatedBlocks.bounds_nil]
    rfl
  · rw [Option.map_map]
    rfl

namespace MultilineFramer

open DotTerminatedBlocks

/-- The framer's state after the bytes `seen`, none of which completed a block. -/
structure Fed (framer : MultilineFramer) (seen : Bytes) : Prop where
  fed : framer.fed = seen.length
  noBlock : bounds seen = none
  phase :
    (framer.contentStarted = false ∧ seen <+: DOT_TERMINATOR ∧
      framer.emptyTerminator.prefixLen = seen.length ∧ framer.tail.asSlice = []) ∨
    (framer.contentStarted = true ∧ ¬ seen <+: DOT_TERMINATOR ∧
      framer.emptyTerminator.prefixLen = 0 ∧
      framer.tail.asSlice = seen.rtake TERMINATOR_TAIL_SIZE)

theorem fed_default : default.Fed [] where
  fed := rfl
  noBlock := by decide
  phase := Or.inl ⟨rfl, List.nil_prefix, rfl, rfl⟩

/-- What a push of `chunk` after `seen` must return: the framer for all bytes so far while the
one-shot search finds no block, and otherwise the block it finds. -/
def Pushed (seen chunk : Bytes) (result : MultilineFrameProgress × MultilineFramer) : Prop :=
  (bounds (seen ++ chunk) = none ∧ result.1 = .needMore ∧ result.2.Fed (seen ++ chunk)) ∨
  ∃ contentEnd blockEnd, bounds (seen ++ chunk) = some (contentEnd, blockEnd) ∧
    seen.length < blockEnd ∧ result.1 = .complete ⟨blockEnd - seen.length, contentEnd⟩

theorem pushContent_spec {self : MultilineFramer} {fed : Nat} {chunk : Bytes}
    (hbefore : fed = seen.length) (hfed : self.fed = (seen ++ chunk).length)
    (hinactive : self.emptyTerminator.prefixLen = 0)
    (htail : self.tail.asSlice = seen.rtake TERMINATOR_TAIL_SIZE)
    (hnone : findSub TERMINATOR seen = none) (hopen : ¬ seen ++ chunk <+: DOT_TERMINATOR)
    (hempty : ¬ DOT_TERMINATOR <+: seen ++ chunk) :
    Pushed seen chunk (self.pushContent fed chunk) := by
  -- A push after content start searches the kept tail and the chunk.
  subst hbefore
  have hsearch : findSub TERMINATOR (seen ++ chunk) =
      (findSub TERMINATOR (self.tail.asSlice ++ chunk)).map
        (· + (seen.length - TERMINATOR_TAIL_SIZE)) := by
    rw [htail]
    exact findSub_append_of_none (by decide) hnone
  have htaillen : self.tail.asSlice.length = min TERMINATOR_TAIL_SIZE seen.length := by
    rw [htail, List.rtake, List.length_drop]
    omega
  unfold pushContent
  rw [detectStreamingTerminator_eq]
  cases hfind : findSub TERMINATOR (self.tail.asSlice ++ chunk) with
  | none =>
    rw [hfind] at hsearch
    have hbounds : bounds (seen ++ chunk) = none :=
      bounds_eq_none_iff.mpr ⟨hempty, hsearch⟩
    refine Or.inl ⟨hbounds, rfl, hfed, hbounds, Or.inr ⟨rfl, hopen, hinactive, ?_⟩⟩
    change (self.tail.update chunk).asSlice = _
    rw [MultilineTerminatorDetector.asSlice_update, htail, rtake_rtake_append]
  | some i =>
    rw [hfind] at hsearch
    have hlater : seen.length < i + (seen.length - TERMINATOR_TAIL_SIZE) + 5 := by
      simp only [TERMINATOR_TAIL_SIZE]
      omega
    refine Or.inr ⟨i + (seen.length - TERMINATOR_TAIL_SIZE) + 2,
      i + (seen.length - TERMINATOR_TAIL_SIZE) + 5, ?_, hlater, ?_⟩
    · rw [bounds_of_content hempty, hsearch]
      rfl
    · simp only [Option.map_some, length_terminator, length_dot_terminator, htaillen,
        MultilineFrameProgress.complete.injEq, MultilineFrameBounds.mk.injEq, TERMINATOR_TAIL_SIZE]
      omega

theorem push_spec {self : MultilineFramer} (h : self.Fed seen) (chunk : Bytes) :
    Pushed seen chunk (self.push chunk) := by
  obtain ⟨hempty, hnone⟩ := bounds_eq_none_iff.mp h.noBlock
  have hfed : self.fed + chunk.length = (seen ++ chunk).length := by
    rw [h.fed, List.length_append]
  unfold push
  rcases h.phase with ⟨hstart, hpre, hlen, htail⟩ | ⟨hstart, hopen, hlen, htail⟩
  · simp only [hstart, Bool.not_false, Bool.true_or, if_true]
    rcases self.emptyTerminator.detect_eq chunk hpre hlen with
      ⟨hdot, hdetect⟩ | ⟨hdot, hmore, next, hdetect, hnext⟩ | ⟨hdot, hmore, next, hdetect, hnext⟩
    · rw [hdetect]
      have hshort : seen.length < DOT_TERMINATOR.length := by
        rw [← hlen]
        exact self.emptyTerminator.prefixLen_lt
      exact Or.inr ⟨0, _, bounds_of_empty hdot, hshort, rfl⟩
    · rw [hdetect]
      have hbounds := bounds_of_startsDot hmore hdot
      exact Or.inl ⟨hbounds, rfl, hfed, hbounds, Or.inl ⟨rfl, hmore, hnext, htail⟩⟩
    · rw [hdetect]
      refine pushContent_spec h.fed hfed hnext ?_ hnone hmore hdot
      -- The bytes matched so far, a beginning of `.CRLF`, become the tail.
      have hseen : DOT_TERMINATOR.take seen.length = seen :=
        (List.prefix_iff_eq_take.mp hpre).symm
      have hshort := hpre.length_le
      split_ifs with hzero
      · rw [MultilineTerminatorDetector.asSlice_update, htail, hseen, List.nil_append]
      · have hnil : seen = [] := List.eq_nil_of_length_eq_zero (by omega)
        simp [htail, hnil]
  · have hactive : self.emptyTerminator.isActive = false := by
      simp [EmptyMultilineTerminator.isActive, hlen]
    simp only [hstart, hactive, Bool.not_true, Bool.or_self, Bool.false_eq_true, if_false]
    have hstill : ¬ seen ++ chunk <+: DOT_TERMINATOR := fun hp =>
      hopen ((List.prefix_append _ _).trans hp)
    have hnever : ¬ DOT_TERMINATOR <+: seen ++ chunk := by
      intro hp
      rcases List.prefix_or_prefix_of_prefix hp (List.prefix_append seen chunk) with hd | hs
      · exact hempty hd
      · exact hopen hs
    exact pushContent_spec h.fed hfed hlen htail hnone hstill hnever

def pushes (self : MultilineFramer) : List Bytes → List MultilineFrameProgress
  | [] => []
  | chunk :: rest => (self.push chunk).1 :: (self.push chunk).2.pushes rest

theorem pushes_of_noBlock {framer : MultilineFramer} (h : framer.Fed seen) (chunks : List Bytes)
    (hnone : bounds (seen ++ chunks.flatten) = none) :
    framer.pushes chunks = chunks.map fun _ => .needMore := by
  induction chunks generalizing framer seen with
  | nil => rfl
  | cons chunk rest ih =>
    rw [List.flatten_cons, ← List.append_assoc] at hnone
    rcases push_spec h chunk with ⟨-, hresult, hfed⟩ | ⟨contentEnd, blockEnd, hbounds, -, -⟩
    · rw [pushes, List.map_cons, hresult, ih hfed hnone]
    · rw [bounds_append_of_some _ hbounds] at hnone
      exact absurd hnone (Option.some_ne_none _)

theorem pushes_of_block {framer : MultilineFramer} (h : framer.Fed seen) (chunks : List Bytes)
    {contentEnd blockEnd : Nat}
    (hsome : bounds (seen ++ chunks.flatten) = some (contentEnd, blockEnd)) :
    ∃ before chunk after rest, chunks = before ++ chunk :: after ∧
      (seen ++ before.flatten).length < blockEnd ∧
      blockEnd ≤ (seen ++ before.flatten ++ chunk).length ∧
      framer.pushes chunks = before.map (fun _ => .needMore) ++
        .complete ⟨blockEnd - (seen ++ before.flatten).length, contentEnd⟩ :: rest := by
  induction chunks generalizing framer seen with
  | nil =>
    rw [List.flatten_nil, List.append_nil, h.noBlock] at hsome
    exact absurd hsome.symm (Option.some_ne_none _)
  | cons chunk rest ih =>
    rw [List.flatten_cons, ← List.append_assoc] at hsome
    rcases push_spec h chunk with ⟨-, hresult, hfed⟩ | ⟨contentEnd', blockEnd', hbounds, hlt,
      hresult⟩
    · obtain ⟨before, last, after, results, rfl, hlt, hle, hpushes⟩ := ih hfed hsome
      refine ⟨chunk :: before, last, after, results, rfl, ?_, ?_, ?_⟩
      · simpa only [List.flatten_cons, List.append_assoc] using hlt
      · simpa only [List.flatten_cons, List.append_assoc] using hle
      · rw [pushes, hresult, hpushes]
        simp only [List.map_cons, List.cons_append, List.flatten_cons, List.append_assoc]
    · rw [bounds_append_of_some _ hbounds] at hsome
      obtain ⟨rfl, rfl⟩ := Prod.mk.inj (Option.some.inj hsome)
      refine ⟨[], chunk, rest, (framer.push chunk).2.pushes rest, rfl, ?_, ?_, ?_⟩
      · simpa using hlt
      · simpa using (bounds_spec hbounds).2
      · rw [pushes, hresult]
        simp

/-- However a body is cut into chunks, the framer ends the block where the one-shot search over
the whole body does, on the chunk that holds the block's last byte, and nowhere before. -/
theorem pushes_agree_with_findDotTerminatedBlock (chunks : List Bytes) :
    match findDotTerminatedBlock chunks.flatten 0 with
    | none => default.pushes chunks = chunks.map fun _ => .needMore
    | some block =>
      ∃ before chunk after consumed rest, chunks = before ++ chunk :: after ∧
        before.flatten.length ≤ block.blockEnd - 1 ∧
        block.blockEnd - 1 < before.flatten.length + chunk.length ∧
        default.pushes chunks = before.map (fun _ => .needMore) ++
          .complete ⟨consumed, block.contentEnd⟩ :: rest ∧
        consumed + before.flatten.length = block.blockEnd := by
  rw [findDotTerminatedBlock_eq (Nat.zero_le _), List.drop_zero]
  cases hbounds : bounds chunks.flatten with
  | none => exact pushes_of_noBlock fed_default chunks hbounds
  | some r =>
    obtain ⟨contentEnd, blockEnd⟩ := r
    simp only [Option.map_some, Nat.zero_add]
    obtain ⟨before, chunk, after, rest, hsplit, hlt, hle, hpushes⟩ :=
      pushes_of_block fed_default chunks hbounds
    simp only [List.nil_append, List.length_append] at hlt hle hpushes
    exact ⟨before, chunk, after, blockEnd - before.flatten.length, rest, hsplit, by omega, by omega,
      hpushes, by omega⟩

end MultilineFramer

end NntpBench.Terminator
