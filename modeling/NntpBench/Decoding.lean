import NntpBench.OneShot

namespace NntpBench.Protocol

open Terminator DotTerminatedBlocks

theorem ResponseInitial.detect_of_parse_needMore {kind : RequestKind} {data : Bytes}
    (h : ResponseInitial.parse kind data = .needMore) : detectResponseLineEnd data = .needMore := by
  cases hdetect : detectResponseLineEnd data with
  | needMore => rfl
  | invalid => simp [ResponseInitial.parse_of_invalid hdetect] at h
  | completeAt fin =>
    rw [ResponseInitial.parse_of_completeAt hdetect] at h
    split_ifs at h
    exact absurd h (ResponseInitial.parseInitialLine_ne_needMore _ _ _)

namespace StreamingResponseDecoder

theorem scanStatus_spec (self : StreamingResponseDecoder)
    (h : ResponseInitial.parse self.kind self.statusBuf = .needMore) (consumed : Nat)
    (chunk : Bytes) :
    match ResponseInitial.parse self.kind (self.statusBuf ++ chunk) with
    | .needMore => self.scanStatus consumed chunk =
        .ok ({ self with statusBuf := self.statusBuf ++ chunk }, consumed + chunk.length)
    | .invalid => self.scanStatus consumed chunk = .error .invalidStatusLine
    | .complete initial =>
      ∃ fin, detectResponseLineEnd (self.statusBuf ++ chunk) = .completeAt fin ∧
        self.statusBuf.length < fin ∧
        self.scanStatus consumed chunk =
          .ok ({ self with statusBuf := (self.statusBuf ++ chunk).take fin
                           status := some initial.status, initial := some initial
                           statusLineEnd := fin }, consumed + (fin - self.statusBuf.length)) := by
  -- The byte-by-byte loop ends where one parse of all bytes ends.
  induction chunk generalizing self consumed with
  | nil =>
    rw [List.append_nil, h]
    rfl
  | cons byte rest ih =>
    have hroom : self.statusBuf.length ≠ STREAMING_STATUS_LINE_BYTES := by
      have := ResponseInitial.length_lt_of_parse_needMore h
      unfold STREAMING_STATUS_LINE_BYTES MAX_AUTHINFO_SASL_RESPONSE_LINE_BYTES
      omega
    have hsplit : self.statusBuf ++ byte :: rest = (self.statusBuf ++ [byte]) ++ rest := by simp
    rw [hsplit, scanStatus, if_neg hroom]
    dsimp only
    cases hparse : ResponseInitial.parse self.kind (self.statusBuf ++ [byte]) with
    | needMore =>
      have hnext := ih { self with statusBuf := self.statusBuf ++ [byte] } hparse (consumed + 1)
      have hone : (self.statusBuf ++ [byte]).length = self.statusBuf.length + 1 := by simp
      dsimp only at hnext
      cases hwhole : ResponseInitial.parse self.kind (self.statusBuf ++ [byte] ++ rest) with
      | needMore =>
        simp only [hwhole] at hnext ⊢
        rw [hnext, List.length_cons, Nat.add_assoc, Nat.add_comm 1]
      | invalid =>
        simp only [hwhole] at hnext ⊢
        exact hnext
      | complete initial =>
        simp only [hwhole, hone] at hnext ⊢
        obtain ⟨fin, hfin, hlt, hnext⟩ := hnext
        refine ⟨fin, hfin, by omega, ?_⟩
        rw [hnext, show consumed + 1 + (fin - (self.statusBuf.length + 1)) =
          consumed + (fin - self.statusBuf.length) by omega]
    | invalid =>
      rw [ResponseInitial.parse_append rest (by simp [hparse]), hparse]
    | complete initial =>
      rw [ResponseInitial.parse_append rest (by simp [hparse]), hparse]
      obtain ⟨fin, hfin, -, -⟩ := ResponseInitial.parse_eq_complete hparse
      -- the line was undecided without its last byte, so it ends with that byte
      have hlt := lt_of_needMore_of_completeAt (ResponseInitial.detect_of_parse_needMore h) hfin
      have hle := le_length_of_completeAt hfin
      simp only [List.length_append, List.length_singleton] at hle
      have heq : fin = (self.statusBuf ++ [byte]).length := by
        simp only [List.length_append, List.length_singleton]
        omega
      refine ⟨fin, ?_, hlt, ?_⟩
      · rw [detectResponseLineEnd_append rest (by simp [hfin]), hfin]
      · rw [heq, List.take_left]
        simp

theorem pushContent_eq {self : StreamingResponseDecoder} {body : Bytes}
    (hfed : self.framer.Fed body) (status : StatusCode) (contentStart : Nat) (chunk : Bytes) :
    match bounds (body ++ chunk.drop contentStart) with
    | none => ∃ framer, framer.Fed (body ++ chunk.drop contentStart) ∧
        self.pushContent status contentStart chunk = (.needMore, { self with framer })
    | some (contentEnd, blockEnd) => body.length < blockEnd ∧ ∃ framer,
        self.pushContent status contentStart chunk =
          (.complete status (contentStart + (blockEnd - body.length))
            (some ⟨blockEnd - body.length, contentEnd⟩), { self with framer }) := by
  unfold pushContent
  split_ifs with hend
  · have hnil : chunk.drop contentStart = [] := List.drop_of_length_le hend
    rw [hnil, List.append_nil, hfed.noBlock]
    exact ⟨self.framer, hfed, rfl⟩
  · rcases MultilineFramer.push_spec hfed (chunk.drop contentStart) with
      ⟨hnone, hresult, hnext⟩ | ⟨contentEnd, blockEnd, hsome, hlt, hresult⟩
    · rw [hnone]
      refine ⟨_, hnext, ?_⟩
      rw [← Prod.eta (self.framer.push _), hresult]
    · rw [hsome]
      refine ⟨hlt, (self.framer.push (chunk.drop contentStart)).2, ?_⟩
      rw [← Prod.eta (self.framer.push _), hresult]

end StreamingResponseDecoder

/-- The state of a waiting decoder that has been given exactly `seen`: in the status line, or in
the content of a multiline response. -/
inductive Waiting (kind : RequestKind) (seen : Bytes) : StreamingResponseDecoder → Prop where
  | status (h : ResponseInitial.parse kind seen = .needMore) :
    Waiting kind seen
      { kind, status := none, initial := none, statusLineEnd := 0
        framer := MultilineFramer.default, statusBuf := seen }
  | content {initial : ResponseInitial} {fin : Nat} {framer : MultilineFramer} {statusBuf : Bytes}
    (h : ResponseInitial.parse kind seen = .complete initial)
    (hfin : detectResponseLineEnd seen = .completeAt fin)
    (hmulti : initial.descriptor.framing.isMultiline = true) (hfed : framer.Fed (seen.drop fin)) :
    Waiting kind seen
      { kind, status := some initial.status, initial := some initial, statusLineEnd := fin
        framer, statusBuf }

theorem waiting_new (kind : RequestKind) : Waiting kind [] (StreamingResponseDecoder.new kind) := by
  apply Waiting.status
  have hlimit := responseInitialLineLimit_ge kind (StatusCode.parse [])
  rw [ResponseInitial.parse_of_needMore rfl, if_neg]
  simp only [List.length_nil]
  omega

theorem Waiting.undecided {kind : RequestKind} {seen : Bytes} {self : StreamingResponseDecoder}
    (h : Waiting kind seen self) : oneShot kind seen = .needMore := by
  cases h with
  | status h => exact oneShot_of_needMore h
  | content h hfin hmulti hfed =>
    rw [oneShot_of_complete h hfin, oneShotBody, if_pos hmulti, hfed.noBlock]

/-- What pushing `chunk` after `seen` returns, by what `oneShot` says of all bytes. -/
def Decoded (kind : RequestKind) (seen chunk : Bytes) :
    Except ClientError (StreamingDecodeProgress × StreamingResponseDecoder) → Prop
  | result =>
    match oneShot kind (seen ++ chunk) with
    | .invalid => result = .error .invalidStatusLine
    | .needMore => ∃ next, Waiting kind (seen ++ chunk) next ∧ result = .ok (.needMore, next)
    | .complete framed =>
      ∃ bounds next, seen.length < framed.bytes.length ∧
        result = .ok (.complete framed.status (framed.bytes.length - seen.length) bounds, next) ∧
        next.kind = framed.kind ∧ next.initial = some framed.initial ∧
        next.statusLineEnd = framed.statusLineEnd ∧
        bounds.elim next.statusLineEnd (fun bounds => next.statusLineEnd + bounds.contentEnd) =
          framed.contentEnd

theorem decoded_pushContent {kind : RequestKind} {seen chunk : Bytes} {initial : ResponseInitial}
    {fin contentStart : Nat} {self : StreamingResponseDecoder} {body : Bytes}
    (hparse : ResponseInitial.parse kind (seen ++ chunk) = .complete initial)
    (hfin : detectResponseLineEnd (seen ++ chunk) = .completeAt fin)
    (hmulti : initial.descriptor.framing.isMultiline = true)
    (hself : self = { kind, status := some initial.status, initial := some initial
                      statusLineEnd := fin, framer := self.framer, statusBuf := self.statusBuf })
    (hfed : self.framer.Fed body)
    (hbody : (seen ++ chunk).drop fin = body ++ chunk.drop contentStart)
    (hstart : contentStart + seen.length = fin + body.length) :
    Decoded kind seen chunk (.ok (self.pushContent initial.status contentStart chunk)) := by
  have hpush := StreamingResponseDecoder.pushContent_eq hfed initial.status contentStart chunk
  rw [← hbody] at hpush
  unfold Decoded
  dsimp only
  rw [oneShot_of_complete hparse hfin, oneShotBody, if_pos hmulti]
  cases hbounds : bounds ((seen ++ chunk).drop fin) with
  | none =>
    rw [hbounds] at hpush
    obtain ⟨framer, hfed, hpush⟩ := hpush
    refine ⟨{ self with framer }, ?_, by rw [hpush]⟩
    rw [hself]
    exact .content hparse hfin hmulti hfed
  | some r =>
    obtain ⟨contentEnd, blockEnd⟩ := r
    rw [hbounds] at hpush
    obtain ⟨hlt, framer, hpush⟩ := hpush
    obtain ⟨-, hle⟩ := fin_lt_of_bounds (le_length_of_completeAt hfin) hbounds
    have hlength : ((seen ++ chunk).take (fin + blockEnd)).length = fin + blockEnd := by
      rw [List.length_take, Nat.min_eq_left hle]
    refine ⟨some ⟨blockEnd - body.length, contentEnd⟩, { self with framer }, ?_, ?_, ?_⟩
    · show seen.length < ((seen ++ chunk).take (fin + blockEnd)).length
      omega
    · rw [hpush]
      simp only [hlength, show contentStart + (blockEnd - body.length) =
        fin + blockEnd - seen.length by omega]
    · rw [hself]
      exact ⟨rfl, rfl, rfl, rfl⟩

theorem push_decoded {kind : RequestKind} {seen : Bytes} {self : StreamingResponseDecoder}
    (h : Waiting kind seen self) (chunk : Bytes) : Decoded kind seen chunk (self.push chunk) := by
  -- One push keeps the decoder in step with `oneShot`.
  unfold StreamingResponseDecoder.push
  cases h with
  | content h hfin hmulti hfed =>
    have hle := le_length_of_completeAt hfin
    apply decoded_pushContent ((ResponseInitial.parse_append chunk (by simp [h])).trans h)
      ((detectResponseLineEnd_append chunk (by simp [hfin])).trans hfin) hmulti rfl hfed
    · rw [List.drop_append_of_le_length hle, List.drop_zero]
    · rw [List.length_drop]
      omega
  | status h =>
    have hscan := StreamingResponseDecoder.scanStatus_spec
      ⟨kind, none, none, 0, MultilineFramer.default, seen⟩ h 0 chunk
    dsimp only at hscan ⊢
    cases hparse : ResponseInitial.parse kind (seen ++ chunk) with
    | needMore =>
      simp only [hparse] at hscan
      rw [hscan]
      unfold Decoded
      dsimp only
      rw [oneShot_of_needMore hparse]
      exact ⟨_, .status hparse, rfl⟩
    | invalid =>
      simp only [hparse] at hscan
      rw [hscan]
      unfold Decoded
      dsimp only
      rw [oneShot_of_invalid hparse]
    | complete initial =>
      simp only [hparse] at hscan
      obtain ⟨fin, hfin, hlt, hscan⟩ := hscan
      have hle := le_length_of_completeAt hfin
      rw [hscan]
      dsimp only
      cases hmulti : initial.descriptor.framing.isMultiline with
      | false =>
        have hlength : ((seen ++ chunk).take fin).length = fin := by
          rw [List.length_take, Nat.min_eq_left hle]
        unfold Decoded
        dsimp only
        rw [oneShot_of_complete hparse hfin, oneShotBody, if_neg (by simp [hmulti])]
        refine ⟨none, ⟨kind, some initial.status, some initial, fin, MultilineFramer.default,
          (seen ++ chunk).take fin⟩, ?_, ?_, rfl, rfl, rfl, rfl⟩
        · rw [hlength]
          exact hlt
        · simp only [hlength, Nat.zero_add, Bool.not_false, if_true]
      | true =>
        simp only [Bool.not_true, Bool.false_eq_true, if_false]
        rw [List.length_append] at hle
        apply decoded_pushContent hparse hfin hmulti rfl MultilineFramer.fed_default
        · rw [Nat.zero_add, List.nil_append, List.drop_append, List.drop_of_length_le (by omega),
            List.nil_append]
        · simp only [List.length_nil]
          omega

theorem extractFramed_eq {kind : RequestKind} {seen : Bytes} {self : ResponseDecoder}
    (h : Waiting kind seen self.streaming) (hscanned : self.scanned = seen.length)
    (chunk : Bytes) :
    match oneShot kind (seen ++ chunk) with
    | .invalid => self.extractFramed (seen ++ chunk) = .error .invalidStatusLine
    | .needMore => ∃ next, Waiting kind (seen ++ chunk) next.streaming ∧
        next.scanned = (seen ++ chunk).length ∧
        self.extractFramed (seen ++ chunk) = .ok (none, next, seen ++ chunk)
    | .complete framed => seen.length < framed.bytes.length ∧ ∃ next,
        self.extractFramed (seen ++ chunk) =
          .ok (some framed, next, (seen ++ chunk).drop framed.bytes.length) := by
  -- What the extractor returns for the pending bytes, by what `oneShot` says of them.
  have hpush := push_decoded h chunk
  unfold ResponseDecoder.extractFramed
  rw [hscanned, List.drop_left]
  unfold Decoded at hpush
  dsimp only at hpush
  cases hone : oneShot kind (seen ++ chunk) with
  | invalid =>
    simp only [hone] at hpush ⊢
    rw [hpush]
  | needMore =>
    simp only [hone] at hpush ⊢
    obtain ⟨next, hnext, hpush⟩ := hpush
    rw [hpush]
    exact ⟨⟨next, _⟩, hnext, rfl, rfl⟩
  | complete framed =>
    simp only [hone] at hpush ⊢
    obtain ⟨bounds, next, hlt, hpush, hkind, hinitial, hend, hcontent⟩ := hpush
    obtain ⟨-, hbytes, -⟩ := oneShot_complete hone
    have htake : (seen ++ chunk).take framed.bytes.length = framed.bytes :=
      (List.prefix_iff_eq_take.mp hbytes).symm
    refine ⟨hlt, ⟨next, (seen ++ chunk).length⟩, ?_⟩
    rw [hpush]
    dsimp only
    rw [hinitial]
    dsimp only
    rw [hcontent, show seen.length + (framed.bytes.length - seen.length) = framed.bytes.length by
      omega, htake, hkind, hend]

end NntpBench.Protocol
