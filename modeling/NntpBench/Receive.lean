import NntpBench.ContentChecks
import NntpBench.Decoding

namespace NntpBench.Protocol

open Terminator

variable {kind : RequestKind} {seen : Bytes} {self : Receiving}

def OneShot.outcome : OneShot → Except ClientError (Option OwnedResponse)
  | .needMore => .ok none
  | .invalid => .error .invalidStatusLine
  | .complete framed => framed.intoOwnedResponse.map some

theorem OneShot.outcome_eq_ok_none {found : OneShot} (h : found.outcome = .ok none) :
    found = .needMore := by
  cases found with
  | needMore => rfl
  | invalid => cases h
  | complete framed =>
    simp only [OneShot.outcome] at h
    cases howned : framed.intoOwnedResponse <;> simp [howned, Except.map] at h

namespace Receiving

/-- A receiving state whose decoder has seen exactly `seen` and found no response yet. -/
structure Seen (kind : RequestKind) (seen : Bytes) (receiving : Receiving) : Prop where
  waiting : Waiting kind seen receiving.decoder.streaming
  scanned : receiving.decoder.scanned = seen.length

theorem seen_new (receiver : BufferedResponseReceiver) (kind : RequestKind) :
    Seen kind [] (new receiver kind) where
  waiting := waiting_new kind
  scanned := rfl

theorem extract_eq {chunk : Bytes} (h : Seen kind seen self)
    (hpending : self.receiver.pending = seen ++ chunk) :
    self.extract.1 = (oneShot kind (seen ++ chunk)).outcome ∧
      match oneShot kind (seen ++ chunk) with
      | .needMore => Seen kind (seen ++ chunk) self.extract.2 ∧
          self.extract.2.receiver = self.receiver
      | .invalid => self.extract.2.receiver = self.receiver
      | .complete framed => seen.length < framed.bytes.length ∧
          self.extract.2.receiver =
            { self.receiver with
              pending := (seen ++ chunk).drop framed.bytes.length
              state := match framed.intoOwnedResponse with
                | .ok _ => .ready
                | .error _ => self.receiver.state } := by
  -- One call of `extract` with `chunk` not yet looked at.
  have hframed := extractFramed_eq h.waiting h.scanned chunk
  unfold extract
  rw [hpending]
  cases hone : oneShot kind (seen ++ chunk) with
  | needMore =>
    simp only [hone] at hframed ⊢
    obtain ⟨next, hwaiting, hscanned, hframed⟩ := hframed
    rw [hframed]
    exact ⟨rfl, ⟨hwaiting, hscanned⟩, rfl⟩
  | invalid =>
    simp only [hone] at hframed ⊢
    rw [hframed]
    exact ⟨rfl, rfl⟩
  | complete framed =>
    simp only [hone] at hframed ⊢
    obtain ⟨hlt, next, hframed⟩ := hframed
    rw [hframed]
    simp only [OneShot.outcome]
    cases howned : framed.intoOwnedResponse with
    | error e => exact ⟨rfl, hlt, rfl⟩
    | ok response => exact ⟨rfl, hlt, rfl⟩

theorem appendAndExtract_eq (h : Seen kind seen self) (hpending : self.receiver.pending = seen)
    (chunk : Bytes) :
    (self.appendAndExtract chunk).1 = (oneShot kind (seen ++ chunk)).outcome ∧
      match oneShot kind (seen ++ chunk) with
      | .needMore => Seen kind (seen ++ chunk) (self.appendAndExtract chunk).2 ∧
          (self.appendAndExtract chunk).2.receiver.pending = seen ++ chunk
      | .invalid => True
      | .complete framed => seen.length < framed.bytes.length := by
  have hseen : Seen kind seen { self with receiver := { self.receiver with
      pending := self.receiver.pending ++ chunk } } := ⟨h.waiting, h.scanned⟩
  obtain ⟨hresult, hnext⟩ :=
    extract_eq hseen (show self.receiver.pending ++ chunk = seen ++ chunk by
    rw [hpending])
  refine ⟨hresult, ?_⟩
  cases hone : oneShot kind (seen ++ chunk) with
  | needMore =>
    rw [hone] at hnext
    exact ⟨hnext.1, by rw [appendAndExtract, hnext.2, hpending]⟩
  | invalid => trivial
  | complete framed =>
    rw [hone] at hnext
    exact hnext.1

theorem feed_cons_of_ne {chunk : Bytes} {result : Except ClientError (Option OwnedResponse)}
    (hresult : (self.appendAndExtract chunk).1 = result) (hne : result ≠ .ok none)
    (rest : List Bytes) : self.feed (chunk :: rest) = [result] := by
  rw [feed, ← Prod.eta (self.appendAndExtract chunk), hresult]
  split
  · rename_i heq
    exact absurd (Prod.mk.inj heq).1 hne
  · rename_i heq
    rw [(Prod.mk.inj heq).1]

theorem feed_of_needMore (h : Seen kind seen self) (hpending : self.receiver.pending = seen)
    (chunks : List Bytes) (hone : oneShot kind (seen ++ chunks.flatten) = .needMore) :
    self.feed chunks = chunks.map fun _ => .ok none := by
  induction chunks generalizing self seen with
  | nil => rfl
  | cons chunk rest ih =>
    rw [List.flatten_cons, ← List.append_assoc] at hone
    have hfirst : oneShot kind (seen ++ chunk) = .needMore := by
      by_contra hne
      rw [oneShot_append rest.flatten hne] at hone
      exact hne hone
    have hstep := appendAndExtract_eq h hpending chunk
    rw [hfirst] at hstep
    obtain ⟨hresult, hseen, hnext⟩ := hstep
    have hrest := ih hseen hnext hone
    rw [feed, List.map_cons, ← hrest, ← Prod.eta (self.appendAndExtract chunk), hresult]
    rfl

theorem feed_of_decided (h : Seen kind seen self) (hpending : self.receiver.pending = seen)
    (chunks : List Bytes) (hone : oneShot kind (seen ++ chunks.flatten) ≠ .needMore) :
    ∃ before chunk after, chunks = before ++ chunk :: after ∧
      self.feed chunks = before.map (fun _ => .ok none) ++
        [(oneShot kind (seen ++ chunks.flatten)).outcome] ∧
      ∀ framed, oneShot kind (seen ++ chunks.flatten) = .complete framed →
        (seen ++ before.flatten).length < framed.bytes.length ∧
          framed.bytes.length ≤ (seen ++ before.flatten ++ chunk).length := by
  -- The chunk that decides: nothing before it is decided, and its result is that of all bytes.
  induction chunks generalizing self seen with
  | nil =>
    rw [List.flatten_nil, List.append_nil] at hone
    exact absurd h.waiting.undecided hone
  | cons chunk rest ih =>
    rw [List.flatten_cons, ← List.append_assoc] at hone ⊢
    obtain ⟨hresult, hnext⟩ := appendAndExtract_eq h hpending chunk
    by_cases hfirst : oneShot kind (seen ++ chunk) = .needMore
    · rw [hfirst] at hresult hnext
      obtain ⟨before, last, after, rfl, hfeed, hlength⟩ := ih hnext.1 hnext.2 hone
      refine ⟨chunk :: before, last, after, rfl, ?_, ?_⟩
      · rw [feed, ← Prod.eta (self.appendAndExtract chunk), hresult]
        simp only [OneShot.outcome, hfeed, List.map_cons, List.cons_append]
      · intro framed hframed
        have := hlength framed hframed
        simpa only [List.flatten_cons, ← List.append_assoc] using this
    · have hwhole := oneShot_append rest.flatten hfirst
      rw [hwhole]
      refine ⟨[], chunk, rest, rfl, ?_, ?_⟩
      · exact feed_cons_of_ne hresult (fun hok => hfirst (OneShot.outcome_eq_ok_none hok)) rest
      · intro framed hframed
        rw [hframed] at hnext
        obtain ⟨-, hbytes, -⟩ := oneShot_complete hframed
        simp only [List.flatten_nil, List.append_nil]
        exact ⟨hnext, hbytes.length_le⟩

/-- Feeding a fresh receiving state chunk by chunk gives what one parse of all bytes gives: no
result while the parser needs more; the parser's frame on the chunk with its last byte; and for
invalid bytes an error, an unusable capability list, or an article that `into_article` rejects. -/
theorem feed_agrees_with_parse (kind : RequestKind) (reader : List ReadEvent) (spare : Nat → Nat)
    (chunks : List Bytes) :
    let results := (Receiving.new (BufferedResponseReceiver.new reader spare) kind).feed chunks
    match ResponseFrame.parse kind chunks.flatten with
    | .needMore => results = chunks.map fun _ => .ok none
    | .complete frame =>
      ∃ before chunk after response, chunks = before ++ chunk :: after ∧
        before.flatten.length ≤ frame.consumed - 1 ∧
        frame.consumed - 1 < before.flatten.length + chunk.length ∧
        results = before.map (fun _ => .ok none) ++ [.ok (some response)] ∧
        response.asBytes = chunks.flatten.take frame.consumed ∧
        response.status = frame.status ∧ response.content = some frame.content ∧
        (isArticlePair kind frame.status.code = true →
          ∃ owned article, response.intoArticle = .ok owned ∧ owned.article = some article ∧
            frame.article = .ok (some article))
    | .invalid =>
      (∃ e, .error e ∈ results) ∨
        ∃ response, .ok (some response) ∈ results ∧
          ((kind = .capabilities ∧ response.status.code = 101) ∨
            (isArticlePair kind response.status.code = true ∧
              ∃ e, response.intoArticle = .error e)) := by
  intro results
  have hseen := seen_new (BufferedResponseReceiver.new reader spare) kind
  rw [ResponseFrame.parse_eq]
  by_cases hneed : oneShot kind chunks.flatten = .needMore
  · rw [hneed]
    exact feed_of_needMore hseen rfl chunks hneed
  · obtain ⟨before, chunk, after, hchunks, hfeed, hlength⟩ :=
      feed_of_decided hseen rfl chunks hneed
    simp only [List.nil_append] at hfeed hlength
    change results = _ at hfeed
    cases hone : oneShot kind chunks.flatten with
    | needMore => exact absurd hone hneed
    | invalid =>
      left
      exact ⟨.invalidStatusLine, by rw [hfeed, hone]; simp [OneShot.outcome]⟩
    | complete framed =>
      obtain ⟨rfl, hbytes, line, hframed⟩ := oneShot_complete hone
      obtain ⟨hlt, hle⟩ := hlength framed hone
      rw [hone] at hfeed
      dsimp only
      cases hcheck : checkContent framed with
      | needMore => exact absurd hcheck (FramedResponse.checkContent_ne_needMore framed)
      | invalid =>
        rcases FramedResponse.intoOwnedResponse_of_invalid hframed hcheck with
          ⟨e, howned⟩ | ⟨response, howned, hstatus, hreason⟩
        · left
          exact ⟨e, by rw [hfeed]; simp [OneShot.outcome, howned, Except.map]⟩
        · right
          refine ⟨response, by rw [hfeed]; simp [OneShot.outcome, howned, Except.map], ?_⟩
          rw [hstatus]
          exact hreason
      | complete frame =>
        obtain ⟨hconsumed, response, howned, hsame⟩ :=
          FramedResponse.intoOwnedResponse_of_complete hframed hcheck
        obtain ⟨hkind, hframeBytes⟩ := FramedResponse.kind_bytes_of_complete hcheck
        rw [List.length_append] at hle
        refine ⟨before, chunk, after, response, hchunks, by omega, by omega, ?_, ?_, hsame.status,
          hsame.content, ?_⟩
        · rw [hfeed]
          simp only [OneShot.outcome, howned, Except.map]
        · rw [hsame.bytes, hframeBytes, hconsumed]
          exact List.prefix_iff_eq_take.mp hbytes
        · rw [← hkind]
          exact hsame.article

end Receiving

end NntpBench.Protocol
