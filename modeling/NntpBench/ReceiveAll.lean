import NntpBench.Receive

namespace NntpBench.Protocol

open Terminator

variable {kind : RequestKind} {self : BufferedResponseReceiver} {frame rest seen chunk : Bytes}

/-- What `ResponseFrame::parse` says of a buffer that is one response exactly. -/
def IsFrame (kind : RequestKind) (bytes : Bytes) : Prop :=
  ∃ frame, ResponseFrame.parse kind bytes = .complete frame ∧ frame.consumed = bytes.length

theorem IsFrame.oneShot {bytes : Bytes} (h : IsFrame kind bytes) :
    ∃ framed response, oneShot kind bytes = .complete framed ∧ framed.bytes = bytes ∧
      framed.intoOwnedResponse = .ok response ∧ response.asBytes = bytes := by
  obtain ⟨frame, hparse, hconsumed⟩ := h
  rw [ResponseFrame.parse_eq] at hparse
  cases hone : Protocol.oneShot kind bytes with
  | needMore => simp [hone] at hparse
  | invalid => simp [hone] at hparse
  | complete framed =>
    rw [hone] at hparse
    obtain ⟨-, hbytes, line, hframed⟩ := oneShot_complete hone
    obtain ⟨hlength, response, howned, hsame⟩ :=
      FramedResponse.intoOwnedResponse_of_complete hframed hparse
    obtain ⟨-, hframeBytes⟩ := FramedResponse.kind_bytes_of_complete hparse
    have heq : framed.bytes = bytes := hbytes.eq_of_length (by rw [← hlength, hconsumed])
    exact ⟨framed, response, rfl, heq, howned, by rw [hsame.bytes, hframeBytes, heq]⟩

namespace BufferedResponseReceiver

def unread : List ReadEvent → Bytes
  | [] => []
  | .data bytes :: rest => bytes ++ unread rest
  | .failed :: rest => unread rest

theorem unread_map_data (reads : List Bytes) : unread (reads.map .data) = reads.flatten := by
  induction reads with
  | nil => rfl
  | cons read rest ih => rw [List.map_cons, unread, ih, List.flatten_cons]

theorem unread_pollRead (readLen : Nat) (reader : List ReadEvent) :
    (pollRead readLen reader).1.getD [] ++ unread (pollRead readLen reader).2 = unread reader := by
  cases reader with
  | nil => rfl
  | cons event rest =>
    cases event with
    | failed => rfl
    | data bytes =>
      unfold pollRead
      dsimp only [Option.getD_some]
      split_ifs with hall
      · rw [unread, ← List.append_nil (bytes.take readLen), ← hall, List.take_append_drop]
      · rw [unread, unread, ← List.append_assoc, List.take_append_drop]

theorem unread_of_pollRead {readLen : Nat} {reader rest : List ReadEvent} {chunk : Bytes}
    (h : pollRead readLen reader = (some chunk, rest)) : unread reader = chunk ++ unread rest := by
  rw [← unread_pollRead readLen reader, h]
  rfl

/-- A reader whose reads all deliver something. -/
def Delivers (reader : List ReadEvent) : Prop :=
  ∀ event ∈ reader, ∃ bytes, event = .data bytes ∧ bytes ≠ []

theorem pollRead_spec {reader : List ReadEvent} (h : Delivers reader) (hne : unread reader ≠ [])
    {readLen : Nat} (hlen : 0 < readLen) :
    ∃ chunk rest, pollRead readLen reader = (some chunk, rest) ∧ chunk ≠ [] ∧
      unread reader = chunk ++ unread rest ∧ Delivers rest := by
  cases reader with
  | nil => exact absurd rfl hne
  | cons event rest =>
    obtain ⟨bytes, rfl, hbytes⟩ := h event (by simp)
    have hrest : Delivers rest := fun event hmem => h event (List.mem_cons_of_mem _ hmem)
    have hchunk : bytes.take readLen ≠ [] := by
      rw [Ne, List.take_eq_nil_iff]
      rintro (hzero | hnil)
      · omega
      · exact hbytes hnil
    rw [pollRead]
    split_ifs with hall
    · refine ⟨_, _, rfl, hchunk, ?_, hrest⟩
      rw [unread, ← List.append_nil (bytes.take readLen), ← hall, List.take_append_drop]
    · refine ⟨_, _, rfl, hchunk, ?_, ?_⟩
      · rw [unread, unread, ← List.append_assoc, List.take_append_drop]
      · intro event hmem
        rcases List.mem_cons.mp hmem with rfl | hmem
        · exact ⟨_, rfl, hall⟩
        · exact hrest event hmem

theorem readIntoPendingBytes_spec (h : Delivers self.reader) (hne : unread self.reader ≠ [])
    (readChunkBytes : Nat) :
    ∃ chunk next, self.readIntoPendingBytes readChunkBytes = (.ok chunk.length, next) ∧
      chunk ≠ [] ∧ next.pending = self.pending ++ chunk ∧
      unread self.reader = chunk ++ unread next.reader ∧ Delivers next.reader := by
  have hlen : 0 < min (max readChunkBytes 1) (max (self.spare self.reads) 1) := by omega
  obtain ⟨chunk, rest, hpoll, hchunk, hunread, hrest⟩ := pollRead_spec h hne hlen
  unfold readIntoPendingBytes
  dsimp only
  rw [hpoll]
  exact ⟨chunk, _, rfl, hchunk, rfl, hunread, hrest⟩

end BufferedResponseReceiver

namespace Receiving

open BufferedResponseReceiver

/-- What has been received of a frame and what follows it. -/
structure Receives (frame rest : Bytes) (receiver : BufferedResponseReceiver) : Prop where
  bytes : receiver.pending ++ unread receiver.reader = frame ++ rest
  delivers : Delivers receiver.reader

theorem unread_ne_nil {receiver : BufferedResponseReceiver} (hframe : IsFrame kind frame)
    (h : Receives frame rest receiver)
    (hone : oneShot kind receiver.pending = .needMore) : unread receiver.reader ≠ [] := by
  intro hnil
  obtain ⟨framed, -, hcomplete, -, -, -⟩ := hframe.oneShot
  have hpending : receiver.pending = frame ++ rest := by
    rw [← h.bytes, hnil, List.append_nil]
  rw [hpending, oneShot_append rest (by simp [hcomplete]), hcomplete] at hone
  cases hone

theorem oneShot_pending {receiver : BufferedResponseReceiver} (h : Receives frame rest receiver)
    (hframe : IsFrame kind frame) (hone : oneShot kind receiver.pending ≠ .needMore) :
    oneShot kind receiver.pending = oneShot kind frame := by
  obtain ⟨framed, -, hcomplete, -, -, -⟩ := hframe.oneShot
  rw [← oneShot_append (unread receiver.reader) hone, h.bytes,
    oneShot_append rest (by simp [hcomplete])]

theorem extract_of_decided {self : Receiving} (hframe : IsFrame kind frame)
    (h : Receives frame rest self.receiver) (hseen : Seen kind seen self)
    (hpending : self.receiver.pending = seen ++ chunk)
    (hone : oneShot kind (seen ++ chunk) ≠ .needMore) :
    ∃ response, self.extract.1 = .ok (some response) ∧ response.asBytes = frame ∧
      self.extract.2.receiver.state = .ready ∧ Receives [] rest self.extract.2.receiver := by
  obtain ⟨framed, response, hcomplete, hbytes, howned, hresponse⟩ := hframe.oneShot
  have hdecided := oneShot_pending h hframe (by rw [hpending]; exact hone)
  rw [hpending, hcomplete] at hdecided
  obtain ⟨hresult, hnext⟩ := extract_eq hseen hpending
  simp only [hdecided, OneShot.outcome, howned, Except.map] at hresult hnext
  refine ⟨response, hresult, hresponse, by rw [hnext.2], ?_, ?_⟩
  · obtain ⟨-, hstart, -⟩ := oneShot_complete hdecided
    rw [hbytes] at hstart hnext
    obtain ⟨tail, htail⟩ := hstart
    have hall := h.bytes
    rw [hpending, ← htail, List.append_assoc] at hall
    have hrest := List.append_cancel_left hall
    rw [hnext.2, ← htail, List.drop_left, List.nil_append]
    exact hrest
  · rw [hnext.2]
    exact h.delivers

theorem receiveLoop_of_decided {self : Receiving} (hframe : IsFrame kind frame)
    (h : Receives frame rest self.receiver) (hseen : Seen kind seen self)
    (hpending : self.receiver.pending = seen ++ chunk)
    (hone : oneShot kind (seen ++ chunk) ≠ .needMore) (readChunkBytes rounds : Nat) :
    ∃ response next, receiveLoop readChunkBytes rounds self = (some (.ok response), next) ∧
      response.asBytes = frame ∧ next.state = .ready ∧ Receives [] rest next := by
  obtain ⟨response, hresult, hresponse, hstate, hrest⟩ :=
    extract_of_decided hframe h hseen hpending hone
  refine ⟨response, self.extract.2.receiver, ?_, hresponse, hstate, hrest⟩
  rw [receiveLoop, ← Prod.eta self.extract, hresult]

theorem extract_of_needMore {self : Receiving} (hseen : Seen kind seen self)
    (hpending : self.receiver.pending = seen ++ chunk)
    (hone : oneShot kind (seen ++ chunk) = .needMore) :
    ∃ next, self.extract = (.ok none, next) ∧ Seen kind (seen ++ chunk) next ∧
      next.receiver = self.receiver := by
  obtain ⟨hresult, hnext⟩ := extract_eq hseen hpending
  simp only [hone] at hresult hnext
  exact ⟨self.extract.2, Prod.ext hresult rfl, hnext.1, hnext.2⟩

theorem receiveLoop_spec (hframe : IsFrame kind frame) (readChunkBytes rounds : Nat)
    {self : Receiving} (hseen : Seen kind seen self)
    (hpending : self.receiver.pending = seen ++ chunk) (h : Receives frame rest self.receiver)
    (hrounds : (unread self.receiver.reader).length ≤ rounds) :
    ∃ response next, receiveLoop readChunkBytes rounds self = (some (.ok response), next) ∧
      response.asBytes = frame ∧ next.state = .ready ∧ Receives [] rest next := by
  -- The loop returns the frame after at most as many reads as there are unread bytes.
  induction rounds generalizing self seen chunk with
  | zero =>
    by_cases hone : oneShot kind (seen ++ chunk) = .needMore
    · have hne := unread_ne_nil hframe h (by rw [hpending]; exact hone)
      exact absurd (List.eq_nil_of_length_eq_zero (by omega)) hne
    · exact receiveLoop_of_decided hframe h hseen hpending hone readChunkBytes _
  | succ rounds ih =>
    by_cases hone : oneShot kind (seen ++ chunk) = .needMore
    · obtain ⟨next, hextract, hnext, hreceiver⟩ := extract_of_needMore hseen hpending hone
      have hne := unread_ne_nil hframe h (by rw [hpending]; exact hone)
      rw [← hreceiver] at h hne hrounds hpending
      obtain ⟨read, receiver, hread, hreadNe, hpendingNext, hunread, hdelivers⟩ :=
        readIntoPendingBytes_spec h.delivers hne readChunkBytes
      have hreadAll : next.readAndExtract readChunkBytes = extract { next with receiver } := by
        obtain ⟨b, tail, rfl⟩ := List.exists_cons_of_ne_nil hreadNe
        rw [readAndExtract, hread]
        rfl
      have hall : Receives frame rest receiver := by
        refine ⟨?_, hdelivers⟩
        rw [hpendingNext, List.append_assoc, ← hunread]
        exact h.bytes
      have hseenNext : Seen kind (seen ++ chunk) { next with receiver } :=
        ⟨hnext.waiting, hnext.scanned⟩
      rw [hpending] at hpendingNext
      have hshorter : (unread receiver.reader).length ≤ rounds := by
        have hpositive := List.length_pos_iff.mpr hreadNe
        rw [hunread, List.length_append] at hrounds
        omega
      rw [receiveLoop, hextract]
      dsimp only
      rw [hreadAll]
      by_cases htwo : oneShot kind (seen ++ chunk ++ read) = .needMore
      · obtain ⟨last, hextractLast, hlast, hreceiverLast⟩ :=
          extract_of_needMore hseenNext hpendingNext htwo
        have hpendingLast : last.receiver.pending = (seen ++ chunk ++ read) ++ [] := by
          rw [hreceiverLast, List.append_nil]
          exact hpendingNext
        rw [hextractLast]
        apply ih hlast hpendingLast
        · rw [hreceiverLast]
          exact hall
        · rw [hreceiverLast]
          exact hshorter
      · obtain ⟨response, hresult, hresponse, hstate, hrest⟩ :=
          extract_of_decided hframe hall hseenNext hpendingNext htwo
        refine ⟨response, _, ?_, hresponse, hstate, hrest⟩
        rw [← Prod.eta (extract { next with receiver }), hresult]
    · exact receiveLoop_of_decided hframe h hseen hpending hone readChunkBytes _

end Receiving

/-- One call of `receive` on a shared receiver: its future is dropped before its first poll, or it
is polled until it finishes or has made `rounds` reads and is then dropped. -/
inductive ReceiveCall where
  | unpolled (kind : RequestKind) (readChunkBytes : Nat)
  | polled (kind : RequestKind) (readChunkBytes rounds : Nat)
  deriving DecidableEq, Repr

namespace ReceiveCall

def run (receiver : BufferedResponseReceiver) :
    ReceiveCall → Option (Except ClientError OwnedResponse) × BufferedResponseReceiver
  | .unpolled _ _ => (none, receiver)
  | .polled kind readChunkBytes rounds => receiver.receiveFor kind readChunkBytes rounds

def isPolled : ReceiveCall → Bool
  | .unpolled _ _ => false
  | .polled _ _ _ => true

end ReceiveCall

namespace BufferedResponseReceiver

def runCalls (self : BufferedResponseReceiver) :
    List ReceiveCall → List (Option (Except ClientError OwnedResponse)) × BufferedResponseReceiver
  | [] => ([], self)
  | call :: rest =>
    let (results, last) := (call.run self).2.runCalls rest
    ((call.run self).1 :: results, last)

structure Expected where
  kind : RequestKind
  readChunkBytes : Nat
  bytes : Bytes
  valid : IsFrame kind bytes

def Expected.call (rounds : Nat) (self : Expected) : ReceiveCall :=
  .polled self.kind self.readChunkBytes rounds

theorem receiveFor_spec (hstate : self.state = .ready) (expected : Expected)
    (h : Receiving.Receives expected.bytes rest self) {rounds : Nat}
    (hrounds : (unread self.reader).length ≤ rounds) :
    ∃ response next, (expected.call rounds).run self = (some (.ok response), next) ∧
      response.asBytes = expected.bytes ∧ next.state = .ready ∧
        Receiving.Receives [] rest next := by
  have hseen := Receiving.seen_new self expected.kind
  have hloop := Receiving.receiveLoop_spec expected.valid expected.readChunkBytes rounds hseen
    (List.nil_append _).symm ⟨h.bytes, h.delivers⟩ hrounds
  rw [Expected.call, ReceiveCall.run, receiveFor, hstate]
  exact hloop

theorem runCalls_expected (hstate : self.state = .ready) (expected : List Expected)
    {trailing : Bytes} (h : Receiving.Receives (expected.map (·.bytes)).flatten trailing self)
    {rounds : Nat} (hrounds : (self.pending ++ unread self.reader).length ≤ rounds) :
    ∃ (responses : List OwnedResponse) (last : BufferedResponseReceiver),
      self.runCalls (expected.map (·.call rounds)) =
        (responses.map fun response => some (.ok response), last) ∧
      responses.map OwnedResponse.asBytes = expected.map (·.bytes) ∧
      last.pending ++ unread last.reader = trailing := by
  -- Responses that arrive one after another are returned in order.
  induction expected generalizing self with
  | nil => exact ⟨[], self, rfl, rfl, h.bytes⟩
  | cons first rest ih =>
    have hfirst : Receiving.Receives first.bytes ((rest.map (·.bytes)).flatten ++ trailing)
        self := by
      refine ⟨?_, h.delivers⟩
      rw [h.bytes, List.map_cons, List.flatten_cons, List.append_assoc]
    have hunread : (unread self.reader).length ≤ rounds := by
      rw [List.length_append] at hrounds
      omega
    obtain ⟨response, next, hrun, hresponse, hnext, hreceives⟩ :=
      receiveFor_spec hstate first hfirst hunread
    have hshorter : (next.pending ++ unread next.reader).length ≤ rounds := by
      rw [h.bytes, List.map_cons, List.flatten_cons, List.append_assoc,
        List.length_append] at hrounds
      rw [hreceives.bytes, List.nil_append]
      omega
    obtain ⟨responses, last, hcalls, hresponses, hlast⟩ :=
      ih hnext ⟨hreceives.bytes, hreceives.delivers⟩ hshorter
    refine ⟨response :: responses, last, ?_, ?_, hlast⟩
    · simp only [List.map_cons, runCalls, hrun, hcalls]
    · rw [List.map_cons, List.map_cons, hresponse, hresponses]

@[simp]
theorem state_readIntoPendingBytes (self : BufferedResponseReceiver) (readChunkBytes : Nat) :
    (self.readIntoPendingBytes readChunkBytes).2.state = self.state := by
  unfold readIntoPendingBytes
  dsimp only
  split <;> rfl

theorem state_extract (self : Receiving) :
    (∃ response, self.extract.1 = .ok (some response)) ∨
      self.extract.2.receiver.state = self.receiver.state := by
  unfold Receiving.extract
  split
  · exact Or.inr rfl
  · exact Or.inr rfl
  · split
    · exact Or.inr rfl
    · exact Or.inl ⟨_, rfl⟩

theorem state_readAndExtract (self : Receiving) (readChunkBytes : Nat) :
    (∃ response, (self.readAndExtract readChunkBytes).1 = .ok (some response)) ∨
      (self.readAndExtract readChunkBytes).2.receiver.state = self.receiver.state := by
  have hstate := state_readIntoPendingBytes self.receiver readChunkBytes
  unfold Receiving.readAndExtract
  split
  · rename_i hread
    rw [hread] at hstate
    exact Or.inr hstate
  · rename_i hread
    rw [hread] at hstate
    exact Or.inr hstate
  · rename_i receiver hread
    rw [hread] at hstate
    rw [← hstate]
    exact state_extract _

theorem state_receiveLoop (readChunkBytes rounds : Nat) (self : Receiving) :
    (∃ response, (Receiving.receiveLoop readChunkBytes rounds self).1 = some (.ok response)) ∨
      (Receiving.receiveLoop readChunkBytes rounds self).2.state = self.receiver.state := by
  induction rounds generalizing self with
  | zero =>
    have hextract := state_extract self
    rw [Receiving.receiveLoop]
    rcases hresult : self.extract with ⟨_ | _ | response, next⟩ <;> rw [hresult] at hextract
    · exact Or.inr (by simpa using hextract)
    · exact Or.inr (by simpa using hextract)
    · exact Or.inl ⟨response, rfl⟩
  | succ rounds ih =>
    have hextract := state_extract self
    rw [Receiving.receiveLoop]
    rcases hresult : self.extract with ⟨_ | _ | response, next⟩ <;> rw [hresult] at hextract
    · exact Or.inr (by simpa using hextract)
    · have hread := state_readAndExtract next readChunkBytes
      have hsame : next.receiver.state = self.receiver.state := by simpa using hextract
      dsimp only
      rw [← hsame]
      rcases hnext : next.readAndExtract readChunkBytes with ⟨_ | _ | response, last⟩ <;>
        rw [hnext] at hread
      · exact Or.inr (by simpa using hread)
      · have hlast : last.receiver.state = next.receiver.state := by simpa using hread
        dsimp only
        rw [← hlast]
        exact ih last
      · exact Or.inl ⟨response, rfl⟩
    · exact Or.inl ⟨response, rfl⟩

theorem unavailable_of_failed {call : ReceiveCall} (hpolled : call.isPolled = true)
    (hfailed : ∀ response, (call.run self).1 ≠ some (.ok response)) :
    (call.run self).2.state = .unavailable := by
  cases call with
  | unpolled kind readChunkBytes => cases hpolled
  | polled kind readChunkBytes rounds =>
    unfold ReceiveCall.run receiveFor at hfailed ⊢
    cases hstate : self.state with
    | unavailable =>
      dsimp only
      exact hstate
    | ready =>
      simp only [hstate] at hfailed ⊢
      rcases state_receiveLoop readChunkBytes rounds (Receiving.new self kind) with
        ⟨response, hok⟩ | hsame
      · exact absurd hok (hfailed response)
      · exact hsame

theorem runCalls_of_unavailable (h : self.state = .unavailable) (calls : List ReceiveCall) :
    (self.runCalls calls).1 =
      calls.map fun call => if call.isPolled then some (.error .connectionClosed) else none := by
  induction calls with
  | nil => rfl
  | cons call rest ih =>
    have hrun : call.run self =
        (if call.isPolled then some (.error .connectionClosed) else none, self) := by
      cases call with
      | unpolled kind readChunkBytes => rfl
      | polled kind readChunkBytes rounds =>
        unfold ReceiveCall.run receiveFor
        rw [h]
        rfl
    rw [runCalls, hrun]
    simp only [List.map_cons, ih]

/-- In every run, a call that was polled and did not return a response, because it failed or
because its future was dropped while it waited, closes the receiver: every later call that is
polled returns `ConnectionClosed`. Before that, responses that arrive one after another are
returned in order, and the bytes after them are kept. -/
theorem receives_in_order_and_closes (receiver : BufferedResponseReceiver) :
    (∀ (expected : List Expected) (trailing : Bytes) (reads : List Bytes) (spare : Nat → Nat),
      (∀ read ∈ reads, read ≠ []) →
      reads.flatten = (expected.map (·.bytes)).flatten ++ trailing →
      ∀ rounds, reads.flatten.length ≤ rounds →
      ∃ (responses : List OwnedResponse) (last : BufferedResponseReceiver),
        (BufferedResponseReceiver.new (reads.map .data) spare).runCalls
            (expected.map (·.call rounds)) =
          (responses.map fun response => some (.ok response), last) ∧
        responses.map OwnedResponse.asBytes = expected.map (·.bytes) ∧
        last.pending ++ unread last.reader = trailing) ∧
    (∀ (before after : List ReceiveCall) (call : ReceiveCall),
      call.isPolled = true →
      (∀ response, (call.run (receiver.runCalls before).2).1 ≠ some (.ok response)) →
      ((call.run (receiver.runCalls before).2).2.runCalls after).1 =
        after.map fun call => if call.isPolled then some (.error .connectionClosed) else none) := by
  refine ⟨?_, ?_⟩
  · intro expected trailing reads spare hreads hbytes rounds hrounds
    have hunread := unread_map_data reads
    have hdelivers : Delivers (reads.map .data) := by
      intro event hmem
      obtain ⟨read, hread, rfl⟩ := List.mem_map.mp hmem
      exact ⟨read, rfl, hreads read hread⟩
    apply runCalls_expected rfl expected
    · refine ⟨?_, hdelivers⟩
      show [] ++ unread (reads.map .data) = _
      rw [hunread, List.nil_append, hbytes]
    · show ([] ++ unread (reads.map .data)).length ≤ rounds
      rw [hunread]
      exact hrounds
  · intro before after call hpolled hfailed
    exact runCalls_of_unavailable (unavailable_of_failed hpolled hfailed) after

def dateExpected : Expected :=
  { kind := .date, readChunkBytes := 4, bytes := ascii "111 20240229120000\r\n"
    valid := ⟨_, rfl, rfl⟩ }

def quitExpected : Expected :=
  { kind := .quit, readChunkBytes := 4, bytes := ascii "205 bye\r\n"
    valid := ⟨_, rfl, rfl⟩ }

/-- Two responses in three reads, the first two of which end within a response. -/
theorem receives_date_and_quit_and_closes :
    (∃ (responses : List OwnedResponse) (last : BufferedResponseReceiver),
      (BufferedResponseReceiver.new
          ([ascii "111 2024022", ascii "9120000\r\n205 b", ascii "ye\r\n200"].map .data)
          fun _ => 4096).runCalls [.polled .date 4 32, .polled .quit 4 32] =
        (responses.map fun response => some (.ok response), last) ∧
      responses.map OwnedResponse.asBytes = [ascii "111 20240229120000\r\n", ascii "205 bye\r\n"] ∧
      last.pending ++ unread last.reader = ascii "200") ∧
    (((ReceiveCall.polled .quit 4 0).run (BufferedResponseReceiver.new [] fun _ => 4096)).2.runCalls
        [.polled .date 4 1]).1 = [some (.error .connectionClosed)] := by
  obtain ⟨hreceives, hcloses⟩ :=
    receives_in_order_and_closes (BufferedResponseReceiver.new [] fun _ => 4096)
  refine ⟨?_, ?_⟩
  · exact hreceives [dateExpected, quitExpected] (ascii "200") _ _ (by decide) (by decide) 32
      (by decide)
  · apply hcloses [] [.polled .date 4 1] (.polled .quit 4 0) rfl
    intro response
    have hnone : ((ReceiveCall.polled .quit 4 0).run
        (BufferedResponseReceiver.new [] fun _ => 4096)).1 = none := by decide
    rw [runCalls, hnone]
    exact Option.some_ne_none _ ∘ Eq.symm

/-- A future that is dropped before its first poll has done nothing: the receiver stays usable. -/
theorem unpolled_drop_keeps_the_receiver :
    ¬ ∀ (receiver : BufferedResponseReceiver) (before after : List ReceiveCall)
      (call : ReceiveCall),
      (∀ response, (call.run (receiver.runCalls before).2).1 ≠ some (.ok response)) →
      ((call.run (receiver.runCalls before).2).2.runCalls after).1 =
        after.map fun call => if call.isPolled then some (.error .connectionClosed) else none := by
  intro h
  have hrun := h (BufferedResponseReceiver.new [.data (ascii "205 bye\r\n")] fun _ => 4096) []
    [.polled .quit 4096 1] (.unpolled .quit 4096) (by intro response; exact nofun)
  exact absurd hrun (by decide)

end BufferedResponseReceiver

end NntpBench.Protocol
