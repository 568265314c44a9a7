import Mathlib
import NntpBench.Client.Barrier

namespace NntpBench.Client

open Protocol

variable {id rounds : Nat} {operation : Operation} {queued : Queued} {list : Option CapabilityList}
  {receiver : BufferedResponseReceiver}

variable {pipelineDepth readChunkBytes : Nat} {s : Connection}

def Runs (pipelineDepth readChunkBytes : Nat) : Connection → Connection → Prop :=
  Relation.ReflTransGen (Step pipelineDepth readChunkBytes)

theorem Runs.tail {first middle last : Connection}
    (h : Runs pipelineDepth readChunkBytes first middle)
    (hstep : Step pipelineDepth readChunkBytes middle last) :
    Runs pipelineDepth readChunkBytes first last :=
  Relation.ReflTransGen.tail h hstep

theorem Runs.trans {first middle last : Connection}
    (h : Runs pipelineDepth readChunkBytes first middle)
    (hafter : Runs pipelineDepth readChunkBytes middle last) :
    Runs pipelineDepth readChunkBytes first last :=
  Relation.ReflTransGen.trans h hafter

namespace Connection

theorem setStage_setStage (s : Connection) (id : Nat) (operation : Operation)
    (before after : Stage) :
    (s.setStage id operation before).setStage id operation after = s.setStage id operation
      after := by
  unfold setStage
  rw [Function.update_idem]

theorem BarrierFree.setStage (h : s.BarrierFree) {stage : Stage}
    (hstage : stage.holds = false) : (s.setStage id operation stage).BarrierFree := by
  refine ⟨fun other hother => ?_, h.2⟩
  rw [holds_setStage] at hother
  split_ifs at hother
  · rw [hstage] at hother
    cases hother
  · exact h.1 other hother

end Connection

theorem Runs.call {start : Connection} {stage after : Stage}
    (h : Runs pipelineDepth readChunkBytes start (s.setStage id operation stage))
    (hstep : CallStep (s.setStage id operation stage) id operation stage after) :
    Runs pipelineDepth readChunkBytes start (s.setStage id operation after) := by
  have hlast := h.tail (Step.call (s.calls_setStage_self id operation stage) hstep)
  rwa [Connection.setStage_setStage] at hlast

theorem runs_sending (hid : s.calls id = none) (hhandle : s.handleDropped = false)
    (hpublic : operation ≠ .probe) (hfirst : operation.firstStage = .waiting)
    (hfree : s.BarrierFree) (hopen : s.closed = false)
    (hlist : requestKindRequiresCapabilities operation.kind = true →
      s.capabilityList.isSome = true) :
    Runs pipelineDepth readChunkBytes s (s.setStage id operation .sending) := by
  have hwaiting : Runs pipelineDepth readChunkBytes s (s.setStage id operation .waiting) := by
    rw [← hfirst]
    exact .single (.start hid hhandle hpublic)
  have hlocked := hwaiting.call (.lock (hfree.setStage rfl))
  have haccepted := hlocked.call (.accept hopen)
  split_ifs at haccepted with hrechecks
  · have hrequires := (Bool.and_eq_true_iff.mp hrechecks).2
    exact haccepted.call (.recheck (hlist hrequires))
  · exact haccepted

theorem runs_pending (hid : s.calls id = none) (hhandle : s.handleDropped = false)
    (hpublic : operation ≠ .probe) (hfirst : operation.firstStage = .waiting)
    (hfree : s.BarrierFree) (hopen : s.closed = false)
    (hlist : requestKindRequiresCapabilities operation.kind = true → s.capabilityList.isSome = true)
    (hwriter : s.writer ≠ .stopped) (hqueue : s.queue = []) :
    Runs pipelineDepth readChunkBytes s
      (({ s with queue := [⟨id, operation⟩] } : Connection).setStage id operation .pending) := by
  have hsending : Runs pipelineDepth readChunkBytes s (s.setStage id operation .sending) :=
    runs_sending hid hhandle hpublic hfirst hfree hopen hlist
  have hroom : s.queue.length < max pipelineDepth 1 := by
    rw [hqueue, List.length_nil]
    omega
  have hsent := hsending.tail (.send (s.calls_setStage_self id operation .sending) hwriter hroom)
  rw [Connection.setStage_setStage] at hsent
  have hqueued : (s.setStage id operation .sending).queue ++ [⟨id, operation⟩] =
      [⟨id, operation⟩] := by
    rw [Connection.setStage, hqueue, List.nil_append]
  rw [hqueued] at hsent
  change Runs pipelineDepth readChunkBytes s
    (Connection.setStage { s with queue := [⟨id, operation⟩] }
    id operation (if (Queued.mk id operation).guarded then .pending else .sent)) at hsent
  split_ifs at hsent with hguarded
  · exact hsent
  · exact hsent.call .unlock

theorem runs_writing (hwriter : s.writer = .ready none) (hqueue : s.queue = [queued])
    (hidle : s.count = 0) :
    Runs pipelineDepth readChunkBytes s
      { s with writer := .writing [] queued [] none, queue := [] } := by
  have hstart : Runs pipelineDepth readChunkBytes s
      { s with writer := .start queued, queue := [] } :=
    .single (.writer (.recv hwriter hqueue))
  unfold WriterState.start at hstart
  split_ifs at hstart with hexclusive hlarge
  · exact hstart.tail (.writer (.idle rfl hidle))
  · exact hstart
  · have hcollected := hstart.tail (.writer (.collected rfl (.inl rfl)))
    exact hcollected

theorem step_write {piece : Piece} (hpiece : s.writer.piece = some piece)
    (hunfinished : s.unfinished = none) (hbytes : piece.bytes ≠ []) :
    Step pipelineDepth readChunkBytes s { s with unfinished := some (piece, piece.bytes) } := by
  have hsent : s.sent = [] := by
    unfold Connection.sent
    rw [hunfinished]
    rfl
  have hchunk : piece.bytes = s.sent ++ piece.bytes ++ [] := by
    rw [hsent, List.nil_append, List.append_nil]
  have hstep : Step pipelineDepth readChunkBytes s _ := .writer (.write hpiece hchunk hbytes)
  rwa [hsent, List.nil_append] at hstep

theorem runs_inflight (hwriter : s.writer = .writing [] queued [] none)
    (hunfinished : s.unfinished = none) (hreader : s.reader ≠ .stopped)
    (hinflight : s.inflight = []) (hbytes : (Piece.command queued).bytes ≠ []) :
    Runs pipelineDepth readChunkBytes s
      { s with wire := s.wire ++ [.command queued], inflight := [queued], count := s.count + 1
               writer := if queued.article.isSome then .awaiting queued [] none
                         else .registering [] none } := by
  have hwrite : Runs pipelineDepth readChunkBytes s
      { s with unfinished := some (.command queued, (Piece.command queued).bytes) } :=
    .single (step_write (by rw [hwriter]; rfl) hunfinished hbytes)
  have hwrote := hwrite.tail (.writer (.wrote hwriter rfl))
  have hregister := hwrote.tail (.writer (.register rfl))
  have hroom : s.inflight.length < max pipelineDepth 1 := by
    rw [hinflight, List.length_nil]
    omega
  have hhanded := hregister.tail (.writer (.inflight rfl hreader hroom))
  have hqueued : s.inflight ++ [queued] = [queued] := by rw [hinflight, List.nil_append]
  simp only [hqueued] at hhanded
  rw [← hunfinished] at hhanded
  exact hhanded

theorem runs_posted {first : OwnedResponse} (hwriter : s.writer = .awaiting queued [] none)
    (hunfinished : s.unfinished = none) (hdecided : s.decided queued.id = some first)
    (hproceeds : queued.proceeds first.status = true) (hbytes : (Piece.article queued).bytes ≠ []) :
    Runs pipelineDepth readChunkBytes s
      { s with wire := s.wire ++ [.article queued], writer := .ready none } := by
  have hposting : Runs pipelineDepth readChunkBytes s
      { s with writer := .posting queued [] none } :=
    .single (.writer (.proceed hwriter hdecided hproceeds))
  have hwrite := hposting.tail (step_write rfl hunfinished hbytes)
  have hposted := hwrite.tail (.writer (.posted rfl rfl))
  have hready := hposted.tail (.writer (.next rfl))
  rw [← hunfinished] at hready
  exact hready

theorem runs_receiving (hreader : s.reader = .ready) (hinflight : s.inflight = [queued]) :
    Runs pipelineDepth readChunkBytes s
      { s with reader := .receiving queued, inflight := [] } :=
  .single (.reader (.recv hreader hinflight))

theorem runs_stored {exchange : Exchange} (hreader : s.reader = .storing exchange)
    (htransition : exchange.transition s.capabilityList = (.ok (), list)) :
    Runs pipelineDepth readChunkBytes s
      { s with reader := .ready, capabilityList := list, handled := s.handled ++ [exchange]
               count := s.count - 1
               closed := s.closed ||
                 (exchange.queued.kind = .quit && exchange.response.status.code = 205)
               responses := Function.update s.responses exchange.queued.id
                 (some (.ok exchange.completed)) } := by
  have hstored : Runs pipelineDepth readChunkBytes s _ := .single (.reader (.store hreader))
  simp only [htransition] at hstored
  have hclosed := hstored.tail (.reader (.close rfl))
  have hdelivered := hclosed.tail (.reader (.deliver rfl))
  have hreleased := hdelivered.tail (.reader (.release rfl))
  exact hreleased.tail (.reader (.ended rfl))

theorem runs_delivered {response : OwnedResponse} (hreader : s.reader = .ready)
    (hinflight : s.inflight = [queued]) (harticle : queued.article = none)
    (hreceive : s.receiver.receiveFor queued.kind readChunkBytes rounds =
      (some (.ok response), receiver))
    (htransition : Exchange.transition ⟨queued, response, none⟩ s.capabilityList = (.ok (), list)) :
    Runs pipelineDepth readChunkBytes s
      { s with reader := .ready, inflight := [], receiver, capabilityList := list
               handled := s.handled ++ [⟨queued, response, none⟩], count := s.count - 1
               closed := s.closed || (queued.kind = .quit && response.status.code = 205)
               responses := Function.update s.responses queued.id
                 (some (.ok ⟨queued.request, response⟩)) } := by
  have hreceiving : Runs pipelineDepth readChunkBytes s
      { s with reader := .receiving queued, inflight := [] } := runs_receiving hreader hinflight
  have hreceived := hreceiving.tail (.reader (.received rfl hreceive))
  simp only [harticle, Option.isSome_none, Bool.false_eq_true, if_false] at hreceived
  have hstored := hreceived.trans (runs_stored rfl htransition)
  exact hstored

theorem runs_finishing {first : OwnedResponse} (hreader : s.reader = .ready)
    (hinflight : s.inflight = [queued]) (harticle : queued.article.isSome = true)
    (hreceive : s.receiver.receiveFor queued.kind readChunkBytes rounds =
      (some (.ok first), receiver))
    (hproceeds : queued.proceeds first.status = true) :
    Runs pipelineDepth readChunkBytes s
      { s with reader := .finishing queued first, inflight := [], receiver
               decided := Function.update s.decided queued.id (some first) } := by
  have hreceiving : Runs pipelineDepth readChunkBytes s
      { s with reader := .receiving queued, inflight := [] } := runs_receiving hreader hinflight
  have hreceived := hreceiving.tail (.reader (.received rfl hreceive))
  simp only [harticle, if_true] at hreceived
  have hdecided := hreceived.tail (.reader (.decide rfl))
  simp only [hproceeds, if_true] at hdecided
  exact hdecided

/-- Nothing is under way: both tasks wait at the top of their loops for a request. -/
structure Quiet (s : Connection) : Prop where
  writer : s.writer = .ready none
  reader : s.reader = .ready
  queue : s.queue = []
  inflight : s.inflight = []
  unfinished : s.unfinished = none
  count : s.count = 0
  calls : ∀ id, ¬ s.holds id
  handle : s.handleDropped = false
  closed : s.closed = false

theorem quiet_new (events : List ReadEvent) (spare : Nat → Nat) :
    Quiet (Connection.new events spare) := by
  refine ⟨rfl, rfl, rfl, rfl, rfl, rfl, ?_, rfl, rfl⟩
  rintro id ⟨call, hcall, -⟩
  cases hcall

theorem Quiet.barrierFree (h : Quiet s) : s.BarrierFree := by
  refine ⟨h.calls, ?_⟩
  have hline : s.line = [] := by
    rw [Connection.line, h.reader, h.inflight, h.writer, h.queue]
    rfl
  rw [hline]
  exact List.forall_mem_nil _

section

variable {id : Nat} {operation : Operation}

theorem Quiet.runs_writing (h : Quiet s) (hid : s.calls id = none) (hpublic : operation ≠ .probe)
    (hfirst : operation.firstStage = .waiting)
    (hlist : requestKindRequiresCapabilities operation.kind = true →
      s.capabilityList.isSome = true) :
    Runs pipelineDepth readChunkBytes s
      (({ s with writer := .writing [] ⟨id, operation⟩ [] none, queue := [] } : Connection).setStage
        id operation .pending) := by
  have hwriter : s.writer ≠ .stopped := by
    rw [h.writer]
    exact nofun
  have hpending : Runs pipelineDepth readChunkBytes s
      (({ s with queue := [⟨id, operation⟩] } : Connection).setStage id operation .pending) :=
    runs_pending hid h.handle hpublic hfirst h.barrierFree h.closed hlist hwriter h.queue
  have hwriting := hpending.trans (Client.runs_writing h.writer rfl h.count)
  exact hwriting

theorem Quiet.runs_written (h : Quiet s) (hid : s.calls id = none) (hpublic : operation ≠ .probe)
    (hfirst : operation.firstStage = .waiting)
    (hlist : requestKindRequiresCapabilities operation.kind = true →
      s.capabilityList.isSome = true)
    (hbytes : operation.request.writeWireTo ≠ []) :
    Runs pipelineDepth readChunkBytes s
      (({ s with wire := s.wire ++ [.command ⟨id, operation⟩], queue := []
                 inflight := [⟨id, operation⟩], count := s.count + 1
                 writer := if operation.article.isSome then .awaiting ⟨id, operation⟩ [] none
                           else .registering [] none } : Connection).setStage id operation
                             .pending) := by
  have hwriting : Runs pipelineDepth readChunkBytes s _ :=
    h.runs_writing hid hpublic hfirst hlist
  have hreader : s.reader ≠ .stopped := by
    rw [h.reader]
    exact nofun
  have hinflight := hwriting.trans (runs_inflight rfl h.unfinished hreader h.inflight hbytes)
  exact hinflight

/-- A plain request on a quiet connection gets its response, and the connection is quiet again. -/
theorem Quiet.runs_exchange (h : Quiet s) {response : OwnedResponse} (hid : s.calls id = none)
    (hpublic : operation ≠ .probe) (hfirst : operation.firstStage = .waiting)
    (hlist : requestKindRequiresCapabilities operation.kind = true → s.capabilityList.isSome = true)
    (hbytes : operation.request.writeWireTo ≠ []) (harticle : operation.article = none)
    (hquit : operation.kind ≠ .quit)
    (hreceive : s.receiver.receiveFor operation.kind readChunkBytes rounds =
      (some (.ok response), receiver))
    (htransition : Exchange.transition ⟨⟨id, operation⟩, response, none⟩ s.capabilityList =
      (.ok (), list)) :
    ∃ last, Runs pipelineDepth readChunkBytes s last ∧ Quiet last ∧
      last.calls = Function.update s.calls id
        (some ⟨operation, .finished (.ok ⟨operation.request, response⟩)⟩) ∧
      last.wire = s.wire ++ [.command ⟨id, operation⟩] ∧ last.receiver = receiver ∧
      last.capabilityList = list := by
  have hwritten : Runs pipelineDepth readChunkBytes s _ :=
    h.runs_written hid hpublic hfirst hlist hbytes
  simp only [harticle, Option.isSome_none, Bool.false_eq_true, if_false] at hwritten
  have hready := hwritten.tail (.writer (.next rfl))
  have hdelivered := hready.trans (runs_delivered h.reader rfl harticle hreceive htransition)
  have hfinished := hdelivered.tail (.call (s.calls_setStage_self id operation .pending)
    (.receive (Function.update_self ..)))
  have hcalls := Function.update_idem (some (Call.mk operation .pending))
    (some (Call.mk operation (.finished (.ok ⟨operation.request, response⟩)))) s.calls (a := id)
  refine ⟨_, hfinished, ?_, hcalls, rfl, rfl, rfl⟩
  refine ⟨rfl, rfl, rfl, rfl, h.unfinished, ?_, ?_, h.handle, ?_⟩
  · change s.count + 1 - 1 = 0
    rw [h.count]
  · rintro other ⟨call, hcall, hholds⟩
    have hafter : Function.update s.calls id
        (some ⟨operation, .finished (.ok ⟨operation.request, response⟩)⟩) other = some call := by
      rw [← hcalls]
      exact hcall
    exact (h.barrierFree.setStage rfl).1 other ⟨call, hafter, hholds⟩
  · change (s.closed || (operation.kind = .quit && _)) = false
    simp [h.closed, hquit]

end

def postingServer : List ReadEvent :=
  [.data (ascii "101 list\r\nVERSION 2\r\n.\r\n340 go\r\n240 ok\r\n")]

def capabilitiesListed : OwnedResponse :=
  .generic .capabilities ⟨101, by decide, by decide⟩ (ascii "101 list\r\nVERSION 2\r\n.\r\n")
    ⟨10, 21, by decide⟩

def listing : Queued := ⟨0, .queueRequest (.capabilities none)⟩

def posting : Queued := ⟨1, .postArticle (ascii ".dot")⟩

def listingReceiver : BufferedResponseReceiver :=
  ((BufferedResponseReceiver.new postingServer fun _ => 4096).receiveFor .capabilities 64 1).2

theorem receives_capabilities :
    (BufferedResponseReceiver.new postingServer fun _ => 4096).receiveFor listing.operation.kind
      64 1 = (some (.ok capabilitiesListed), listingReceiver) := by
  apply Prod.fst_eq_iff.mp
  decide

theorem transition_listing : ∃ list,
    Exchange.transition ⟨listing, capabilitiesListed, none⟩ none = (.ok (), some list) := by
  have hparse : (CapabilityList.parse (capabilitiesListed.content.getD [])).isSome = true := by
    decide +kernel
  obtain ⟨list, hlist⟩ := Option.isSome_iff_exists.mp hparse
  refine ⟨list, ?_⟩
  simp only [Exchange.transition, Exchange.response, Option.getD_none, storeCapabilityTransition,
    hlist]
  rfl

theorem lists_capabilities {events : List ReadEvent}
    (hreceive : (BufferedResponseReceiver.new events fun _ => 4096).receiveFor
      listing.operation.kind 64 1 = (some (.ok capabilitiesListed), receiver)) :
    ∃ s, Reachable 1 64 events (fun _ => 4096) s ∧ Quiet s ∧
      s.calls = Function.update (fun _ => none) listing.id
        (some ⟨listing.operation, .finished (.ok ⟨listing.operation.request, capabilitiesListed⟩)⟩) ∧
      s.wire = [.command listing] ∧ s.receiver = receiver ∧
      s.capabilityList.isSome = true := by
  -- The connection has the list and waits for the next request.
  obtain ⟨list, htransition⟩ := transition_listing
  have hbytes : listing.operation.request.writeWireTo ≠ [] := by decide
  have hexchange : ∃ last, Runs 1 64 (Connection.new events fun _ => 4096) last ∧
      Quiet last ∧ last.calls = Function.update (fun _ => none) listing.id
        (some ⟨listing.operation, .finished (.ok ⟨listing.operation.request, capabilitiesListed⟩)⟩) ∧
      last.wire = [] ++ [.command listing] ∧ last.receiver = receiver ∧
      last.capabilityList = some list := by
    apply (quiet_new events fun _ => 4096).runs_exchange
    case hreceive => exact hreceive
    case htransition => exact htransition
    case hbytes => exact hbytes
    case hid => rfl
    case hpublic => exact nofun
    case hfirst => rfl
    case hlist => exact fun h => absurd h (by decide)
    case harticle => rfl
    case hquit => exact nofun
  obtain ⟨last, hruns, hquiet, hcalls, hwire, hreceiver, hlist⟩ := hexchange
  refine ⟨last, ⟨_, rfl, hruns⟩, hquiet, hcalls, hwire, hreceiver, ?_⟩
  rw [hlist]
  rfl

theorem postingServer_writes_posting :
    ∃ s next, Reachable 1 64 postingServer (fun _ => 4096) s ∧ Step 1 64 s next ∧
      next.bytesOf posting ≠ s.bytesOf posting ∧ s.bytesOf listing ≠ [] := by
  obtain ⟨s, hreachable, hquiet, hcalls, hwire, -, hlist⟩ :=
    lists_capabilities receives_capabilities
  have hid : s.calls posting.id = none := by
    rw [hcalls]
    rfl
  have hwriting : Runs 1 64 s
      (({ s with writer := .writing [] posting [] none, queue := [] } : Connection).setStage
        posting.id posting.operation .pending) :=
    hquiet.runs_writing hid nofun rfl fun _ => hlist
  have hbytes : (Piece.command posting).bytes ≠ [] := by decide
  refine ⟨_, _, hreachable.trans hwriting, step_write rfl hquiet.unfinished hbytes, ?_, ?_⟩
  · simp only [Connection.bytesOf, Connection.setStage, hwire, hquiet.unfinished]
    decide
  · simp only [Connection.bytesOf, Connection.setStage, hwire, hquiet.unfinished]
    decide

def articleWanted : OwnedResponse :=
  .generic .post ⟨340, by decide, by decide⟩ (ascii "340 go\r\n") ⟨8, 8, by decide⟩

def articleReceived : OwnedResponse :=
  .generic .post ⟨240, by decide, by decide⟩ (ascii "240 ok\r\n") ⟨8, 8, by decide⟩

def wantedReceiver : BufferedResponseReceiver :=
  (listingReceiver.receiveFor posting.operation.kind 64 1).2

theorem receives_wanted : listingReceiver.receiveFor posting.operation.kind 64 1 =
    (some (.ok articleWanted), wantedReceiver) := by
  apply Prod.fst_eq_iff.mp
  decide

theorem receives_received : ∃ receiver, wantedReceiver.receiveFor posting.operation.kind 64 1 =
    (some (.ok articleReceived), receiver) := by
  refine ⟨_, Prod.fst_eq_iff.mp ?_⟩
  decide

theorem awaits_second_response {events : List ReadEvent} {first : BufferedResponseReceiver}
    (hlisted : (BufferedResponseReceiver.new events fun _ => 4096).receiveFor listing.operation.kind
      64 1 = (some (.ok capabilitiesListed), first))
    (hwanted : first.receiveFor posting.operation.kind 64 1 =
      (some (.ok articleWanted), receiver)) :
    ∃ s, Reachable 1 64 events (fun _ => 4096) s ∧ s.reader = .finishing posting articleWanted ∧
      s.writer = .awaiting posting [] none ∧ s.wire = [.command listing, .command posting] ∧
      s.receiver = receiver ∧ s.unfinished = none ∧ s.decided posting.id = some articleWanted ∧
      s.calls posting.id = some ⟨posting.operation, .pending⟩ ∧
      s.calls listing.id = some ⟨listing.operation,
        .finished (.ok ⟨listing.operation.request, capabilitiesListed⟩)⟩ := by
  -- The reader asked for the article, and the writer has not heard of it yet.
  obtain ⟨s, hreachable, hquiet, hcalls, hwire, hreceiver, hlist⟩ := lists_capabilities hlisted
  have hid : s.calls posting.id = none := by
    rw [hcalls]
    rfl
  have hbytes : posting.operation.request.writeWireTo ≠ [] := by decide
  have hpublic : posting.operation ≠ .probe := nofun
  have hfirst : posting.operation.firstStage = .waiting := rfl
  have hwritten : Runs 1 64 s _ := hquiet.runs_written hid hpublic hfirst (fun _ => hlist) hbytes
  have hreceive : s.receiver.receiveFor posting.operation.kind 64 1 =
      (some (.ok articleWanted), receiver) := by
    rw [hreceiver]
    exact hwanted
  have hproceeds : posting.proceeds articleWanted.status = true := by decide
  have hfinishing := hwritten.trans (runs_finishing hquiet.reader rfl rfl hreceive hproceeds)
  refine ⟨_, hreachable.trans hfinishing, rfl, rfl, ?_, rfl, hquiet.unfinished, ?_, ?_, ?_⟩
  · change s.wire ++ [.command posting] = _
    rw [hwire]
    rfl
  · exact Function.update_self posting.id (some articleWanted) s.decided
  · exact s.calls_setStage_self posting.id posting.operation .pending
  · change s.calls listing.id = _
    rw [hcalls]
    rfl

theorem postingServer_answers_early :
    ∃ s, Reachable 1 64 postingServer (fun _ => 4096) s ∧
      s.reader = .storing ⟨posting, articleWanted, some articleReceived⟩ ∧
      s.writer = .awaiting posting [] none ∧ s.wire = [.command listing, .command posting] ∧
      s.unfinished = none ∧ s.decided posting.id = some articleWanted ∧
      s.calls posting.id = some ⟨posting.operation, .pending⟩ ∧
      s.calls listing.id = some ⟨listing.operation,
        .finished (.ok ⟨listing.operation.request, capabilitiesListed⟩)⟩ := by
  obtain ⟨s, hreachable, hreader, hwriter, hwire, hreceiver, hunfinished, hdecided, hcall,
    hlisted⟩ :=
    awaits_second_response receives_capabilities receives_wanted
  obtain ⟨receiver, hreceived⟩ := receives_received
  have hlast : s.receiver.receiveFor posting.operation.kind 64 1 =
      (some (.ok articleReceived), receiver) := by
    rw [hreceiver]
    exact hreceived
  have hstoring : Runs 1 64 s _ := .single (.reader (.finished hreader hlast))
  exact ⟨_, hreachable.trans hstoring, rfl, hwriter, hwire, hunfinished, hdecided, hcall, hlisted⟩

theorem postingServer_takes_posting :
    ∃ s, Reachable 1 64 postingServer (fun _ => 4096) s ∧
      s.calls listing.id = some ⟨listing.operation,
        .finished (.ok ⟨listing.operation.request, capabilitiesListed⟩)⟩ ∧
      s.calls posting.id = some ⟨posting.operation,
        .finished (.ok ⟨posting.operation.request, articleReceived⟩)⟩ ∧
      s.writer = .ready none ∧ s.written = [listing, posting] ∧
      s.decided posting.id = some articleWanted := by
  obtain ⟨s, hreachable, hreader, hwriter, hwire, hunfinished, hdecided, hcall, hlisted⟩ :=
    postingServer_answers_early
  have hbytes : (Piece.article posting).bytes ≠ [] := by decide
  have hproceeds : posting.proceeds articleWanted.status = true := by decide
  have hposted : Runs 1 64 s _ := runs_posted hwriter hunfinished hdecided hproceeds hbytes
  have htransition : Exchange.transition ⟨posting, articleWanted, some articleReceived⟩
      s.capabilityList = (.ok (), s.capabilityList) := rfl
  have hstored := hposted.trans (runs_stored hreader htransition)
  have hresponse := Function.update_self posting.id
    (some (.ok (Exchange.completed ⟨posting, articleWanted, some articleReceived⟩))) s.responses
  have hfinished := hstored.tail (.call hcall (.receive hresponse))
  refine ⟨_, hreachable.trans hfinished, hlisted, Connection.calls_setStage_self .., rfl, ?_,
    hdecided⟩
  change (s.wire ++ [Piece.article posting]).filterMap Piece.command? = _
  rw [hwire]
  rfl

/-- A server that asks for the article and closes the connection. -/
def closingServer : List ReadEvent :=
  [.data (ascii "101 list\r\nVERSION 2\r\n.\r\n340 go\r\n")]

theorem closingServer_stops_writer :
    ∃ s, Reachable 1 64 closingServer (fun _ => 4096) s ∧ s.writer = .stopped ∧
      s.wire = [.command listing, .command posting] ∧ s.unfinished = none ∧
      s.decided posting.id = some articleWanted := by
  have hlisted : ((BufferedResponseReceiver.new closingServer fun _ => 4096).receiveFor
      listing.operation.kind 64 1).1 = some (.ok capabilitiesListed) := by decide
  have hwanted : (((BufferedResponseReceiver.new closingServer fun _ => 4096).receiveFor
      listing.operation.kind 64 1).2.receiveFor posting.operation.kind 64 1).1 =
        some (.ok articleWanted) := by decide
  obtain ⟨s, hreachable, hreader, hwriter, hwire, hreceiver, hunfinished, hdecided, -⟩ :=
    awaits_second_response (Prod.fst_eq_iff.mp hlisted) (Prod.fst_eq_iff.mp hwanted)
  have hclosed : (s.receiver.receiveFor posting.operation.kind 64 1).1 =
      some (.error .unexpectedEof) := by
    rw [hreceiver]
    decide
  -- The end of file makes the reader abort the writer before it takes the flag.
  have hfailed : Runs 1 64 s _ :=
    .single (.reader (.receiveFailed (.inr ⟨_, hreader⟩) (Prod.fst_eq_iff.mp hclosed)))
  have hdelivered := hfailed.tail (.reader (.failDeliver rfl))
  have hended := hdelivered.tail (.reader (.failEnd rfl))
  have haborted := hended.tail (.reader (.failAbort rfl))
  have hstopped := haborted.tail (.writer (.aborted rfl))
  exact ⟨_, hreachable.trans hstopped, rfl, hwire, hunfinished, hdecided⟩

end NntpBench.Client
