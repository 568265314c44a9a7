import NntpBench.Client.Step

namespace NntpBench.Client

open Protocol

variable {pipelineDepth readChunkBytes : Nat} {s next : Connection}

/-- What belongs to the callers and the reader. -/
structure WriterFrame (s next : Connection) : Prop where
  calls : next.calls = s.calls
  handleDropped : next.handleDropped = s.handleDropped
  closed : next.closed = s.closed
  capabilityList : next.capabilityList = s.capabilityList
  reader : next.reader = s.reader
  receiver : next.receiver = s.receiver
  decided : next.decided = s.decided
  handled : next.handled = s.handled

theorem WriterStep.frame (h : WriterStep pipelineDepth s next) : WriterFrame s next := by
  cases h <;> constructor <;> rfl

/-- What belongs to the callers and the writer. -/
structure ReaderFrame (s next : Connection) : Prop where
  calls : next.calls = s.calls
  handleDropped : next.handleDropped = s.handleDropped
  writer : next.writer = s.writer
  queue : next.queue = s.queue
  wire : next.wire = s.wire
  unfinished : next.unfinished = s.unfinished

theorem ReaderStep.frame (h : ReaderStep readChunkBytes s next) : ReaderFrame s next := by
  cases h <;> constructor <;> rfl

theorem Step.by_task {motive : Connection → Prop} (h : Step pipelineDepth readChunkBytes s next)
    (hcaller : ∀ calls handleDropped queue writerAborted readerAborted,
      motive { s with calls, handleDropped, queue, writerAborted, readerAborted })
    (hwriter : WriterStep pipelineDepth s next → motive next)
    (hreader : ReaderStep readChunkBytes s next → motive next) : motive next := by
  cases h with
  | writer h => exact hwriter h
  | reader h => exact hreader h
  | _ => exact hcaller _ _ _ _ _

namespace WriterState

@[simp] theorem written_start (first : Queued) : (start first).written = [] := by
  unfold start
  split_ifs <;> rfl

@[simp] theorem unwritten_start (first : Queued) : (start first).unwritten = [first] := by
  unfold start
  split_ifs <;> simp [unwritten]

@[simp] theorem written_writeNext (written todo : List Queued) (held : Option Queued) :
    (writeNext written todo held).written = written := by
  cases todo <;> rfl

@[simp] theorem unwritten_writeNext (written todo : List Queued) (held : Option Queued) :
    (writeNext written todo held).unwritten = todo ++ held.toList := by
  cases todo <;> rfl

end WriterState

/-- What a step of the writer does to the requests: nothing, or it completes a command, or it
hands a request to the in-flight channel, or it gives up on all it has. -/
inductive WriterFlow (s next : Connection) : Prop where
  | stays (hinflight : next.inflight = s.inflight)
    (hwritten : next.writer.written = s.writer.written)
    (hunwritten : next.unwritten = s.unwritten) (hwire : next.written = s.written)
    (hbroken : s.writer.broken = true → next.writer.broken = true)
  | writes (queued : Queued) (hinflight : next.inflight = s.inflight)
    (hwritten : next.writer.written = s.writer.written ++ [queued])
    (hunwritten : s.unwritten = queued :: next.unwritten)
    (hwire : next.written = s.written ++ [queued]) (hbroken : s.writer.broken = false)
  | registers (queued : Queued) (hinflight : next.inflight = s.inflight ++ [queued])
    (hwritten : s.writer.written = queued :: next.writer.written)
    (hunwritten : next.unwritten = s.unwritten) (hwire : next.written = s.written)
    (hbroken : s.writer.broken = false)
  | drops (hinflight : next.inflight = s.inflight) (hwritten : next.writer.written = [])
    (hunwritten : List.Sublist next.unwritten s.unwritten) (hwire : next.written = s.written)
    (hbroken : next.writer.broken = true)

theorem WriterStep.flow (h : WriterStep pipelineDepth s next) : WriterFlow s next := by
  cases h
  case recv h hqueue =>
    refine .stays rfl (by rw [h, WriterState.written_start]; rfl) ?_ rfl (by rw [h]; exact nofun)
    rw [Connection.unwritten, Connection.unwritten, h, hqueue, WriterState.unwritten_start]
    rfl
  case takeHeld h =>
    refine .stays rfl (by rw [h, WriterState.written_start]; rfl) ?_ rfl (by rw [h]; exact nofun)
    rw [Connection.unwritten, Connection.unwritten, h, WriterState.unwritten_start]
    rfl
  case hold h hqueue hlength halone =>
    refine .stays rfl (by rw [h, WriterState.written_writeNext]; rfl) ?_ rfl
      (by rw [h]; exact nofun)
    rw [Connection.unwritten, Connection.unwritten, h, hqueue, WriterState.unwritten_writeNext]
    simp [WriterState.unwritten]
  case collected h hdone =>
    refine .stays rfl (by rw [h, WriterState.written_writeNext]; rfl) ?_ rfl
      (by rw [h]; exact nofun)
    rw [Connection.unwritten, Connection.unwritten, h, WriterState.unwritten_writeNext]
    simp [WriterState.unwritten]
  case wrote current held h hsent =>
    refine .writes current rfl (by rw [h, WriterState.written_writeNext]; rfl) ?_
      (by simp [Connection.written, Piece.command?]) (by rw [h]; rfl)
    rw [Connection.unwritten, Connection.unwritten, h, WriterState.unwritten_writeNext]
    simp [WriterState.unwritten]
  case inflight current pending held h hreader hroom =>
    refine .registers current rfl ?_ ?_ rfl (by rw [h]; rfl)
    · split_ifs <;> simp [h, WriterState.written]
    · simp only [Connection.unwritten]
      split_ifs <;> simp [h, WriterState.unwritten]
  case drain error queued rest h hqueue =>
    refine .drops rfl (by rw [h]; rfl) ?_ rfl (by rw [h]; rfl)
    simp [Connection.unwritten, hqueue]
  case disconnected | writeFailed | inflightClosed | poison | drained | leave | aborted =>
    exact .drops rfl rfl (by simp [Connection.unwritten, WriterState.unwritten]) rfl rfl
  case write => exact .stays rfl rfl rfl rfl id
  -- What is left only renames the writer's lists.
  all_goals
    refine .stays rfl ?_ ?_ ?_ ?_ <;>
      simp [Connection.unwritten, Connection.written, WriterState.written, WriterState.unwritten,
        WriterState.broken, Piece.command?, *]

theorem WriterFlow.sublist (h : WriterFlow s next) :
    List.Sublist (next.inflight ++ next.writer.written ++ next.unwritten)
      (s.inflight ++ s.writer.written ++ s.unwritten) := by
  cases h with
  | stays hinflight hwritten hunwritten hwire hbroken => rw [hinflight, hwritten, hunwritten]
  | writes queued hinflight hwritten hunwritten hwire hbroken =>
    rw [hinflight, hwritten, hunwritten]
    simp
  | registers queued hinflight hwritten hunwritten hwire hbroken =>
    rw [hinflight, hwritten, hunwritten]
    simp
  | drops hinflight hwritten hunwritten hwire hbroken =>
    rw [hinflight, hwritten]
    exact ((List.Sublist.refl _).append (List.nil_sublist _)).append hunwritten

/-- What a step of the reader does to the requests: it moves them on in order, or it gives up on
some. -/
inductive ReaderFlow (s next : Connection) : Prop where
  | advances (hbroken : s.reader.broken = false) (hnext : next.reader.broken = false)
    (horder : next.handled.map Exchange.queued ++ next.reader.unhandled ++ next.inflight =
      s.handled.map Exchange.queued ++ s.reader.unhandled ++ s.inflight)
  | drops (dropped : List Queued) (hnext : next.reader.broken = true)
    (hhandled : next.handled = s.handled)
    (horder : s.reader.unhandled ++ s.inflight = dropped ++ next.inflight)

namespace ReaderState

variable (exchange : Exchange) (result : Except ClientError Unit)

theorem broken_stored : (stored exchange result).broken = false := by
  cases result <;> rfl

theorem unhandled_stored : (stored exchange result).unhandled = [] := by
  cases result <;> rfl

theorem tickets_stored : (stored exchange result).tickets = [exchange.queued] := by
  cases result <;> rfl

theorem opened_stored : (stored exchange result).opened = [exchange.queued] := by
  cases result <;> rfl

theorem counted_stored : (stored exchange result).counted = [exchange.queued] := by
  cases result <;> rfl

end ReaderState

theorem ReaderState.unhandled_of_broken {reader : ReaderState} (h : reader.broken = true) :
    reader.unhandled = [] := by
  cases reader <;> first | rfl | cases h

theorem ReaderStep.flow (h : ReaderStep readChunkBytes s next) : ReaderFlow s next := by
  cases h
  case recv h hinflight =>
    refine .advances (by rw [h]; rfl) rfl ?_
    simp [h, hinflight, ReaderState.unhandled]
  case received queued response receiver rounds h hreceive =>
    refine .advances (by rw [h]; rfl) ?_ ?_ <;> dsimp only <;> split_ifs <;>
      simp [h, ReaderState.unhandled, ReaderState.broken]
  case decide queued first h =>
    refine .advances (by rw [h]; rfl) ?_ ?_ <;> dsimp only <;> split_ifs <;>
      simp [h, ReaderState.unhandled, ReaderState.broken]
  case store exchange h =>
    refine .advances (by rw [h]; rfl) (ReaderState.broken_stored ..) ?_
    rw [ReaderState.unhandled_stored, h]
    simp [ReaderState.unhandled]
  case receiveFailed queued error receiver rounds h hreceive =>
    refine .drops [queued] rfl rfl ?_
    rcases h with h | ⟨first, h⟩ <;> simp [h, ReaderState.unhandled]
  case disconnected h hinflight hwriter =>
    exact .drops [] rfl rfl (by simp [h, hinflight, ReaderState.unhandled])
  case failDrain queued waiting error rest h hinflight =>
    exact .drops [waiting] (by rw [h]; rfl) rfl (by simp [h, hinflight, ReaderState.unhandled])
  case failDeliver h | failEnd h | failAbort h | failPoison h | failDrained h hinflight =>
    exact .drops [] rfl rfl (by simp [h, ReaderState.unhandled])
  case failLeave h => exact .drops s.inflight rfl rfl (by simp [h, ReaderState.unhandled])
  case aborted h => exact .drops (s.reader.unhandled ++ s.inflight) rfl rfl (by simp)
  all_goals
    exact .advances (by simp [ReaderState.broken, *]) (by simp [ReaderState.broken])
      (by simp [ReaderState.unhandled, *])

/-- The reader never gives a request back, and it takes guards only from the in-flight channel. -/
theorem ReaderStep.tickets_sublist (h : ReaderStep readChunkBytes s next) :
    List.Sublist (next.reader.tickets ++ next.inflight) (s.reader.tickets ++ s.inflight) := by
  cases h
  case received queued response receiver rounds h hreceive =>
    dsimp only
    split_ifs <;> simp [h, ReaderState.tickets, ReaderState.active]
  case decide queued first h =>
    dsimp only
    split_ifs <;> simp [h, ReaderState.tickets, ReaderState.active]
  case store exchange h => rw [ReaderState.tickets_stored, h]; rfl
  case receiveFailed queued error receiver rounds h hreceive =>
    rcases h with h | ⟨first, h⟩ <;> simp [h, ReaderState.tickets, ReaderState.active]
  all_goals simp [ReaderState.tickets, ReaderState.active, *]

theorem ReaderStep.opened_sublist (h : ReaderStep readChunkBytes s next) :
    List.Sublist (next.reader.opened ++ next.inflight) (s.reader.opened ++ s.inflight) := by
  cases h
  case received queued response receiver rounds h hreceive =>
    dsimp only
    split_ifs <;> simp [h, ReaderState.opened, ReaderState.active]
  case decide queued first h =>
    dsimp only
    split_ifs <;> simp [h, ReaderState.opened, ReaderState.active]
  case store exchange h => rw [ReaderState.opened_stored, h]; rfl
  case receiveFailed queued error receiver rounds h hreceive =>
    rcases h with h | ⟨first, h⟩ <;> simp [h, ReaderState.opened, ReaderState.active]
  all_goals simp [ReaderState.opened, ReaderState.active, *]

end NntpBench.Client
