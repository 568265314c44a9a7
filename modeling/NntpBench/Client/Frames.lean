import NntpBench.ReceiveAll

namespace NntpBench.Protocol

variable {chunk seen : Bytes} {readChunkBytes : Nat} {self : Receiving} {kind : RequestKind}
  {response : OwnedResponse}

namespace BufferedResponseReceiver

/-- The bytes that the receiver has not given out: those it holds and those still to be read. -/
def remaining (self : BufferedResponseReceiver) : Bytes := self.pending ++ unread self.reader

theorem remaining_readIntoPendingBytes {self next : BufferedResponseReceiver} {count : Nat}
    (h : self.readIntoPendingBytes readChunkBytes = (.ok count, next)) :
    next.remaining = self.remaining ∧ ∃ chunk, next.pending = self.pending ++ chunk := by
  unfold readIntoPendingBytes at h
  dsimp only at h
  split at h
  · cases (Prod.mk.inj h).1
  · rename_i bytes reader hpoll
    obtain ⟨-, rfl⟩ := Prod.mk.inj h
    refine ⟨?_, bytes, rfl⟩
    rw [remaining, remaining, unread_of_pollRead hpoll, List.append_assoc]

end BufferedResponseReceiver

open BufferedResponseReceiver

/-- The first frame of a byte stream for a request kind, and what follows it. -/
def takeFrame (kind : RequestKind) (stream : Bytes) : Option (FramedResponse × Bytes) :=
  match oneShot kind stream with
  | .complete framed => some (framed, stream.drop framed.bytes.length)
  | _ => none

/-- What the receiver returns for a frame, and what it leaves behind it. -/
def Takes (kind : RequestKind) (stream : Bytes) (response : OwnedResponse) (rest : Bytes) : Prop :=
  ∃ framed, takeFrame kind stream = some (framed, rest) ∧ framed.intoOwnedResponse = .ok response

namespace Receiving

theorem takes_of_extract {next : Receiving} (h : Seen kind seen self)
    (hpending : self.receiver.pending = seen ++ chunk)
    (hextract : self.extract = (.ok (some response), next)) :
    Takes kind self.receiver.remaining response next.receiver.remaining := by
  obtain ⟨hresult, hnext⟩ := extract_eq h hpending
  rw [hextract] at hresult hnext
  cases hone : oneShot kind (seen ++ chunk) with
  | needMore => simp [hone, OneShot.outcome] at hresult
  | invalid => simp [hone, OneShot.outcome] at hresult
  | complete framed =>
    rw [hone] at hresult
    simp only [hone] at hnext
    have howned : framed.intoOwnedResponse = .ok response := by
      cases howned : framed.intoOwnedResponse with
      | error error => simp [OneShot.outcome, howned, Except.map] at hresult
      | ok owned => simpa [OneShot.outcome, howned, Except.map] using hresult.symm
    -- The decision on the pending bytes is the decision on all of them.
    have hall : oneShot kind self.receiver.remaining = .complete framed := by
      rw [remaining, hpending, oneShot_append _ (by simp [hone]), hone]
    have hle : framed.bytes.length ≤ self.receiver.pending.length := by
      rw [hpending]
      exact (oneShot_complete hone).2.1.length_le
    have hrest : next.receiver.remaining = self.receiver.remaining.drop framed.bytes.length := by
      rw [hnext.2, remaining, remaining, List.drop_append_of_le_length hle, hpending]
    refine ⟨framed, ?_, howned⟩
    simp only [takeFrame, hall, hrest]

theorem seen_of_extract {next : Receiving} (h : Seen kind seen self)
    (hpending : self.receiver.pending = seen ++ chunk)
    (hextract : self.extract = (.ok none, next)) :
    Seen kind (seen ++ chunk) next ∧ next.receiver = self.receiver := by
  obtain ⟨hresult, hnext⟩ := extract_eq h hpending
  rw [hextract] at hresult hnext
  rw [OneShot.outcome_eq_ok_none hresult.symm] at hnext
  exact hnext

theorem takes_of_receiveLoop {rounds : Nat} {receiver : BufferedResponseReceiver}
    (h : Seen kind seen self) (hpending : self.receiver.pending = seen ++ chunk)
    (hloop : receiveLoop readChunkBytes rounds self = (some (.ok response), receiver)) :
    Takes kind self.receiver.remaining response receiver.remaining := by
  induction rounds generalizing self seen chunk with
  | zero =>
    rw [receiveLoop] at hloop
    split at hloop
    · cases (Prod.mk.inj hloop).1
    · rename_i found next hextract
      obtain ⟨hfound, rfl⟩ := Prod.mk.inj hloop
      cases hfound
      exact takes_of_extract h hpending hextract
    · cases (Prod.mk.inj hloop).1
  | succ rounds ih =>
    rw [receiveLoop] at hloop
    split at hloop
    · cases (Prod.mk.inj hloop).1
    · rename_i found next hextract
      obtain ⟨hfound, rfl⟩ := Prod.mk.inj hloop
      cases hfound
      exact takes_of_extract h hpending hextract
    · rename_i next hextract
      obtain ⟨hseen, hreceiver⟩ := seen_of_extract h hpending hextract
      rw [← hreceiver] at hpending ⊢
      dsimp only at hloop
      unfold readAndExtract at hloop
      cases hread : next.receiver.readIntoPendingBytes readChunkBytes with
      | mk result reading =>
        cases result with
        | error error => simp [hread] at hloop
        | ok count =>
          cases count with
          | zero => simp [hread] at hloop
          | succ count =>
            obtain ⟨hremaining, more, hmore⟩ := remaining_readIntoPendingBytes hread
            have hreading : Seen kind (seen ++ chunk) { next with receiver := reading } :=
              ⟨hseen.waiting, hseen.scanned⟩
            rw [hpending] at hmore
            simp only [hread] at hloop
            rw [← hremaining]
            split at hloop
            · cases (Prod.mk.inj hloop).1
            · rename_i found last hlast
              obtain ⟨hfound, rfl⟩ := Prod.mk.inj hloop
              cases hfound
              exact takes_of_extract hreading hmore hlast
            · rename_i last hlast
              obtain ⟨hseenLast, hsame⟩ := seen_of_extract hreading hmore hlast
              have hpendingLast : last.receiver.pending = (seen ++ chunk ++ more) ++ [] := by
                rw [hsame, List.append_nil]
                exact hmore
              have htakes := ih hseenLast hpendingLast hloop
              rw [hsame] at htakes
              exact htakes

end Receiving

theorem BufferedResponseReceiver.takes_of_receiveFor {self next : BufferedResponseReceiver}
    {rounds : Nat} (h : self.receiveFor kind readChunkBytes rounds = (some (.ok response), next)) :
    Takes kind self.remaining response next.remaining := by
  unfold receiveFor at h
  split at h
  · cases (Prod.mk.inj h).1
  · exact Receiving.takes_of_receiveLoop (Receiving.seen_new self kind) rfl h

theorem FramedResponse.of_intoOwnedResponse {framed : FramedResponse}
    (h : framed.intoOwnedResponse = .ok response) :
    response.asBytes = framed.bytes ∧ response.status = framed.status := by
  unfold intoOwnedResponse at h
  dsimp only at h
  split_ifs at h
  · cases h
    exact ⟨rfl, rfl⟩
  · cases hcontent : framed.genericContentRange with
    | none => simp [hcontent] at h
    | some content =>
      simp only [hcontent, Except.ok.injEq] at h
      subst h
      exact ⟨rfl, rfl⟩

end NntpBench.Protocol
