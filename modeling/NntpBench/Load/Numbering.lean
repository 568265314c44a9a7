import Mathlib
import NntpBench.Lib.Strides
import NntpBench.Load.Workload

namespace NntpBench.Load

open Protocol

def requestsForConnection (total : Option UInt64) (connections index : UInt64) : Option UInt64 :=
  total.map fun total => total / connections + if index < total % connections then 1 else 0

/-- The clients of one process, as `run_load` numbers them. -/
structure ClientRange where
  clientOffset : Nat
  connections : Nat
  deriving DecidableEq, Repr

def ClientRange.clients (self : ClientRange) : List Nat :=
  List.range' self.clientOffset self.connections

section Numbering

variable (startId total totalClients : UInt64)

def clientIds (client : Nat) : List UInt64 :=
  let requests := (requestsForConnection (some total) totalClients (.ofNat client)).getD 0
  (List.range requests.toNat).map fun requestIndex =>
    syntheticRequestId startId (.ofNat client) (.ofNat requestIndex) totalClients .disjoint

def processIds (range : ClientRange) : List UInt64 :=
  range.clients.flatMap (clientIds startId total totalClients)

variable {totalClients}

theorem toNat_requestsForConnection (hclients : 0 < totalClients) (client : UInt64) :
    ∃ requests, requestsForConnection (some total) totalClients client = some requests ∧
      requests.toNat = Strides.share total.toNat totalClients.toNat client.toNat := by
  refine ⟨_, rfl, ?_⟩
  rw [UInt64.lt_iff_toNat_lt] at hclients
  have hshare : Strides.share total.toNat totalClients.toNat client.toNat < 2 ^ 64 :=
    Nat.lt_of_le_of_lt (Strides.share_le hclients _) total.toNat_lt
  unfold Strides.share at hshare ⊢
  simp only [UInt64.lt_iff_toNat_lt, UInt64.toNat_mod]
  split_ifs at hshare ⊢ with hfirst
  · rw [UInt64.toNat_add, UInt64.toNat_div]
    exact Nat.mod_eq_of_lt hshare
  · rw [UInt64.toNat_add, UInt64.toNat_div]
    exact Nat.mod_eq_of_lt hshare

variable {total}

theorem toNat_offset {client request : UInt64}
    (h : client.toNat + request.toNat * totalClients.toNat < total.toNat) :
    (client + request * totalClients).toNat =
      client.toNat + request.toNat * totalClients.toNat := by
  have hlt := Nat.lt_trans h total.toNat_lt
  rw [UInt64.toNat_add, UInt64.toNat_mul, Nat.add_mod_mod]
  exact Nat.mod_eq_of_lt hlt

theorem request_lt_iff {client request : UInt64} (hclient : client < totalClients) :
    (∃ requests, requestsForConnection (some total) totalClients client = some requests ∧
        request < requests) ↔
      client.toNat + request.toNat * totalClients.toNat < total.toNat := by
  have hclients : 0 < totalClients := UInt64.lt_of_le_of_lt UInt64.zero_le hclient
  obtain ⟨requests, hrequests, hshare⟩ := toNat_requestsForConnection total hclients client
  rw [UInt64.lt_iff_toNat_lt] at hclient
  rw [← Strides.lt_share_iff hclient, ← hshare, ← UInt64.lt_iff_toNat_lt, hrequests]
  constructor
  · rintro ⟨other, hother, hlt⟩
    rw [Option.some.inj hother]
    exact hlt
  · intro hlt
    exact ⟨requests, rfl, hlt⟩

theorem syntheticRequestId_disjoint (client request : UInt64) :
    syntheticRequestId startId client request totalClients .disjoint =
      startId + (client + request * totalClients) := by
  unfold syntheticRequestId
  exact UInt64.add_assoc _ _ _

theorem clientIds_eq {client : Nat} (hclient : client < totalClients.toNat) :
    clientIds startId total totalClients client =
      (Strides.hand total.toNat totalClients.toNat client).map fun offset =>
        startId + .ofNat offset := by
  -- What a client asks for are the numbers it is dealt, counted from the start of the run.
  have hsmall : (UInt64.ofNat client).toNat = client :=
    UInt64.toNat_ofNat_of_lt' (Nat.lt_trans hclient totalClients.toNat_lt)
  have hlt : UInt64.ofNat client < totalClients := by
    rw [UInt64.lt_iff_toNat_lt, hsmall]
    exact hclient
  have hclients : 0 < totalClients := UInt64.lt_of_le_of_lt UInt64.zero_le hlt
  obtain ⟨requests, hrequests, hshare⟩ := toNat_requestsForConnection total hclients (.ofNat client)
  rw [hsmall] at hshare
  unfold clientIds Strides.hand
  dsimp only
  rw [hrequests, Option.getD_some, hshare, List.map_map]
  apply List.map_congr_left
  intro request hrequest
  rw [List.mem_range] at hrequest
  have hrequest' : (UInt64.ofNat request).toNat = request := by
    apply UInt64.toNat_ofNat_of_lt'
    exact Nat.lt_of_lt_of_le hrequest
      (Nat.le_of_lt (Nat.lt_of_le_of_lt (Strides.share_le (Nat.zero_lt_of_lt hclient) _)
        total.toNat_lt))
  rw [syntheticRequestId_disjoint]
  congr 1
  apply UInt64.toNat_inj.mp
  have hoffset := (Strides.lt_share_iff hclient).mp hrequest
  have hnat : (UInt64.ofNat client + UInt64.ofNat request * totalClients).toNat =
      client + request * totalClients.toNat := by
    have hbound : (UInt64.ofNat client).toNat + (UInt64.ofNat request).toNat * totalClients.toNat <
        total.toNat := by
      rw [hsmall, hrequest']
      exact hoffset
    rw [toNat_offset hbound, hsmall, hrequest']
  rw [hnat]
  exact (UInt64.toNat_ofNat_of_lt' (Nat.lt_trans hoffset total.toNat_lt)).symm

end Numbering

/-- The clients of a run ask for every identifier from the start of the run on exactly once: as
pairs of a client and a request, and for any way of sharing the clients between processes. With a
segment file, the request at an offset is for the segment at that offset, counted around the file.
-/
theorem disjoint_requests_cover_once (startId total totalClients : UInt64)
    (hclients : 0 < totalClients) :
    Set.BijOn
        (fun pair : UInt64 × UInt64 =>
          syntheticRequestId startId pair.1 pair.2 totalClients .disjoint)
        {pair | pair.1 < totalClients ∧ ∃ requests,
          requestsForConnection (some total) totalClients pair.1 = some requests ∧
            pair.2 < requests}
        {id | ∃ offset, offset < total ∧ id = startId + offset} ∧
      (∀ ranges : List ClientRange,
        (ranges.flatMap ClientRange.clients).Perm (List.range totalClients.toNat) →
          (ranges.flatMap (processIds startId total totalClients)).Perm
            ((List.range total.toNat).map fun offset => startId + .ofNat offset)) ∧
      ∀ (segments : SegmentSet) (client request requests : UInt64), client < totalClients →
        requestsForConnection (some total) totalClients client = some requests →
          request < requests →
          ∃ offset, offset = client.toNat + request.toNat * totalClients.toNat ∧
            offset < total.toNat ∧
            syntheticRequestId startId client request totalClients .disjoint =
              startId + .ofNat offset ∧
            segments.ids[offset % segments.ids.length]? =
              some (segmentRefForRequest segments client totalClients request) := by
  refine ⟨⟨?_, ?_, ?_⟩, ?_, ?_⟩
  · rintro ⟨client, request⟩ ⟨hclient, hrequest⟩
    have hoffset := (request_lt_iff hclient).mp hrequest
    refine ⟨client + request * totalClients, ?_, syntheticRequestId_disjoint _ _ _⟩
    rw [UInt64.lt_iff_toNat_lt, toNat_offset hoffset]
    exact hoffset
  · rintro ⟨client, request⟩ ⟨hclient, hrequest⟩ ⟨client', request'⟩ ⟨hclient', hrequest'⟩ heq
    have hoffset := (request_lt_iff hclient).mp hrequest
    have hoffset' := (request_lt_iff hclient').mp hrequest'
    dsimp only at heq hclient hclient' hoffset hoffset'
    rw [syntheticRequestId_disjoint, syntheticRequestId_disjoint] at heq
    have hnat := congrArg UInt64.toNat ((UInt64.add_right_inj startId).mp heq)
    rw [toNat_offset hoffset, toNat_offset hoffset'] at hnat
    rw [UInt64.lt_iff_toNat_lt] at hclient hclient'
    have hhand := Strides.hand_of_number hclient request.toNat
    have hhand' := Strides.hand_of_number hclient' request'.toNat
    rw [hnat] at hhand
    rw [Prod.mk.injEq, ← UInt64.toNat_inj, ← UInt64.toNat_inj]
    exact ⟨hhand.1.symm.trans hhand'.1, hhand.2.symm.trans hhand'.2⟩
  · rintro id ⟨offset, hoffset, rfl⟩
    rw [UInt64.lt_iff_toNat_lt] at hoffset hclients
    have hnumber := Nat.mod_add_div' offset.toNat totalClients.toNat
    have hbound : (offset % totalClients).toNat + (offset / totalClients).toNat *
        totalClients.toNat < total.toNat := by
      rw [UInt64.toNat_mod, UInt64.toNat_div, hnumber]
      exact hoffset
    have hclient : offset % totalClients < totalClients := by
      rw [UInt64.lt_iff_toNat_lt, UInt64.toNat_mod]
      exact Nat.mod_lt _ hclients
    refine ⟨(offset % totalClients, offset / totalClients), ⟨hclient, ?_⟩, ?_⟩
    · exact (request_lt_iff hclient).mpr hbound
    · dsimp only
      rw [syntheticRequestId_disjoint]
      congr 1
      apply UInt64.toNat_inj.mp
      rw [toNat_offset hbound, UInt64.toNat_mod, UInt64.toNat_div, hnumber]
  · intro ranges hranges
    have hflat : ranges.flatMap (processIds startId total totalClients) =
        (ranges.flatMap ClientRange.clients).flatMap (clientIds startId total totalClients) :=
      (List.flatMap_assoc).symm
    have hall : (List.range totalClients.toNat).flatMap (clientIds startId total totalClients) =
        ((List.range totalClients.toNat).flatMap
          (Strides.hand total.toNat totalClients.toNat)).map fun offset => startId +
            .ofNat offset := by
      rw [List.map_flatMap]
      apply List.flatMap_congr
      intro client hclient
      exact clientIds_eq startId (List.mem_range.mp hclient)
    rw [hflat]
    refine (hranges.flatMap_right _).trans ?_
    rw [hall]
    exact (Strides.hands_perm_range (UInt64.lt_iff_toNat_lt.mp hclients)).map _
  · intro segments client request requests hclient hrequests hrequest
    have hoffset := (request_lt_iff hclient).mp ⟨requests, hrequests, hrequest⟩
    refine ⟨_, rfl, hoffset, ?_, ?_⟩
    · rw [syntheticRequestId_disjoint]
      congr 1
      apply UInt64.toNat_inj.mp
      rw [toNat_offset hoffset]
      exact (UInt64.toNat_ofNat_of_lt' (Nat.lt_trans hoffset total.toNat_lt)).symm
    · unfold segmentRefForRequest
      simp only [toNat_offset hoffset, List.get_eq_getElem]
      rw [List.getElem?_eq_getElem]

theorem two_processes_cover_five_requests :
    (processIds 7 5 3 ⟨0, 2⟩ ++ processIds 7 5 3 ⟨2, 1⟩).Perm [7, 8, 9, 10, 11] := by
  have hcover := (disjoint_requests_cover_once 7 5 3 (by decide)).2.1 [⟨0, 2⟩, ⟨2, 1⟩] (by decide)
  have hids : ((List.range 5).map fun offset => (7 : UInt64) + .ofNat offset) =
      [7, 8, 9, 10, 11] := by decide
  have htotal : UInt64.toNat 5 = 5 := by decide
  rw [htotal, hids] at hcover
  simpa using hcover

end NntpBench.Load
