import NntpBench.Lib.Records
import NntpBench.Load.Config

namespace NntpBench.Load

open Protocol Terminator ExceptBind Records

/-- `to_le_bytes` of a `u64`. -/
def le64 (value : UInt64) : Bytes := littleEndian 8 value.toNat

def ClientCommandMix.identityByte : ClientCommandMix → UInt8
  | .article => 0
  | .body => 1
  | .alternate => 2
  | .stat => 3
  | .mixed => 4

def LoadWorkloadPolicy.identityByte : LoadWorkloadPolicy → UInt8
  | .disjoint => 0
  | .shared => 1
  | .repeat => 2

/-- `declared_size`; there is a size for every message-id. -/
def SegmentSet.declaredSize (self : SegmentSet) (index : Nat) : UInt64 :=
    self.declaredSizes.getD index 0

/-- The hasher as the bytes it was fed. -/
def updateWorkloadIdentity (hasher : Bytes) (tag : UInt8) (value : Bytes) : Bytes :=
  hasher ++ [tag] ++ littleEndian 8 value.length ++ value

/-- The bytes that are fed to MD5; the digest is not modelled. -/
def workloadIdentityBytes (config : LoadConfig) : Bytes :=
  let hasher := ascii "nntpbench-workload-v1"
  let hasher := updateWorkloadIdentity hasher 0 (le64 (config.requests.getD 0))
  let hasher := updateWorkloadIdentity hasher 1 (le64 config.transferBytes)
  let hasher := updateWorkloadIdentity hasher 2 (littleEndian 16 config.duration)
  let hasher :=
    match config.offeredRate with
    | some rate => updateWorkloadIdentity (updateWorkloadIdentity hasher 3 [1]) 4 (le64 rate)
    | none => updateWorkloadIdentity hasher 3 [0]
  let hasher := updateWorkloadIdentity hasher 5 (le64 config.connections)
  let hasher := updateWorkloadIdentity hasher 6 (le64 config.clientOffset)
  let hasher := updateWorkloadIdentity hasher 7 (le64 config.totalClients)
  let hasher := updateWorkloadIdentity hasher 8 (le64 config.pipelineDepth)
  let hasher := updateWorkloadIdentity hasher 9 [config.commandMix.identityByte]
  let hasher := updateWorkloadIdentity hasher 10 (le64 config.startId)
  let hasher := updateWorkloadIdentity hasher 11 [config.workloadPolicy.identityByte]
  match config.segments with
  | some segments =>
    segments.ids.zipIdx.foldl (fun hasher (messageId, index) =>
      updateWorkloadIdentity (updateWorkloadIdentity hasher 12 (le64 (segments.declaredSize index)))
        13 (asBytes messageId.value)) hasher
  | none => hasher

/-- The declared size and the message-id of every segment. -/
def LoadConfig.segmentPairs (self : LoadConfig) : List (UInt64 × MessageId) :=
  self.segments.elim [] fun segments => segments.declaredSizes.zip segments.ids

def rateRecords : Option UInt64 → List (UInt8 × Bytes)
  | some rate => [(3, [1]), (4, le64 rate)]
  | none => [(3, [0])]

def segmentRecords (pairs : List (UInt64 × MessageId)) : List (UInt8 × Bytes) :=
  pairs.flatMap fun pair => [(12, le64 pair.1), (13, asBytes pair.2.value)]

def identityRecords (config : LoadConfig) : List (UInt8 × Bytes) :=
  (0, le64 (config.requests.getD 0)) :: (1, le64 config.transferBytes) ::
    (2, littleEndian 16 config.duration) :: (rateRecords config.offeredRate ++
      (5, le64 config.connections) :: (6, le64 config.clientOffset) ::
        (7, le64 config.totalClients) ::
      (8, le64 config.pipelineDepth) :: (9, [config.commandMix.identityByte]) ::
      (10, le64 config.startId) :: (11, [config.workloadPolicy.identityByte]) ::
      segmentRecords config.segmentPairs)

theorem updateWorkloadIdentity_eq (hasher : Bytes) (tag : UInt8) (value : Bytes) :
    updateWorkloadIdentity hasher tag value = hasher ++ record tag value := by
  simp [updateWorkloadIdentity, record]

theorem map_zipIdx_ids (segments : SegmentSet) :
    (segments.ids.zipIdx.map fun (messageId, index) => (segments.declaredSize index, messageId)) =
      segments.declaredSizes.zip segments.ids := by
  have hlength := segments.length_declaredSizes
  apply List.ext_getElem
  · simp [hlength]
  · intro index hindex hindex'
    have hsize : index < segments.declaredSizes.length := by
      rw [List.length_zip] at hindex'
      omega
    simp [SegmentSet.declaredSize, hsize]

theorem foldl_segments (pairs : List (UInt64 × MessageId)) :
    ∀ hasher, pairs.foldl (fun hasher (pair : UInt64 × MessageId) =>
        updateWorkloadIdentity (updateWorkloadIdentity hasher 12 (le64 pair.1)) 13
          (asBytes pair.2.value)) hasher = hasher ++ encode (segmentRecords pairs) := by
  induction pairs with
  | nil => intro hasher; exact (List.append_nil hasher).symm
  | cons pair pairs ih =>
    intro hasher
    rw [List.foldl_cons, ih]
    simp [updateWorkloadIdentity_eq, segmentRecords, encode]

theorem workloadIdentityBytes_eq (config : LoadConfig) :
    workloadIdentityBytes config =
      ascii "nntpbench-workload-v1" ++ encode (identityRecords config) := by
  have hpairs : ∀ hasher, (match config.segments with
      | some segments => segments.ids.zipIdx.foldl (fun hasher (messageId, index) =>
          updateWorkloadIdentity
            (updateWorkloadIdentity hasher 12 (le64 (segments.declaredSize index)))
            13 (asBytes messageId.value)) hasher
      | none => hasher) = hasher ++ encode (segmentRecords config.segmentPairs) := by
    intro hasher
    unfold LoadConfig.segmentPairs
    cases config.segments with
    | none => exact (List.append_nil hasher).symm
    | some segments =>
      dsimp only [Option.elim]
      rw [← map_zipIdx_ids, ← foldl_segments, List.foldl_map]
  unfold workloadIdentityBytes
  dsimp only
  rw [hpairs]
  cases hrate : config.offeredRate with
  | none => simp [updateWorkloadIdentity_eq, identityRecords, rateRecords, encode, hrate]
  | some rate => simp [updateWorkloadIdentity_eq, identityRecords, rateRecords, encode, hrate]

theorem le64_inj {value value' : UInt64} (h : le64 value = le64 value') : value = value' := by
  apply UInt64.toNat_inj.mp
  exact littleEndian_inj value.toNat_lt value'.toNat_lt h

theorem rateRecords_append_inj {rate rate' : Option UInt64} {rest rest' : List (UInt8 × Bytes)}
    (h : rateRecords rate ++ rest = rateRecords rate' ++ rest') : rate = rate' ∧ rest = rest' := by
  cases rate with
  | none =>
    cases rate' with
    | none => exact ⟨rfl, (List.cons.inj h).2⟩
    | some rate' => exact absurd (List.cons.inj h).1 (by decide)
  | some rate =>
    cases rate' with
    | none => exact absurd (List.cons.inj h).1 (by decide)
    | some rate' =>
      obtain ⟨hrate, hrest⟩ := List.cons.inj (List.cons.inj h).2
      exact ⟨congrArg some (le64_inj (Prod.mk.inj hrate).2), hrest⟩

theorem segmentRecords_inj {pairs pairs' : List (UInt64 × MessageId)}
    (h : segmentRecords pairs = segmentRecords pairs') : pairs = pairs' := by
  induction pairs generalizing pairs' with
  | nil =>
    cases pairs' with
    | nil => rfl
    | cons pair' pairs' => cases h
  | cons pair pairs ih =>
    cases pairs' with
    | nil => cases h
    | cons pair' pairs' =>
      obtain ⟨hsize, hrest⟩ := List.cons.inj h
      obtain ⟨hid, hrest⟩ := List.cons.inj hrest
      have hsize : pair.1 = pair'.1 := le64_inj (Prod.mk.inj hsize).2
      have hid : pair.2 = pair'.2 := by
        have hread := congrArg readMessageId (Prod.mk.inj hid).2
        rw [readMessageId_asBytes, readMessageId_asBytes] at hread
        exact Option.some.inj hread
      rw [ih hrest, Prod.ext hsize hid]

theorem length_lt_of_identityRecords (config : LoadConfig) :
    ∀ entry ∈ identityRecords config, entry.2.length < 256 ^ 8 := by
  have hrate : ∀ entry ∈ rateRecords config.offeredRate, entry.2.length < 256 ^ 8 := by
    cases config.offeredRate <;> simp [rateRecords, le64]
  have hsegments : ∀ entry ∈ segmentRecords config.segmentPairs, entry.2.length < 256 ^ 8 := by
    intro entry hentry
    obtain ⟨pair, -, hentry⟩ := List.mem_flatMap.mp hentry
    have hid := Server.length_messageId_le pair.2
    simp only [List.mem_cons, List.not_mem_nil, or_false] at hentry
    rcases hentry with rfl | rfl
    · simp [le64]
    · show (asBytes pair.2.value).length < 256 ^ 8
      omega
  intro entry hentry
  unfold identityRecords at hentry
  simp only [List.mem_cons, List.mem_append] at hentry
  grind [le64, length_littleEndian]

theorem values_of_fromArgs {files : String → Except IoError Bytes} {args : FetchArgs}
    {config : LoadConfig} (h : LoadConfig.fromArgs files args = .ok config) :
    config.requests ≠ some 0 ∧ config.duration < 256 ^ 16 := by
  unfold LoadConfig.fromArgs at h
  dsimp only at h
  split_ifs at h
  all_goals
    obtain ⟨-, -, h⟩ := bind_eq_ok.mp h
    obtain ⟨segments, -, h⟩ := bind_eq_ok.mp h
    have hsecs := args.durationSecs.toNat_lt
    rw [← Except.ok.inj h]
    refine ⟨?_, ?_⟩
    · simp_all
    · show args.durationSecs.toNat * 10 ^ 9 < 256 ^ 16
      omega

/-- Different work feeds different bytes to the hash. -/
theorem workload_identity_separates {files files' : String → Except IoError Bytes}
    {args args' : FetchArgs}
    {config config' : LoadConfig} (h : LoadConfig.fromArgs files args = .ok config)
    (h' : LoadConfig.fromArgs files' args' = .ok config')
    (hdiffer : config.requests ≠ config'.requests ∨ config.transferBytes ≠ config'.transferBytes ∨
      config.duration ≠ config'.duration ∨ config.offeredRate ≠ config'.offeredRate ∨
      config.connections ≠ config'.connections ∨ config.clientOffset ≠ config'.clientOffset ∨
      config.totalClients ≠ config'.totalClients ∨ config.pipelineDepth ≠ config'.pipelineDepth ∨
      config.commandMix ≠ config'.commandMix ∨ config.startId ≠ config'.startId ∨
      config.workloadPolicy ≠ config'.workloadPolicy ∨ config.segmentPairs ≠ config'.segmentPairs) :
    workloadIdentityBytes config ≠ workloadIdentityBytes config' := by
  intro hequal
  obtain ⟨hzero, hduration⟩ := values_of_fromArgs h
  obtain ⟨hzero', hduration'⟩ := values_of_fromArgs h'
  rw [workloadIdentityBytes_eq, workloadIdentityBytes_eq, List.append_cancel_left_eq] at hequal
  have hrecords :=
    encode_inj (length_lt_of_identityRecords config) (length_lt_of_identityRecords config')
    hequal
  unfold identityRecords at hrecords
  simp only [List.cons.injEq, Prod.mk.injEq, true_and] at hrecords
  obtain ⟨hrequests, htransfer, hnanos, hrest⟩ := hrecords
  obtain ⟨hrate, hrest⟩ := rateRecords_append_inj hrest
  simp only [List.cons.injEq, Prod.mk.injEq, true_and, and_true] at hrest
  obtain ⟨hconnections, hoffset, htotal, hdepth, hmix, hstart, hpolicy, hsegments⟩ := hrest
  have hrequests : config.requests = config'.requests := by
    have hvalue := le64_inj hrequests
    cases hfirst : config.requests <;> cases hsecond : config'.requests <;> simp_all
  have hmix : config.commandMix = config'.commandMix := by
    cases hfirst : config.commandMix <;> cases hsecond : config'.commandMix <;>
      simp_all [ClientCommandMix.identityByte]
  have hpolicy : config.workloadPolicy = config'.workloadPolicy := by
    cases hfirst : config.workloadPolicy <;> cases hsecond : config'.workloadPolicy <;>
      simp_all [LoadWorkloadPolicy.identityByte]
  have hnanos := littleEndian_inj hduration hduration' hnanos
  have hsegments := segmentRecords_inj hsegments
  rcases hdiffer with hne | hne | hne | hne | hne | hne | hne | hne | hne | hne | hne | hne
  · exact hne hrequests
  · exact hne (le64_inj htransfer)
  · exact hne hnanos
  · exact hne hrate
  · exact hne (le64_inj hconnections)
  · exact hne (le64_inj hoffset)
  · exact hne (le64_inj htotal)
  · exact hne (le64_inj hdepth)
  · exact hne hmix
  · exact hne (le64_inj hstart)
  · exact hne hpolicy
  · exact hne hsegments

/-- A run without a limit and a run of ten requests. -/
theorem workload_identity_of_requests :
    ∃ config config', LoadConfig.fromArgs noFiles (clientArgs 0 4 0 0 .shared) = .ok config ∧
      LoadConfig.fromArgs noFiles (clientArgs 10 4 0 0 .shared) = .ok config' ∧
      workloadIdentityBytes config ≠ workloadIdentityBytes config' := by
  have hok : (LoadConfig.fromArgs noFiles (clientArgs 0 4 0 0 .shared)).isOk := by decide +kernel
  have hok' : (LoadConfig.fromArgs noFiles (clientArgs 10 4 0 0 .shared)).isOk := by decide +kernel
  obtain ⟨config, h⟩ := exists_ok_of_isOk hok
  obtain ⟨config', h'⟩ := exists_ok_of_isOk hok'
  refine ⟨config, config', h, h', workload_identity_separates h h' (.inl ?_)⟩
  rw [(fields_of_fromArgs h).1, (fields_of_fromArgs h').1]
  decide

end NntpBench.Load
