import Mathlib
import NntpBench.Lib.BlockSearch
import NntpBench.Terminator

namespace NntpBench.Terminator.VectorScanner

open ListSearch

def firstMatch (block : Bytes) : Option Nat :=
  (windows TERMINATOR.length block).findIdx? (· = TERMINATOR)

/-- The loops of `find_repeat` and `find_or`: `round` is what they do with a block. -/
def findInBlocks (width : Nat) [NeZero width] (round : Bytes → Option Nat) (data : Bytes)
    (offset : Nat) : Option Nat :=
  if data.length - offset ≥ width + 4 then
    match round (data.extract offset (offset + width + 4)) with
    | some lane => some (offset + lane)
    | none => findInBlocks width round data (offset + width)
  else (findSub TERMINATOR (data.drop offset)).map fun start => offset + start
termination_by data.length - offset
decreasing_by
  have hwidth : 0 < width := Nat.pos_of_neZero width
  omega

def exactPairPossible (width first : Nat) (byte : UInt8) (block : Bytes) : Bool :=
  (List.range width).any fun lane =>
    block.getD (lane + first) 0 = byte && block.getD (lane + first + 3) 0 = byte

/-- Two lanes, three bytes apart, whose bits together are those of the byte. -/
def orPairPossible (width first : Nat) (byte : UInt8) (block : Bytes) : Bool :=
  (List.range width).any fun lane =>
    block.getD (lane + first) 0 ||| block.getD (lane + first + 3) 0 = byte

def findRepeat (width first : Nat) [NeZero width] (byte : UInt8) (data : Bytes) : Option Nat :=
  findInBlocks width
    (fun block => if exactPairPossible width first byte block then firstMatch block else none)
      data 0

def findOr (width first : Nat) [NeZero width] (byte : UInt8) (data : Bytes)
    (verify : Bytes → Option Nat) : Option Nat :=
  findInBlocks width
    (fun block => if orPairPossible width first byte block then verify block else none) data 0

def exactPairMatch (width first : Nat) (byte : UInt8) (block : Bytes) : Option Nat :=
  if exactPairPossible width first byte block then firstMatch block else none

/-- Thirty-two lanes of one byte. -/
abbrev M256i := Fin 32 → UInt8

def set1Epi8 (byte : UInt8) : M256i := fun _ => byte

/-- The lanes are the bytes from an address on, which are all inside of the data. -/
def loaduSi256 (data : Bytes) (address : Nat) : M256i := fun lane => data.getD (address + lane) 0

def cmpeqEpi8 (a b : M256i) : M256i := fun lane => if a lane = b lane then 0xff else 0

def orSi256 (a b : M256i) : M256i := fun lane => a lane ||| b lane

def movemaskEpi8 (a : M256i) : BitVec 32 :=
  (BitVec.ofBoolListLE (List.ofFn fun lane => (a lane).toBitVec.msb)).cast List.length_ofFn

/-- The carriage returns of four vectors in one mask. -/
def foldedMask (data : Bytes) : BitVec 32 :=
  let needle := set1Epi8 CR
  let a := cmpeqEpi8 (loaduSi256 data 0) needle
  let b := cmpeqEpi8 (loaduSi256 data 32) needle
  let c := cmpeqEpi8 (loaduSi256 data 64) needle
  let d := cmpeqEpi8 (loaduSi256 data 96) needle
  movemaskEpi8 (orSi256 (orSi256 a b) (orSi256 c d))

/-- Two carriage returns three lanes apart, once the lanes are folded. -/
def maskPossible (mask : BitVec 32) : Bool := mask &&& mask.rotateRight 3 ≠ 0

/-- The loop of `find_avx2` over the data that is left: `round` is what it does with the first 128
bytes. -/
def findInOverlaps (round : Bytes → Option Nat) (originalLen : Nat) (data : Bytes) : Option Nat :=
  if data.length ≥ 128 then
    match round data with
    | some lane => some (originalLen - data.length + lane)
    | none => findInOverlaps round originalLen (data.drop 124)
  else (findSub TERMINATOR data).map fun start => originalLen - data.length + start
termination_by data.length
decreasing_by
  rw [List.length_drop]
  omega

def findAvx2 (data : Bytes) : Option Nat :=
  findInOverlaps
    (fun data => if maskPossible (foldedMask data) then firstMatch (data.take 128) else none)
    data.length data

theorem firstMatch_eq (block : Bytes) : firstMatch block = findSub TERMINATOR block :=
  findIdx?_windows (by decide)

theorem filtered_eq_findSub {filter : Bytes → Bool} {block : Bytes}
    (h : ∀ start, TERMINATOR <+: block.drop start → filter block = true) :
    (if filter block then firstMatch block else none) = findSub TERMINATOR block := by
  rw [firstMatch_eq]
  cases hfind : findSub TERMINATOR block with
  | none => split_ifs <;> rfl
  | some start => rw [if_pos (h start (findSub_eq_some_iff.mp hfind).2.1)]

theorem getD_of_terminator {block : Bytes} {start : Nat} (h : TERMINATOR <+: block.drop start) :
    block.getD start 0 = CR ∧ block.getD (start + 1) 0 = LF ∧ block.getD (start + 3) 0 = CR ∧
      block.getD (start + 4) 0 = LF ∧ start + 5 ≤ block.length := by
  rw [terminator_eq] at h
  obtain ⟨rest, hrest⟩ := h
  have hget (i : Nat) : block.getD (start + i) 0 = ([CR, LF, DOT, CR, LF] ++ rest).getD i 0 := by
    rw [hrest, List.getD_eq_getElem?_getD, List.getD_eq_getElem?_getD, List.getElem?_drop]
  have hlength := congrArg List.length hrest
  simp only [List.length_append, List.length_drop, List.length_cons, List.length_nil] at hlength
  exact ⟨hget 0, hget 1, hget 3, hget 4, by omega⟩

theorem exactPairPossible_of_terminator {width first start : Nat} {byte : UInt8} {block : Bytes}
    (hlength : block.length = width + 4) (hpair : first = 0 ∧ byte = CR ∨ first = 1 ∧ byte = LF)
    (h : TERMINATOR <+: block.drop start) : exactPairPossible width first byte block = true := by
  obtain ⟨hcr, hlf, hcr', hlf', hend⟩ := getD_of_terminator h
  unfold exactPairPossible
  rw [List.any_eq_true]
  refine ⟨start, List.mem_range.mpr (by omega), ?_⟩
  rcases hpair with ⟨rfl, rfl⟩ | ⟨rfl, rfl⟩
  · rw [Nat.add_zero, hcr, hcr']
    decide
  · rw [Nat.add_assoc, hlf, hlf']
    decide

theorem orPairPossible_of_exactPairPossible {width first : Nat} {byte : UInt8} {block : Bytes}
    (h : exactPairPossible width first byte block = true) :
    orPairPossible width first byte block = true := by
  unfold exactPairPossible at h
  unfold orPairPossible
  rw [List.any_eq_true] at h ⊢
  obtain ⟨lane, hlane, hpair⟩ := h
  simp only [Bool.and_eq_true, decide_eq_true_eq] at hpair
  refine ⟨lane, hlane, ?_⟩
  rw [hpair.1, hpair.2, UInt8.or_self]
  exact decide_eq_true rfl

theorem getLsbD_movemaskEpi8 (a : M256i) (lane : Fin 32) :
    (movemaskEpi8 a).getLsbD lane = (a lane).toBitVec.msb := by
  unfold movemaskEpi8
  rw [BitVec.getLsbD_cast, BitVec.getLsbD_ofBoolListLE, List.getD_eq_getElem?_getD,
    List.getElem?_ofFn, dif_pos lane.isLt, Option.getD_some]

theorem getLsbD_foldedMask {data : Bytes} {position : Nat} (hposition : position < 128)
    (h : data.getD position 0 = CR) : (foldedMask data).getLsbD (position % 32) = true := by
  -- A lane of the mask is set if one of its four bytes is a carriage return.
  let lane : Fin 32 := ⟨position % 32, Nat.mod_lt _ (by decide)⟩
  have hmsb (address : Nat) :
      (cmpeqEpi8 (loaduSi256 data address) (set1Epi8 CR) lane).toBitVec.msb =
        decide (data.getD (address + position % 32) 0 = CR) := by
    unfold cmpeqEpi8 loaduSi256 set1Epi8
    by_cases hcr : data.getD (address + position % 32) 0 = CR
    · rw [if_pos hcr, decide_eq_true hcr]
      decide
    · rw [if_neg hcr, decide_eq_false hcr]
      decide
  have hbit := getLsbD_movemaskEpi8
    (orSi256
      (orSi256 (cmpeqEpi8 (loaduSi256 data 0) (set1Epi8 CR))
        (cmpeqEpi8 (loaduSi256 data 32) (set1Epi8 CR)))
      (orSi256 (cmpeqEpi8 (loaduSi256 data 64) (set1Epi8 CR))
        (cmpeqEpi8 (loaduSi256 data 96) (set1Epi8 CR)))) lane
  unfold foldedMask
  refine hbit.trans ?_
  simp only [orSi256, UInt8.toBitVec_or, BitVec.msb_or, hmsb, Bool.or_eq_true, decide_eq_true_eq]
  -- the byte stands in the vector that its position names
  have hvector : position = 0 + position % 32 ∨ position = 32 + position % 32 ∨
      position = 64 + position % 32 ∨ position = 96 + position % 32 := by omega
  rcases hvector with heq | heq | heq | heq
  · exact .inl (.inl (heq ▸ h))
  · exact .inl (.inr (heq ▸ h))
  · exact .inr (.inl (heq ▸ h))
  · exact .inr (.inr (heq ▸ h))

theorem maskPossible_of_terminator {data : Bytes} {start : Nat}
    (h : TERMINATOR <+: (data.take 128).drop start) : maskPossible (foldedMask data) = true := by
  obtain ⟨hcr, -, hcr', -, hend⟩ := getD_of_terminator h
  rw [List.length_take] at hend
  have htake (i : Nat) (hi : i < 128) : (data.take 128).getD i 0 = data.getD i 0 := by
    rw [List.getD_eq_getElem?_getD, List.getD_eq_getElem?_getD, List.getElem?_take_of_lt hi]
  rw [htake _ (by omega)] at hcr hcr'
  have hfirst := getLsbD_foldedMask (by omega) hcr
  have hsecond := getLsbD_foldedMask (by omega) hcr'
  generalize foldedMask data = mask at hfirst hsecond
  unfold maskPossible
  rw [decide_eq_true_eq]
  intro hzero
  have hbit : (mask &&& mask.rotateRight 3).getLsbD (start % 32) = true := by
    rw [BitVec.getLsbD_and, hfirst, Bool.true_and, BitVec.getLsbD_rotateRight]
    by_cases hsame : start % 32 < 29
    · have hlane : (start + 3) % 32 = 3 + start % 32 := by omega
      rw [hlane] at hsecond
      simp [hsame, hsecond]
    · -- the second carriage return stands in the next vector
      have hlane : (start + 3) % 32 = start % 32 - 29 := by omega
      rw [hlane] at hsecond
      simp [hsame, hsecond]
      omega
  rw [hzero] at hbit
  simp at hbit

theorem extract_block (data : Bytes) (offset width : Nat) :
    data.extract offset (offset + width + 4) = (data.drop offset).take (width + 4) := by
  rw [List.extract_eq_take_drop]
  congr 1
  omega

theorem findInBlocks_eq (width : Nat) [NeZero width] {round : Bytes → Option Nat}
    (h : ∀ block, block.length = width + 4 → round block = findSub TERMINATOR block)
    (data : Bytes) (offset : Nat) :
    findInBlocks width round data offset =
      (findSub TERMINATOR (data.drop offset)).map fun start => offset + start := by
  have hround (offset : Nat) (hlong : data.length - offset ≥ width + 4) :
      round (data.extract offset (offset + width + 4)) =
        findSub TERMINATOR ((data.drop offset).take (width + 4)) := by
    rw [extract_block]
    apply h
    rw [List.length_take, List.length_drop, Nat.min_eq_left hlong]
  fun_induction findInBlocks width round data offset with
  | case1 offset hlong lane hfound =>
    rw [hround offset hlong] at hfound
    rw [findSub_of_take hfound, Option.map_some]
  | case2 offset hlong hnone ih =>
    rw [hround offset hlong] at hnone
    have hleft : width + (TERMINATOR.length - 1) ≤ (data.drop offset).length := by
      rw [List.length_drop]
      exact hlong
    rw [ih, findSub_of_take_none (by decide) hleft hnone, List.drop_drop, Option.map_map]
    congr 1
    funext start
    exact Nat.add_assoc _ _ _
  | case3 offset hshort => rfl

theorem findInOverlaps_eq {round : Bytes → Option Nat}
    (h : ∀ data, 128 ≤ data.length → round data = findSub TERMINATOR (data.take 128))
    {originalLen : Nat} {data : Bytes} (hlength : data.length ≤ originalLen) :
    findInOverlaps round originalLen data =
      (findSub TERMINATOR data).map fun start => originalLen - data.length + start := by
  fun_induction findInOverlaps round originalLen data with
  | case1 data hlong lane hfound =>
    rw [h data hlong] at hfound
    rw [findSub_of_take hfound, Option.map_some]
  | case2 data hlong hnone ih =>
    rw [h data hlong] at hnone
    rw [List.length_drop] at ih
    have hrest : findSub TERMINATOR data =
        (findSub TERMINATOR (data.drop 124)).map (124 + ·) :=
      findSub_of_take_none (by decide) hlong hnone
    have hoffset : (fun start => originalLen - (data.length - 124) + start) =
        (fun start => originalLen - data.length + start) ∘ (124 + ·) := by
      funext start
      rw [Function.comp_apply]
      omega
    rw [ih (by omega), hrest, Option.map_map, hoffset]
  | case3 data hshort => rfl

theorem findRepeat_eq (width first : Nat) [NeZero width] (byte : UInt8)
    (hpair : first = 0 ∧ byte = CR ∨ first = 1 ∧ byte = LF) (data : Bytes) :
    findRepeat width first byte data = findSub TERMINATOR data := by
  unfold findRepeat
  rw [findInBlocks_eq width]
  · simp
  · intro block hlength
    apply filtered_eq_findSub
    intro start hstart
    exact exactPairPossible_of_terminator hlength hpair hstart

theorem findOr_eq (width first : Nat) [NeZero width] (byte : UInt8)
    (hpair : first = 0 ∧ byte = CR ∨ first = 1 ∧ byte = LF) (data : Bytes) :
    findOr width first byte data (exactPairMatch width first byte) = findSub TERMINATOR data := by
  unfold findOr
  rw [findInBlocks_eq width]
  · simp
  · intro block hlength
    have hexact : exactPairMatch width first byte block = firstMatch block := by
      unfold exactPairMatch
      rw [filtered_eq_findSub, firstMatch_eq]
      intro start hstart
      exact exactPairPossible_of_terminator hlength hpair hstart
    rw [hexact]
    apply filtered_eq_findSub
    intro start hstart
    exact orPairPossible_of_exactPairPossible
      (exactPairPossible_of_terminator hlength hpair hstart)

theorem findAvx2_eq (data : Bytes) : findAvx2 data = findSub TERMINATOR data := by
  unfold findAvx2
  rw [findInOverlaps_eq]
  · simp
  · intro data _
    cases hfind : findSub TERMINATOR (data.take 128) with
    | none =>
      rw [firstMatch_eq, hfind]
      split_ifs <;> rfl
    | some start =>
      rw [if_pos (maskPossible_of_terminator (findSub_eq_some_iff.mp hfind).2.1),
        firstMatch_eq, hfind]
  · exact Nat.le_refl _

/-- The targets `find` is compiled for. -/
inductive Target where
  | aarch64
  | avx512bw
  | avx2
  | x8664
  deriving DecidableEq, Repr

def find (target : Target) (data : Bytes) : Option Nat :=
  match target with
  | .aarch64 => findOr 128 0 CR data (exactPairMatch 128 0 CR)
  | .avx512bw => findOr 256 1 LF data (exactPairMatch 256 1 LF)
  | .avx2 => findAvx2 data
  | .x8664 => findRepeat 128 0 CR data

theorem find_eq (target : Target) (data : Bytes) : find target data = findSub TERMINATOR data := by
  cases target with
  | aarch64 => exact findOr_eq 128 0 CR (.inl ⟨rfl, rfl⟩) data
  | avx512bw => exact findOr_eq 256 1 LF (.inr ⟨rfl, rfl⟩) data
  | avx2 => exact findAvx2_eq data
  | x8664 => exact findRepeat_eq 128 0 CR (.inl ⟨rfl, rfl⟩) data

/-- Every scanner returns the first position of the terminator, as the search through all windows
does. -/
theorem scanners_find_first_terminator (target : Target) (data : Bytes) :
    find target data = firstMatch data ∧
      (∀ position, find target data = some position ↔
        (data.drop position).take 5 = [CR, LF, DOT, CR, LF] ∧
          ∀ earlier < position, (data.drop earlier).take 5 ≠ [CR, LF, DOT, CR, LF]) ∧
      (find target data = none ↔ ∀ position, (data.drop position).take 5 ≠
        [CR, LF, DOT, CR, LF]) := by
  have hprefix (position : Nat) :
      TERMINATOR <+: data.drop position ↔ (data.drop position).take 5 = [CR, LF, DOT, CR, LF] := by
    rw [terminator_eq, List.prefix_iff_eq_take]
    exact eq_comm
  have hinside (position : Nat) (h : TERMINATOR <+: data.drop position) :
      position ≤ data.length := by
    have hlength := h.length_le
    rw [List.length_drop] at hlength
    have hpos : 0 < TERMINATOR.length := by decide
    omega
  rw [find_eq, firstMatch_eq]
  simp only [ne_eq, ← hprefix]
  refine ⟨trivial, fun position => ?_, ?_⟩
  · rw [findSub_eq_some_iff]
    exact ⟨fun h => h.2, fun h => ⟨hinside position h.1, h⟩⟩
  · rw [findSub_eq_none_iff]
    exact ⟨fun h position hposition => h position (hinside position hposition) hposition,
      fun h position _ => h position⟩

end NntpBench.Terminator.VectorScanner
