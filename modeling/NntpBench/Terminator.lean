import NntpBench.Bytes
import NntpBench.Lib.Search
import NntpBench.Lib.Slices

namespace NntpBench.Terminator

open ListSearch Slices

def TERMINATOR_TAIL_SIZE : Nat := 4

def DOT_TERMINATOR : Bytes := ascii ".\r\n"

theorem dot_terminator_eq : DOT_TERMINATOR = [DOT, CR, LF] := by decide

@[simp] theorem length_dot_terminator : DOT_TERMINATOR.length = 3 := rfl

inductive ResponseLineStatus where
  | completeAt (position : Nat)
  | needMore
  | invalid
  deriving DecidableEq, Repr

inductive BoundedResponseLineStatus where
  | completeAt (position : Nat)
  | needMore
  | invalid
  | tooLong
  deriving DecidableEq, Repr

def scanResponseLine (index : Nat) : Bytes → ResponseLineStatus
  | [] => .needMore
  | b :: rest =>
    if b = CR then
      match rest with
      | [] => .needMore
      | c :: _ => if c = LF then .completeAt (index + 2) else .invalid
    else if b = LF then .invalid
    else scanResponseLine (index + 1) rest

def detectResponseLineEnd (buffer : Bytes) : ResponseLineStatus := scanResponseLine 0 buffer

def detectBoundedResponseLineEnd (buffer : Bytes) (maxLen : Nat) : BoundedResponseLineStatus :=
  match detectResponseLineEnd buffer with
  | .completeAt fin => if fin ≤ maxLen then .completeAt fin else .tooLong
  | .needMore => if buffer.length ≥ maxLen then .tooLong else .needMore
  | .invalid => .invalid

def detectResponseLineEndFrom (buffer : Bytes) (start : Nat) : ResponseLineStatus :=
  match getFrom buffer start with
  | none => .needMore
  | some slice =>
    match detectResponseLineEnd slice with
    | .completeAt fin => .completeAt (start + fin)
    | status => status

theorem detectResponseLineEndFrom_of_le {buffer : Bytes} {start : Nat} (h : start ≤ buffer.length) :
    detectResponseLineEndFrom buffer start =
      match detectResponseLineEnd (buffer.drop start) with
      | .completeAt fin => .completeAt (start + fin)
      | status => status := by
  rw [detectResponseLineEndFrom, getFrom_of_le h]

def stripCompleteCrlfLine (line : Bytes) : Option Bytes :=
  match detectResponseLineEnd line with
  | .completeAt fin => if fin = line.length then some (line.take (line.length - 2)) else none
  | .needMore => none
  | .invalid => none

def findCrlfLineEnd (data : Bytes) (start : Nat) : Option Nat :=
  (getFrom data start).bind fun slice =>
    (findSub CRLF slice).map fun relative => start + relative + CRLF.length

def strictCrlfLineContentEndFrom (data : Bytes) (start : Nat) : Option Nat :=
  match detectResponseLineEndFrom data start with
  | .completeAt fin => some (fin - CRLF.length)
  | .needMore => none
  | .invalid => none

/-- The last bytes of the chunks so far, in a buffer of `TERMINATOR_TAIL_SIZE` bytes. -/
structure MultilineTerminatorDetector where
  data : Bytes
  len : Nat
  data_length : data.length = TERMINATOR_TAIL_SIZE
  len_le : len ≤ TERMINATOR_TAIL_SIZE
  deriving DecidableEq

namespace MultilineTerminatorDetector

def default : MultilineTerminatorDetector where
  data := [0, 0, 0, 0]
  len := 0
  data_length := rfl
  len_le := Nat.zero_le _

def asSlice (self : MultilineTerminatorDetector) : Bytes := self.data.take self.len

def update (self : MultilineTerminatorDetector) (chunk : Bytes) : MultilineTerminatorDetector :=
  if hlong : chunk.length ≥ TERMINATOR_TAIL_SIZE then
    { data := chunk.drop (chunk.length - TERMINATOR_TAIL_SIZE)
      len := TERMINATOR_TAIL_SIZE
      data_length := by simp only [List.length_drop]; omega
      len_le := le_rfl }
  else if chunk = [] then self
  else if hfull : self.len + chunk.length ≥ TERMINATOR_TAIL_SIZE then
    let keep := TERMINATOR_TAIL_SIZE - chunk.length
    have hlen := self.len_le
    have hdata := self.data_length
    have hmoved : (copyWithin self.data (self.len - keep) self.len 0).length =
        TERMINATOR_TAIL_SIZE := by
      rw [length_copyWithin (by omega), hdata]
    { data := writeAt (copyWithin self.data (self.len - keep) self.len 0) keep chunk
      len := TERMINATOR_TAIL_SIZE
      data_length := by rw [length_writeAt (by omega), hmoved]
      len_le := le_rfl }
  else
    have hdata := self.data_length
    { data := writeAt self.data self.len chunk
      len := self.len + chunk.length
      data_length := by rw [length_writeAt (by omega), hdata]
      len_le := by omega }

end MultilineTerminatorDetector

/-- A terminator whose first bytes are the end of `tail` and whose last bytes start `current`. -/
def findSpanningTerminator (tail : Bytes) (tailLen : Nat) (current : Bytes) (currentLen : Nat) :
    Option Nat :=
  if tailLen < 1 ∨ currentLen < 1 then none
  else if tailLen ≥ 4 ∧ currentLen ≥ 1 ∧
      tail.extract (tailLen - 4) tailLen = ascii "\r\n.\r" ∧ current.take 1 = ascii "\n" then some 1
  else if tailLen ≥ 3 ∧ currentLen ≥ 2 ∧
      tail.extract (tailLen - 3) tailLen = ascii "\r\n." ∧ current.take 2 = ascii "\r\n" then some 2
  else if tailLen ≥ 2 ∧ currentLen ≥ 3 ∧
      tail.extract (tailLen - 2) tailLen = ascii "\r\n" ∧ current.take 3 = ascii ".\r\n" then some 3
  else if tailLen ≥ 1 ∧ currentLen ≥ 4 ∧
      tail.extract (tailLen - 1) tailLen = ascii "\r" ∧ current.take 4 = ascii "\n.\r\n" then some 4
  else none

def findStreamingTerminatorEnd (data : Bytes) : Option Nat :=
  (findSub TERMINATOR data).map (· + TERMINATOR.length)

def detectStreamingTerminator (tail : MultilineTerminatorDetector) (chunk : Bytes) : Option Nat :=
  let spanning :=
    if tail.len = 0 then none
    else findSpanningTerminator tail.asSlice tail.len chunk chunk.length
  spanning.or (findStreamingTerminatorEnd chunk)

inductive EmptyTerminatorStatus where
  | foundAt (position : Nat)
  | needMore
  | notFound (previousPrefixLen : Nat)
  deriving DecidableEq, Repr

/-- How much of `.CRLF` the bytes since content start have matched. -/
structure EmptyMultilineTerminator where
  prefixLen : Nat
  prefixLen_lt : prefixLen < DOT_TERMINATOR.length
  deriving DecidableEq

/-- Length of the longest common beginning, the `zip … take_while … count` of the source. -/
def matchingLength : Bytes → Bytes → Nat
  | a :: as, e :: es => if a = e then matchingLength as es + 1 else 0
  | _, _ => 0

theorem matchingLength_le_right (as es : Bytes) : matchingLength as es ≤ es.length := by
  induction as generalizing es with
  | nil => cases es <;> simp [matchingLength]
  | cons a as ih =>
    cases es with
    | nil => simp [matchingLength]
    | cons e es =>
      have := ih es
      simp only [matchingLength, List.length_cons]
      split_ifs <;> omega

namespace EmptyMultilineTerminator

def default : EmptyMultilineTerminator := ⟨0, by decide⟩

def isActive (self : EmptyMultilineTerminator) : Bool := self.prefixLen ≠ 0

def detect (self : EmptyMultilineTerminator) (chunk : Bytes) :
    EmptyTerminatorStatus × EmptyMultilineTerminator :=
  if self.prefixLen = 0 ∧ (∃ byte ∈ chunk.head?, byte ≠ DOT) then (.notFound 0, self)
  else
    let matched := matchingLength chunk (DOT_TERMINATOR.drop self.prefixLen)
    if hdone : self.prefixLen + matched = DOT_TERMINATOR.length then (.foundAt matched, default)
    else if matched = chunk.length then
      (.needMore, ⟨self.prefixLen + matched, by
        have hself := self.prefixLen_lt
        have hle := matchingLength_le_right chunk (DOT_TERMINATOR.drop self.prefixLen)
        simp only [List.length_drop] at hle
        omega⟩)
    else (.notFound self.prefixLen, default)

end EmptyMultilineTerminator

structure MultilineFrameBounds where
  chunkConsumed : Nat
  contentEnd : Nat
  deriving DecidableEq, Repr

inductive MultilineFrameProgress where
  | needMore
  | complete (bounds : MultilineFrameBounds)
  deriving DecidableEq, Repr

structure MultilineFramer where
  contentStarted : Bool
  emptyTerminator : EmptyMultilineTerminator
  tail : MultilineTerminatorDetector
  fed : Nat
  deriving DecidableEq

namespace MultilineFramer

def default : MultilineFramer :=
  ⟨false, EmptyMultilineTerminator.default, MultilineTerminatorDetector.default, 0⟩

/-- The part of `push` after content start: search for the terminator or keep the tail. -/
def pushContent (self : MultilineFramer) (fed : Nat) (chunk : Bytes) :
    MultilineFrameProgress × MultilineFramer :=
  match detectStreamingTerminator self.tail chunk with
  | some fin => (.complete ⟨fin, fed + fin - DOT_TERMINATOR.length⟩, self)
  | none =>
    (.needMore, { self with contentStarted := true, tail := self.tail.update chunk })

def push (self : MultilineFramer) (chunk : Bytes) : MultilineFrameProgress × MultilineFramer :=
  let fed := self.fed
  let self := { self with fed := self.fed + chunk.length }
  if !self.contentStarted || self.emptyTerminator.isActive then
    match self.emptyTerminator.detect chunk with
    | (.foundAt fin, emptyTerminator) => (.complete ⟨fin, 0⟩, { self with emptyTerminator })
    | (.needMore, emptyTerminator) => (.needMore, { self with emptyTerminator })
    | (.notFound previousPrefixLen, emptyTerminator) =>
      let tail :=
        if previousPrefixLen ≠ 0 then self.tail.update (DOT_TERMINATOR.take previousPrefixLen)
        else self.tail
      pushContent { self with contentStarted := true, emptyTerminator, tail } fed chunk
  else pushContent self fed chunk

end MultilineFramer

/-- A complete dot-terminated block of `data` with its offsets. -/
structure DotTerminatedBlock where
  bytes : Bytes
  content : Bytes
  terminator : Bytes
  start : Nat
  contentEnd : Nat
  blockEnd : Nat
  deriving DecidableEq, Repr

structure DotTerminatedBlocks where
  data : Bytes
  cursor : Nat
  deriving DecidableEq, Repr

namespace DotTerminatedBlocks

/-- Where the block at the start of `slice` has its content end and its own end. -/
def bounds (slice : Bytes) : Option (Nat × Nat) :=
  if DOT_TERMINATOR <+: slice then some (0, DOT_TERMINATOR.length)
  else (findStreamingTerminatorEnd slice).map fun fin => (fin - DOT_TERMINATOR.length, fin)

def next (self : DotTerminatedBlocks) : Option (DotTerminatedBlock × DotTerminatedBlocks) :=
  let start := self.cursor
  (getFrom self.data start).bind fun slice =>
    if slice = [] then none
    else (bounds slice).map fun (contentEnd, blockEnd) =>
      ({ bytes := self.data.extract start (start + blockEnd)
         content := self.data.extract start (start + contentEnd)
         terminator := self.data.extract (start + contentEnd) (start + blockEnd)
         start
         contentEnd := start + contentEnd
         blockEnd := start + blockEnd },
       { self with cursor := start + blockEnd })

end DotTerminatedBlocks

def dotTerminatedBlocks (data : Bytes) (start : Nat) : DotTerminatedBlocks := ⟨data, start⟩

def findDotTerminatedBlock (data : Bytes) (start : Nat) : Option DotTerminatedBlock :=
  (dotTerminatedBlocks data start).next.map Prod.fst

def findDotTerminatedBlockEnd (data : Bytes) (start : Nat) : Option Nat :=
  (findDotTerminatedBlock data start).map DotTerminatedBlock.blockEnd

def appendDotTerminator (output : Bytes) : Bytes :=
  (if CRLF <:+ output then output else output ++ CRLF) ++ DOT_TERMINATOR

end NntpBench.Terminator
