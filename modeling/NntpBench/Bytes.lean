import Mathlib

namespace NntpBench

/-- `&[u8]`, `Vec<u8>` and `bytes::Bytes` of the source. -/
abbrev Bytes := List UInt8

/-- A walk over the bytes, where the default is one over all values a byte can have. -/
instance (bytes : Bytes) (p : UInt8 → Prop) [DecidablePred p] :
    Decidable (∀ byte ∈ bytes, p byte) :=
  List.decidableBAll p bytes

/-- A byte string literal `b"…"` of the source. -/
def ascii (s : String) : Bytes := s.toList.map fun c => c.toNat.toUInt8

@[match_pattern] abbrev NUL : UInt8 := 0
@[match_pattern] abbrev HT : UInt8 := 9
@[match_pattern] abbrev LF : UInt8 := 10
@[match_pattern] abbrev CR : UInt8 := 13
@[match_pattern] abbrev SP : UInt8 := 32
@[match_pattern] abbrev DOT : UInt8 := 46

def CRLF : Bytes := ascii "\r\n"

/-- `crate::TERMINATOR`, the end of a non-empty multiline block. -/
def TERMINATOR : Bytes := ascii "\r\n.\r\n"

@[simp] theorem cr_ne_lf : CR ≠ LF := by decide
@[simp] theorem lf_ne_cr : LF ≠ CR := by decide
@[simp] theorem dot_ne_cr : DOT ≠ CR := by decide
@[simp] theorem dot_ne_lf : DOT ≠ LF := by decide
@[simp] theorem cr_ne_dot : CR ≠ DOT := by decide
@[simp] theorem lf_ne_dot : LF ≠ DOT := by decide

theorem crlf_eq : CRLF = [CR, LF] := by decide
theorem terminator_eq : TERMINATOR = [CR, LF, DOT, CR, LF] := by decide

@[simp] theorem length_crlf : CRLF.length = 2 := rfl
@[simp] theorem length_terminator : TERMINATOR.length = 5 := rfl

/-- `data.get(start..)`. -/
def getFrom (data : Bytes) (start : Nat) : Option Bytes :=
  if start ≤ data.length then some (data.drop start) else none

@[simp]
theorem getFrom_zero (data : Bytes) : getFrom data 0 = some data := by
  simp [getFrom]

theorem getFrom_of_le {data : Bytes} {start : Nat} (h : start ≤ data.length) :
    getFrom data start = some (data.drop start) := by
  simp [getFrom, h]

/-- `data.strip_suffix(ending)`. -/
def stripSuffix (ending data : Bytes) : Option Bytes :=
  if ending <:+ data then some (data.take (data.length - ending.length)) else none

/-- `data.strip_prefix(start)`; the name keeps clear of a keyword. -/
def stripStart (start data : Bytes) : Option Bytes :=
  if start <+: data then some (data.drop start.length) else none

end NntpBench
