import NntpBench.Bytes
import NntpBench.Lib.Utf8

namespace NntpBench

/-- `&str` of the source: a sequence of Unicode scalar values. -/
abbrev Str := List Char

abbrev asBytes (value : Str) : Bytes := Utf8.encode value

abbrev fromUtf8 (bytes : Bytes) : Option Str := Utf8.decode bytes

def isAsciiDigit (byte : UInt8) : Bool := 48 ≤ byte && byte ≤ 57

def isAsciiAlphabetic (byte : UInt8) : Bool :=
  (65 ≤ byte && byte ≤ 90) || (97 ≤ byte && byte ≤ 122)

def isAsciiAlphanumeric (byte : UInt8) : Bool := isAsciiAlphabetic byte || isAsciiDigit byte

def isAsciiWhitespace (byte : UInt8) : Bool :=
  byte = SP || byte = HT || byte = LF || byte = 12 || byte = CR

def toAsciiLowercase (byte : UInt8) : UInt8 :=
  if 65 ≤ byte && byte ≤ 90 then byte + 32 else byte

def eqIgnoreAsciiCase (left right : Bytes) : Bool :=
  left.map toAsciiLowercase = right.map toAsciiLowercase

def memchr (needle : UInt8) (haystack : Bytes) : Option Nat := haystack.idxOf? needle

def decimalValue (digits : Bytes) : Nat :=
  digits.foldl (fun acc byte => acc * 10 + (byte.toNat - 48)) 0

theorem memchr_eq_some_iff {needle : UInt8} {haystack : Bytes} {i : Nat} :
    memchr needle haystack = some i ↔
      ∃ before after, haystack = before ++ needle :: after ∧ before.length = i ∧
        needle ∉ before := by
  induction haystack generalizing i with
  | nil => simp [memchr]
  | cons x xs ih =>
    unfold memchr at ih ⊢
    rw [List.idxOf?_cons]
    by_cases hx : x = needle
    · subst hx
      simp only [beq_self_eq_true, if_true, Option.some.injEq]
      constructor
      · intro h
        exact ⟨[], xs, rfl, h, by simp⟩
      · intro h
        obtain ⟨before, after, heq, hlen, hnot⟩ := h
        cases before with
        | nil => exact hlen
        | cons y before =>
          simp only [List.cons_append, List.cons.injEq] at heq
          exact absurd (heq.1 ▸ List.mem_cons_self) hnot
    · simp only [beq_iff_eq, hx, if_false, Option.map_eq_some_iff]
      constructor
      · intro h
        obtain ⟨j, hj, rfl⟩ := h
        obtain ⟨before, after, heq, hlen, hnot⟩ := ih.mp hj
        refine ⟨x :: before, after, by rw [heq, List.cons_append], by simp [hlen], ?_⟩
        simp only [List.mem_cons, not_or]
        exact ⟨Ne.symm hx, hnot⟩
      · intro h
        obtain ⟨before, after, heq, hlen, hnot⟩ := h
        cases before with
        | nil =>
          simp only [List.nil_append, List.cons.injEq] at heq
          exact absurd heq.1 hx
        | cons y before =>
          simp only [List.cons_append, List.cons.injEq] at heq
          refine ⟨before.length, ih.mpr ⟨before, after, heq.2, rfl, ?_⟩, by simpa using hlen⟩
          exact fun hmem => hnot (List.mem_cons_of_mem _ hmem)

theorem memchr_eq_none_iff {needle : UInt8} {haystack : Bytes} :
    memchr needle haystack = none ↔ needle ∉ haystack := by
  simp [memchr]

end NntpBench
