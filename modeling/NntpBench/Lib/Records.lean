import Mathlib

namespace Records

/-- The bytes of a number, the lowest first; what does not fit is left out. -/
def littleEndian : Nat → Nat → List UInt8
  | 0, _ => []
  | width + 1, value => UInt8.ofNat value :: littleEndian width (value / 256)

@[simp]
theorem length_littleEndian (width value : Nat) : (littleEndian width value).length = width := by
  induction width generalizing value with
  | zero => rfl
  | succ width ih => rw [littleEndian, List.length_cons, ih]

theorem littleEndian_inj {width value value' : Nat} (hvalue : value < 256 ^ width)
    (hvalue' : value' < 256 ^ width) (h : littleEndian width value = littleEndian width value') :
    value = value' := by
  induction width generalizing value value' with
  | zero => omega
  | succ width ih =>
    obtain ⟨hlow, hhigh⟩ := List.cons.inj h
    have hdiv : value / 256 = value' / 256 := by
      apply ih _ _ hhigh
      · rw [Nat.div_lt_iff_lt_mul (by decide), ← Nat.pow_succ]
        exact hvalue
      · rw [Nat.div_lt_iff_lt_mul (by decide), ← Nat.pow_succ]
        exact hvalue'
    have hmod : value % 256 = value' % 256 := by
      have hbytes := congrArg UInt8.toNat hlow
      rwa [UInt8.toNat_ofNat', UInt8.toNat_ofNat'] at hbytes
    omega

def record (tag : UInt8) (value : List UInt8) : List UInt8 :=
  tag :: (littleEndian 8 value.length ++ value)

theorem record_append_inj {tag tag' : UInt8} {value value' rest rest' : List UInt8}
    (hvalue : value.length < 256 ^ 8) (hvalue' : value'.length < 256 ^ 8)
    (h : record tag value ++ rest = record tag' value' ++ rest') :
    tag = tag' ∧ value = value' ∧ rest = rest' := by
  unfold record at h
  rw [List.cons_append, List.cons_append, List.append_assoc, List.append_assoc] at h
  obtain ⟨htag, hbody⟩ := List.cons.inj h
  obtain ⟨hlength, hbody⟩ :=
    List.append_inj hbody (by rw [length_littleEndian, length_littleEndian])
  have hlength := littleEndian_inj hvalue hvalue' hlength
  obtain ⟨hvalue, hrest⟩ := List.append_inj hbody hlength
  exact ⟨htag, hvalue, hrest⟩

def encode (records : List (UInt8 × List UInt8)) : List UInt8 :=
  records.flatMap fun entry => record entry.1 entry.2

theorem encode_inj {records records' : List (UInt8 × List UInt8)}
    (hvalues : ∀ entry ∈ records, entry.2.length < 256 ^ 8)
    (hvalues' : ∀ entry ∈ records', entry.2.length < 256 ^ 8)
    (h : encode records = encode records') :
    records = records' := by
  induction records generalizing records' with
  | nil =>
    cases records' with
    | nil => rfl
    | cons first' rest' => cases h
  | cons first rest ih =>
    cases records' with
    | nil => cases h
    | cons first' rest' =>
      rw [List.forall_mem_cons] at hvalues hvalues'
      obtain ⟨htag, hvalue, hrest⟩ := record_append_inj hvalues.1 hvalues'.1 h
      rw [ih hvalues.2 hvalues'.2 hrest, Prod.ext htag hvalue]

end Records
