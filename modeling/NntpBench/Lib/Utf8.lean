import Mathlib

namespace Utf8

def encode (text : List Char) : List UInt8 := text.flatMap String.utf8EncodeChar

def decode (bytes : List UInt8) : Option (List Char) :=
  (ByteArray.utf8Decode? bytes.toByteArray).map Array.toList

@[simp]
theorem encode_nil : encode [] = [] := rfl

@[simp]
theorem encode_cons (c : Char) (text : List Char) :
    encode (c :: text) = String.utf8EncodeChar c ++ encode text := by
  simp [encode]

@[simp]
theorem encode_append (left right : List Char) :
    encode (left ++ right) = encode left ++ encode right := by
  simp [encode]

theorem decode_encode (text : List Char) : decode (encode text) = some text := by
  have h := List.utf8Decode?_utf8Encode (l := text)
  unfold List.utf8Encode at h
  simp [decode, encode, h]

theorem encode_of_decode {bytes : List UInt8} {text : List Char} (h : decode bytes = some text) :
    encode text = bytes := by
  obtain ⟨chars, hchars, rfl⟩ := Option.map_eq_some_iff.mp h
  have hsome : (ByteArray.utf8Decode? bytes.toByteArray).isSome := by simp [hchars]
  have henc := ByteArray.utf8Encode_get_utf8Decode? (b := bytes.toByteArray) (h := hsome)
  simp only [hchars, Option.get_some] at henc
  unfold List.utf8Encode at henc
  have hlist := congrArg (fun array => array.data.toList) henc
  simpa [encode] using hlist

theorem le_lor (x y : UInt8) : y ≤ x ||| y := by
  rw [UInt8.le_iff_toNat_le, UInt8.toNat_or]
  exact Nat.right_le_or

theorem utf8EncodeChar_of_ascii_mem {c : Char} {byte : UInt8}
    (hmem : byte ∈ String.utf8EncodeChar c) (hascii : byte < 128) :
    String.utf8EncodeChar c = [byte] ∧ c.toNat = byte.toNat := by
  -- A byte below 128 occurs in the encoding of one character only, as that character.
  have hhigh : ∀ x y : UInt8, 128 ≤ y → byte ≠ x ||| y := by
    intro x y hy heq
    have hle := le_lor x y
    rw [← heq] at hle
    exact UInt8.not_lt.mpr (UInt8.le_trans hy hle) hascii
  rcases Char.utf8Size_eq c with h | h | h | h
  · rw [String.utf8EncodeChar_eq_singleton h] at hmem ⊢
    obtain rfl := List.mem_singleton.mp hmem
    refine ⟨rfl, ?_⟩
    have hval := Char.utf8Size_eq_one_iff.mp h
    rw [UInt32.le_iff_toNat_le] at hval
    change c.val.toNat ≤ 127 at hval
    rw [UInt32.toNat_toUInt8, Nat.mod_eq_of_lt (by omega)]
    rfl
  · rw [String.utf8EncodeChar_eq_cons_cons h] at hmem
    simp only [List.mem_cons, List.not_mem_nil, or_false] at hmem
    rcases hmem with hb | hb
    · exact absurd hb (hhigh _ _ (by decide))
    · exact absurd hb (hhigh _ _ (by decide))
  · rw [String.utf8EncodeChar_eq_cons_cons_cons h] at hmem
    simp only [List.mem_cons, List.not_mem_nil, or_false] at hmem
    rcases hmem with hb | hb | hb
    · exact absurd hb (hhigh _ _ (by decide))
    · exact absurd hb (hhigh _ _ (by decide))
    · exact absurd hb (hhigh _ _ (by decide))
  · rw [String.utf8EncodeChar_eq_cons_cons_cons_cons h] at hmem
    simp only [List.mem_cons, List.not_mem_nil, or_false] at hmem
    rcases hmem with hb | hb | hb | hb
    · exact absurd hb (hhigh _ _ (by decide))
    · exact absurd hb (hhigh _ _ (by decide))
    · exact absurd hb (hhigh _ _ (by decide))
    · exact absurd hb (hhigh _ _ (by decide))

theorem ascii_mem_of_mem_encode {text : List Char} {byte : UInt8} (hmem : byte ∈ encode text)
    (hascii : byte < 128) : ∃ c ∈ text, c.toNat = byte.toNat := by
  obtain ⟨c, hc, hbyte⟩ := List.mem_flatMap.mp hmem
  exact ⟨c, hc, (utf8EncodeChar_of_ascii_mem hbyte hascii).2⟩

theorem utf8EncodeChar_ofNat {byte : UInt8} (h : byte < 128) :
    String.utf8EncodeChar (Char.ofNat byte.toNat) = [byte] := by
  have hlt : byte.toNat < 128 := UInt8.lt_iff_toNat_lt.mp h
  have hval : (Char.ofNat byte.toNat).val.toNat = byte.toNat := by
    have hvalid : byte.toNat.isValidChar := Or.inl (by omega)
    rw [Char.ofNat, dif_pos hvalid]
    rfl
  have hsize : (Char.ofNat byte.toNat).utf8Size = 1 := by
    rw [Char.utf8Size_eq_one_iff, UInt32.le_iff_toNat_le, hval]
    change byte.toNat ≤ 127
    omega
  rw [String.utf8EncodeChar_eq_singleton hsize]
  congr 1
  apply UInt8.toNat_inj.mp
  rw [UInt32.toNat_toUInt8, hval, Nat.mod_eq_of_lt (by omega)]

theorem encode_map_ofNat {bytes : List UInt8} (h : ∀ byte ∈ bytes, byte < 128) :
    encode (bytes.map fun byte => Char.ofNat byte.toNat) = bytes := by
  induction bytes with
  | nil => rfl
  | cons byte bytes ih =>
    obtain ⟨hbyte, hbytes⟩ := List.forall_mem_cons.mp h
    rw [List.map_cons, encode_cons, utf8EncodeChar_ofNat hbyte, ih hbytes, List.singleton_append]

end Utf8
