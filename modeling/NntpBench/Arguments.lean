import NntpBench.Validators

namespace NntpBench.Protocol

variable {p : UInt8 → Bool} {bytes : Bytes} {byte : UInt8} {c : Char} {number : Nat} {value : Str}

/-- No NUL, CR or LF. -/
structure Clean (bytes : Bytes) : Prop where
  nul : NUL ∉ bytes
  cr : CR ∉ bytes
  lf : LF ∉ bytes

theorem clean_append {left right : Bytes} (hleft : Clean left) (hright : Clean right) :
    Clean (left ++ right) where
  nul := by simp [hleft.nul, hright.nul]
  cr := by simp [hleft.cr, hright.cr]
  lf := by simp [hleft.lf, hright.lf]

theorem clean_nil : Clean [] := ⟨by simp, by simp, by simp⟩

instance (bytes : Bytes) : Decidable (Clean bytes) :=
  decidable_of_iff (NUL ∉ bytes ∧ CR ∉ bytes ∧ LF ∉ bytes)
    ⟨fun h => ⟨h.1, h.2.1, h.2.2⟩, fun h => ⟨h.nul, h.cr, h.lf⟩⟩

theorem clean_of_forall (h : ∀ byte ∈ bytes, p byte = true) (hnul : p NUL = false)
    (hcr : p CR = false) (hlf : p LF = false) : Clean bytes where
  nul := fun hmem => by simp [h NUL hmem] at hnul
  cr := fun hmem => by simp [h CR hmem] at hcr
  lf := fun hmem => by simp [h LF hmem] at hlf

theorem clean_of_all (h : bytes.all p = true) (hnul : p NUL = false) (hcr : p CR = false)
    (hlf : p LF = false) : Clean bytes :=
  clean_of_forall (List.all_eq_true.mp h) hnul hcr hlf

/-- No control byte and no space. -/
def Visible (bytes : Bytes) : Prop := ∀ byte ∈ bytes, 0x21 ≤ byte

instance (bytes : Bytes) : Decidable (Visible bytes) :=
  inferInstanceAs (Decidable (∀ byte ∈ bytes, 0x21 ≤ byte))

theorem visible_nil : Visible [] := List.forall_mem_nil _

theorem visible_append {left right : Bytes} (hleft : Visible left) (hright : Visible right) :
    Visible (left ++ right) :=
  List.forall_mem_append.mpr ⟨hleft, hright⟩

theorem visible_of_all (h : bytes.all p = true)
    (hp : ∀ byte, p byte = true → 0x21 ≤ byte) : Visible bytes :=
  fun byte hmem => hp byte (List.all_eq_true.mp h byte hmem)

theorem Visible.not_mem (h : Visible bytes) (hbyte : byte < 0x21) :
    byte ∉ bytes :=
  fun hmem => UInt8.not_lt.mpr (h byte hmem) hbyte

theorem Visible.clean (h : Visible bytes) : Clean bytes :=
  ⟨h.not_mem (by decide), h.not_mem (by decide), h.not_mem (by decide)⟩

theorem Visible.not_whitespace (h : Visible bytes)
    (hmem : byte ∈ bytes) : isAsciiWhitespace byte = false := by
  have hne : ∀ blank : UInt8, blank < 0x21 → byte ≠ blank := by
    rintro blank hblank rfl
    exact h.not_mem hblank hmem
  simp [isAsciiWhitespace, hne SP (by decide), hne HT (by decide), hne LF (by decide),
    hne 12 (by decide), hne CR (by decide)]

theorem visible_of_isMessageIdByte (byte : UInt8) (h : isMessageIdByte byte = true) :
    0x21 ≤ byte := by
  simp only [isMessageIdByte, Bool.or_eq_true, Bool.and_eq_true, decide_eq_true_eq] at h
  grind

theorem visible_of_isAsciiDigit (byte : UInt8) (h : isAsciiDigit byte = true) : 0x21 ≤ byte := by
  simp only [isAsciiDigit, Bool.and_eq_true, decide_eq_true_eq] at h
  grind

theorem visible_of_isHeaderNameByte (byte : UInt8) (h : isHeaderNameByte byte = true) :
    0x21 ≤ byte := by
  simp only [isHeaderNameByte, Bool.or_eq_true, Bool.and_eq_true, decide_eq_true_eq] at h
  grind

theorem visible_of_isWildmatExactOrUtf8NonAscii (byte : UInt8)
    (h : isWildmatExactOrUtf8NonAscii byte = true) : 0x21 ≤ byte := by
  simp only [isWildmatExactOrUtf8NonAscii, Bool.or_eq_true, Bool.and_eq_true,
    decide_eq_true_eq] at h
  grind

theorem visible_of_isKeywordByte (byte : UInt8) (h : isKeywordByte byte = true) : 0x21 ≤ byte := by
  simp only [isKeywordByte, isAsciiAlphanumeric, isAsciiAlphabetic, isAsciiDigit, Bool.or_eq_true,
    Bool.and_eq_true, decide_eq_true_eq] at h
  grind

theorem isKeywordByte_of_isAsciiAlphabetic (h : isAsciiAlphabetic byte = true) :
    isKeywordByte byte = true := by
  simp [isKeywordByte, isAsciiAlphanumeric, h]

theorem toNat_of_isDigit (h : c.isDigit = true) :
    48 ≤ c.toNat ∧ c.toNat ≤ 57 ∧ c.toNat.toUInt8.toNat = c.toNat := by
  simp only [Char.isDigit, Bool.and_eq_true, decide_eq_true_eq, ge_iff_le,
    UInt32.le_iff_toNat_le] at h
  obtain ⟨hlow, hhigh⟩ := h
  change 48 ≤ c.toNat at hlow
  change c.toNat ≤ 57 at hhigh
  refine ⟨hlow, hhigh, ?_⟩
  simp only [Nat.toUInt8_eq, UInt8.toNat_ofNat']
  omega

theorem isAsciiDigit_of_isDigit (h : c.isDigit = true) :
    isAsciiDigit c.toNat.toUInt8 = true := by
  obtain ⟨hlow, hhigh, hsmall⟩ := toNat_of_isDigit h
  simp only [isAsciiDigit, Bool.and_eq_true, decide_eq_true_eq, UInt8.le_iff_toNat_le, hsmall]
  exact ⟨hlow, hhigh⟩

theorem decimalText_eq (number : Nat) :
    decimalText number = (Nat.toDigits 10 number).map fun c => c.toNat.toUInt8 := by
  have hdigits : (toString number).toList = Nat.toDigits 10 number := by simp
  rw [decimalText, ascii, hdigits]

theorem isDigit_of_mem_toDigits (h : c ∈ Nat.toDigits 10 number) :
    c.isDigit = true :=
  Nat.isDigit_of_mem_toDigits (by decide) (by decide) h

theorem isAsciiDigit_of_mem_decimalText
    (h : byte ∈ decimalText number) : isAsciiDigit byte = true := by
  rw [decimalText_eq] at h
  obtain ⟨c, hc, rfl⟩ := List.mem_map.mp h
  exact isAsciiDigit_of_isDigit (isDigit_of_mem_toDigits hc)

theorem asBytes_of_isDigit {text : Str} (h : ∀ c ∈ text, c.isDigit = true) :
    asBytes text = text.map fun c => c.toNat.toUInt8 := by
  induction text with
  | nil => rfl
  | cons c text ih =>
    obtain ⟨hc, htext⟩ := List.forall_mem_cons.mp h
    obtain ⟨hlow, hhigh, hsmall⟩ := toNat_of_isDigit hc
    have hsize : c.utf8Size = 1 := by
      rw [Char.utf8Size_eq_one_iff, UInt32.le_iff_toNat_le]
      change c.toNat ≤ 127
      omega
    rw [asBytes, Utf8.encode_cons, String.utf8EncodeChar_eq_singleton hsize, List.map_cons,
      ← ih htext]
    rfl

theorem fromUtf8_decimalText (number : Nat) :
    fromUtf8 (decimalText number) = some (Nat.toDigits 10 number) := by
  rw [decimalText_eq, ← asBytes_of_isDigit fun c => isDigit_of_mem_toDigits]
  exact Utf8.decode_encode _

theorem decimalValue_decimalText (number : Nat) : decimalValue (decimalText number) = number := by
  have hdigits : ∀ (digits : List Char) (start : Nat), (∀ c ∈ digits, c.isDigit = true) →
      (digits.map fun c => c.toNat.toUInt8).foldl (fun acc byte => acc * 10 + (byte.toNat - 48))
        start = Nat.ofDigitChars 10 digits start := by
    intro digits
    induction digits with
    | nil => exact fun _ _ => rfl
    | cons c digits ih =>
      intro start hall
      obtain ⟨hc, hrest⟩ := List.forall_mem_cons.mp hall
      rw [List.map_cons, List.foldl_cons, (toNat_of_isDigit hc).2.2, ih _ hrest,
        Nat.ofDigitChars_cons, Nat.mul_comm 10]
      rfl
  rw [decimalText_eq, decimalValue, hdigits _ _ fun c => isDigit_of_mem_toDigits,
    Nat.ofDigitChars_ten_toDigits]

theorem length_decimalText_le {digits : Nat} (hdigits : 0 < digits)
    (h : number < 10 ^ digits) : (decimalText number).length ≤ digits := by
  rw [decimalText_eq, List.length_map, Nat.length_toDigits_le_iff (by decide) hdigits]
  exact h

/-- An argument: at least one byte, all of them visible. -/
structure IsArgument (bytes : Bytes) : Prop where
  nonempty : bytes ≠ []
  visible : Visible bytes

theorem MessageId.isArgument (messageId : MessageId) : IsArgument (asBytes messageId.value) := by
  obtain ⟨inner, hbytes, -, hinner⟩ := asBytes_of_validateMessageId messageId.valid
  rw [hbytes]
  refine ⟨by simp, ?_⟩
  have hvisible : Visible inner :=
    fun byte hmem => visible_of_isMessageIdByte byte (hinner byte hmem)
  exact visible_append (by decide : Visible [60]) (visible_append hvisible (by decide))

theorem isArgument_decimalText (number : Nat) : IsArgument (decimalText number) := by
  refine ⟨?_, fun byte hmem =>
    visible_of_isAsciiDigit byte (isAsciiDigit_of_mem_decimalText hmem)⟩
  simp [decimalText, ascii]

theorem isArgument_of_articleNumberTokenValue
    (h : (articleNumberTokenValue value).isSome = true) : IsArgument (asBytes value) := by
  unfold articleNumberTokenValue at h
  dsimp only at h
  split_ifs at h with hshape
  · simp at h
  · simp at h
  · simp only [not_or, Bool.not_eq_true, Bool.not_eq_false'] at hshape
    exact ⟨hshape.1, visible_of_all hshape.2.2 visible_of_isAsciiDigit⟩

theorem splitOnce_eq_some {separator : Char} {start fin : Str}
    (h : splitOnce separator value = some (start, fin)) : value = start ++ separator :: fin := by
  obtain ⟨i, hi, heq⟩ := Option.map_eq_some_iff.mp h
  obtain ⟨hlt, hget, -⟩ := List.idxOf?_eq_some_iff.mp hi
  obtain ⟨rfl, rfl⟩ := Prod.mk.inj heq
  rw [← hget, ← List.drop_eq_getElem_cons hlt, List.take_append_drop]

theorem isArgument_of_validateNumberRange (h : validateNumberRange value = true) :
    IsArgument (asBytes value) := by
  unfold validateNumberRange at h
  cases hsplit : splitOnce '-' value with
  | none =>
    rw [hsplit] at h
    exact isArgument_of_articleNumberTokenValue h
  | some pair =>
    obtain ⟨start, fin⟩ := pair
    simp only [hsplit, Bool.and_eq_true, Bool.or_eq_true, decide_eq_true_eq] at h
    have hstart := isArgument_of_articleNumberTokenValue h.1
    have hfin : Visible (asBytes fin) := by
      rcases h.2 with rfl | hfin
      · exact visible_nil
      · exact (isArgument_of_articleNumberTokenValue hfin).visible
    rw [splitOnce_eq_some hsplit, asBytes, Utf8.encode_append, Utf8.encode_cons]
    refine ⟨by simp [hstart.nonempty], visible_append hstart.visible ?_⟩
    exact visible_append (by decide : Visible (String.utf8EncodeChar '-')) hfin

theorem isRangeByte_of_validateNumberRange (h : validateNumberRange value = true) :
    ∀ byte ∈ asBytes value, isAsciiDigit byte = true ∨ byte = 45 := by
  -- A number range is made of digits and at most one dash.
  have hdigits {part : Str} (hpart : (articleNumberTokenValue part).isSome = true) :
      ∀ byte ∈ asBytes part, isAsciiDigit byte = true := by
    unfold articleNumberTokenValue at hpart
    dsimp only at hpart
    split_ifs at hpart with hshape
    · simp at hpart
    · simp at hpart
    · simp only [not_or, Bool.not_eq_true, Bool.not_eq_false'] at hshape
      exact List.all_eq_true.mp hshape.2.2
  unfold validateNumberRange at h
  cases hsplit : splitOnce '-' value with
  | none =>
    rw [hsplit] at h
    exact fun byte hbyte => .inl (hdigits h byte hbyte)
  | some pair =>
    obtain ⟨start, fin⟩ := pair
    simp only [hsplit, Bool.and_eq_true, Bool.or_eq_true, decide_eq_true_eq] at h
    rw [splitOnce_eq_some hsplit, asBytes, Utf8.encode_append, Utf8.encode_cons]
    intro byte hbyte
    simp only [List.mem_append] at hbyte
    rcases hbyte with hstart | hdash | hfin
    · exact .inl (hdigits h.1 byte hstart)
    · have hencoded : String.utf8EncodeChar '-' = [45] := by decide
      rw [hencoded] at hdash
      exact .inr (List.mem_singleton.mp hdash)
    · rcases h.2 with rfl | hvalid
      · cases hfin
      · exact .inl (hdigits hvalid byte hfin)

theorem ArticleSelector.isArgument (selector : ArticleSelector) :
    IsArgument (asBytes selector.value) := by
  have h := selector.valid
  unfold validateArticleSelector at h
  split_ifs at h with hshape hid
  · exact MessageId.isArgument ⟨selector.value, h⟩
  · exact isArgument_of_validateNumberRange h

theorem ListGroupRange.isArgument (range : ListGroupRange) : IsArgument (asBytes range.value) := by
  have h := range.valid
  unfold validateListgroupRange at h
  split_ifs at h with hshape
  exact isArgument_of_validateNumberRange h

theorem asBytes_ne_nil (h : value ≠ []) : asBytes value ≠ [] := by
  obtain ⟨c, rest, rfl⟩ := List.exists_cons_of_ne_nil h
  rw [asBytes, Utf8.encode_cons]
  simp

theorem HeaderName.isArgument (header : HeaderName) : IsArgument (asBytes header.value) := by
  have h := header.valid
  unfold validateHeaderName at h
  simp only [Bool.and_eq_true, decide_eq_true_eq] at h
  have hrest := visible_of_all h.2 visible_of_isHeaderNameByte
  have hne := asBytes_ne_nil h.1
  split_ifs at hrest hne with hcolon
  · obtain ⟨rest, hvalue⟩ := List.head?_eq_some_iff.mp hcolon
    rw [hvalue, List.tail_cons] at hrest
    rw [hvalue]
    refine ⟨asBytes_ne_nil (List.cons_ne_nil _ _), ?_⟩
    rw [asBytes, Utf8.encode_cons]
    exact visible_append (by decide : Visible (String.utf8EncodeChar ':')) hrest
  · exact ⟨hne, hrest⟩

theorem GroupName.isArgument (group : GroupName) : IsArgument (asBytes group.value) := by
  have h := group.valid
  unfold validateGroupName at h
  simp only [Bool.and_eq_true, decide_eq_true_eq] at h
  exact ⟨asBytes_ne_nil h.1.1, visible_of_all h.2 visible_of_isWildmatExactOrUtf8NonAscii⟩

theorem visible_asBytes (h : ∀ c ∈ value, 0x21 ≤ c.toNat) :
    Visible (asBytes value) := by
  intro byte hmem
  by_contra hlow
  have hbyte : byte < 0x21 := UInt8.not_le.mp hlow
  obtain ⟨c, hc, heq⟩ := Utf8.ascii_mem_of_mem_encode hmem (UInt8.lt_trans hbyte (by decide))
  have hge := h c hc
  rw [UInt8.lt_iff_toNat_lt] at hbyte
  change byte.toNat < 33 at hbyte
  omega

theorem Wildmat.isArgument (wildmat : Wildmat) : IsArgument (asBytes wildmat.value) := by
  have h := wildmat.valid
  unfold validateWildmat at h
  simp only [Bool.and_eq_true, List.all_eq_true, Bool.or_eq_true, decide_eq_true_eq] at h
  refine ⟨asBytes_ne_nil h.1.1.1, visible_asBytes fun c hc => ?_⟩
  have hchar := h.1.2 c hc
  omega

theorem isArgument_of_validateKeyword {keyword : Str} (h : validateKeyword keyword = true) :
    IsArgument (asBytes keyword) := by
  unfold validateKeyword at h
  cases hbytes : asBytes keyword with
  | nil => simp [hbytes] at h
  | cons first rest =>
    simp only [hbytes, Bool.and_eq_true] at h
    refine ⟨List.cons_ne_nil _ _, ?_⟩
    intro byte hmem
    apply visible_of_isKeywordByte
    rcases List.mem_cons.mp hmem with rfl | hmem
    · exact isKeywordByte_of_isAsciiAlphabetic h.1.1
    · exact List.all_eq_true.mp h.2 byte hmem

theorem NntpDate.isArgument (date : NntpDate) : IsArgument (asBytes date.value) := by
  have h := date.valid
  unfold validateNntpDate at h
  simp only [Bool.and_eq_true, Bool.or_eq_true, decide_eq_true_eq] at h
  refine ⟨fun hnil => ?_, visible_of_all h.1.2 visible_of_isAsciiDigit⟩
  simp [hnil] at h

theorem NntpTime.isArgument (time : NntpTime) : IsArgument (asBytes time.value) := by
  have h := time.valid
  unfold validateNntpTime at h
  simp only [Bool.and_eq_true, decide_eq_true_eq] at h
  refine ⟨fun hnil => ?_, visible_of_all h.1.2 visible_of_isAsciiDigit⟩
  simp [hnil] at h

theorem IsArgument.clean (h : IsArgument bytes) : Clean bytes := h.visible.clean

theorem AuthInfoValue.clean (value : AuthInfoValue) : Clean value.value := by
  have h := value.valid
  unfold validateAuthInfoValueBytes at h
  simp only [Bool.and_eq_true] at h
  exact clean_of_all h.2 (by decide) (by decide) (by decide)

end NntpBench.Protocol
