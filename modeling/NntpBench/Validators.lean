import NntpBench.RequestKind

namespace NntpBench.Protocol

def isMessageIdByte (byte : UInt8) : Bool :=
  (0x21 ≤ byte && byte ≤ 0x3d) || (0x3f ≤ byte && byte ≤ 0x7e)

def validateMessageId (value : Str) : Bool :=
  let bytes := asBytes value
  (3 ≤ bytes.length && bytes.length ≤ 250) && value.head? = some '<' &&
    value.getLast? = some '>' && (bytes.extract 1 (bytes.length - 1)).all isMessageIdByte

structure MessageId where
  value : Str
  valid : validateMessageId value = true
  deriving DecidableEq

namespace MessageId

def fromBorrowed (value : Str) : Option MessageId :=
  if h : validateMessageId value = true then some ⟨value, h⟩ else none

def fromStrOrWrap (value : Str) : Option MessageId :=
  if value = [] then none
  else if value.head? = some '<' ∧ value.getLast? = some '>' then fromBorrowed value
  else fromBorrowed ('<' :: value ++ ['>'])

end MessageId

/-- `std::str::from_utf8(token).ok().is_some_and(|id| MessageId::from_borrowed(id).is_ok())`. -/
def isMessageIdToken (token : Bytes) : Bool := (fromUtf8 token).any validateMessageId

theorem asBytes_of_validateMessageId {value : Str} (h : validateMessageId value = true) :
    ∃ inner, asBytes value = 60 :: (inner ++ [62]) ∧ inner ≠ [] ∧
      ∀ byte ∈ inner, isMessageIdByte byte = true := by
  -- The bytes of a valid message-id: its brackets around visible bytes other than `>`.
  simp only [validateMessageId, Bool.and_eq_true, decide_eq_true_eq, List.all_eq_true] at h
  obtain ⟨⟨⟨⟨hlen, -⟩, hhead⟩, hlast⟩, hinner⟩ := h
  obtain ⟨rest, rfl⟩ := List.head?_eq_some_iff.mp hhead
  have hne : rest ≠ [] := by
    intro hnil
    subst hnil
    simp at hlast
  obtain ⟨mid, last, rfl⟩ := (List.eq_nil_or_concat rest).resolve_left hne
  rw [List.concat_eq_append, ← List.cons_append, List.getLast?_concat] at hlast
  obtain rfl := Option.some.inj hlast
  have hopen : String.utf8EncodeChar '<' = [60] := by decide
  have hclose : String.utf8EncodeChar '>' = [62] := by decide
  have hbytes : asBytes ('<' :: mid.concat '>') = 60 :: (asBytes mid ++ [62]) := by
    simp [asBytes, hopen, hclose]
  rw [hbytes] at hlen hinner
  refine ⟨asBytes mid, hbytes, ?_, ?_⟩
  · intro hnil
    simp [hnil] at hlen
  · intro byte hbyte
    apply hinner byte
    simpa [List.extract_eq_take_drop] using hbyte

theorem messageIdToken_shape {token : Bytes} (h : isMessageIdToken token = true) :
    ∃ inner, token = 60 :: (inner ++ [62]) ∧ ∀ byte ∈ inner, isMessageIdByte byte = true := by
  obtain ⟨value, hvalue, hvalid⟩ := (Option.any_eq_true _ _).mp h
  obtain ⟨inner, hbytes, -, hinner⟩ := asBytes_of_validateMessageId hvalid
  exact ⟨inner, (Utf8.encode_of_decode hvalue).symm.trans hbytes, hinner⟩

def decimalText (value : Nat) : Bytes := ascii (toString value)

def articleNumberTokenValue (value : Str) : Option Nat :=
  let bytes := asBytes value
  if bytes = [] ∨ bytes.length > 16 ∨ !bytes.all isAsciiDigit then none
  else
    let number := decimalValue bytes
    if number = 0 ∨ number > MAX_ARTICLE_NUMBER then none else some number

/-- The number is any `u64`: only `from_number` checks it. -/
inductive ArticleRef where
  | current
  | number (value : UInt64)
  | messageId (value : MessageId)
  deriving DecidableEq

namespace ArticleRef

def fromNumber (value : UInt64) : Option ArticleRef :=
  if value = 0 ∨ value.toNat > MAX_ARTICLE_NUMBER then none else some (.number value)

def fromSelector (value : Str) : Option ArticleRef :=
  if value = [] ∨ (asBytes value).any isAsciiWhitespace then none
  else if (asBytes value).all isAsciiDigit then
    (articleNumberTokenValue value).bind fun number => fromNumber number.toUInt64
  else (MessageId.fromBorrowed value).map .messageId

def messageId? : ArticleRef → Option MessageId
  | .messageId id => some id
  | .current => none
  | .number _ => none

end ArticleRef

def splitOnce (separator : Char) (value : Str) : Option (Str × Str) :=
  (value.idxOf? separator).map fun i => (value.take i, value.drop (i + 1))

/-- The range form shared by selectors and LISTGROUP ranges: `n`, `n-` or `n-m`. -/
def validateNumberRange (value : Str) : Bool :=
  match splitOnce '-' value with
  | some (start, fin) =>
    (articleNumberTokenValue start).isSome && (fin = [] || (articleNumberTokenValue fin).isSome)
  | none => (articleNumberTokenValue value).isSome

def validateArticleSelector (value : Str) : Bool :=
  if value = [] ∨ (asBytes value).any isAsciiWhitespace then false
  else if value.head? = some '<' then validateMessageId value
  else validateNumberRange value

structure ArticleSelector where
  value : Str
  valid : validateArticleSelector value = true
  deriving DecidableEq

def ArticleSelector.fromOwned (value : Str) : Option ArticleSelector :=
  if h : validateArticleSelector value = true then some ⟨value, h⟩ else none

def validateListgroupRange (value : Str) : Bool :=
  if value = [] ∨ (asBytes value).any isAsciiWhitespace then false
  else validateNumberRange value

structure ListGroupRange where
  value : Str
  valid : validateListgroupRange value = true
  deriving DecidableEq

def ListGroupRange.fromOwned (value : Str) : Option ListGroupRange :=
  if h : validateListgroupRange value = true then some ⟨value, h⟩ else none

def isHeaderNameByte (byte : UInt8) : Bool :=
  (0x21 ≤ byte && byte ≤ 0x39) || (0x3b ≤ byte && byte ≤ 0x7e)

def validateHeaderName (value : Str) : Bool :=
  let value := if value.head? = some ':' then value.tail else value
  value ≠ [] && (asBytes value).all isHeaderNameByte

structure HeaderName where
  value : Str
  valid : validateHeaderName value = true
  deriving DecidableEq

def HeaderName.fromOwned (value : Str) : Option HeaderName :=
  if h : validateHeaderName value = true then some ⟨value, h⟩ else none

def containsUtf8Bom (value : Str) : Bool := '\ufeff' ∈ value

def isWildmatExactOrUtf8NonAscii (byte : UInt8) : Bool :=
  (0x22 ≤ byte && byte ≤ 0x29) || byte = 0x2b || (0x2d ≤ byte && byte ≤ 0x3e) ||
    (0x40 ≤ byte && byte ≤ 0x5a) || (0x5e ≤ byte && byte ≤ 0x7e) || 0x80 ≤ byte

def validateGroupName (value : Str) : Bool :=
  value ≠ [] && !containsUtf8Bom value && (asBytes value).all isWildmatExactOrUtf8NonAscii

structure GroupName where
  value : Str
  valid : validateGroupName value = true
  deriving DecidableEq

def GroupName.fromOwned (value : Str) : Option GroupName :=
  if h : validateGroupName value = true then some ⟨value, h⟩ else none

/-- `std::str::from_utf8(token).ok().is_some_and(|name| GroupName::from_borrowed(name).is_ok())`. -/
def isGroupNameToken (token : Bytes) : Bool := (fromUtf8 token).any validateGroupName

/-- One comma-separated pattern of a wildmat, after its optional negation. -/
def validateWildmatPattern (pattern : Str) : Bool :=
  pattern ≠ [] && (asBytes pattern).all fun byte => byte ∉ ascii "!,[\\]"

def validateWildmat (value : Str) : Bool :=
  value ≠ [] && !containsUtf8Bom value &&
    value.all (fun ch => 0x80 ≤ ch.toNat || (0x21 ≤ ch.toNat && ch.toNat ≤ 0x7e)) &&
    match value.splitOn ',' with
    | [] => true
    | first :: rest =>
      validateWildmatPattern first &&
        rest.all fun pattern =>
          validateWildmatPattern (if pattern.head? = some '!' then pattern.tail else pattern)

structure Wildmat where
  value : Str
  valid : validateWildmat value = true
  deriving DecidableEq

def Wildmat.fromOwned (value : Str) : Option Wildmat :=
  if h : validateWildmat value = true then some ⟨value, h⟩ else none

def isKeywordByte (byte : UInt8) : Bool := isAsciiAlphanumeric byte || byte = DOT || byte = 45

def validateKeyword (value : Str) : Bool :=
  match asBytes value with
  | [] => false
  | first :: rest => isAsciiAlphabetic first && 2 ≤ rest.length && rest.all isKeywordByte

def isKeywordToken (token : Bytes) : Bool := (fromUtf8 token).any validateKeyword

def validateAuthInfoValueBytes (value : Bytes) : Bool :=
  value ≠ [] && value.all fun byte => byte ≠ NUL && byte ≠ CR && byte ≠ LF

structure AuthInfoValue where
  value : Bytes
  valid : validateAuthInfoValueBytes value = true
  deriving DecidableEq

def AuthInfoValue.fromOwnedBytes (value : Bytes) : Option AuthInfoValue :=
  if h : validateAuthInfoValueBytes value = true then some ⟨value, h⟩ else none

def validateSaslMechanism (value : Bytes) : Bool :=
  value ≠ [] && value.length ≤ 20 &&
    value.all fun byte =>
      (65 ≤ byte && byte ≤ 90) || isAsciiDigit byte || byte = 45 || byte = 95

def isBase64Byte (byte : UInt8) : Bool := isAsciiAlphanumeric byte || byte = 43 || byte = 47

/-- Base64 text of whole quanta with at most two `=` at its end. -/
def validateSaslBase64 (value : Bytes) : Bool :=
  let padding := (value.reverse.takeWhile (· = 61)).length
  value ≠ [] && value.length % 4 = 0 && padding ≤ 2 &&
    (value.take (value.length - padding)).all isBase64Byte

def parseTwoDigits : Bytes → Option Nat
  | [tens, ones] =>
    if isAsciiDigit tens && isAsciiDigit ones then
      some ((tens.toNat - 48) * 10 + (ones.toNat - 48))
    else none
  | _ => none

def validateNntpDate (value : Str) : Bool :=
  let bytes := asBytes value
  (bytes.length = 6 || bytes.length = 8) && bytes.all isAsciiDigit &&
    match parseTwoDigits (bytes.extract (bytes.length - 4) (bytes.length - 2)),
      parseTwoDigits (bytes.drop (bytes.length - 2)) with
    | some month, some day =>
      (1 ≤ month && month ≤ 12) && day ≠ 0 &&
        (if bytes.length = 8 then
          1900 ≤ decimalValue (bytes.take 4) && decimalValue (bytes.take 4) ≤ 9999
        else (parseTwoDigits (bytes.take 2)).isSome) &&
        day ≤ 31
    | _, _ => false

structure NntpDate where
  value : Str
  valid : validateNntpDate value = true
  deriving DecidableEq

def NntpDate.fromOwned (value : Str) : Option NntpDate :=
  if h : validateNntpDate value = true then some ⟨value, h⟩ else none

def validateNntpTime (value : Str) : Bool :=
  let bytes := asBytes value
  bytes.length = 6 && bytes.all isAsciiDigit &&
    match parseTwoDigits (bytes.take 2), parseTwoDigits (bytes.extract 2 4),
      parseTwoDigits (bytes.drop 4) with
    | some hour, some minute, some second => hour ≤ 23 && minute ≤ 59 && second ≤ 60
    | _, _, _ => false

structure NntpTime where
  value : Str
  valid : validateNntpTime value = true
  deriving DecidableEq

def NntpTime.fromOwned (value : Str) : Option NntpTime :=
  if h : validateNntpTime value = true then some ⟨value, h⟩ else none

end NntpBench.Protocol
