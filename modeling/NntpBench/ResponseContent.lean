import NntpBench.Lines
import NntpBench.ResponseLine

namespace NntpBench.Protocol

open Terminator

/-- A line that starts with a dot no other dot follows. -/
def isBareDotLine (line : Bytes) : Bool := ascii "." <+: line && !(ascii ".." <+: line)

/-- `validate_crlf_lines` with the variables its closure captures as the state. -/
def validateCrlfLines {σ : Type} (content : Bytes) (init : σ) (validate : σ → Bytes → Option σ) :
    Option σ :=
  (forStrictLines () (fun state line _ =>
    if isBareDotLine line then .error ()
    else
      match validate state line with
      | some state => .ok state
      | none => .error ()) init content).toOption

/-- `validate_crlf_lines` with a closure that captures nothing. -/
def allCrlfLines (content : Bytes) (validate : Bytes → Bool) : Bool :=
  (validateCrlfLines content () fun _ line => if validate line then some () else none).isSome

/-- `next_strict_crlf_line`: the next line of the bytes left, and what is left after it. -/
def nextStrictCrlfLine (content : Bytes) : Option (Bytes × Bytes) :=
  match strictCrlfLineContentEndFrom content 0 with
  | none => none
  | some lineEnd =>
    if isBareDotLine (content.take lineEnd) then none
    else some (content.take lineEnd, content.drop (lineEnd + CRLF.length))

def skipOneOrMoreSpaces (value : Bytes) : Option Bytes :=
  if value.head? = some SP then some (value.dropWhile (· = SP)) else none

def splitSpaField (value : Bytes) : Option (Bytes × Bytes) := do
  let fieldEnd ← memchr SP value
  let rest ← skipOneOrMoreSpaces (value.drop fieldEnd)
  if value.take fieldEnd = [] ∨ rest = [] then none else some (value.take fieldEnd, rest)

def splitActiveResponseLine (line : Bytes) : Option (Bytes × Bytes × Bytes × Bytes) := do
  let (group, rest) ← splitSpaField line
  let (high, rest) ← splitSpaField rest
  let (low, status) ← splitSpaField rest
  if status = [] ∨ SP ∈ status then none else some (group, high, low, status)

def validateActiveStatusToken (token : Bytes) : Bool :=
  match stripStart (ascii "=") token with
  | some group => isGroupNameToken group
  | none =>
    token ∈ [ascii "y", ascii "m", ascii "n", ascii "x", ascii "j"] || validatePCharToken token

def validateActiveResponseLine (line : Bytes) : Bool :=
  match splitActiveResponseLine line with
  | none => false
  | some (group, high, low, status) =>
    match parseResponseArticleNumber high, parseResponseArticleNumber low with
    | some high, some low =>
      isGroupNameToken group && validateGroupWatermarkPair low high &&
        validateActiveStatusToken status
    | _, _ => false

def splitActiveTimesResponseLine (line : Bytes) : Option (Bytes × Bytes × Bytes) := do
  let groupEnd ← memchr SP line
  let afterGroup ← skipOneOrMoreSpaces (line.drop groupEnd)
  let timestampEnd ← memchr SP afterGroup
  let creator ← skipOneOrMoreSpaces (afterGroup.drop timestampEnd)
  some (line.take groupEnd, afterGroup.take timestampEnd, creator)

def validateActiveTimesResponseLine (line : Bytes) : Bool :=
  match splitActiveTimesResponseLine line with
  | none => false
  | some (group, timestamp, creator) =>
    isGroupNameToken group && isResponseDecimalToken timestamp && validateUText creator

def isBlank (byte : UInt8) : Bool := byte = SP || byte = HT

def skipResponseWs (value : Bytes) : Option Bytes :=
  if value.head?.any isBlank then some (value.dropWhile isBlank) else none

def splitNewsgroupsResponseLine (line : Bytes) : Option (Bytes × Bytes) := do
  let separatorStart ← line.findIdx? isBlank
  let description ← skipResponseWs (line.drop separatorStart)
  if description = [] then none else some (line.take separatorStart, description)

def isSTextInitialByte (byte : UInt8) : Bool :=
  (0x01 ≤ byte && byte ≤ 0x08) || (0x0b ≤ byte && byte ≤ 0x0c) || 0x0e ≤ byte

def isTextByte (byte : UInt8) : Bool := byte ≠ NUL && byte ≠ CR && byte ≠ LF

def validateSText : Bytes → Bool
  | [] => false
  | first :: rest => isSTextInitialByte first && rest.all isTextByte

def validateNewsgroupsResponseLine (line : Bytes) : Bool :=
  match splitNewsgroupsResponseLine line with
  | none => false
  | some (group, description) => isGroupNameToken group && validateSText description

def validateHeaderNameAbnfBytes (value : Bytes) : Bool :=
  value ≠ [] && value.all isHeaderNameByte

def validateMetadataNameAbnfBytes (value : Bytes) : Bool :=
  (stripStart (ascii ":") value).any validateHeaderNameAbnfBytes

def validateOverviewFmtExtensionLine (line : Bytes) : Bool :=
  let fullSuffix := ascii ":full"
  if line.length > fullSuffix.length ∧
      eqIgnoreAsciiCase (line.drop (line.length - fullSuffix.length)) fullSuffix then
    validateHeaderNameAbnfBytes (line.take (line.length - fullSuffix.length))
  else validateMetadataNameAbnfBytes line

/-- The required first lines of an overview format, each ignoring case. -/
def takeRequiredLines (content : Bytes) : List Bytes → Option Bytes
  | [] => some content
  | required :: others =>
    match nextStrictCrlfLine content with
    | none => none
    | some (line, rest) =>
      if eqIgnoreAsciiCase line required then takeRequiredLines rest others else none

def validateOverviewFmtResponseContent (content : Bytes) : Bool :=
  let required :=
    [ascii "Subject:", ascii "From:", ascii "Date:", ascii "Message-ID:", ascii "References:"]
  let outcome := do
    let content ← takeRequiredLines content required
    let (bytesLine, content) ← nextStrictCrlfLine content
    let (linesLine, content) ← nextStrictCrlfLine content
    let modernMetadata :=
      eqIgnoreAsciiCase bytesLine (ascii ":bytes") && eqIgnoreAsciiCase linesLine (ascii ":lines")
    let legacyHeaders :=
      eqIgnoreAsciiCase bytesLine (ascii "Bytes:") && eqIgnoreAsciiCase linesLine (ascii "Lines:")
    if modernMetadata || legacyHeaders then some content else none
  outcome.any fun content => allCrlfLines content validateOverviewFmtExtensionLine

/-- The state is whether the marker `:` and whether a header name were seen. -/
def validateHeaderListResponseContent (content : Bytes) : Bool :=
  let outcome := validateCrlfLines content (false, false) fun (hasMarker, hasName) line =>
    if line = ascii ":" then some (true, hasName)
    else if validateMetadataNameAbnfBytes line then some (hasMarker, hasName)
    else if validateHeaderNameAbnfBytes line then some (hasMarker, true)
    else none
  outcome.any fun (hasMarker, hasName) => !(hasMarker && hasName)

def validateWildmatResponseField (value : Bytes) : Bool := (fromUtf8 value).any validateWildmat

def validateDistribPatsResponseLine (line : Bytes) : Bool :=
  match memchr 58 line with
  | none => false
  | some i =>
    match memchr 58 (line.drop (i + 1)) with
    | none => false
    | some j =>
      isResponseDecimalToken (line.take i) &&
        validateWildmatResponseField ((line.drop (i + 1)).take j) &&
        validatePCharToken ((line.drop (i + 1)).drop (j + 1))

/-- The state is the last article number and how many there were. -/
def validateListgroupResponseContent (statusLine content : Bytes) : Bool :=
  let arguments := do
    let line ← stripSuffix CRLF statusLine
    let arguments ← getFrom line 4
    parseGroupResponseArguments arguments
  arguments.any fun arguments =>
    let outcome := validateCrlfLines content ((none : Option Nat), 0) fun (previous, actual) line =>
      match parseResponseArticleNumber line with
      | none => none
      | some articleNumber =>
        if articleNumber = 0 ∨ arguments.low > arguments.high ∨ articleNumber < arguments.low ∨
            articleNumber > arguments.high ∨ previous.any (articleNumber ≤ ·) then none
        else some (some articleNumber, actual + 1)
    outcome.any fun (_, actual) => actual ≤ arguments.count || actual = 0

def validateHdrContent (value : Bytes) : Bool := value.all fun byte => byte ≠ NUL && byte ≠ HT

/-- One field of an overview row, the `count`-th after the article number. -/
def validateOverviewField (validateOptionalField : Bytes → Bool) (count : Nat) (field : Bytes) :
    Bool :=
  validateHdrContent field &&
    !((count = 6 || count = 7) && field ≠ [] && !isResponseDecimalToken field) &&
    !(7 < count && field ≠ [] && !validateOptionalField field)

def validateOverviewResponseLineWithMinFields (line : Bytes) (minimumFields : Nat)
    (validateOptionalField : Bytes → Bool) : Option Nat := do
  let tab ← memchr HT line
  let articleNumber ← parseResponseArticleNumber (line.take tab)
  let fields := (line.drop (tab + 1)).splitOn HT
  if (fields.zipIdx 1).all (fun (field, count) =>
      validateOverviewField validateOptionalField count field) ∧ fields.length ≥ minimumFields then
    some articleNumber
  else none

def validateXoverOptionalField (field : Bytes) : Bool := validateHdrContent field

def validateOverviewOptionalField (field : Bytes) : Bool :=
  match memchr SP field with
  | none => false
  | some space =>
    validateHdrContent (field.drop (space + 1)) &&
      (validateMetadataNameAbnfBytes (field.take space) ||
        (stripSuffix (ascii ":") (field.take space)).any validateHeaderNameAbnfBytes)

def validateXoverResponseLine (line : Bytes) : Bool :=
  (validateOverviewResponseLineWithMinFields line 7 validateXoverOptionalField).isSome

def validateOverviewResponseContent (content : Bytes) : Bool :=
  (validateCrlfLines content (none : Option Nat) fun previous line =>
    match validateOverviewResponseLineWithMinFields line 7 validateOverviewOptionalField with
    | none => none
    | some articleNumber =>
      if previous.any (articleNumber ≤ ·) then none else some (some articleNumber)).isSome

def validateHeaderResponseLineWithKey (line : Bytes) (validateKey : Bytes → Bool)
    (allowEmptyWithoutSpace : Bool) : Bool :=
  match memchr SP line with
  | some space => validateKey (line.take space) && validateHdrContent (line.drop (space + 1))
  | none => allowEmptyWithoutSpace && validateKey line

def validateResponseArticleNumber (value : Bytes) : Bool :=
  (parseResponseArticleNumber value).isSome

def validateHeaderResponseLine (line : Bytes) : Bool :=
  validateHeaderResponseLineWithKey line validateResponseArticleNumber true

def validateXhdrResponseLine (line : Bytes) : Bool :=
  line = ascii "(none)" ||
    validateHeaderResponseLineWithKey line
      (fun key => validateResponseArticleNumber key || isMessageIdToken key) false

def validateHelpTextLine (line : Bytes) : Bool := validateUChars line

def validateGenericMultilineResponseLine (line : Bytes) : Bool := line.all isTextByte

end NntpBench.Protocol
