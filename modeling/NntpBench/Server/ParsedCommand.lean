import NntpBench.CommandRoundTrip
import NntpBench.InitialLine

namespace NntpBench.Server

open Protocol Terminator

/-- A range of a command line; both numbers are 16 bits wide. -/
structure ParsedMessageId where
  start : Nat
  len : Nat
  deriving DecidableEq, Repr

structure ParsedCommand where
  kind : RequestKind
  articleId : Option Nat
  lineSlot : Nat
  messageId : Option ParsedMessageId
  syntaxError : Bool
  authinfoSaslBase64Error : Bool
  hasTransferBody : Bool
  lineTooLong : Bool
  deriving DecidableEq, Repr

def toU16 (value : Nat) : Option Nat := if value < 2 ^ 16 then some value else none

def isUnicodeWhitespace (c : Char) : Bool :=
  (0x09 ≤ c.toNat && c.toNat ≤ 0x0d) || c.toNat = 0x20 || c.toNat = 0x85 || c.toNat = 0xa0 ||
    c.toNat = 0x1680 || (0x2000 ≤ c.toNat && c.toNat ≤ 0x200a) || c.toNat = 0x2028 ||
    c.toNat = 0x2029 || c.toNat = 0x202f || c.toNat = 0x205f || c.toNat = 0x3000

def trim (value : Str) : Str := (value.dropWhile isUnicodeWhitespace).rdropWhile isUnicodeWhitespace

def parseU64 (digits : Bytes) : Option Nat :=
  if decimalValue digits < 2 ^ 64 then some (decimalValue digits) else none

def parseArticleIdArg (args : Bytes) : Option Nat :=
  (fromUtf8 args).bind fun text =>
    let arg := asBytes (trim text)
    if arg = [] ∨ arg.any (fun byte => !isAsciiDigit byte) then none else parseU64 arg

def messageIdIsValidBytes (value : Bytes) : Bool :=
  (3 ≤ value.length && value.length ≤ 250) && value.head? = some 60 && value.getLast? = some 62 &&
    (value.extract 1 (value.length - 1)).all isMessageIdByte

/-- The line without its CRLF, or the line as it is when it is not one complete line. -/
def lineContent (line : Bytes) : Bytes := (stripCompleteCrlfLine line).getD line

def lineVerb (line : Bytes) : Bytes :=
  (lineContent line).take
    (((lineContent line).findIdx? isAsciiWhitespace).getD (lineContent line).length)

def KNOWN_COMMANDS : List Bytes :=
  ["ARTICLE", "AUTHINFO", "BODY", "CAPABILITIES", "CHECK", "DATE", "GROUP", "HDR", "HEAD", "HELP",
    "IHAVE", "LAST", "LIST", "LISTGROUP", "MODE", "NEWGROUPS", "NEWNEWS", "NEXT", "OVER", "POST",
    "QUIT", "STARTTLS", "STAT", "TAKETHIS", "XHDR", "XOVER"].map ascii

def isKnownCommandLine (line : Bytes) : Bool :=
  KNOWN_COMMANDS.any fun known => eqIgnoreAsciiCase (lineVerb line) known

def isKnownTransferCommand (line verb : Bytes) : Bool := eqIgnoreAsciiCase (lineVerb line) verb

def commandLineHasValidGenericSyntax (line : Bytes) : Bool :=
  match stripCompleteCrlfLine line with
  | none => false
  | some line =>
    let line := stripCommandEolWs line
    if commandSpacingIsInvalid line then false
    else
      let (verb, args) := splitVerb line
      isKeywordToken verb && (commandTokens args).all validatePCharToken

def authinfoSaslInitialResponseBase64Error (verb args : Bytes) : Bool :=
  if !eqIgnoreAsciiCase verb (ascii "AUTHINFO") then false
  else
    match commandTokens args with
    | [subcommand, mechanism, initialResponse] =>
      eqIgnoreAsciiCase subcommand (ascii "SASL") && validateSaslMechanism mechanism &&
        !validateSaslBase64 initialResponse
    | _ => false

def lineIsAuthinfoSasl (line : Bytes) : Bool :=
  match commandTokens (stripCommandEolWs (lineContent line)) with
  | command :: subcommand :: _ =>
    eqIgnoreAsciiCase command (ascii "AUTHINFO") && eqIgnoreAsciiCase subcommand (ascii "SASL")
  | _ => false

def commandArgumentLen (line : Bytes) : Option Nat :=
  let line := stripCommandEolWs (lineContent line)
  (line.findIdx? isCommandWs).map fun split => (skipCommandWs (line.drop split)).length

/-- What both line readers hand over in place of a line that does not fit. -/
def TOO_LONG_LINE : Bytes := ascii "DATE too-long\n"

def commandLineIsTooLong (line : Bytes) : Bool :=
  line = TOO_LONG_LINE ||
    ((line.length > MAX_INITIAL_RESPONSE_LINE_BYTES ||
      (commandArgumentLen line).any fun len => len > MAX_COMMAND_ARGUMENT_BYTES) &&
      !lineIsAuthinfoSasl line)

/-- The range of the message-id inside the line; the arguments are the end of the line's text. -/
def parsedMessageIdRange (line : Bytes) (request : RequestLine) : Option ParsedMessageId := do
  let _ ← request.messageId
  let (first, fin) ← findMessageId request.args
  let offset := (stripCommandEolWs (lineContent line)).length - request.args.length
  if offset + fin > line.length then none
  else
    let start ← toU16 (offset + first)
    let len ← toU16 (fin - first)
    some ⟨start, len⟩

def parseFastArticleMessageIdCommand (line : Bytes) (lineSlot : Nat) : Option ParsedCommand := do
  let line ← stripSuffix CRLF line
  let messageId ← stripStart (ascii "ARTICLE ") line
  if !messageIdIsValidBytes messageId then none
  else
    let lineSlot ← toU16 lineSlot
    let start ← toU16 (ascii "ARTICLE ").length
    let len ← toU16 messageId.length
    some
      { kind := .article, articleId := none, lineSlot, messageId := some ⟨start, len⟩
        syntaxError := false, authinfoSaslBase64Error := false, hasTransferBody := false
        lineTooLong := false }

def parseCommandLine (line : Bytes) (lineSlot : Nat) : ParsedCommand :=
  match parseFastArticleMessageIdCommand line lineSlot with
  | some command => command
  | none =>
    let request := RequestLine.parse line
    { kind := request.kind
      articleId := parseArticleIdArg request.args
      lineSlot := (toU16 lineSlot).getD (2 ^ 16 - 1)
      messageId := parsedMessageIdRange line request
      syntaxError := request.kind = .unknown &&
        (isKnownCommandLine line || !commandLineHasValidGenericSyntax line)
      authinfoSaslBase64Error := authinfoSaslInitialResponseBase64Error request.verb request.args
      hasTransferBody := false
      lineTooLong := commandLineIsTooLong line }

/-- `command_message_id_bytes`: the message-id as bytes of the command's line. -/
def ParsedCommand.messageIdBytes (self : ParsedCommand) (line : Bytes) : Option Bytes :=
  self.messageId.map fun range => line.extract range.start (range.start + range.len)

theorem lt_of_isMessageIdByte {byte : UInt8} (h : isMessageIdByte byte = true) : byte < 128 := by
  simp only [isMessageIdByte, Bool.or_eq_true, Bool.and_eq_true, decide_eq_true_eq] at h
  grind

theorem exists_messageId_of_validBytes {value : Bytes} (h : messageIdIsValidBytes value = true) :
    ∃ messageId : MessageId, asBytes messageId.value = value := by
  -- The bytes the shortcut accepts are those of a message-id.
  simp only [messageIdIsValidBytes, Bool.and_eq_true, decide_eq_true_eq] at h
  obtain ⟨⟨⟨⟨hmin, hmax⟩, hopen⟩, hclose⟩, hinner⟩ := h
  obtain ⟨tail, rfl⟩ := List.head?_eq_some_iff.mp hopen
  have htail : tail ≠ [] := by
    intro hnil
    rw [hnil] at hmin
    exact absurd hmin (by decide)
  obtain ⟨inner, last, rfl⟩ := (List.eq_nil_or_concat tail).resolve_left htail
  have hlast := hclose
  rw [List.concat_eq_append, ← List.cons_append, List.getLast?_concat] at hclose
  obtain rfl := Option.some.inj hclose
  have hbytes : ∀ byte ∈ inner, isMessageIdByte byte = true := by
    simpa [List.extract_eq_take_drop] using hinner
  have hascii : ∀ byte ∈ (60 :: inner.concat 62 : Bytes), byte < 128 := by
    intro byte hmem
    simp only [List.concat_eq_append, List.mem_cons, List.mem_append, List.not_mem_nil,
      or_false] at hmem
    rcases hmem with rfl | hmem | rfl
    · decide
    · exact lt_of_isMessageIdByte (hbytes byte hmem)
    · decide
  have hencode := Utf8.encode_map_ofNat hascii
  refine ⟨⟨(60 :: inner.concat 62 : Bytes).map fun byte => Char.ofNat byte.toNat, ?_⟩, hencode⟩
  unfold validateMessageId
  dsimp only
  rw [asBytes, hencode, hinner, List.head?_map, List.getLast?_map, hopen, hlast]
  simp only [hmin, hmax]
  decide

def fastCommand (messageId : MessageId) (lineSlot : Nat) : ParsedCommand where
  kind := .article
  articleId := none
  lineSlot
  messageId := some ⟨8, (asBytes messageId.value).length⟩
  syntaxError := false
  authinfoSaslBase64Error := false
  hasTransferBody := false
  lineTooLong := false

theorem parseFastArticleMessageIdCommand_spec {line : Bytes} {lineSlot : Nat}
    {command : ParsedCommand} (h : parseFastArticleMessageIdCommand line lineSlot = some command) :
    ∃ messageId : MessageId, line = commandBytes (ascii "ARTICLE") (asBytes messageId.value) ∧
      command = fastCommand messageId lineSlot := by
  unfold parseFastArticleMessageIdCommand at h
  obtain ⟨content, hcontent, h⟩ := Option.bind_eq_some_iff.mp h
  obtain ⟨value, hvalue, h⟩ := Option.bind_eq_some_iff.mp h
  split_ifs at h with hvalid
  obtain ⟨slot, hslot, h⟩ := Option.bind_eq_some_iff.mp h
  obtain ⟨start, hstart, h⟩ := Option.bind_eq_some_iff.mp h
  obtain ⟨len, hlen, h⟩ := Option.bind_eq_some_iff.mp h
  obtain ⟨messageId, rfl⟩ := exists_messageId_of_validBytes (by simpa using hvalid)
  obtain rfl := stripSuffix_crlf_eq_some.mp hcontent
  have hstarting : content = ascii "ARTICLE " ++ asBytes messageId.value := by
    unfold stripStart at hvalue
    split_ifs at hvalue with hstarts
    obtain ⟨rest, rfl⟩ := hstarts
    rw [List.drop_left] at hvalue
    rw [Option.some.inj hvalue]
  have hne : asBytes messageId.value ≠ [] := messageId.isArgument.nonempty
  refine ⟨messageId, ?_, ?_⟩
  · rw [hstarting, commandBytes, if_neg hne]
    rfl
  · rw [toU16, if_pos (by decide)] at hstart
    unfold toU16 at hslot hlen
    split_ifs at hslot hlen
    obtain rfl := Option.some.inj hslot
    obtain rfl := Option.some.inj hstart
    obtain rfl := Option.some.inj hlen
    cases h
    rfl

theorem length_messageId_le (messageId : MessageId) : (asBytes messageId.value).length ≤ 250 := by
  have hvalid := messageId.valid
  simp only [validateMessageId, Bool.and_eq_true, decide_eq_true_eq] at hvalid
  exact hvalid.1.1.1.2

theorem length_articleMessageId (messageId : MessageId) :
    (commandBytes (ascii "ARTICLE") (asBytes messageId.value)).length =
      (asBytes messageId.value).length + 10 := by
  have hseven : (ascii "ARTICLE").length = 7 := rfl
  rw [commandBytes, if_neg messageId.isArgument.nonempty]
  simp only [List.length_append, List.length_cons, length_crlf, hseven]
  omega

theorem parse_articleMessageId (messageId : MessageId) :
    RequestLine.parse (commandBytes (ascii "ARTICLE") (asBytes messageId.value)) =
      ⟨.article, ascii "ARTICLE", asBytes messageId.value⟩ := by
  have hverb : IsArgument (ascii "ARTICLE") := ⟨by decide, by decide⟩
  have hargs := messageId.isArgument
  have hlength := length_messageId_le messageId
  have hline := length_articleMessageId messageId
  have hselector : (asBytes messageId.value = [] ||
      validateArticleFetchSelector (asBytes messageId.value)) = true := by
    have hvalid : ArticleRef.Valid (.messageId messageId) := trivial
    simpa [ArticleRef.args, joinArgs] using validateArticleFetchSelector_args hvalid
  have hkind : classifyRequestKind (ascii "ARTICLE") (asBytes messageId.value) = .article := by
    have hdirect : classifyRequestKind (ascii "ARTICLE") (asBytes messageId.value) =
        classifyDirectCommand .article (asBytes messageId.value) :=
      classifyRequestKind_direct (by decide +kernel) _
    rw [hdirect, classifyDirectCommand, hselector, kindIf, if_pos rfl]
  rw [parse_commandBytes hverb hargs.visible.spaced
    (by rw [hline]; unfold MAX_INITIAL_RESPONSE_LINE_BYTES; omega)
    (by unfold MAX_COMMAND_ARGUMENT_BYTES; omega), hkind]

theorem kind_parseCommandLine (line : Bytes) (lineSlot : Nat) :
    (parseCommandLine line lineSlot).kind = (RequestLine.parse line).kind := by
  unfold parseCommandLine
  cases hfast : parseFastArticleMessageIdCommand line lineSlot with
  | none => rfl
  | some command =>
    obtain ⟨messageId, rfl, rfl⟩ := parseFastArticleMessageIdCommand_spec hfast
    rw [parse_articleMessageId]
    rfl

theorem exists_before_args {line : Bytes} (h : (RequestLine.parse line).args ≠ []) :
    ∃ before, stripCommandEolWs (lineContent line) = before ++ (RequestLine.parse line).args ∧
      stripCommandEolWs (lineContent line) <+: line ∧
      line.length ≤ MAX_AUTHINFO_SASL_COMMAND_LINE_BYTES := by
  -- The arguments are the end of the line's text, which is the start of the line.
  unfold RequestLine.parse at h ⊢
  by_cases hlong : line.length > MAX_AUTHINFO_SASL_COMMAND_LINE_BYTES
  · simp [hlong] at h
  rw [if_neg hlong] at h ⊢
  cases hstrip : stripCompleteCrlfLine line with
  | none => simp [hstrip] at h
  | some content =>
    have hcontent : lineContent line = content := by rw [lineContent, hstrip, Option.getD_some]
    have hstarting : content <+: line := by
      unfold stripCompleteCrlfLine at hstrip
      split at hstrip
      · split_ifs at hstrip
        rw [← Option.some.inj hstrip]
        exact List.take_prefix _ _
      · cases hstrip
      · cases hstrip
    rw [hcontent]
    have htext : stripCommandEolWs content <+: line := (List.rdropWhile_prefix _ _).trans hstarting
    simp only [hstrip] at h ⊢
    generalize stripCommandEolWs content = text at h htext ⊢
    have hsuffix : (splitVerb text).2 <:+ text := by
      unfold splitVerb
      dsimp only
      split_ifs
      · exact (List.dropWhile_suffix _).trans (List.drop_suffix _ _)
      · exact List.nil_suffix
    obtain ⟨before, hbefore⟩ := hsuffix
    refine ⟨before, ?_, htext, by omega⟩
    split_ifs at h ⊢ with hspacing hlimit
    · exact absurd rfl h
    · exact hbefore.symm
    · exact hbefore.symm

theorem findMessageId_range {args : Bytes} {first fin : Nat}
    (h : findMessageId args = some (first, fin)) : first ≤ fin ∧ fin ≤ args.length := by
  unfold findMessageId at h
  obtain ⟨start, hstart, h⟩ := Option.bind_eq_some_iff.mp h
  obtain ⟨fromEnd, hfromEnd, h⟩ := Option.bind_eq_some_iff.mp h
  dsimp only at h
  split_ifs at h with hbrackets
  obtain ⟨value, -, h⟩ := Option.bind_eq_some_iff.mp h
  obtain ⟨-, -, h⟩ := Option.bind_eq_some_iff.mp h
  obtain ⟨rfl, rfl⟩ := Prod.mk.inj (Option.some.inj h)
  -- The slice starts with a bracket, so it is not empty.
  have hopen : (args.extract start (args.length - fromEnd)).head? = some 60 := by
    by_contra hne
    exact hbrackets (Or.inl hne)
  refine ⟨?_, Nat.sub_le _ _⟩
  by_contra hlt
  have hnil : args.extract start (args.length - fromEnd) = [] := by
    rw [List.extract_eq_take_drop, List.take_eq_nil_iff]
    left
    omega
  rw [hnil] at hopen
  exact absurd hopen (by simp)

theorem extract_append_left (before after : Bytes) {args : Bytes} {first fin : Nat}
    (hle : first ≤ fin) (hfin : fin ≤ args.length) :
    (before ++ args ++ after).extract (before.length + first) (before.length + first +
      (fin - first)) = args.extract first fin := by
  have hstop : before.length + first + (fin - first) - (before.length + first) = fin - first := by
    omega
  rw [List.extract_eq_take_drop, List.extract_eq_take_drop, hstop, List.append_assoc,
    ← List.drop_drop, List.drop_left, List.drop_append_of_le_length (by omega),
    List.take_append_of_le_length (by rw [List.length_drop]; omega)]

theorem toU16_of_lt {value : Nat} (h : value < 2 ^ 16) : toU16 value = some value := if_pos h

theorem extract_parsedMessageIdRange (line : Bytes) :
    (parsedMessageIdRange line (RequestLine.parse line)).map
        (fun range => line.extract range.start (range.start + range.len)) =
      (RequestLine.parse line).messageId.map fun messageId => asBytes messageId.value := by
  -- The range the general parser keeps is where the message-id stands.
  unfold parsedMessageIdRange
  cases hid : (RequestLine.parse line).messageId with
  | none => rfl
  | some messageId =>
    obtain ⟨⟨first, fin⟩, hfind, hvalue⟩ := Option.bind_eq_some_iff.mp hid
    obtain ⟨value, hvalue, hborrowed⟩ := Option.bind_eq_some_iff.mp hvalue
    obtain ⟨hle, hfin⟩ := findMessageId_range hfind
    have hargs : (RequestLine.parse line).args ≠ [] := by
      intro hnil
      rw [hnil] at hfind
      exact absurd hfind (by simp [findMessageId])
    obtain ⟨before, htext, ⟨after, hafter⟩, hlength⟩ := exists_before_args hargs
    rw [htext] at hafter
    have hoffset : (stripCommandEolWs (lineContent line)).length -
        (RequestLine.parse line).args.length = before.length := by
      rw [htext, List.length_append, Nat.add_sub_cancel]
    have htotal : before.length + (RequestLine.parse line).args.length ≤ line.length := by
      have hlengths := congrArg List.length hafter
      simp only [List.length_append] at hlengths
      omega
    unfold MAX_AUTHINFO_SASL_COMMAND_LINE_BYTES at hlength
    have hname : messageId.value = value := by
      unfold MessageId.fromBorrowed at hborrowed
      split_ifs at hborrowed
      rw [← Option.some.inj hborrowed]
    simp only [hfind, hoffset, Option.bind_eq_bind, Option.bind_some,
      toU16_of_lt (show before.length + first < 2 ^ 16 by omega),
      toU16_of_lt (show fin - first < 2 ^ 16 by omega),
      if_neg (show ¬ before.length + fin > line.length by omega), Option.map_some]
    have hextract := extract_append_left before after hle hfin
    rw [hafter] at hextract
    rw [hname, hextract, asBytes, Utf8.encode_of_decode hvalue]

theorem messageIdBytes_parseCommandLine (line : Bytes) (lineSlot : Nat) :
    (parseCommandLine line lineSlot).messageIdBytes line =
      (RequestLine.parse line).messageId.map fun messageId => asBytes messageId.value := by
  unfold parseCommandLine
  cases hfast : parseFastArticleMessageIdCommand line lineSlot with
  | none => exact extract_parsedMessageIdRange line
  | some command =>
    obtain ⟨messageId, rfl, rfl⟩ := parseFastArticleMessageIdCommand_spec hfast
    have hargs := messageId.isArgument
    have hextract : (ascii "ARTICLE " ++ asBytes messageId.value ++ CRLF).extract (8 + 0)
        (8 + 0 + ((asBytes messageId.value).length - 0)) =
        (asBytes messageId.value).extract 0 (asBytes messageId.value).length :=
      extract_append_left _ _ (Nat.zero_le _) (Nat.le_refl _)
    have hline : commandBytes (ascii "ARTICLE") (asBytes messageId.value) =
        ascii "ARTICLE " ++ asBytes messageId.value ++ CRLF := by
      rw [commandBytes, if_neg hargs.nonempty]
      rfl
    dsimp only
    rw [parse_articleMessageId, messageId_of_spaced _ _ hargs.visible.spaced,
      readMessageId_asBytes, ParsedCommand.messageIdBytes, fastCommand, Option.map_some,
        Option.map_some,
      hline]
    simpa using hextract

end NntpBench.Server
