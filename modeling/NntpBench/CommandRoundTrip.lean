import NntpBench.CommandWire

namespace NntpBench.Protocol

open Terminator ListSearch

theorem find_verb : ∀ entry ∈ COMMAND_DESCRIPTORS,
    COMMAND_DESCRIPTORS.find? (fun other => eqIgnoreAsciiCaseConst entry.1 other.1) =
      some entry := by
  decide

theorem classifyRequestKind_direct {verb : Bytes} {kind : RequestKind}
    (h : (verb, CommandKind.direct kind) ∈ COMMAND_DESCRIPTORS) (args : Bytes) :
    classifyRequestKind verb args = classifyDirectCommand kind args := by
  unfold classifyRequestKind
  rw [find_verb _ h]

theorem classifyRequestKind_list (args : Bytes) :
    classifyRequestKind (ascii "LIST") args = classifySubcommand args LIST_SUBCOMMANDS .list := by
  unfold classifyRequestKind
  rw [find_verb (ascii "LIST", .list) (by decide)]

theorem classifyRequestKind_authInfo (args : Bytes) :
    classifyRequestKind (ascii "AUTHINFO") args = classifyAuthinfoCommand args := by
  unfold classifyRequestKind
  rw [find_verb (ascii "AUTHINFO", .authInfo) (by decide)]

theorem isArgument_optional {α : Type} {value : α → Str} (h : ∀ a, IsArgument (asBytes (value a)))
    (arg : Option α) : ∀ token ∈ arg.toList.map fun a => asBytes (value a), IsArgument token := by
  intro token hmem
  obtain ⟨a, -, rfl⟩ := List.mem_map.mp hmem
  exact h a

theorem isArgument_gmt (gmt : Bool) :
    ∀ token ∈ (if gmt then [ascii "GMT"] else []), IsArgument token := by
  intro token hmem
  cases gmt with
  | false => cases hmem
  | true =>
    obtain rfl := List.mem_singleton.mp hmem
    exact ⟨by decide, by decide⟩

theorem Request.isArgument_command {request : Request} (h : request.Constructed)
    (hauth : ∀ kind value, request ≠ .authInfo kind value) :
    ∀ token ∈ request.command.2, IsArgument token := by
  -- Every argument but an AUTHINFO value is one token.
  have hnil : ∀ token ∈ ([] : List Bytes), IsArgument token := List.forall_mem_nil _
  have hone : ∀ {word : Bytes}, IsArgument word → ∀ token ∈ [word], IsArgument token :=
    fun hword => List.forall_mem_singleton.mpr hword
  cases request with
  | article articleRef | body articleRef | head articleRef | stat articleRef =>
    cases articleRef with
    | current => exact hnil
    | number value => exact hone (isArgument_decimalText value.toNat)
    | messageId value => exact hone value.isArgument
  | listVariant kind wildmat =>
    refine List.forall_mem_cons.mpr ⟨?_, isArgument_optional Wildmat.isArgument wildmat⟩
    cases kind <;> exact ⟨by decide, by decide⟩
  | group name => exact hone name.isArgument
  | listGroup name range =>
    cases name with
    | none => exact hnil
    | some name =>
      exact List.forall_mem_cons.mpr
        ⟨name.isArgument, isArgument_optional ListGroupRange.isArgument range⟩
  | «over» selector => exact isArgument_optional ArticleSelector.isArgument selector
  | xover selector => exact isArgument_optional ListGroupRange.isArgument selector
  | hdr header selector | xhdr header selector =>
    exact List.forall_mem_cons.mpr
      ⟨header.isArgument, isArgument_optional ArticleSelector.isArgument selector⟩
  | newGroups day time gmt =>
    exact List.forall_mem_cons.mpr
      ⟨day.isArgument, List.forall_mem_cons.mpr ⟨time.isArgument, isArgument_gmt gmt⟩⟩
  | newNews wildmat day time gmt =>
    exact List.forall_mem_cons.mpr ⟨wildmat.isArgument, List.forall_mem_cons.mpr
      ⟨day.isArgument, List.forall_mem_cons.mpr ⟨time.isArgument, isArgument_gmt gmt⟩⟩⟩
  | ihave messageId | check messageId => exact hone messageId.isArgument
  | takeThis messageId payload => exact hone messageId.isArgument
  | authInfo kind value => exact absurd rfl (hauth kind value)
  | capabilities keyword =>
    cases keyword with
    | none => exact hnil
    | some keyword => exact hone (isArgument_of_validateKeyword h)
  | modeReader | modeStream => exact hone ⟨by decide, by decide⟩
  | last | next | post | startTls | list | help | date | quit => exact hnil

theorem articleNumberTokenValue_toDigits {number : Nat} (hpos : 0 < number)
    (hmax : number ≤ MAX_ARTICLE_NUMBER) :
    articleNumberTokenValue (Nat.toDigits 10 number) = some number := by
  have hbytes : asBytes (Nat.toDigits 10 number) = decimalText number :=
    Utf8.encode_of_decode (fromUtf8_decimalText number)
  have hdigits : (decimalText number).all isAsciiDigit = true :=
    List.all_eq_true.mpr fun byte hmem => isAsciiDigit_of_mem_decimalText hmem
  have hlength : (decimalText number).length ≤ 16 := by
    apply length_decimalText_le (by decide)
    unfold MAX_ARTICLE_NUMBER at hmax
    omega
  unfold articleNumberTokenValue
  simp only [hbytes, hdigits, decimalValue_decimalText]
  rw [if_neg, if_neg]
  · omega
  · have hne := (isArgument_decimalText number).nonempty
    simp [hne]
    omega

theorem validateArticleFetchSelector_args {articleRef : ArticleRef} (h : articleRef.Valid) :
    (joinArgs articleRef.args = [] || validateArticleFetchSelector (joinArgs articleRef.args)) =
      true := by
  cases articleRef with
  | current => rfl
  | number value =>
    have hbytes : asBytes (Nat.toDigits 10 value.toNat) = decimalText value.toNat :=
      Utf8.encode_of_decode (fromUtf8_decimalText value.toNat)
    have hdigits : (decimalText value.toNat).all isAsciiDigit = true :=
      List.all_eq_true.mpr fun byte hmem => isAsciiDigit_of_mem_decimalText hmem
    rw [Bool.or_eq_true]
    right
    simp [ArticleRef.args, validateArticleFetchSelector, fromUtf8_decimalText, hbytes, hdigits,
      articleNumberTokenValue_toDigits h.1 h.2]
  | messageId value =>
    have hdigits : (asBytes value.value).all isAsciiDigit = false := by
      obtain ⟨inner, hbytes, -, -⟩ := asBytes_of_validateMessageId value.valid
      rw [hbytes]
      rfl
    have hutf8 : fromUtf8 (asBytes value.value) = some value.value := Utf8.decode_encode _
    rw [Bool.or_eq_true]
    right
    simp [ArticleRef.args, validateArticleFetchSelector, hutf8, hdigits, value.valid]

theorem validateUtf8Arg_optional {α : Type} {value : α → Str} {validate : Str → Bool}
    (hvalid : ∀ a, validate (value a) = true) (arg : Option α) :
    (joinArgs (arg.toList.map fun a => asBytes (value a)) = [] ||
      validateUtf8Arg validate (joinArgs (arg.toList.map fun a => asBytes (value a)))) = true := by
  cases arg with
  | none => rfl
  | some a => simp [validateUtf8Arg_asBytes, hvalid a]

theorem validateDatetimeTokens_eq (day : NntpDate) (time : NntpTime) (gmt : Bool) :
    validateDatetimeTokens
      (asBytes day.value :: asBytes time.value :: if gmt then [ascii "GMT"] else []) = true := by
  cases gmt with
  | false => simp [validateDatetimeTokens, validateUtf8Arg_asBytes, day.valid, time.valid]
  | true =>
    simp [validateDatetimeTokens, validateUtf8Arg_asBytes, day.valid, time.valid,
      eqIgnoreAsciiCaseConst]

theorem find_subcommand : ∀ entry ∈ LIST_SUBCOMMANDS,
    LIST_SUBCOMMANDS.find? (fun other => eqIgnoreAsciiCaseConst entry.1 other.1) = some entry := by
  decide

theorem classifySubcommand_cons {args subcommand : Bytes} {rest : List Bytes} {kind : RequestKind}
    (htokens : commandTokens args = subcommand :: rest) (h : (subcommand, kind) ∈ LIST_SUBCOMMANDS)
    (default : RequestKind) :
    classifySubcommand args LIST_SUBCOMMANDS default = classifySubcommandArgs kind rest := by
  unfold classifySubcommand
  rw [htokens]
  simp only [find_subcommand _ h]

theorem Request.classify_command {request : Request} (h : request.Constructed)
    (hauth : ∀ kind value, request ≠ .authInfo kind value) :
    classifyRequestKind request.command.1 (joinArgs request.command.2) = request.kind := by
  -- The command of a request is classified as the request's kind.
  have htokens := commandTokens_joinArgs (request.isArgument_command h hauth)
  have hdirect : (request.command.1, CommandKind.direct request.kind) ∈ COMMAND_DESCRIPTORS →
      classifyDirectCommand request.kind (joinArgs request.command.2) = request.kind →
      classifyRequestKind request.command.1 (joinArgs request.command.2) = request.kind :=
    fun hmem hargs => (classifyRequestKind_direct hmem _).trans hargs
  have hkind : ∀ {kind : RequestKind} {valid : Bool}, valid = true → kindIf kind valid = kind :=
    fun hvalid => if_pos hvalid
  cases request with
  | article articleRef | body articleRef | head articleRef | stat articleRef =>
    apply hdirect
    · simp [command, Request.kind, COMMAND_DESCRIPTORS]
    · exact hkind (validateArticleFetchSelector_args h)
  | listVariant kind wildmat =>
    have hentry : (kind.asWire, (listVariant kind wildmat).kind) ∈ LIST_SUBCOMMANDS := by
      cases kind <;> simp [ListKind.asWire, Request.kind, LIST_SUBCOMMANDS]
    refine (classifyRequestKind_list _).trans
      ((classifySubcommand_cons htokens hentry _).trans ?_)
    cases wildmat with
    | none => cases kind <;> rfl
    | some wildmat =>
      have hvalid : validateUtf8Arg validateWildmat (asBytes wildmat.value) = true := by
        rw [validateUtf8Arg_asBytes]
        exact wildmat.valid
      have hmem : kind ∈ [ListKind.active, .activeTimes, .newsgroups] := h
      simp only [List.mem_cons, List.not_mem_nil, or_false] at hmem
      rcases hmem with rfl | rfl | rfl
      all_goals exact hkind hvalid
  | group name =>
    apply hdirect
    · simp [command, Request.kind, COMMAND_DESCRIPTORS]
    · apply hkind
      rw [command, joinArgs_singleton, validateUtf8Arg_asBytes]
      exact name.valid
  | listGroup name range =>
    apply hdirect
    · cases name <;> simp [command, Request.kind, COMMAND_DESCRIPTORS]
    · cases name with
      | none => rfl
      | some name =>
        have hne : joinArgs (listGroup (some name) range).command.2 ≠ [] :=
          joinArgs_ne_nil (isArgument_command h hauth) (List.cons_ne_nil _ _)
        simp only [classifyDirectCommand, Request.kind, htokens, if_neg hne]
        cases range with
        | none =>
          apply hkind
          rw [validateUtf8Arg_asBytes]
          exact name.valid
        | some range =>
          apply hkind
          simp [validateUtf8Arg_asBytes, name.valid, range.valid]
  | «over» selector =>
    apply hdirect
    · simp [command, Request.kind, COMMAND_DESCRIPTORS]
    · exact hkind (validateUtf8Arg_optional ArticleSelector.valid selector)
  | xover selector =>
    apply hdirect
    · simp [command, Request.kind, COMMAND_DESCRIPTORS]
    · exact hkind (validateUtf8Arg_optional ListGroupRange.valid selector)
  | hdr header selector | xhdr header selector =>
    apply hdirect
    · simp [command, Request.kind, COMMAND_DESCRIPTORS]
    · simp only [classifyDirectCommand, Request.kind, htokens]
      cases selector with
      | none =>
        apply hkind
        rw [validateUtf8Arg_asBytes]
        exact header.valid
      | some selector =>
        apply hkind
        simp [validateUtf8Arg_asBytes, header.valid, selector.valid]
  | newGroups day time gmt =>
    apply hdirect
    · simp [command, Request.kind, COMMAND_DESCRIPTORS]
    · apply hkind
      rw [validateDiscoveryDatetimeArgs, if_neg (by decide), htokens]
      exact validateDatetimeTokens_eq day time gmt
  | newNews wildmat day time gmt =>
    apply hdirect
    · simp [command, Request.kind, COMMAND_DESCRIPTORS]
    · apply hkind
      simp only [validateNewnewsArgs, validateDiscoveryDatetimeArgs, htokens, if_true]
      simp only [command, validateUtf8Arg_asBytes, wildmat.valid, validateDatetimeTokens_eq]
      rfl
  | ihave messageId | check messageId | takeThis messageId payload =>
    apply hdirect
    · simp [command, Request.kind, COMMAND_DESCRIPTORS]
    · apply hkind
      rw [command, joinArgs_singleton, validateUtf8Arg_asBytes]
      exact messageId.valid
  | authInfo kind value => exact absurd rfl (hauth kind value)
  | capabilities keyword =>
    apply hdirect
    · simp [command, Request.kind, COMMAND_DESCRIPTORS]
    · apply hkind
      cases keyword with
      | none => rfl
      | some keyword =>
        have hvalid : validateKeyword keyword = true := h
        rw [validateCapabilitiesArgs, htokens]
        simp [command, validateUtf8Arg_asBytes, hvalid]
  | last | next | post | startTls | help | date | quit | list | modeReader | modeStream =>
    decide

theorem skipCommandWs_ne_nil {value : Bytes} (hne : value ≠ [])
    (hlast : ∀ byte ∈ value.getLast?, isCommandWs byte = false) : skipCommandWs value ≠ [] := by
  unfold skipCommandWs
  rw [Ne, List.dropWhile_eq_nil_iff]
  intro hall
  have hblank := hall _ (List.getLast_mem hne)
  rw [hlast _ (List.getLast?_eq_some_getLast hne)] at hblank
  cases hblank

theorem AuthInfoValue.nonempty (value : AuthInfoValue) : value.value ≠ [] := by
  have hvalid := value.valid
  unfold validateAuthInfoValueBytes at hvalid
  simp only [Bool.and_eq_true, decide_eq_true_eq] at hvalid
  exact hvalid.1

theorem validateAuthInfoValueBytes_skip (value : AuthInfoValue)
    (h : skipCommandWs value.value ≠ []) :
    validateAuthInfoValueBytes (skipCommandWs value.value) = true := by
  have hvalid := value.valid
  unfold validateAuthInfoValueBytes at hvalid ⊢
  simp only [Bool.and_eq_true, decide_eq_true_eq, List.all_eq_true] at hvalid ⊢
  refine ⟨h, fun byte hmem => hvalid.2 byte ?_⟩
  exact (List.dropWhile_sublist _).subset hmem

theorem AuthInfoKind.isArgument (kind : AuthInfoKind) : IsArgument kind.asWire := by
  cases kind <;> exact ⟨by decide, by decide⟩

theorem classifyRequestKind_authInfo_value (kind : AuthInfoKind) (value : AuthInfoValue)
    (hlast : ∀ byte ∈ value.value.getLast?, isCommandWs byte = false) :
    classifyRequestKind (ascii "AUTHINFO") (kind.asWire ++ SP :: value.value) =
      (Request.authInfo kind value).kind := by
  have hskip := skipCommandWs_ne_nil value.nonempty hlast
  have hvalid := validateAuthInfoValueBytes_skip value hskip
  have hsplit : splitAuthinfoSubcommandValue (kind.asWire ++ SP :: value.value) =
      some (kind.asWire, skipCommandWs value.value) := by
    have hfind : (kind.asWire ++ SP :: value.value).findIdx? isCommandWs =
        some kind.asWire.length := by
      rw [List.findIdx?_append, List.findIdx?_eq_none_iff.mpr fun byte hmem =>
        kind.isArgument.visible.not_commandWs hmem]
      simp [List.findIdx?_cons, isCommandWs]
    have hdrop : skipCommandWs (SP :: value.value) = skipCommandWs value.value := by
      unfold skipCommandWs
      exact List.dropWhile_cons_of_pos (by decide)
    simp [splitAuthinfoSubcommandValue, hfind, hdrop, hskip, kind.isArgument.nonempty]
  rw [classifyRequestKind_authInfo, classifyAuthinfoCommand, hsplit]
  cases kind with
  | user => simp [hvalid, AuthInfoKind.asWire, eqIgnoreAsciiCaseConst, Request.kind]
  | pass =>
    have huser : eqIgnoreAsciiCaseConst (ascii "PASS") (ascii "USER") = false := by decide
    have hpass : eqIgnoreAsciiCaseConst (ascii "PASS") (ascii "PASS") = true := by decide
    simp [hvalid, AuthInfoKind.asWire, huser, hpass, Request.kind]

theorem findMessageId_of_spaced {args : Bytes} (h : Spaced args) (hne : args ≠ []) :
    findMessageId args =
      if args.head? ≠ some 60 ∨ args.getLast? ≠ some 62 ∨
          (args.extract 1 (args.length - 1)).any isAsciiWhitespace then none
      else (fromUtf8 args).bind fun value =>
        (MessageId.fromBorrowed value).bind fun _ => some (0, args.length) := by
  have hwhite : ∀ byte ∈ args, isCommandWs byte = false → isAsciiWhitespace byte = false := by
    intro byte hmem hblank
    have hcr : byte ≠ CR := fun heq => h.clean.cr (heq ▸ hmem)
    have hlf : byte ≠ LF := fun heq => h.clean.lf (heq ▸ hmem)
    have hff : byte ≠ 12 := fun heq => h.formFeed (heq ▸ hmem)
    simp only [isCommandWs, Bool.or_eq_false_iff] at hblank
    simp [isAsciiWhitespace, hblank, hcr, hlf, hff]
  have hfirst : args.findIdx? (fun byte => !isAsciiWhitespace byte) = some 0 := by
    obtain ⟨byte, rest, rfl⟩ := List.exists_cons_of_ne_nil hne
    simp [List.findIdx?_cons, hwhite byte List.mem_cons_self (h.first byte rfl)]
  have hlast : args.reverse.findIdx? (fun byte => !isAsciiWhitespace byte) = some 0 := by
    obtain ⟨rest, byte, rfl⟩ := (List.eq_nil_or_concat args).resolve_left hne
    have hbyte := hwhite byte (by simp) (h.last byte (by simp))
    simp [List.findIdx?_cons, hbyte]
  unfold findMessageId
  simp only [hfirst, hlast]
  simp [List.extract_eq_take_drop]

def readMessageId (bytes : Bytes) : Option MessageId :=
  (fromUtf8 bytes).bind MessageId.fromBorrowed

theorem readMessageId_asBytes (messageId : MessageId) :
    readMessageId (asBytes messageId.value) = some messageId := by
  have hutf8 : fromUtf8 (asBytes messageId.value) = some messageId.value := Utf8.decode_encode _
  simp [readMessageId, hutf8, MessageId.fromBorrowed, messageId.valid]

theorem bracketed_of_readMessageId {bytes : Bytes} {messageId : MessageId}
    (h : readMessageId bytes = some messageId) :
    bytes.head? = some 60 ∧ bytes.getLast? = some 62 ∧
      (bytes.extract 1 (bytes.length - 1)).any isAsciiWhitespace = false := by
  obtain ⟨value, hvalue, hid⟩ := Option.bind_eq_some_iff.mp h
  have hvalid : validateMessageId value = true := by
    unfold MessageId.fromBorrowed at hid
    split_ifs at hid with hvalid
    exact hvalid
  obtain ⟨inner, hbytes, -, hinner⟩ := asBytes_of_validateMessageId hvalid
  obtain rfl : bytes = 60 :: (inner ++ [62]) := (Utf8.encode_of_decode hvalue).symm.trans hbytes
  have hwhite : inner.any isAsciiWhitespace = false := by
    rw [List.any_eq_false]
    intro byte hmem
    have hvisible : Visible inner := fun byte hmem =>
      visible_of_isMessageIdByte byte (hinner byte hmem)
    simp [hvisible.not_whitespace hmem]
  refine ⟨rfl, by simp [List.getLast?_cons], ?_⟩
  simp [List.extract_eq_take_drop, hwhite]

theorem messageId_of_spaced (kind : RequestKind) (verb : Bytes) {args : Bytes} (h : Spaced args) :
    RequestLine.messageId ⟨kind, verb, args⟩ = readMessageId args := by
  by_cases hne : args = []
  · subst hne
    rfl
  unfold RequestLine.messageId
  rw [findMessageId_of_spaced h hne]
  cases hread : readMessageId args with
  | none =>
    unfold readMessageId at hread
    cases hvalue : fromUtf8 args with
    | none => simp
    | some value =>
      rw [hvalue, Option.bind_some] at hread
      simp [hread]
  | some messageId =>
    obtain ⟨hopen, hclose, hinner⟩ := bracketed_of_readMessageId hread
    obtain ⟨value, hvalue, hid⟩ := Option.bind_eq_some_iff.mp hread
    rw [if_neg (by simp only [hopen, hclose, hinner]; decide)]
    simp [hvalue, hid]

def Request.messageId : Request → Option MessageId
  | .article articleRef | .body articleRef | .head articleRef | .stat articleRef =>
    articleRef.messageId?
  | .ihave messageId | .check messageId | .takeThis messageId _ => some messageId
  | _ => none

/-- The value a caller passes to an AUTHINFO constructor function. -/
def RequestCall.authInfo : RequestCall → Option (AuthInfoKind × Bytes)
  | .authinfoUser value => some (.user, asBytes value)
  | .authinfoUserBytes value => some (.user, value)
  | .authinfoPass value => some (.pass, asBytes value)
  | .authinfoPassBytes value => some (.pass, value)
  | _ => none

def throughFirstCrlf (bytes : Bytes) : Bytes :=
  bytes.take ((findCrlfLineEnd bytes 0).getD bytes.length)

def argumentBytes (line : Bytes) : Bytes :=
  ((line.take (line.length - CRLF.length)).dropWhile (· ≠ SP)).tail

theorem throughFirstCrlf_of_clean {body : Bytes} (h : Clean body) (rest : Bytes) :
    throughFirstCrlf (body ++ CRLF ++ rest) = body ++ CRLF := by
  have hfind : findSub CRLF (body ++ CRLF ++ rest) = some body.length := by
    rw [List.append_assoc]
    exact findSub_append_of_notMem h.cr rest
  have hend : findCrlfLineEnd (body ++ CRLF ++ rest) 0 = some (body ++ CRLF).length := by
    rw [findCrlfLineEnd, getFrom_zero, Option.bind_some, hfind]
    simp
  unfold throughFirstCrlf
  rw [hend, Option.getD_some, List.take_left]

theorem argumentBytes_commandBytes {verb : Bytes} (hverb : IsArgument verb) (args : Bytes) :
    argumentBytes (commandBytes verb args) = args := by
  have hword : ∀ byte ∈ verb, decide (byte ≠ SP) = true := by
    intro byte hmem
    have hblank := hverb.visible.not_commandWs hmem
    simp only [isCommandWs, Bool.or_eq_false_iff, decide_eq_false_iff_not] at hblank
    simp [hblank.1]
  unfold argumentBytes commandBytes
  rw [List.length_append, Nat.add_sub_cancel, List.take_left, List.dropWhile_append_of_pos hword]
  split_ifs with hnil
  · exact hnil.symm
  · rw [List.dropWhile_cons_of_neg (by decide), List.tail_cons]

theorem RequestCall.authInfo_eq_some {call : RequestCall} {request : Request}
    (h : call.build = .ok request) (kind : AuthInfoKind) (bytes : Bytes) :
    call.authInfo = some (kind, bytes) ↔
      ∃ value, request = .authInfo kind value ∧ value.value = bytes := by
  have hauth : ∀ {given : AuthInfoKind} {text : Bytes},
      Request.authinfoBytes given text = .ok request →
      (some (given, text) = some (kind, bytes) ↔
        ∃ value, request = .authInfo kind value ∧ value.value = bytes) := by
    intro given text hbuild
    simp only [Request.authinfoBytes, AuthInfoValue.fromOwnedBytes] at hbuild
    split_ifs at hbuild with hvalid
    · cases hbuild
      simp
    · cases hbuild
  cases call with
  | authinfoUser value | authinfoUserBytes value | authinfoPass value | authinfoPassBytes value =>
    exact hauth h
  | _ =>
    simp only [RequestCall.build, Request.fromMessageId, Request.fromNumber, Request.fromSelector,
      Request.listgroupGroupRange, Request.headerQuery, Request.newgroups, Request.newnews,
      Request.takethis, Request.listWildmat, Request.capabilitiesKeyword, ExceptBind.bind_eq_ok,
      Except.ok.injEq] at h
    grind [RequestCall.authInfo]

theorem Request.verb_mem (request : Request) :
    request.command.1 ∈ COMMAND_DESCRIPTORS.map Prod.fst := by
  cases request with
  | listGroup name range => cases name <;> simp [command, COMMAND_DESCRIPTORS]
  | _ => simp [command, COMMAND_DESCRIPTORS]

theorem Request.isArgument_verb (request : Request) : IsArgument request.command.1 := by
  have hall : ∀ verb ∈ COMMAND_DESCRIPTORS.map Prod.fst, verb ≠ [] ∧ Visible verb := by
    decide
  exact ⟨(hall _ request.verb_mem).1, (hall _ request.verb_mem).2⟩

/-- The value of an AUTHINFO request that is read back as it is: no form feed in it and no blank
at its end. -/
structure Request.ValueKept (request : Request) : Prop where
  formFeed : ∀ kind value, request = .authInfo kind value → 12 ∉ value.value
  last : ∀ kind value, request = .authInfo kind value →
    ∀ byte ∈ value.value.getLast?, isCommandWs byte = false

section

variable {request : Request} (h : request.Constructed) (hvalue : request.ValueKept)
include h hvalue

theorem Request.spaced_command : Spaced (joinArgs request.command.2) := by
  by_cases hauth : ∃ kind value, request = .authInfo kind value
  · obtain ⟨kind, value, rfl⟩ := hauth
    rw [command, joinArgs_cons_cons, joinArgs_singleton]
    exact kind.isArgument.spaced_append value.clean (hvalue.formFeed kind value rfl)
      (hvalue.last kind value rfl) value.nonempty
  · simp only [not_exists] at hauth
    exact spaced_joinArgs (isArgument_command h hauth)

theorem Request.throughFirstCrlf_writeWireTo :
    throughFirstCrlf request.writeWireTo =
      commandBytes request.command.1 (joinArgs request.command.2) := by
  rw [writeWireTo_eq h, commandBytes]
  exact throughFirstCrlf_of_clean
    (spaced_line request.isArgument_verb (spaced_command h hvalue)).clean _

theorem Request.classify_written :
    classifyRequestKind request.command.1 (joinArgs request.command.2) = request.kind := by
  by_cases hauth : ∃ kind value, request = .authInfo kind value
  · obtain ⟨kind, value, rfl⟩ := hauth
    rw [command, joinArgs_cons_cons, joinArgs_singleton]
    exact classifyRequestKind_authInfo_value kind value (hvalue.last kind value rfl)
  · simp only [not_exists] at hauth
    exact classify_command h hauth

end

theorem Request.joinArgs_of_messageId {request : Request} {messageId : MessageId}
    (h : request.messageId = some messageId) :
    joinArgs request.command.2 = asBytes messageId.value := by
  cases request with
  | article articleRef | body articleRef | head articleRef | stat articleRef =>
    cases articleRef with
    | messageId value =>
      cases h
      exact joinArgs_singleton _
    | current | number value => cases h
  | ihave value | check value | takeThis value payload =>
    cases h
    exact joinArgs_singleton _
  | _ => cases h

/-- The command line of a request from a constructor function is read as the request's kind, with
its message-id and, for AUTHINFO, with the caller's value, if it keeps within the limits of a
command line. A request that carries no message-id shows one only when its arguments are one. -/
theorem written_request_is_read_back (call : RequestCall) (request : Request)
    (h : call.build = .ok request)
    (hline : (throughFirstCrlf request.writeWireTo).length ≤ MAX_INITIAL_RESPONSE_LINE_BYTES)
    (hargs : (argumentBytes (throughFirstCrlf request.writeWireTo)).length ≤
      MAX_COMMAND_ARGUMENT_BYTES)
    (hvalue : ∀ kind value, call.authInfo = some (kind, value) →
      12 ∉ value ∧ ∀ byte ∈ value.getLast?, isCommandWs byte = false) :
    (RequestLine.parse (throughFirstCrlf request.writeWireTo)).kind = request.kind ∧
      (∀ messageId, request.messageId = some messageId →
        (RequestLine.parse (throughFirstCrlf request.writeWireTo)).messageId = some messageId) ∧
      (request.messageId = none →
        (RequestLine.parse (throughFirstCrlf request.writeWireTo)).messageId =
          readMessageId (argumentBytes (throughFirstCrlf request.writeWireTo))) ∧
      ∀ kind value, call.authInfo = some (kind, value) →
        (RequestLine.parse (throughFirstCrlf request.writeWireTo)).args =
          kind.asWire ++ SP :: value := by
  have hconstructed := RequestCall.constructed h
  have hkept : request.ValueKept := by
    constructor
    · intro kind value heq
      exact (hvalue kind _ ((RequestCall.authInfo_eq_some h kind _).mpr ⟨value, heq, rfl⟩)).1
    · intro kind value heq
      exact (hvalue kind _ ((RequestCall.authInfo_eq_some h kind _).mpr ⟨value, heq, rfl⟩)).2
  have hspaced := Request.spaced_command hconstructed hkept
  rw [Request.throughFirstCrlf_writeWireTo hconstructed hkept] at hline hargs ⊢
  rw [argumentBytes_commandBytes request.isArgument_verb] at hargs ⊢
  rw [parse_commandBytes request.isArgument_verb hspaced hline hargs]
  refine ⟨Request.classify_written hconstructed hkept, ?_, ?_, ?_⟩
  · intro messageId hid
    rw [messageId_of_spaced _ _ hspaced, Request.joinArgs_of_messageId hid, readMessageId_asBytes]
  · intro _
    exact messageId_of_spaced _ _ hspaced
  · intro kind value hauth
    obtain ⟨given, rfl, rfl⟩ := (RequestCall.authInfo_eq_some h kind value).mp hauth
    exact (joinArgs_cons_cons _ _ _).trans (by rw [joinArgs_singleton])

theorem user_with_blanks_is_read_back :
    ∃ request, (RequestCall.authinfoUserBytes (ascii " a b")).build = .ok request ∧
      (RequestLine.parse (throughFirstCrlf request.writeWireTo)).kind = .authInfoUser ∧
      (RequestLine.parse (throughFirstCrlf request.writeWireTo)).args = ascii "USER  a b" := by
  have hbuild : (RequestCall.authinfoUserBytes (ascii " a b")).build =
      .ok (.authInfo .user ⟨ascii " a b", by decide⟩) := rfl
  have hvalue : ∀ kind value,
      (RequestCall.authinfoUserBytes (ascii " a b")).authInfo = some (kind, value) →
      12 ∉ value ∧ ∀ byte ∈ value.getLast?, isCommandWs byte = false := by
    intro kind value heq
    cases heq
    decide +kernel
  have hread := written_request_is_read_back _ _ hbuild (by decide) (by decide) hvalue
  exact ⟨_, hbuild, hread.1, hread.2.2.2 _ _ rfl⟩

/-- What the limits above leave out: an overlong line is of no known kind, a form feed makes the
spacing invalid, a blank at the end of a value is lost, and a group name may look like a
message-id. -/
theorem written_request_read_back_differently :
    (∃ request, (RequestCall.group (List.replicate 505 'a')).build = .ok request ∧
      (RequestLine.parse (throughFirstCrlf request.writeWireTo)).kind ≠ request.kind) ∧
    (∃ request, (RequestCall.authinfoPassBytes (ascii "a\x0cb")).build = .ok request ∧
      (RequestLine.parse (throughFirstCrlf request.writeWireTo)).kind ≠ request.kind) ∧
    (∃ request, (RequestCall.authinfoPassBytes (ascii "a ")).build = .ok request ∧
      (RequestLine.parse (throughFirstCrlf request.writeWireTo)).args ≠ ascii "PASS a ") ∧
    (∃ request, (RequestCall.group "<a@b>".toList).build = .ok request ∧
      (RequestLine.parse (throughFirstCrlf request.writeWireTo)).messageId ≠
        request.messageId) := by
  have hvalid : validateGroupName (List.replicate 505 'a') = true := by decide +kernel
  have hbuild : (RequestCall.group (List.replicate 505 'a')).build =
      .ok (.group ⟨List.replicate 505 'a', hvalid⟩) := by
    simp only [RequestCall.build, GroupName.fromOwned, hvalid, dif_pos]
    rfl
  refine ⟨⟨_, hbuild, ?_⟩, ⟨_, rfl, ?_⟩, ⟨_, rfl, ?_⟩, ⟨_, rfl, ?_⟩⟩
  · -- decoding 505 bytes in the kernel is slow, so the general equations are used here
    have hplain : ∀ kind value,
        Request.group ⟨List.replicate 505 'a', hvalid⟩ ≠ .authInfo kind value := by
      intro kind value heq
      cases heq
    have hconstructed := RequestCall.constructed hbuild
    have hspaced := spaced_joinArgs (Request.isArgument_command hconstructed hplain)
    have hlength : ∀ hvalid, (commandBytes
        (Request.group ⟨List.replicate 505 'a', hvalid⟩).command.1
        (joinArgs (Request.group ⟨List.replicate 505 'a', hvalid⟩).command.2)).length = 513 := by
      decide +kernel
    have hkept : (Request.group ⟨List.replicate 505 'a', hvalid⟩).ValueKept :=
      ⟨fun kind value heq => absurd heq (hplain kind value),
        fun kind value heq => absurd heq (hplain kind value)⟩
    rw [Request.throughFirstCrlf_writeWireTo hconstructed hkept,
      parse_commandBytes_eq (Request.isArgument_verb _) hspaced (by rw [hlength hvalid]; decide),
      Request.classify_command hconstructed hplain,
      if_pos ⟨.inl (by rw [hlength hvalid]; decide), by rintro ⟨⟩⟩]
    rintro ⟨⟩
  · decide +kernel
  · decide +kernel
  · decide +kernel

end NntpBench.Protocol
