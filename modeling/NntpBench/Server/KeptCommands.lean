import NntpBench.Server.Commands

namespace NntpBench.Server

open Protocol Terminator

variable {args : Bytes} {kind : RequestKind} {value : Str} {slot : Nat}

def lineArgs (line : Bytes) : Bytes :=
  let content := lineContent line
  ((content.findIdx? isCommandWs).map fun split => skipCommandWs (content.drop split)).getD []

/-- A command whose line is kept in its batch. -/
structure KeptCommand where
  line : Bytes
  slot : Nat
  commandLines : CommandLineBatch
  kept : commandLines.line (parseCommandLine line slot).lineSlot = line

namespace KeptCommand

def ofLine (line : Bytes)
    (h : (CommandLineBatch.ofLines [line]).line (parseCommandLine line 0).lineSlot = line) :
    KeptCommand :=
  ⟨line, 0, .ofLines [line], h⟩

variable (self : KeptCommand)

def command : ParsedCommand := parseCommandLine self.line self.slot

def request : RequestLine := RequestLine.parse self.line

theorem kind_command : self.command.kind = self.request.kind := kind_parseCommandLine _ _

theorem commandArgs_eq : commandArgs self.command (some self.commandLines) =
    lineArgs self.line := by
  have hkept : self.commandLines.line self.command.lineSlot = self.line := self.kept
  unfold commandArgs lineArgs
  simp only [Option.bind_eq_bind, Option.bind_some, hkept]
  cases (lineContent self.line).findIdx? isCommandWs <;> rfl

theorem commandMessageIdBytes_eq :
    commandMessageIdBytes self.command self.commandLines =
      self.request.messageId.map fun messageId => asBytes messageId.value := by
  have hkept : self.commandLines.line self.command.lineSlot = self.line := self.kept
  rw [request, ← messageIdBytes_parseCommandLine self.line self.slot]
  unfold commandMessageIdBytes CommandLineBatch.lineSlice ParsedCommand.messageIdBytes
  rw [hkept]
  rfl

theorem commandMessageId_eq :
    commandMessageId self.command self.commandLines =
      self.request.messageId.map MessageId.value := by
  unfold commandMessageId
  rw [commandMessageIdBytes_eq]
  cases self.request.messageId with
  | none => rfl
  | some messageId => exact Utf8.decode_encode messageId.value

end KeptCommand

theorem exists_blanks (content : Bytes) :
    ∃ blanks, content = stripCommandEolWs content ++ blanks ∧
      ∀ byte ∈ blanks, isCommandWs byte = true := by
  refine ⟨(content.reverse.takeWhile isCommandWs).reverse, ?_, ?_⟩
  · have hsplit := content.reverse.takeWhile_append_dropWhile (p := isCommandWs)
    have hreverse := congrArg List.reverse hsplit
    rw [List.reverse_append, List.reverse_reverse] at hreverse
    exact hreverse.symm
  · intro byte hbyte
    rw [List.mem_reverse] at hbyte
    exact List.mem_takeWhile_imp hbyte

theorem skipCommandWs_of_blanks {blanks : Bytes} (h : ∀ byte ∈ blanks, isCommandWs byte = true) :
    skipCommandWs blanks = [] := by
  rw [skipCommandWs, List.dropWhile_eq_nil_iff]
  exact h

theorem not_commandWs_getLast? (content : Bytes) :
    ∀ byte ∈ (stripCommandEolWs content).getLast?, isCommandWs byte = false := by
  intro byte hbyte
  have hne : stripCommandEolWs content ≠ [] := by
    intro hnil
    rw [hnil] at hbyte
    cases hbyte
  have hlast := List.rdropWhile_last_not isCommandWs content hne
  rw [List.getLast?_eq_some_getLast hne] at hbyte
  rw [← Option.some.inj hbyte]
  exact Bool.not_eq_true _ ▸ hlast

theorem parse_of_known {line : Bytes} (h : (RequestLine.parse line).kind ≠ .unknown) :
    ∃ content, lineContent line = content ∧
      (RequestLine.parse line).args = (splitVerb (stripCommandEolWs content)).2 ∧
      (RequestLine.parse line).kind =
        classifyRequestKind (RequestLine.parse line).verb (RequestLine.parse line).args := by
  unfold RequestLine.parse at h ⊢
  by_cases hlong : line.length > MAX_AUTHINFO_SASL_COMMAND_LINE_BYTES
  · simp [hlong] at h
  rw [if_neg hlong] at h ⊢
  cases hstrip : stripCompleteCrlfLine line with
  | none => simp [hstrip] at h
  | some content =>
    refine ⟨content, by rw [lineContent, hstrip, Option.getD_some], ?_⟩
    simp only [hstrip] at h ⊢
    split_ifs at h ⊢
    · exact absurd rfl h
    · exact absurd rfl h
    · exact ⟨rfl, rfl⟩

/-- The arguments the handler reads are those of the request, with the blanks at the end of the
line. -/
theorem lineArgs_eq {line : Bytes} (h : (RequestLine.parse line).kind ≠ .unknown) :
    ∃ blanks, (∀ byte ∈ blanks, isCommandWs byte = true) ∧
      lineArgs line =
        if (RequestLine.parse line).args = [] then [] else (RequestLine.parse line).args ++
          blanks := by
  obtain ⟨content, hcontent, hargs, -⟩ := parse_of_known h
  obtain ⟨blanks, hblanks, hws⟩ := exists_blanks content
  refine ⟨blanks, hws, ?_⟩
  have hlast := not_commandWs_getLast? content
  unfold lineArgs
  rw [hargs, hcontent]
  generalize stripCommandEolWs content = text at hblanks hlast ⊢
  subst hblanks
  unfold splitVerb
  cases hsplit : text.findIdx? isCommandWs with
  | none =>
    -- without a blank in the text, the first one of the line is one of those at its end
    simp only [Option.getD_none, Nat.lt_irrefl, if_false, if_true]
    rw [List.findIdx?_append, hsplit]
    cases hblank : blanks.findIdx? isCommandWs with
    | none => rfl
    | some i =>
      simp only [Option.none_or, Option.map_some, Option.getD_some]
      rw [Nat.add_comm, List.drop_append]
      apply skipCommandWs_of_blanks
      intro byte hbyte
      simp only [Nat.add_sub_cancel_left, List.mem_append] at hbyte
      rcases hbyte with hbyte | hbyte
      · rw [List.drop_eq_nil_of_le (Nat.le_add_right _ _)] at hbyte
        cases hbyte
      · exact hws byte (List.mem_of_mem_drop hbyte)
  | some split =>
    have hlt : split < text.length := (List.findIdx?_eq_some_iff_findIdx_eq.mp hsplit).1
    have hne : skipCommandWs (text.drop split) ≠ [] := by
      apply skipCommandWs_ne_nil
      · intro hnil
        rw [List.drop_eq_nil_iff] at hnil
        omega
      · intro byte hbyte
        apply hlast byte
        rwa [List.getLast?_drop, if_neg (by omega)] at hbyte
    simp only [Option.getD_some, if_pos hlt, if_neg hne]
    rw [List.findIdx?_append, hsplit]
    simp only [Option.some_or, Option.map_some, Option.getD_some]
    rw [List.drop_append_of_le_length (by omega)]
    unfold skipCommandWs at hne ⊢
    rw [List.dropWhile_append]
    simp [hne]

theorem kindIf_eq (kind : RequestKind) (valid : Bool) :
    kindIf kind valid = kind ∨ kindIf kind valid = .unknown := by
  unfold kindIf
  split_ifs
  · exact .inl rfl
  · exact .inr rfl

theorem classifyDirectCommand_eq (kind : RequestKind) (args : Bytes) :
    classifyDirectCommand kind args = kind ∨ classifyDirectCommand kind args = .unknown := by
  unfold classifyDirectCommand
  repeat' split
  all_goals first | exact kindIf_eq _ _ | exact .inl rfl | exact .inr rfl

/-- The kinds that are not the kind of a verb alone. -/
def SUBCOMMAND_KINDS : List RequestKind :=
  [.unknown, .list, .listActive, .listActiveTimes, .listNewsgroups, .listOverviewFmt, .listHeaders,
    .listDistribPats, .authInfo, .authInfoUser, .authInfoPass, .modeReader, .modeStream]

theorem classifySubcommandArgs_eq (kind : RequestKind) (rest : List Bytes) :
    classifySubcommandArgs kind rest = kind ∨ classifySubcommandArgs kind rest = .unknown := by
  unfold classifySubcommandArgs
  repeat' split
  all_goals first | exact kindIf_eq _ _ | exact .inl rfl | exact .inr rfl

theorem classifySubcommand_mem (args : Bytes) :
    classifySubcommand args LIST_SUBCOMMANDS .list ∈ SUBCOMMAND_KINDS := by
  unfold classifySubcommand
  split
  · decide
  · split
    · split_ifs
      · decide
      · decide
    · rename_i rest _ _ _ kind hfind
      have hmem := List.mem_of_find?_eq_some hfind
      have hkind : ∀ entry ∈ LIST_SUBCOMMANDS, entry.2 ∈ SUBCOMMAND_KINDS := by decide
      rcases classifySubcommandArgs_eq kind rest with heq | heq
      · rw [heq]
        exact hkind _ hmem
      · rw [heq]
        decide

theorem classifyAuthinfoSaslCommand_mem (args : Bytes) :
    classifyAuthinfoSaslCommand args ∈ SUBCOMMAND_KINDS := by
  unfold classifyAuthinfoSaslCommand
  split
  all_goals
    try
      rcases kindIf_eq .authInfo _ with heq | heq
      all_goals
        rw [heq]
        decide
  decide

theorem classifyAuthinfoCommand_mem (args : Bytes) :
    classifyAuthinfoCommand args ∈ SUBCOMMAND_KINDS := by
  unfold classifyAuthinfoCommand
  split
  · exact classifyAuthinfoSaslCommand_mem args
  · split_ifs
    · decide
    · decide
    · exact classifyAuthinfoSaslCommand_mem args

theorem classifyDirectCommand_of_classify {verb : Bytes} (name : Bytes)
    (hdirect : (name, CommandKind.direct kind) ∈ COMMAND_DESCRIPTORS)
    (h : classifyRequestKind verb args = kind) : classifyDirectCommand kind args = kind := by
  -- A request of a verb's own kind has arguments that are valid for it.
  have hkinds : ∀ entry ∈ COMMAND_DESCRIPTORS, ∀ kind, entry.2 = .direct kind →
      kind ∉ SUBCOMMAND_KINDS := by
    intro entry hentry kind hkind
    have hall : ∀ entry ∈ COMMAND_DESCRIPTORS, ∀ kind ∈ SUBCOMMAND_KINDS,
        entry.2 ≠ .direct kind := by decide
    exact fun hmem => hall entry hentry kind hmem hkind
  have hout : kind ∉ SUBCOMMAND_KINDS := hkinds _ hdirect kind rfl
  unfold classifyRequestKind at h
  split at h
  · exact absurd (h ▸ by decide) hout
  · next found hfind =>
    rcases classifyDirectCommand_eq found args with heq | heq
    · rw [heq] at h
      rw [← h]
      exact heq
    · rw [heq] at h
      exact absurd (h ▸ by decide) hout
  · exact absurd (h ▸ classifySubcommand_mem args) hout
  · exact absurd (h ▸ classifyAuthinfoCommand_mem args) hout
  · exfalso
    apply hout
    rw [← h]
    split_ifs <;> decide

def isRetrieval (kind : RequestKind) : Bool :=
  kind = .article || kind = .body || kind = .head || kind = .stat

theorem classifyDirectCommand_retrieval (h : isRetrieval kind = true) (args : Bytes) :
    classifyDirectCommand kind args =
      kindIf kind (args = [] || validateArticleFetchSelector args) := by
  simp only [isRetrieval, Bool.or_eq_true, decide_eq_true_eq] at h
  rcases h with ((rfl | rfl) | rfl) | rfl <;> rfl

theorem exists_verb_of_retrieval (h : isRetrieval kind = true) :
    ∃ name, (name, CommandKind.direct kind) ∈ COMMAND_DESCRIPTORS := by
  simp only [isRetrieval, Bool.or_eq_true, decide_eq_true_eq] at h
  rcases h with ((rfl | rfl) | rfl) | rfl
  · exact ⟨ascii "ARTICLE", by decide⟩
  · exact ⟨ascii "BODY", by decide⟩
  · exact ⟨ascii "HEAD", by decide⟩
  · exact ⟨ascii "STAT", by decide⟩

theorem ne_unknown_of_retrieval (h : isRetrieval kind = true) :
    kind ≠ .unknown := by
  rintro rfl
  exact absurd h (by decide)

theorem validateArticleFetchSelector_of_retrieval {line : Bytes}
    (h : isRetrieval (RequestLine.parse line).kind = true) :
    (RequestLine.parse line).args = [] ∨
      validateArticleFetchSelector (RequestLine.parse line).args = true := by
  have hknown := ne_unknown_of_retrieval h
  obtain ⟨-, -, -, hclass⟩ := parse_of_known hknown
  obtain ⟨name, hname⟩ := exists_verb_of_retrieval h
  have hdirect := classifyDirectCommand_of_classify name hname hclass.symm
  rw [classifyDirectCommand_retrieval h] at hdirect
  unfold kindIf at hdirect
  split_ifs at hdirect with hvalid
  · simpa using hvalid
  · exact absurd hdirect.symm hknown

/-- What a retrieval selects: the current article, an article by its number or one by its
message-id. -/
inductive Selection (self : KeptCommand) : Prop where
  | current (hargs : lineArgs self.line = []) (hnumber : self.command.articleId = none)
    (hid : self.request.messageId = none)
  | number (articleId : Nat) (hargs : lineArgs self.line ≠ [])
    (hnumber : self.command.articleId = some articleId) (hid : self.request.messageId = none)
  | messageId (messageId : MessageId) (hargs : lineArgs self.line ≠ [])
    (hnumber : self.command.articleId = none) (hid : self.request.messageId = some messageId)

theorem trim_eq_self (hfirst : ∀ c ∈ value.head?, isUnicodeWhitespace c = false)
    (hlast : ∀ c ∈ value.getLast?, isUnicodeWhitespace c = false) : trim value = value := by
  have hdrop : value.dropWhile isUnicodeWhitespace = value := by
    cases value with
    | nil => rfl
    | cons c rest => rw [List.dropWhile_cons_of_neg (by simp [hfirst c rfl])]
  unfold trim
  rw [hdrop, List.rdropWhile_eq_self_iff]
  intro hne hblank
  rw [hlast _ (List.getLast?_eq_some_getLast hne)] at hblank
  cases hblank

theorem parseArticleIdArg_messageId (messageId : MessageId) :
    parseArticleIdArg (asBytes messageId.value) = none := by
  have hvalid := messageId.valid
  simp only [validateMessageId, Bool.and_eq_true, decide_eq_true_eq] at hvalid
  have htrim : trim messageId.value = messageId.value := by
    apply trim_eq_self
    · rw [hvalid.1.1.2]
      intro c hc
      rw [← Option.some.inj hc]
      decide
    · rw [hvalid.1.2]
      intro c hc
      rw [← Option.some.inj hc]
      decide
  have hutf8 : fromUtf8 (asBytes messageId.value) = some messageId.value := Utf8.decode_encode _
  obtain ⟨inner, hbytes, -, -⟩ := asBytes_of_validateMessageId messageId.valid
  unfold parseArticleIdArg
  rw [hutf8, Option.bind_some, htrim]
  dsimp only
  rw [if_pos]
  right
  rw [hbytes]
  rfl

theorem not_whitespace_of_ascii (hutf8 : fromUtf8 args = some value)
    (hrange : ∀ byte ∈ args, 0x21 ≤ byte.toNat ∧ byte.toNat < 128) :
    ∀ c ∈ value, isUnicodeWhitespace c = false := by
  have hascii : ∀ byte ∈ args, byte < 128 := by
    intro byte hbyte
    rw [UInt8.lt_iff_toNat_lt]
    exact (hrange byte hbyte).2
  have hvalue : value = args.map fun byte => Char.ofNat byte.toNat := by
    have hencode := congrArg fromUtf8 (Utf8.encode_map_ofNat hascii)
    have hdecode : fromUtf8 args = some (args.map fun byte => Char.ofNat byte.toNat) :=
      hencode.symm.trans (Utf8.decode_encode _)
    exact Option.some.inj (hutf8.symm.trans hdecode)
  intro c hc
  rw [hvalue, List.mem_map] at hc
  obtain ⟨byte, hbyte, rfl⟩ := hc
  have hle := hrange byte hbyte
  have hvalid : Nat.isValidChar byte.toNat := Or.inl (by omega)
  have hcode : (Char.ofNat byte.toNat).toNat = byte.toNat := by
    rw [Char.ofNat, dif_pos hvalid]
    rfl
  simp only [isUnicodeWhitespace, hcode]
  simp
  omega

theorem parseArticleIdArg_digits (hutf8 : fromUtf8 args = some value)
    (hdigits : args.all isAsciiDigit = true) (hnumber : (articleNumberTokenValue value).isSome) :
    parseArticleIdArg args = some (decimalValue args) := by
  have hblank : ∀ c ∈ value, isUnicodeWhitespace c = false := by
    apply not_whitespace_of_ascii hutf8
    intro byte hbyte
    have hdigit := List.all_eq_true.mp hdigits byte hbyte
    simp only [isAsciiDigit, Bool.and_eq_true, decide_eq_true_eq, UInt8.le_iff_toNat_le] at hdigit
    exact ⟨Nat.le_trans (by decide) hdigit.1, Nat.lt_of_le_of_lt hdigit.2 (by decide)⟩
  have htrim : trim value = value :=
    trim_eq_self (fun c hc => hblank c (List.mem_of_mem_head? hc))
      (fun c hc => hblank c (List.mem_of_getLast? hc))
  have hbytes : asBytes value = args := Utf8.encode_of_decode hutf8
  unfold articleNumberTokenValue at hnumber
  simp only [hbytes, hdigits] at hnumber
  split_ifs at hnumber with hshape hvalue
  · cases hnumber
  · cases hnumber
  have hne : args ≠ [] := fun hnil => hshape (Or.inl hnil)
  have hsmall : decimalValue args < 2 ^ 64 := by
    unfold MAX_ARTICLE_NUMBER at hvalue
    omega
  unfold parseArticleIdArg
  rw [hutf8, Option.bind_some, htrim]
  dsimp only
  rw [hbytes, if_neg, parseU64, if_pos hsmall]
  rintro (hnil | hany)
  · exact hne hnil
  · obtain ⟨byte, hbyte, hdigit⟩ := List.any_eq_true.mp hany
    rw [List.all_eq_true.mp hdigits byte hbyte] at hdigit
    cases hdigit

namespace KeptCommand

variable (self : KeptCommand)

theorem articleId_command : self.command.articleId = parseArticleIdArg self.request.args := by
  unfold command request parseCommandLine
  cases hfast : parseFastArticleMessageIdCommand self.line self.slot with
  | none => rfl
  | some command =>
    obtain ⟨messageId, hline, rfl⟩ := parseFastArticleMessageIdCommand_spec hfast
    rw [hline, parse_articleMessageId]
    exact (parseArticleIdArg_messageId messageId).symm

theorem lineArgs_eq_nil_iff (h : self.request.kind ≠ .unknown) :
    lineArgs self.line = [] ↔ self.request.args = [] := by
  obtain ⟨blanks, -, hargs⟩ := lineArgs_eq h
  rw [hargs]
  split_ifs with hnil
  · exact ⟨fun _ => hnil, fun _ => rfl⟩
  · exact ⟨fun happend => (List.append_eq_nil_iff.mp happend).1, fun heq => absurd heq hnil⟩

theorem selection (h : isRetrieval self.request.kind = true) : Selection self := by
  -- Every retrieval selects in one of the three ways.
  have hknown := ne_unknown_of_retrieval h
  have hnil := self.lineArgs_eq_nil_iff hknown
  rcases validateArticleFetchSelector_of_retrieval h with hargs | hvalid
  · have hargs : self.request.args = [] := hargs
    refine .current (hnil.mpr hargs) ?_ ?_
    · rw [self.articleId_command, hargs]
      decide
    · unfold RequestLine.messageId
      rw [hargs]
      rfl
  · have hvalid : validateArticleFetchSelector self.request.args = true := hvalid
    unfold validateArticleFetchSelector at hvalid
    cases hutf8 : fromUtf8 self.request.args with
    | none => simp [hutf8] at hvalid
    | some value =>
      have hbytes : asBytes value = self.request.args := Utf8.encode_of_decode hutf8
      simp only [hutf8, hbytes] at hvalid
      split_ifs at hvalid with hdigits
      · have hnumber := parseArticleIdArg_digits hutf8 hdigits hvalid
        have hvisible : Visible self.request.args := visible_of_all hdigits visible_of_isAsciiDigit
        have hargs : self.request.args ≠ [] := by
          intro heq
          rw [heq] at hnumber
          have hnone : parseArticleIdArg [] = none := by decide
          rw [hnone] at hnumber
          cases hnumber
        refine .number (decimalValue self.request.args) (fun heq => hargs (hnil.mp heq)) ?_ ?_
        · rw [self.articleId_command, hnumber]
        · have hread : self.request.messageId = readMessageId self.request.args :=
            messageId_of_spaced _ _ hvisible.spaced
          rw [hread]
          cases hmessage : readMessageId self.request.args with
          | none => rfl
          | some messageId =>
            -- a message-id starts with a bracket, which is not a digit
            have hhead := (bracketed_of_readMessageId hmessage).1
            have hbracket := List.all_eq_true.mp hdigits 60 (List.mem_of_mem_head? hhead)
            exact absurd hbracket (by decide)
      · obtain ⟨messageId, rfl⟩ : ∃ messageId : MessageId, messageId.value = value :=
          ⟨⟨value, hvalid⟩, rfl⟩
        have hspaced : Spaced self.request.args := hbytes ▸ messageId.isArgument.visible.spaced
        refine .messageId messageId (fun heq => ?_) ?_ ?_
        · exact messageId.isArgument.nonempty (hbytes.trans (hnil.mp heq))
        · rw [self.articleId_command, ← hbytes]
          exact parseArticleIdArg_messageId messageId
        · have hread : self.request.messageId = readMessageId self.request.args :=
            messageId_of_spaced _ _ hspaced
          rw [hread, ← hbytes]
          exact readMessageId_asBytes messageId

end KeptCommand

theorem parseCommandLine_slot (line : Bytes) {slot' : Nat} (h : slot < 2 ^ 16)
    (h' : slot' < 2 ^ 16) :
    parseCommandLine line slot' = { parseCommandLine line slot with lineSlot := slot' } := by
  unfold parseCommandLine parseFastArticleMessageIdCommand
  rw [toU16_of_lt h, toU16_of_lt h']
  cases stripSuffix CRLF line with
  | none => rfl
  | some content =>
    simp only [Option.bind_eq_bind, Option.bind_some]
    cases stripStart (ascii "ARTICLE ") content with
    | none => rfl
    | some value =>
      simp only [Option.bind_some]
      split_ifs
      · rfl
      · cases toU16 (ascii "ARTICLE ").length with
        | none => rfl
        | some start => cases toU16 value.length <;> rfl

theorem lineSlot_parseCommandLine (line : Bytes) (h : slot < 2 ^ 16) :
    (parseCommandLine line slot).lineSlot = slot := by
  rw [parseCommandLine_slot line h h]

/-- The batch holds the lines behind each other, each under its own span. -/
structure HoldsLines (batch : CommandLineBatch) (held : List Bytes) : Prop where
  bytes_eq : batch.bytes = held.flatten
  length_eq : batch.lines.length = held.length
  span_eq : ∀ slot line, held[slot]? = some line →
    batch.lines[slot]? = some (CommandLineSpan.mk (held.take slot).flatten.length line.length)

theorem HoldsLines.copyLine {batch : CommandLineBatch} {held : List Bytes} {line : Bytes}
    (h : HoldsLines batch held) (hline : line.length < 2 ^ 16)
    (htotal : held.flatten.length < 2 ^ 32) :
    HoldsLines (batch.copyLine line) (held ++ [line]) where
  bytes_eq := by simp [CommandLineBatch.copyLine, h.bytes_eq]
  length_eq := by simp [CommandLineBatch.copyLine, h.length_eq]
  span_eq := by
    intro slot wanted hwanted
    by_cases hslot : slot < held.length
    · rw [List.getElem?_append_left hslot] at hwanted
      rw [CommandLineBatch.copyLine, List.getElem?_append_left (by rw [h.length_eq]; exact hslot),
        h.span_eq slot wanted hwanted, List.take_append_of_le_length hslot.le]
    · have hlast : slot = held.length := by
        have hlt := (List.getElem?_eq_some_iff.mp hwanted).1
        rw [List.length_append, List.length_singleton] at hlt
        omega
      subst hlast
      rw [List.getElem?_concat_length] at hwanted
      rw [← Option.some.inj hwanted, CommandLineBatch.copyLine, ← h.length_eq,
        List.getElem?_concat_length, toU16_of_lt hline, h.bytes_eq, h.length_eq, List.take_left,
        Nat.min_eq_left (by omega)]
      rfl

theorem HoldsLines.line {batch : CommandLineBatch} {held : List Bytes} (h : HoldsLines batch held)
    {line : Bytes} (hline : held[slot]? = some line) : batch.line slot = line := by
  obtain ⟨hslot, hget⟩ := List.getElem?_eq_some_iff.mp hline
  have hsplit : held.flatten = (held.take slot).flatten ++
      (line ++ (held.drop (slot + 1)).flatten) := by
    rw [← List.flatten_cons, ← hget, ← List.flatten_append, ← List.drop_eq_getElem_cons hslot,
      List.take_append_drop]
  rw [CommandLineBatch.line, h.span_eq slot line hline]
  show batch.bytes.extract _ _ = line
  rw [h.bytes_eq, hsplit, List.extract_eq_take_drop, List.drop_left, Nat.add_sub_cancel_left,
    List.take_left]

theorem holdsLines_ofLines {lines : List Bytes} (hshort : ∀ line ∈ lines, line.length < 2 ^ 16)
    (htotal : lines.flatten.length < 2 ^ 32) : HoldsLines (.ofLines lines) lines := by
  induction lines using List.reverseRecOn with
  | nil => exact ⟨rfl, rfl, by simp⟩
  | append_singleton lines line ih =>
    have hlength : (lines ++ [line]).flatten.length = lines.flatten.length + line.length := by
      rw [List.flatten_append, List.length_append, List.flatten_singleton]
    have hheld := ih (fun l hl => hshort l (List.mem_append_left _ hl)) (by omega)
    have hcopy := hheld.copyLine (hshort line (by simp)) (by omega)
    rw [CommandLineBatch.ofLines, List.foldl_append]
    exact hcopy

/-- `parse_command_line` behind its shortcut. -/
def parseGeneralCommandLine (line : Bytes) (lineSlot : Nat) : ParsedCommand :=
  let request := RequestLine.parse line
  { kind := request.kind
    articleId := parseArticleIdArg request.args
    lineSlot := (toU16 lineSlot).getD (2 ^ 16 - 1)
    messageId := parsedMessageIdRange line request
    syntaxError := request.kind = .unknown &&
      (isKnownCommandLine line || !commandLineHasValidGenericSyntax line)
    authinfoSaslBase64Error := authinfoSaslInitialResponseBase64Error request.verb request.args
    hasTransferBody := false
    lineTooLong := commandLineIsTooLong line }

theorem parseCommandLine_eq (line : Bytes) (lineSlot : Nat) :
    parseCommandLine line lineSlot =
      (parseFastArticleMessageIdCommand line lineSlot).getD
        (parseGeneralCommandLine line lineSlot) := by
  unfold parseCommandLine
  cases parseFastArticleMessageIdCommand line lineSlot <;> rfl

theorem text_articleMessageId (messageId : MessageId) :
    stripCommandEolWs (lineContent (commandBytes (ascii "ARTICLE") (asBytes messageId.value))) =
      ascii "ARTICLE" ++ SP :: asBytes messageId.value := by
  have hverb : IsArgument (ascii "ARTICLE") := ⟨by decide, by decide⟩
  have hargs := messageId.isArgument
  have hstrip := stripCompleteCrlfLine_commandBytes hverb hargs.visible.spaced
  have htext := stripCommandEolWs_line hverb hargs.visible.spaced
  rw [if_neg hargs.nonempty] at hstrip htext
  rw [lineContent, hstrip, Option.getD_some, htext]

theorem parsedMessageIdRange_articleMessageId (messageId : MessageId) :
    parsedMessageIdRange (commandBytes (ascii "ARTICLE") (asBytes messageId.value))
        ⟨.article, ascii "ARTICLE", asBytes messageId.value⟩ =
      some ⟨8, (asBytes messageId.value).length⟩ := by
  have hargs := messageId.isArgument
  have hlength := length_messageId_le messageId
  have hline := length_articleMessageId messageId
  have hread := readMessageId_asBytes messageId
  have hfind : findMessageId (asBytes messageId.value) =
      some (0, (asBytes messageId.value).length) := by
    obtain ⟨hopen, hclose, hinner⟩ := bracketed_of_readMessageId hread
    have hutf8 : fromUtf8 (asBytes messageId.value) = some messageId.value := Utf8.decode_encode _
    rw [findMessageId_of_spaced hargs.visible.spaced hargs.nonempty,
      if_neg (by rw [hopen, hclose, hinner]; decide), hutf8, Option.bind_some,
      MessageId.fromBorrowed, dif_pos messageId.valid, Option.bind_some]
  have hoffset : (ascii "ARTICLE" ++ SP :: asBytes messageId.value).length -
      (asBytes messageId.value).length = 8 := by
    have hseven : (ascii "ARTICLE").length = 7 := rfl
    rw [List.length_append, List.length_cons, hseven]
    omega
  unfold parsedMessageIdRange
  rw [messageId_of_spaced _ _ hargs.visible.spaced, hread, text_articleMessageId]
  simp only [Option.bind_eq_bind, Option.bind_some, hfind, hoffset]
  rw [if_neg (by omega), toU16_of_lt (by omega), toU16_of_lt (by omega)]
  rfl

theorem commandLineIsTooLong_articleMessageId (messageId : MessageId) :
    commandLineIsTooLong (commandBytes (ascii "ARTICLE") (asBytes messageId.value)) = false := by
  have hlength := length_messageId_le messageId
  have hline := length_articleMessageId messageId
  have hverb : IsArgument (ascii "ARTICLE") := ⟨by decide, by decide⟩
  have hsplit := splitVerb_line hverb messageId.isArgument.visible.spaced
  rw [if_neg messageId.isArgument.nonempty] at hsplit
  have hother : commandBytes (ascii "ARTICLE") (asBytes messageId.value) ≠ TOO_LONG_LINE := by
    intro hequal
    -- the line starts with an A, the marker with a D
    have hhead := congrArg List.head? hequal
    rw [commandBytes, List.append_assoc, List.head?_append_of_ne_nil _ (by decide)] at hhead
    exact absurd hhead (by decide)
  have hshort : (commandArgumentLen (commandBytes (ascii "ARTICLE") (asBytes messageId.value))).any
      (fun len => len > MAX_COMMAND_ARGUMENT_BYTES) = false := by
    have hargs := congrArg Prod.snd hsplit
    unfold commandArgumentLen
    dsimp only
    rw [text_articleMessageId]
    unfold splitVerb at hargs
    cases hfind : (ascii "ARTICLE" ++ SP :: asBytes messageId.value).findIdx? isCommandWs with
    | none => rfl
    | some split =>
      have hlt := (List.findIdx?_eq_some_iff_findIdx_eq.mp hfind).1
      rw [hfind] at hargs
      simp only [Option.getD_some, if_pos hlt] at hargs
      rw [Option.map_some, hargs, Option.any_some, decide_eq_false_iff_not]
      unfold MAX_COMMAND_ARGUMENT_BYTES
      omega
  unfold commandLineIsTooLong
  rw [hshort, decide_eq_false hother,
    decide_eq_false (by unfold MAX_INITIAL_RESPONSE_LINE_BYTES; omega)]
  rfl

/-- A line that the shortcut takes gives the same command on the general path, and the stored line
holds its message-id at the range of the command. -/
theorem fast_command_is_general {line : Bytes} {slot : Nat} {command : ParsedCommand}
    (hslot : slot < 1024)
    (hfast : parseFastArticleMessageIdCommand line slot = some command) :
    command = parseGeneralCommandLine line slot ∧
      ∀ commandLines : CommandLineBatch, commandLines.line slot = line →
        commandMessageIdBytes command commandLines =
          (RequestLine.parse line).messageId.map fun messageId => asBytes messageId.value := by
  have hparse : parseCommandLine line slot = command := by
    rw [parseCommandLine_eq, hfast, Option.getD_some]
  obtain ⟨messageId, rfl, rfl⟩ := parseFastArticleMessageIdCommand_spec hfast
  constructor
  · unfold parseGeneralCommandLine
    rw [parse_articleMessageId]
    dsimp only
    rw [parseArticleIdArg_messageId, toU16_of_lt (by omega), parsedMessageIdRange_articleMessageId,
      commandLineIsTooLong_articleMessageId]
    rfl
  · intro commandLines hline
    rw [← messageIdBytes_parseCommandLine _ slot, hparse]
    unfold commandMessageIdBytes CommandLineBatch.lineSlice ParsedCommand.messageIdBytes
    show (fastCommand messageId slot).messageId.map (fun range => (commandLines.line slot).extract _
      _) = _
    rw [hline]

theorem fast_command_of_article :
    parseGeneralCommandLine (ascii "ARTICLE <a@b>\r\n") 1 =
        ⟨.article, none, 1, some ⟨8, 5⟩, false, false, false, false⟩ ∧
      commandMessageIdBytes ⟨.article, none, 1, some ⟨8, 5⟩, false, false, false, false⟩
          (.ofLines [ascii "QUIT\r\n", ascii "ARTICLE <a@b>\r\n"]) =
        (RequestLine.parse (ascii "ARTICLE <a@b>\r\n")).messageId.map fun messageId =>
          asBytes messageId.value := by
  have hfast : parseFastArticleMessageIdCommand (ascii "ARTICLE <a@b>\r\n") 1 =
      some ⟨.article, none, 1, some ⟨8, 5⟩, false, false, false, false⟩ := by decide
  have hgeneral := fast_command_is_general (by decide) hfast
  exact ⟨hgeneral.1.symm, hgeneral.2 _ (by decide)⟩

end NntpBench.Server
