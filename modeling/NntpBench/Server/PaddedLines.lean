import NntpBench.Server.CommandBatches
import NntpBench.Server.MessageIdRows

namespace NntpBench.Server

open Protocol Terminator

variable {blanks : Bytes} {kept kept' : KeptCommand}

/-- The second command has the line of the first one, with blanks before its CRLF, and is of the
same kind. -/
structure Padded (kept kept' : KeptCommand) (blanks : Bytes) : Prop where
  line : ∃ content, kept.line = content ++ CRLF ∧ kept'.line = content ++ blanks ++ CRLF
  blank : ∀ byte ∈ blanks, isCommandWs byte = true
  kind : kept'.request.kind = kept.request.kind
  known : kept.request.kind ≠ .unknown

theorem lineContent_of_known {content : Bytes}
    (h : (RequestLine.parse (content ++ CRLF)).kind ≠ .unknown) :
    lineContent (content ++ CRLF) = content := by
  cases hstrip : stripCompleteCrlfLine (content ++ CRLF) with
  | none =>
    unfold RequestLine.parse at h
    simp only [hstrip] at h
    split_ifs at h
    · exact absurd rfl h
    · exact absurd rfl h
  | some found =>
    obtain ⟨hline, -⟩ := stripCompleteCrlfLine_eq_some hstrip
    rw [lineContent, hstrip, Option.getD_some]
    exact (List.append_cancel_right hline).symm

theorem stripCommandEolWs_append_blanks (content : Bytes)
    (h : ∀ byte ∈ blanks, isCommandWs byte = true) :
    stripCommandEolWs (content ++ blanks) = stripCommandEolWs content := by
  unfold stripCommandEolWs List.rdropWhile
  rw [List.reverse_append, List.dropWhile_append_of_pos]
  intro byte hbyte
  exact h byte (List.mem_reverse.mp hbyte)

theorem skipCommandWs_append_blanks (args : Bytes) (h : ∀ byte ∈ blanks, isCommandWs byte = true) :
    skipCommandWs (args ++ blanks) = if skipCommandWs args = [] then [] else skipCommandWs args ++
      blanks := by
  have hnil := skipCommandWs_of_blanks h
  unfold skipCommandWs at hnil ⊢
  rw [List.dropWhile_append, hnil]
  simp only [List.isEmpty_iff]

namespace Padded

variable {kept kept' : KeptCommand} {blanks : Bytes}

theorem known' (h : Padded kept kept' blanks) : kept'.request.kind ≠ .unknown := by
  rw [h.kind]
  exact h.known

theorem lineContent_eq (h : Padded kept kept' blanks) :
    lineContent kept'.line = lineContent kept.line ++ blanks := by
  have hknown : (RequestLine.parse kept.line).kind ≠ .unknown := h.known
  have hknown' : (RequestLine.parse kept'.line).kind ≠ .unknown := h.known'
  obtain ⟨content, hline, hline'⟩ := h.line
  rw [hline] at hknown ⊢
  rw [hline'] at hknown' ⊢
  rw [lineContent_of_known hknown, lineContent_of_known hknown']

theorem args_eq (h : Padded kept kept' blanks) : kept'.request.args = kept.request.args := by
  obtain ⟨content, hcontent, hargs, -⟩ := parse_of_known h.known
  obtain ⟨content', hcontent', hargs', -⟩ := parse_of_known h.known'
  have heq := h.lineContent_eq
  rw [hcontent, hcontent'] at heq
  rw [KeptCommand.request, KeptCommand.request, hargs, hargs', heq, stripCommandEolWs_append_blanks
    _ h.blank]

theorem lineArgs_eq (h : Padded kept kept' blanks) :
    lineArgs kept'.line = if lineArgs kept.line = [] then [] else lineArgs kept.line ++ blanks := by
  unfold lineArgs
  rw [h.lineContent_eq]
  generalize lineContent kept.line = content
  dsimp only
  rw [List.findIdx?_append]
  by_cases hsplit : (content.findIdx? isCommandWs).isSome = true
  · obtain ⟨split, hsplit⟩ := Option.isSome_iff_exists.mp hsplit
    have hle : split ≤ content.length := (List.findIdx?_eq_some_iff_findIdx_eq.mp hsplit).1.le
    simp only [hsplit, Option.some_or, Option.map_some, Option.getD_some,
      List.drop_append_of_le_length hle, skipCommandWs_append_blanks _ h.blank]
  · rw [Option.not_isSome_iff_eq_none] at hsplit
    simp only [hsplit, Option.none_or, Option.map_none, Option.getD_none, if_true]
    cases blanks with
    | nil => rfl
    | cons blank blanks =>
      have hblank : isCommandWs blank = true := h.blank blank List.mem_cons_self
      rw [List.findIdx?_cons, if_pos hblank, Option.map_some, Option.map_some, Option.getD_some,
        Nat.zero_add, List.drop_left]
      exact skipCommandWs_of_blanks h.blank

end Padded

namespace Padded

variable {kept kept' : KeptCommand} {blanks : Bytes}

theorem kind_command (h : Padded kept kept' blanks) : kept'.command.kind = kept.command.kind := by
  rw [kept.kind_command, kept'.kind_command, h.kind]

theorem articleId_eq (h : Padded kept kept' blanks) : kept'.command.articleId =
    kept.command.articleId := by
  rw [kept.articleId_command, kept'.articleId_command, h.args_eq]

theorem messageId_eq (h : Padded kept kept' blanks) : kept'.request.messageId =
    kept.request.messageId := by
  unfold RequestLine.messageId
  rw [h.args_eq]

theorem commandMessageId_eq (h : Padded kept kept' blanks) :
    commandMessageId kept'.command kept'.commandLines = commandMessageId kept.command
      kept.commandLines := by
  rw [kept.commandMessageId_eq, kept'.commandMessageId_eq, h.messageId_eq]

theorem isSome_messageId (h : Padded kept kept' blanks) :
    kept'.command.messageId.isSome = kept.command.messageId.isSome := by
  have hbytes := kept.commandMessageIdBytes_eq
  have hbytes' := kept'.commandMessageIdBytes_eq
  rw [h.messageId_eq, ← hbytes] at hbytes'
  have hsome := congrArg Option.isSome hbytes'
  unfold commandMessageIdBytes at hsome
  rwa [Option.isSome_map, Option.isSome_map] at hsome

theorem commandTokens_eq (h : Padded kept kept' blanks) :
    commandTokens (lineArgs kept'.line) = commandTokens (lineArgs kept.line) := by
  rw [h.lineArgs_eq]
  split_ifs with hnil
  · rw [hnil]
  · exact commandTokens_append_blanks _ h.blank

theorem isEmpty_eq (h : Padded kept kept' blanks) :
    (lineArgs kept'.line).isEmpty = (lineArgs kept.line).isEmpty := by
  rw [h.lineArgs_eq]
  split_ifs with hnil
  · rw [hnil]
  · have hne : lineArgs kept.line ++ blanks ≠ [] := by simp [hnil]
    rw [List.isEmpty_eq_false_iff.mpr hnil, List.isEmpty_eq_false_iff.mpr hne]

end Padded

theorem Padded.articleSelectorError_eq (h : Padded kept kept' blanks) (state : SessionState)
    (config : ServerConfig) (allowed : Bool) :
    articleSelectorError kept'.command (some kept'.commandLines) state config allowed =
      articleSelectorError kept.command (some kept.commandLines) state config allowed := by
  unfold articleSelectorError
  rw [kept.commandArgs_eq, kept'.commandArgs_eq, h.articleId_eq, Option.bind_some, Option.bind_some,
    h.commandMessageId_eq]
  simp only [h.isEmpty_eq, Option.isNone_some, Bool.and_false, Bool.false_and, Bool.false_eq_true,
    if_false]

/-- The kinds whose handlers read the arguments as they stand. -/
def readsArgs : RequestKind → Bool
  | .listActive | .listActiveTimes | .listNewsgroups | .group | .over | .xover | .hdr | .xhdr =>
      true
  | _ => false

theorem Padded.respond_eq (h : Padded kept kept' blanks)
    (hreads : readsArgs kept.request.kind = false) (config : ServerConfig) (now : Nat)
    (memory : SessionMemory) :
    respond config now kept'.command (some kept'.commandLines) memory =
      respond config now kept.command (some kept.commandLines) memory := by
  -- Every other command is answered alike.
  have htokens := h.commandTokens_eq
  have hempty := h.isEmpty_eq
  have hknown := h.known
  unfold respond
  rw [h.kind_command, kept.kind_command]
  cases hkind : kept.request.kind
  case article =>
    unfold handleArticle selectedArticleId
    rw [h.articleSelectorError_eq]
    simp only [h.commandMessageId_eq, h.articleId_eq, Option.bind_some]
  case head | stat | body =>
    unfold handleHead handleStat handleBody handleRetrieval selectedArticleId
    rw [h.articleSelectorError_eq]
    simp only [h.commandMessageId_eq, h.articleId_eq, Option.bind_some]
  all_goals first
    | rfl
    | exact absurd hkind hknown
    | exact absurd hreads (by rw [hkind]; decide)
    | simp only [handleListGroup, handleNewGroups, handleNewNews, listgroupStateError,
        listgroupResponseForArgsWithIndexInto, listgroupGroupName, listgroupRangeArg,
          listgroupExplicitGroupArg,
        listgroupSelectedGroup, listgroupResponseForArgs, newgroupsResponseForIndexInto,
        newgroupsDatetimeTimestamp, newgroupsResponse, newgroupsDatetimeKey,
          newnewsResponseForIndexInto,
        newnewsDatetimeTimestamp, newnewsResponse, newnewsDatetimeKey, firstCommandArg_eq,
          nthCommandArg,
        kept.commandArgs_eq, kept'.commandArgs_eq, htokens, hempty]

theorem Padded.overviewSelectorError_eq (h : Padded kept kept' blanks)
    (hargs : lineArgs kept'.line = lineArgs kept.line) (state : SessionState)
    (index : Option ArticleStoreIndex) :
    overviewSelectorError kept'.command (some kept'.commandLines) state index =
      overviewSelectorError kept.command (some kept.commandLines) state index := by
  unfold overviewSelectorError
  rw [kept.commandArgs_eq, kept'.commandArgs_eq, hargs, h.kind_command, h.articleId_eq,
    h.isSome_messageId]

theorem Padded.respond_eq_of_args (h : Padded kept kept' blanks)
    (hargs : lineArgs kept'.line = lineArgs kept.line) (config : ServerConfig) (now : Nat)
    (memory : SessionMemory) :
    respond config now kept'.command (some kept'.commandLines) memory =
      respond config now kept.command (some kept.commandLines) memory := by
  by_cases hreads : readsArgs kept.request.kind = true
  · unfold respond
    rw [h.kind_command, kept.kind_command]
    cases hkind : kept.request.kind
    all_goals first
      | rw [hkind] at hreads
        exact absurd hreads (by decide)
      | simp only [handleListVariant, handleGroup, handleOverview, h.overviewSelectorError_eq hargs,
          kept.commandArgs_eq, kept'.commandArgs_eq, hargs]
  · exact h.respond_eq (Bool.eq_false_iff.mpr hreads) config now memory

/-- The two commands are answered alike, and leave the session in the same state. -/
def AnswersAlike (config : ServerConfig) (now : Nat) (memory : SessionMemory)
    (kept kept' : KeptCommand) : Prop :=
  seen (respond config now kept'.command (some kept'.commandLines) memory) =
    seen (respond config now kept.command (some kept.commandLines) memory)

instance (config : ServerConfig) (now : Nat) (memory : SessionMemory) (kept kept' : KeptCommand) :
    Decidable (AnswersAlike config now memory kept kept') := inferInstanceAs (Decidable (_ = _))

theorem Padded.answersAlike (h : Padded kept kept' blanks)
    (hcond : readsArgs kept.request.kind = false ∨ lineArgs kept.line = [] ∨ blanks = [])
    (config : ServerConfig) (now : Nat) (memory : SessionMemory) :
    AnswersAlike config now memory kept kept' := by
  unfold AnswersAlike
  rcases hcond with hreads | hnil | rfl
  · rw [h.respond_eq hreads]
  · rw [h.respond_eq_of_args (by rw [h.lineArgs_eq, if_pos hnil, hnil])]
  · have hline : lineArgs kept'.line = lineArgs kept.line := by
      rw [h.lineArgs_eq, List.append_nil]
      split_ifs with hnil
      · rw [hnil]
      · rfl
    rw [h.respond_eq_of_args hline]

end NntpBench.Server
