import NntpBench.Server.KeptCommands

namespace NntpBench.Server

open Protocol Terminator

variable {reply : Reply} {article : Nat} {state : SessionState} {response args : Bytes}
  {kind : RequestKind} {handled : Handled} {index : ArticleStoreIndex}

def Reply.isError (self : Reply) : Bool := (StatusCode.parse self.bytes).any StatusCode.isError

def Reply.isSuccess (self : Reply) : Bool :=
  (StatusCode.parse self.bytes).any fun status => 200 ≤ status.code && status.code < 300

theorem Reply.not_isError_of_isSuccess (h : reply.isSuccess = true) :
    reply.isError = false := by
  unfold isSuccess at h
  unfold isError
  cases hstatus : StatusCode.parse reply.bytes with
  | none => rfl
  | some status =>
    simp only [hstatus, Option.any_some, Bool.and_eq_true, decide_eq_true_eq] at h
    simp [StatusCode.isError]
    omega

theorem Reply.not_isError_of_head? (h : reply.bytes.head? = some 50) :
    reply.isError = false := by
  unfold isError
  cases hstatus : StatusCode.parse reply.bytes with
  | none => rfl
  | some status =>
    obtain ⟨rest, hbytes⟩ := List.head?_eq_some_iff.mp h
    rw [hbytes] at hstatus
    have hcode := StatusCode.code_of_two hstatus
    simp [StatusCode.isError]
    omega

/-- The replies to a command that cannot be served in the state of the session. -/
def REFUSALS : List Bytes :=
  [NO_SUCH_NEWSGROUP, NO_NEWSGROUP_SELECTED, NO_CURRENT_ARTICLE, NO_ARTICLE_WITH_NUMBER,
    NO_ARTICLE_WITH_MESSAGE_ID]

theorem isError_refusal : ∀ response ∈ REFUSALS, (Reply.response response).isError = true := by
  decide

namespace SessionState

/-- A group is selected exactly when the state says so, and the current article is one of the
articles of that group. -/
def Points (index : Option ArticleStoreIndex) (state : SessionState) : Prop :=
  (state.groupSelected = true ↔ state.selectedGroup.isSome = true) ∧
    ∀ article, state.currentArticle = some article →
      ∃ articles, state.currentGroupArticles index = some articles ∧ article ∈ articles

variable {index : Option ArticleStoreIndex} {state : SessionState}

theorem points_initial : initial.Points index := by
  refine ⟨by decide, ?_⟩
  intro article h
  cases h

theorem currentGroupContains_iff :
    state.currentGroupContains article index = true ↔
      ∃ articles, state.currentGroupArticles index = some articles ∧ article ∈ articles := by
  unfold currentGroupContains
  cases state.currentGroupArticles index with
  | none => simp
  | some articles => simp

theorem Points.withArticle (h : state.Points index)
    (hcontains : state.currentGroupContains article index = true) :
    Points index { state with currentArticle := some article } := by
  refine ⟨h.1, ?_⟩
  intro current hcurrent
  have heq : article = current := Option.some.inj hcurrent
  rw [← heq]
  exact currentGroupContains_iff.mp hcontains

theorem points_selectGroup {group : SelectedGroup} {articles : List Nat}
    (h : group.articleNumbers index = some articles) :
    (selectGroup group articles.head?).Points index := by
  refine ⟨⟨fun _ => rfl, fun _ => rfl⟩, ?_⟩
  intro article hcurrent
  exact ⟨articles, h, List.mem_of_mem_head? hcurrent⟩

end SessionState

theorem FixtureGroup.head?_articleNumbers (group : FixtureGroup) :
    group.firstArticle = group.articleNumbers.head? := by
  cases group <;> rfl

/-- What is used of the configuration: its own replies are successes, and the stored articles are
220 frames, of which only the first digit matters here. -/
structure ServerConfig.Answers (config : ServerConfig) : Prop where
  body : config.bodyResponse.head? = some 50
  article : config.articleResponse.head? = some 50
  stored : ∀ dir, config.articleDir = some dir → ∀ path file,
    dir.openFile path = .ok (some file) → ascii "220" <+: file.bytes

/-- The outcome of a command: it is refused, it leaves the state alone, it moves to an article of
the group, or it selects a group. -/
inductive Outcome (config : ServerConfig) (kept : KeptCommand) (state : SessionState) :
    Reply → SessionState → Prop where
  | refused (reply : Reply) (herror : reply.isError = true) : Outcome config kept state reply state
  | unchanged (reply : Reply)
    (hnumber : isRetrieval kept.request.kind = true → kept.command.articleId = none) :
    Outcome config kept state reply state
  | article (reply : Reply) (article : Nat)
    (hkind : kept.request.kind = .last ∨ kept.request.kind = .next ∨
      isRetrieval kept.request.kind = true ∧ kept.request.messageId = none ∧
        ∀ number, kept.command.articleId = some number → number = article)
    (hcontains : state.currentGroupContains article config.articleIndex = true)
    (herror : config.Answers → reply.isError = false) :
    Outcome config kept state reply { state with currentArticle := some article }
  | group (reply : Reply) (group : SelectedGroup) (articles : List Nat)
    (hkind : kept.request.kind = .group ∨ kept.request.kind = .listGroup)
    (harticles : group.articleNumbers config.articleIndex = some articles)
    (herror : reply.isError = false) :
    Outcome config kept state reply (.selectGroup group articles.head?)

theorem Outcome.points {config : ServerConfig} {kept : KeptCommand} {next : SessionState}
    (h : Outcome config kept state reply next)
    (hpoints : state.Points config.articleIndex) : next.Points config.articleIndex := by
  cases h with
  | refused | unchanged => exact hpoints
  | article article _ hcontains => exact hpoints.withArticle hcontains
  | group group articles _ harticles => exact SessionState.points_selectGroup harticles

section Arms

variable {config : ServerConfig} {now : Nat} {kept : KeptCommand} {memory : SessionMemory}

theorem isError_of_articleSelectorError {command : ParsedCommand}
    {commandLines : Option CommandLineBatch} {allowed : Bool}
    (h : articleSelectorError command commandLines state config allowed = some response) :
    (Reply.response response).isError = true := by
  apply isError_refusal
  unfold articleSelectorError at h
  dsimp only at h
  repeat' split at h
  all_goals cases h <;> simp [REFUSALS]

theorem contains_of_articleSelectorError (hkind : isRetrieval kept.request.kind = true)
    (hpoints : memory.sessionState.Points config.articleIndex)
    (h : articleSelectorError kept.command (some kept.commandLines) memory.sessionState config
      true = none) :
    (∃ messageId, kept.request.messageId = some messageId ∧ kept.command.articleId = none) ∨
      kept.request.messageId = none ∧
        ∃ article, kept.command.articleId.or memory.sessionState.currentArticle = some article ∧
          memory.sessionState.currentGroupContains article config.articleIndex = true := by
  -- A retrieval that is not refused is about an article of the group, or about a message-id.
  unfold articleSelectorError at h
  rw [kept.commandArgs_eq] at h
  cases kept.selection hkind with
  | current hargs hnumber hid =>
    right
    refine ⟨hid, ?_⟩
    simp only [hargs, List.isEmpty_nil, Bool.and_self, if_true] at h
    split_ifs at h with hgroup hcurrent
    obtain ⟨article, harticle⟩ : ∃ article, memory.sessionState.currentArticle = some article :=
      Option.ne_none_iff_exists'.mp (by simpa using hcurrent)
    refine ⟨article, ?_, ?_⟩
    · rw [hnumber, harticle]
      rfl
    · exact SessionState.currentGroupContains_iff.mpr (hpoints.2 article harticle)
  | number article hargs hnumber hid =>
    right
    refine ⟨hid, article, by rw [hnumber, Option.some_or], ?_⟩
    have hempty : (lineArgs kept.line).isEmpty = false := by simpa using hargs
    by_contra hmissing
    rw [Bool.not_eq_true] at hmissing
    simp only [hempty, hnumber, hmissing, Bool.false_and, Bool.false_eq_true, if_false,
      Option.any_some, Bool.not_false, if_true] at h
    split_ifs at h
  | messageId messageId hargs hnumber hid =>
    left
    exact ⟨messageId, hid, hnumber⟩

theorem head?_storedStatusLine (status : String) (articleNumber : Nat) (messageId : Str)
    (text : String) (h : (ascii status).head? = some 50) :
    (storedStatusLine status articleNumber messageId text).head? = some 50 := by
  simp [storedStatusLine, h]

theorem head?_appendDotTerminator (h : response.head? = some 50) :
    (appendDotTerminator response).head? = some 50 := by
  unfold appendDotTerminator
  split_ifs <;> simp [h]

theorem isPrefix_appendDotStuffedBody (output body : Bytes) :
    output <+: appendDotStuffedBody output body := by
  fun_induction appendDotStuffedBody output body with
  | case1 => exact List.prefix_rfl
  | case2 => exact List.prefix_append _ _
  | case3 output body _ lineEnd _ line stuffing ih =>
    refine List.IsPrefix.trans ?_ ih
    rw [List.append_assoc, List.append_assoc]
    exact List.prefix_append _ _

theorem head?_of_start {start : Bytes} {byte : UInt8} (h : start <+: response)
    (hstart : start.head? = some byte) : response.head? = some byte := by
  obtain ⟨rest, rfl⟩ := h
  rw [List.head?_append, hstart, Option.some_or]

theorem head?_buildStoredArticleResponse {bytes : Bytes} (hkind : kind ≠ .article)
    (h : buildStoredArticleResponse kind bytes = .ok response) :
    response.head? = some 50 := by
  unfold buildStoredArticleResponse at h
  rw [if_neg hkind] at h
  split at h
  · cases h
  · cases h
  split at h
  · cases h
  split at h
  · split at h
    · cases h
    · rw [← Except.ok.inj h]
      apply head?_appendDotTerminator
      apply head?_of_start (List.prefix_append _ _)
      exact head?_storedStatusLine "221" _ _ _ (by decide)
  · split at h
    · cases h
    · rw [← Except.ok.inj h]
      apply head?_appendDotTerminator
      apply head?_of_start (isPrefix_appendDotStuffedBody _ _)
      exact head?_storedStatusLine "222" _ _ _ (by decide)
  · rw [← Except.ok.inj h]
    exact head?_storedStatusLine "223" _ _ _ (by decide)

theorem exists_path_of_openStoredArticleResponse {dir : ArticleDir} {articleId : Option Nat}
    {messageId : Option Str} {file : StoredFile}
    (h : openStoredArticleResponse dir articleId messageId = .ok (some file)) :
    ∃ path, dir.openFile path = .ok (some file) := by
  -- The file that is opened is one of the directory.
  have hkey : ∀ key, openArticleResponse dir key = .ok (some file) →
      ∃ path, dir.openFile path = .ok (some file) := by
    intro key hopen
    cases key with
    | number articleId => exact ⟨_, hopen⟩
    | messageId messageId =>
      simp only [openArticleResponse] at hopen
      split at hopen
      · exact ⟨_, hopen⟩
      · cases hopen
  unfold openStoredArticleResponse at h
  cases articleId with
  | none =>
    cases messageId with
    | none => cases h
    | some messageId => exact hkey (.messageId messageId) h
  | some articleId =>
    cases hnumber : openArticleResponse dir (.number articleId) with
    | error error => simp [hnumber, bind, Except.bind] at h
    | ok found =>
      cases found with
      | some found =>
        simp only [hnumber, bind, Except.bind] at h
        cases h
        exact hkey (.number articleId) hnumber
      | none =>
        cases messageId with
        | none => simp [hnumber, bind, Except.bind] at h
        | some messageId =>
          simp only [hnumber, bind, Except.bind] at h
          exact hkey (.messageId messageId) h

theorem head?_storedArticleReply {articleId : Option Nat} {messageId : Option Str}
    (h : storedArticleReply config kind articleId messageId = .ok (some reply))
    (hanswers : config.Answers) : reply.bytes.head? = some 50 := by
  unfold storedArticleReply at h
  cases hdir : config.articleDir with
  | none => simp [hdir] at h
  | some dir =>
    simp only [hdir] at h
    split at h
    · cases h
    · cases h
    · next file hopen =>
      split_ifs at h with hkind
      · cases h
        obtain ⟨path, hpath⟩ := exists_path_of_openStoredArticleResponse hopen
        exact head?_of_start (hanswers.stored dir hdir path file hpath) (by decide)
      · split at h
        · cases h
        · split at h
          · cases h
          · next response hbuild =>
            cases h
            exact head?_buildStoredArticleResponse hkind hbuild

theorem isError_articleNotFoundResponse (articleId : Option Nat) (messageId : Option Str) :
    (Reply.response (articleNotFoundResponse articleId messageId)).isError = true := by
  apply isError_refusal
  unfold articleNotFoundResponse
  split_ifs <;> simp [REFUSALS]

theorem commandMessageId_none (h : kept.request.messageId = none) :
    (some kept.commandLines).bind (commandMessageId kept.command) = none := by
  rw [Option.bind_some, kept.commandMessageId_eq, h]
  rfl

theorem commandMessageId_some {messageId : MessageId}
    (h : kept.request.messageId = some messageId) :
    (some kept.commandLines).bind (commandMessageId kept.command) = some messageId.value := by
  rw [Option.bind_some, kept.commandMessageId_eq, h]
  rfl

theorem head?_buildArticleResponseHeaderInto (buffer : Bytes) (articleId : Nat)
    (messageId : Bytes) :
    (buildArticleResponseHeaderInto buffer articleId messageId).head? = some 50 := by
  have hstatus : (ascii "220").head? = some 50 := by decide
  simp [buildArticleResponseHeaderInto, articleStatusLine, clear, hstatus]

theorem head?_buildSelectedArticleResponseInto (buffer : Bytes) (articleId : Nat) :
    (buildSelectedArticleResponseInto buffer articleId config).head? = some 50 := by
  unfold buildSelectedArticleResponseInto buildArticleResponseInto
  apply head?_appendDotTerminator
  apply head?_of_start (List.prefix_append _ _)
  exact head?_buildArticleResponseHeaderInto _ _ _

theorem outcome_moved (hretrieval : isRetrieval kept.request.kind = true)
    (hid : kept.request.messageId = none)
    (harticle : kept.command.articleId.or state.currentArticle = some article)
    (hcontains : state.currentGroupContains article config.articleIndex = true)
    (herror : config.Answers → reply.isError = false) :
    Outcome config kept state reply { state with currentArticle := some article } := by
  refine .article reply article (.inr (.inr ⟨hretrieval, hid, ?_⟩)) hcontains herror
  intro number hnumber
  rw [hnumber, Option.some_or] at harticle
  exact Option.some.inj harticle

theorem outcome_handleArticle (hkind : kept.request.kind = .article)
    (hpoints : memory.sessionState.Points config.articleIndex)
    (h : handleArticle config kept.command (some kept.commandLines) memory = .ok handled) :
    Outcome config kept memory.sessionState handled.reply handled.memory.sessionState := by
  have hretrieval : isRetrieval kept.request.kind = true := by
    rw [hkind]
    rfl
  unfold handleArticle at h
  cases hselector : articleSelectorError kept.command (some kept.commandLines) memory.sessionState
      config true with
  | some response =>
    simp only [hselector] at h
    rw [← Except.ok.inj h]
    exact .refused _ (isError_of_articleSelectorError hselector)
  | none =>
    simp only [hselector] at h
    rcases contains_of_articleSelectorError hretrieval hpoints hselector with
      ⟨messageId, hid, hnumber⟩ | ⟨hid, article, harticle, hcontains⟩
    · simp only [commandMessageId_some hid, hnumber, Option.isSome_some, if_true] at h
      split_ifs at h
      · obtain ⟨found, -, h⟩ := ExceptBind.bind_eq_ok.mp h
        cases found
        all_goals
          rw [← Except.ok.inj h]
          exact .unchanged _ fun _ => hnumber
      · rw [← Except.ok.inj h]
        exact .unchanged _ fun _ => hnumber
    · simp only [commandMessageId_none hid, harticle, Option.isSome_none, Bool.false_eq_true,
        if_false] at h
      split_ifs at h with hdir hfirst
      · obtain ⟨found, hstored, h⟩ := ExceptBind.bind_eq_ok.mp h
        cases found with
        | none =>
          rw [← Except.ok.inj h]
          exact .refused _ (isError_articleNotFoundResponse _ _)
        | some reply =>
          rw [← Except.ok.inj h]
          cases hnumber : kept.command.articleId with
          | none => exact .unchanged _ fun _ => hnumber
          | some number =>
            have hsame := harticle
            rw [hnumber, Option.some_or] at hsame
            rw [Option.some.inj hsame]
            exact outcome_moved hretrieval hid harticle hcontains fun hanswers =>
              Reply.not_isError_of_head? (head?_storedArticleReply hstored hanswers)
      · rw [← Except.ok.inj h]
        unfold selectedArticleId
        rw [harticle]
        exact outcome_moved hretrieval hid harticle hcontains fun hanswers =>
          Reply.not_isError_of_head? hanswers.article
      · rw [← Except.ok.inj h]
        unfold selectedArticleId
        rw [harticle]
        exact outcome_moved hretrieval hid harticle hcontains fun _ =>
          Reply.not_isError_of_head? (head?_buildSelectedArticleResponseInto _ _)

theorem outcome_handleRetrieval {first : Bytes} {buildMessageId : Bytes → Str → Bytes}
    {buildSelected : Bytes → Nat → Bytes} (hretrieval : isRetrieval kept.request.kind = true)
    (hpoints : memory.sessionState.Points config.articleIndex)
    (hfirst : config.Answers → first.head? = some 50)
    (hselected : ∀ buffer articleId, (buildSelected buffer articleId).head? = some 50)
    (h : handleRetrieval config kept.command (some kept.commandLines) memory kind first
      buildMessageId buildSelected = .ok handled) :
    Outcome config kept memory.sessionState handled.reply handled.memory.sessionState := by
  unfold handleRetrieval at h
  cases hselector : articleSelectorError kept.command (some kept.commandLines) memory.sessionState
      config true with
  | some response =>
    simp only [hselector] at h
    rw [← Except.ok.inj h]
    exact .refused _ (isError_of_articleSelectorError hselector)
  | none =>
    simp only [hselector] at h
    rcases contains_of_articleSelectorError hretrieval hpoints hselector with
      ⟨messageId, hid, hnumber⟩ | ⟨hid, article, harticle, hcontains⟩
    · -- no path of a message-id changes the state
      have hsame : handled.memory.sessionState = memory.sessionState := by
        simp only [commandMessageId_some hid] at h
        obtain ⟨found, -, h⟩ := ExceptBind.bind_eq_ok.mp h
        cases found with
        | some reply =>
          rw [← Except.ok.inj h]
        | none =>
          dsimp only at h
          split_ifs at h
          all_goals
            rw [← Except.ok.inj h]
            rfl
      rw [hsame]
      exact .unchanged _ fun _ => hnumber
    · simp only [commandMessageId_none hid, selectedArticleId, harticle, Option.getD_some] at h
      obtain ⟨found, hstored, h⟩ := ExceptBind.bind_eq_ok.mp h
      cases found with
      | some reply =>
        rw [← Except.ok.inj h]
        exact outcome_moved hretrieval hid harticle hcontains fun hanswers =>
          Reply.not_isError_of_head? (head?_storedArticleReply hstored hanswers)
      | none =>
        dsimp only at h
        split_ifs at h with hone
        · rw [← Except.ok.inj h]
          exact outcome_moved hretrieval hid harticle hcontains fun hanswers =>
            Reply.not_isError_of_head? (hfirst hanswers)
        · rw [← Except.ok.inj h]
          exact outcome_moved hretrieval hid harticle hcontains fun _ =>
            Reply.not_isError_of_head? (hselected _ _)

theorem head?_buildSelectedHeadResponseInto (buffer : Bytes) (articleId : Nat) :
    (buildSelectedHeadResponseInto buffer articleId).head? = some 50 := by
  have hstatus : (ascii "221").head? = some 50 := by decide
  unfold buildSelectedHeadResponseInto buildHeadResponseInto
  apply head?_appendDotTerminator
  simp [articleStatusLine, clear, hstatus]

theorem head?_buildSelectedStatResponseInto (buffer : Bytes) (articleId : Nat) :
    (buildSelectedStatResponseInto buffer articleId).head? = some 50 := by
  have hstatus : (ascii "223").head? = some 50 := by decide
  simp [buildSelectedStatResponseInto, buildStatResponseInto, articleStatusLine, clear, hstatus]

theorem head?_buildSelectedBodyResponseInto (buffer : Bytes) (articleId : Nat) :
    (buildSelectedBodyResponseInto config buffer articleId).head? = some 50 := by
  have hstatus : (ascii "222").head? = some 50 := by decide
  unfold buildSelectedBodyResponseInto buildBodyResponseInto
  apply head?_appendDotTerminator
  simp [articleStatusLine, clear, hstatus]

theorem head?_headResponse : config.headResponse.head? = some 50 := by
  unfold ServerConfig.headResponse
  decide

theorem head?_statResponse : config.statResponse.head? = some 50 := by
  unfold ServerConfig.statResponse
  decide

theorem head?_writeStatusLine (response : Bytes) (groupName : Str) (articles : List Nat) :
    (writeStatusLine response groupName articles).head? = some 50 := by
  have hstatus : (ascii "211 ").head? = some 50 := by decide
  simp [writeStatusLine, clear, hstatus]

theorem head?_writeListgroupResponse (response : Bytes) (groupName : Str) (articles : List Nat)
    (range : Option (Nat × Option Nat)) :
    (writeListgroupResponse response groupName articles range).head? = some 50 := by
  simp [writeListgroupResponse, head?_writeStatusLine]

theorem exists_selectIndexedGroup (state : SessionState) {groupName : Str} {fixtureName : Bytes}
    (h : (index.articleNumbersForGroup groupName).isSome ∨
      (fixtureGroupFromName fixtureName).isSome) :
    ∃ group articles, SelectedGroup.articleNumbers group (some index) = some articles ∧
      selectIndexedGroup index state groupName fixtureName =
        SessionState.selectGroup group articles.head? := by
  unfold selectIndexedGroup
  cases hnumbers : index.articleNumbersForGroup groupName with
  | some articles => exact ⟨.indexed groupName, articles, hnumbers, rfl⟩
  | none =>
    rw [hnumbers] at h
    obtain ⟨group, hgroup⟩ := Option.isSome_iff_exists.mp (h.resolve_left (by decide))
    refine ⟨.fixture group, group.articleNumbers, rfl, ?_⟩
    rw [hgroup, ← group.head?_articleNumbers]

theorem found_of_groupResponse {built : Bytes}
    (h : groupResponseForArgsWithIndexInto response args index = some built) :
    built.head? = some 50 ∧
      ((index.articleNumbersForGroup (trim ((fromUtf8 args).getD []))).isSome ∨
        (fixtureGroupFromName args).isSome) := by
  unfold groupResponseForArgsWithIndexInto at h
  obtain ⟨value, hvalue, h⟩ := Option.bind_eq_some_iff.mp h
  rw [hvalue, Option.getD_some]
  dsimp only at h
  split at h
  · next articles hnumbers =>
    rw [← Option.some.inj h, hnumbers]
    exact ⟨head?_writeStatusLine _ _ _, .inl rfl⟩
  · obtain ⟨group, hgroup, rfl⟩ := Option.map_eq_some_iff.mp h
    rw [hgroup]
    exact ⟨head?_writeStatusLine _ _ _, .inr rfl⟩

theorem found_of_listgroupResponse {built : Bytes} {currentGroup : Option Str}
    (h : listgroupResponseForArgsWithIndexInto response args currentGroup index = some built) :
    built.head? = some 50 ∧
      ((index.articleNumbersForGroup (listgroupGroupName args currentGroup)).isSome ∨
        (fixtureGroupFromName (asBytes (listgroupGroupName args currentGroup))).isSome) := by
  unfold listgroupResponseForArgsWithIndexInto at h
  dsimp only at h
  split at h
  · next articles hnumbers =>
    rw [← Option.some.inj h, hnumbers]
    exact ⟨head?_writeListgroupResponse _ _ _ _, .inl rfl⟩
  · obtain ⟨group, hgroup, rfl⟩ := Option.map_eq_some_iff.mp h
    rw [hgroup]
    exact ⟨head?_writeListgroupResponse _ _ _ _, .inr rfl⟩

theorem head?_groupResponseForGroup (group : FixtureGroup) :
    (groupResponseForGroup group).head? = some 50 := by
  cases group <;> decide

theorem outcome_found {groupName : Str} {fixtureName : Bytes}
    (hindex : config.articleIndex = some index)
    (hkind : kept.request.kind = .group ∨ kept.request.kind = .listGroup)
    (hhead : response.head? = some 50)
    (hfound : (index.articleNumbersForGroup groupName).isSome ∨
      (fixtureGroupFromName fixtureName).isSome) :
    Outcome config kept state (.response response)
      (selectIndexedGroup index state groupName fixtureName) := by
  obtain ⟨group, articles, hnumbers, hstate⟩ := exists_selectIndexedGroup state hfound
  rw [hstate]
  refine .group _ group articles hkind ?_ (Reply.not_isError_of_head? hhead)
  rw [hindex]
  exact hnumbers

theorem outcome_handleGroup (hkind : kept.request.kind = .group)
    (h : handleGroup config kept.command (some kept.commandLines) memory = handled) :
    Outcome config kept memory.sessionState handled.reply handled.memory.sessionState := by
  unfold handleGroup at h
  dsimp only at h
  generalize commandArgs kept.command (some kept.commandLines) = args at h
  split at h
  · next index hindex =>
    split at h
    · rw [← h]
      exact .refused _ (isError_refusal _ (by simp [REFUSALS]))
    · next response hresponse =>
      obtain ⟨hhead, hfound⟩ := found_of_groupResponse hresponse
      rw [← h]
      exact outcome_found hindex (.inl hkind) hhead hfound
  · split at h
    · rw [← h]
      exact .refused _ (isError_refusal _ (by simp [REFUSALS]))
    · next group hgroup =>
      rw [group.head?_articleNumbers] at h
      rw [← h]
      refine .group _ (.fixture group) group.articleNumbers (.inl hkind) rfl ?_
      exact Reply.not_isError_of_head? (head?_groupResponseForGroup group)

theorem isError_of_listgroupStateError (h : listgroupStateError args state = some response) :
    (Reply.response response).isError = true := by
  apply isError_refusal
  unfold listgroupStateError at h
  split_ifs at h
  · simp [REFUSALS, ← Option.some.inj h]
  · simp [REFUSALS, ← Option.some.inj h]

theorem head?_listgroupResponseForArgs {group : FixtureGroup}
    (h : listgroupStateError args state = none) :
    (listgroupResponseForArgs args (some group)).head? = some 50 := by
  have hknown : ¬ ((listgroupExplicitGroupArg args).any
      fun group => (fixtureGroupFromName group).isNone) = true := by
    intro hunknown
    rw [listgroupStateError, if_pos hunknown] at h
    cases h
  unfold listgroupResponseForArgs
  rw [if_neg hknown]
  dsimp only
  repeat' split
  all_goals decide

theorem outcome_handleListGroup (hkind : kept.request.kind = .listGroup)
    (h : handleListGroup config kept.command (some kept.commandLines) memory = handled) :
    Outcome config kept memory.sessionState handled.reply handled.memory.sessionState := by
  unfold handleListGroup at h
  dsimp only at h
  generalize commandArgs kept.command (some kept.commandLines) = args at h
  split at h
  · next response herror =>
    rw [← h]
    exact .refused _ (isError_of_listgroupStateError herror)
  · next hnone =>
    split at h
    · next index hindex =>
      split at h
      · rw [← h]
        exact .refused _ (isError_refusal _ (by simp [REFUSALS]))
      · next response hresponse =>
        obtain ⟨hhead, hfound⟩ := found_of_listgroupResponse hresponse
        rw [← h]
        exact outcome_found hindex (.inr hkind) hhead hfound
    · rw [FixtureGroup.head?_articleNumbers] at h
      rw [← h]
      refine .group _ (.fixture _) _ (.inr hkind) rfl ?_
      exact Reply.not_isError_of_head? (head?_listgroupResponseForArgs hnone)

theorem contains_of_previousArticle {index : Option ArticleStoreIndex} {current : Nat}
    (h : state.currentGroupPreviousArticle current index = some article) :
    state.currentGroupContains article index = true := by
  unfold SessionState.currentGroupPreviousArticle at h
  obtain ⟨articles, harticles, h⟩ := Option.bind_eq_some_iff.mp h
  obtain ⟨position, -, h⟩ := Option.bind_eq_some_iff.mp h
  split_ifs at h
  exact SessionState.currentGroupContains_iff.mpr ⟨articles, harticles, List.mem_of_getElem? h⟩

theorem contains_of_nextArticle {index : Option ArticleStoreIndex} {current : Nat}
    (h : state.currentGroupNextArticle current index = some article) :
    state.currentGroupContains article index = true := by
  unfold SessionState.currentGroupNextArticle at h
  obtain ⟨articles, harticles, h⟩ := Option.bind_eq_some_iff.mp h
  obtain ⟨position, -, h⟩ := Option.bind_eq_some_iff.mp h
  exact SessionState.currentGroupContains_iff.mpr ⟨articles, harticles, List.mem_of_getElem? h⟩

theorem fixture_of_points (h : state.Points none) (harticle : state.currentArticle = some article) :
    ∃ group, state.selectedGroup = some (.fixture group) ∧ article ∈ group.articleNumbers ∧
      state.currentGroupArticles none = some group.articleNumbers := by
  obtain ⟨articles, harticles, hmem⟩ := h.2 article harticle
  obtain ⟨group, hgroup, hnumbers⟩ := Option.bind_eq_some_iff.mp harticles
  cases group with
  | indexed name => cases hnumbers
  | fixture group =>
    have heq : group.articleNumbers = articles := Option.some.inj hnumbers
    exact ⟨group, hgroup, heq ▸ hmem, heq ▸ harticles⟩

/-- What LAST and NEXT share: the article they move to is one of the group, and the reply for it is
a success. -/
def Navigates (config : ServerConfig) (memory : SessionMemory) (move : Nat → Option Nat)
    (fixtureResponse : Nat → Bytes) : Prop :=
  ∀ current article, memory.sessionState.currentArticle = some current →
    move current = some article →
      memory.sessionState.currentGroupContains article config.articleIndex = true ∧
        (config.articleIndex = none → (fixtureResponse article).head? = some 50)

theorem navigates_last (hpoints : memory.sessionState.Points config.articleIndex) :
    Navigates config memory (previousArticle config memory) lastResponseForArticle := by
  intro current article hcurrent hmove
  unfold previousArticle at hmove
  split at hmove
  · next index hindex =>
    rw [hindex]
    exact ⟨contains_of_previousArticle hmove, fun hnone => by cases hnone⟩
  · next hindex =>
    rw [hindex] at hpoints ⊢
    obtain ⟨group, hgroup, hmem, harticles⟩ := fixture_of_points hpoints hcurrent
    have hall : ∀ group : FixtureGroup, ∀ current ∈ group.articleNumbers, ¬ current ≤ 1 →
        ∃ article ∈ group.articleNumbers, (lastResponseForArticle article).head? = some 50 ∧
          group.articleNumbers.idxOf? current = some article ∧
          group.articleNumbers[article - 1]? = some article := by
      intro group
      cases group <;> decide
    split_ifs at hmove with hone
    obtain ⟨previous, hprevious, hhead, hposition, hget⟩ := hall group current hmem hone
    have hposition' : previous ≠ 0 := by
      rintro rfl
      revert hprevious
      cases group <;> decide
    unfold SessionState.currentGroupPreviousArticle at hmove
    simp only [harticles, hposition, hget, hposition', Option.bind_eq_bind, Option.bind_some,
      if_false, Option.getD_some] at hmove
    rw [← Option.some.inj hmove]
    refine ⟨SessionState.currentGroupContains_iff.mpr ⟨_, harticles, hprevious⟩, fun _ => hhead⟩

theorem navigates_next (hpoints : memory.sessionState.Points config.articleIndex) :
    Navigates config memory (nextArticle config memory) nextResponseForArticle := by
  intro current article hcurrent hmove
  unfold nextArticle at hmove
  split at hmove
  · next index hindex =>
    rw [hindex]
    exact ⟨contains_of_nextArticle hmove, fun hnone => by cases hnone⟩
  · next hindex =>
    rw [hindex] at hpoints ⊢
    obtain ⟨group, hgroup, hmem, harticles⟩ := fixture_of_points hpoints hcurrent
    have hcount : memory.sessionState.articleCount none = group.articleNumbers.length := by
      rw [SessionState.articleCount, hgroup]
      rfl
    have hall : ∀ group : FixtureGroup, ∀ current ∈ group.articleNumbers,
        ¬ current ≥ group.articleNumbers.length →
          ∃ article ∈ group.articleNumbers, (nextResponseForArticle article).head? = some 50 ∧
            group.articleNumbers.idxOf? current = some (article - 2) ∧
            group.articleNumbers[article - 2 + 1]? = some article := by
      intro group
      cases group <;> decide
    rw [hcount] at hmove
    split_ifs at hmove with hlast
    obtain ⟨following, hfollowing, hhead, hposition, hget⟩ := hall group current hmem hlast
    unfold SessionState.currentGroupNextArticle at hmove
    simp only [harticles, hposition, hget, Option.bind_eq_bind, Option.bind_some,
      Option.getD_some] at hmove
    rw [← Option.some.inj hmove]
    exact ⟨SessionState.currentGroupContains_iff.mpr ⟨_, harticles, hfollowing⟩, fun _ => hhead⟩

theorem outcome_handleNavigation {move : Nat → Option Nat} {missing : Bytes}
    {fixtureResponse : Nat → Bytes} (hkind : kept.request.kind = .last ∨ kept.request.kind = .next)
    (hmissing : (Reply.response missing).isError = true)
    (hnavigates : Navigates config memory move fixtureResponse)
    (h : handleNavigation config memory move missing fixtureResponse = .ok handled) :
    Outcome config kept memory.sessionState handled.reply handled.memory.sessionState := by
  unfold handleNavigation at h
  split_ifs at h
  · rw [← Except.ok.inj h]
    exact .refused _ (isError_refusal _ (by simp [REFUSALS]))
  split at h
  · rw [← Except.ok.inj h]
    exact .refused _ (isError_refusal _ (by simp [REFUSALS]))
  next current hcurrent =>
  split at h
  · rw [← Except.ok.inj h]
    exact .refused _ hmissing
  next article hmove =>
  obtain ⟨hcontains, hhead⟩ := hnavigates current article hcurrent hmove
  have hmoved (reply : Reply) (herror : reply.isError = false) :
      Outcome config kept memory.sessionState reply
        { memory.sessionState with currentArticle := some article } := by
    refine .article reply article ?_ hcontains fun _ => herror
    rcases hkind with hkind | hkind
    · exact .inl hkind
    · exact .inr (.inl hkind)
  unfold navigateTo at h
  dsimp only at h
  split at h
  · next index hindex =>
    split at h
    · next response hresponse =>
      rw [← Except.ok.inj h]
      apply hmoved
      apply Reply.not_isError_of_head?
      obtain ⟨entry, -, rfl⟩ := Option.map_eq_some_iff.mp hresponse
      have hstatus : (ascii "223 ").head? = some 50 := by decide
      simp [SessionMemory.answerBuilt, Reply.bytes, clear, hstatus]
    · cases h
  · next hindex =>
    rw [← Except.ok.inj h]
    exact hmoved _ (Reply.not_isError_of_head? (hhead hindex))

theorem sessionState_handleListVariant (command : ParsedCommand)
    (commandLines : Option CommandLineBatch) (kind : RequestKind)
    (responseForIndexInto : Bytes → Bytes → ArticleStoreIndex → Bytes)
    (fixtureResponse : Bytes → Bytes) :
    (handleListVariant config command commandLines memory kind responseForIndexInto
      fixtureResponse).memory.sessionState = memory.sessionState := by
  unfold handleListVariant
  dsimp only
  split <;> rfl

theorem sessionState_handleNewGroups (command : ParsedCommand)
    (commandLines : Option CommandLineBatch) :
    (handleNewGroups config now command commandLines memory).memory.sessionState =
      memory.sessionState := by
  unfold handleNewGroups
  dsimp only
  split <;> rfl

theorem sessionState_handleNewNews (command : ParsedCommand)
    (commandLines : Option CommandLineBatch) :
    (handleNewNews config now command commandLines memory).memory.sessionState =
      memory.sessionState := by
  unfold handleNewNews
  dsimp only
  split <;> rfl

theorem sessionState_handleOverview (command : ParsedCommand)
    (commandLines : Option CommandLineBatch)
    (responseWithIndex : Bytes → Bytes → SessionState → ArticleStoreIndex → Built)
    (fixtureResponse : Bytes → SessionState → Bytes) :
    (handleOverview config command commandLines memory responseWithIndex
      fixtureResponse).memory.sessionState = memory.sessionState := by
  unfold handleOverview
  dsimp only
  repeat' split
  all_goals rfl

def movesPointer (kind : RequestKind) : Bool :=
  isRetrieval kind || kind = .group || kind = .listGroup || kind = .last || kind = .next

theorem sessionState_of_respond {command : ParsedCommand} {commandLines : Option CommandLineBatch}
    (hkind : movesPointer command.kind = false)
    (h : respond config now command commandLines memory = .ok handled) :
    handled.memory.sessionState = memory.sessionState := by
  unfold respond at h
  split at h
  all_goals
    rename_i heq
    rw [heq] at hkind
    first
    | exact absurd hkind (by decide)
    | rw [← Except.ok.inj h]
      first
      | rfl
      | simp only [sessionState_handleListVariant, sessionState_handleNewGroups,
          sessionState_handleNewNews, sessionState_handleOverview]

theorem outcome_of_respond (hpoints : memory.sessionState.Points config.articleIndex)
    (h : respond config now kept.command (some kept.commandLines) memory = .ok handled) :
    Outcome config kept memory.sessionState handled.reply handled.memory.sessionState := by
  -- What a command does to the state of a session.
  by_cases hmoves : movesPointer kept.command.kind = true
  · have hrespond := h
    rw [kept.kind_command] at hmoves
    simp only [movesPointer, isRetrieval, Bool.or_eq_true, decide_eq_true_eq] at hmoves
    unfold respond at hrespond
    rw [kept.kind_command] at hrespond
    rcases hmoves with ((((((hkind | hkind) | hkind) | hkind) | hkind) | hkind) | hkind) | hkind
    all_goals simp only [hkind] at hrespond
    · exact outcome_handleArticle hkind hpoints hrespond
    · exact outcome_handleRetrieval (by rw [hkind]; rfl) hpoints (fun hanswers => hanswers.body)
        head?_buildSelectedBodyResponseInto hrespond
    · exact outcome_handleRetrieval (by rw [hkind]; rfl) hpoints (fun _ => head?_headResponse)
        head?_buildSelectedHeadResponseInto hrespond
    · exact outcome_handleRetrieval (by rw [hkind]; rfl) hpoints (fun _ => head?_statResponse)
        head?_buildSelectedStatResponseInto hrespond
    · exact outcome_handleGroup hkind (Except.ok.inj hrespond)
    · exact outcome_handleListGroup hkind (Except.ok.inj hrespond)
    · exact outcome_handleNavigation (.inl hkind) (by decide) (navigates_last hpoints)
        hrespond
    · exact outcome_handleNavigation (.inr hkind) (by decide) (navigates_next hpoints)
        hrespond
  · rw [Bool.not_eq_true] at hmoves
    rw [sessionState_of_respond hmoves h]
    refine .unchanged _ fun hretrieval => ?_
    rw [kept.kind_command, movesPointer, hretrieval] at hmoves
    cases hmoves

end Arms

end NntpBench.Server
