import NntpBench.Server.CommandBatches
import NntpBench.Server.GroupWalks

namespace NntpBench.Server

open Protocol Terminator Writer ExceptBind
open Client.Vectored (vecSink)

variable {kind : RequestKind} {bytes first : Bytes} {dir : ArticleDir} {articleId : Option Nat}
  {file : StoredFile} {error : ServerError} {buildMessageId : Bytes → Str → Bytes}
  {buildSelected : Bytes → Nat → Bytes} {index : ArticleStoreIndex} {current target : Nat}
  {handled : Handled}

/-- An error of the writer, or of opening or reading a stored file. -/
inductive External (config : ServerConfig) : ServerError → Prop
  | write (error : WriteError) : External config (.write error)
  | opening (dir : ArticleDir) (path : List Bytes) (error : FileError)
    (hdir : config.articleDir = some dir) (hopen : dir.openFile path = .error error) :
    External config (.stored (.file error))
  | reading (dir : ArticleDir) (path : List Bytes) (file : StoredFile) (error : FileError)
    (hdir : config.articleDir = some dir) (hopen : dir.openFile path = .ok (some file))
    (hread : file.readError = some error) : External config (.stored (.file error))

/-- The bytes of every stored file that can be read are an article response. -/
def ArticleDir.Parses (dir : ArticleDir) : Prop :=
  ∀ path file, dir.openFile path = .ok (some file) → file.readError = none →
    ∃ article, Article.parse file.bytes = .ok (some article)

/-- The article has the part that the command asks for. -/
def Provides (kind : RequestKind) (article : Article) : Prop :=
  (kind = .head → article.headers.isSome = true) ∧ (kind = .body → article.body.isSome = true)

theorem buildStoredArticleResponse_ok_iff {article : Article} (hkind : kind ≠ .article)
    (hparse : Article.parse bytes = .ok (some article)) :
    (∃ response, buildStoredArticleResponse kind bytes = .ok response) ↔ Provides kind article := by
  obtain ⟨⟨number, hnumber, -⟩, -⟩ := Article.of_parse hparse
  unfold buildStoredArticleResponse Provides
  rw [if_neg hkind, hparse]
  simp only [hnumber]
  by_cases hhead : kind = .head
  · subst hhead
    cases article.headers <;> simp
  by_cases hbody : kind = .body
  · subst hbody
    cases article.body <;> simp
  · simp [hhead, hbody]

theorem not_external_of_build {config : ServerConfig} {error : StoredArticleError}
    (h : buildStoredArticleResponse kind bytes = .error error) :
    ¬ External config (.stored error) := by
  intro hexternal
  have hfile : ∃ fileError, error = .file fileError := by
    cases hexternal with
    | opening dir path fileError hdir hopen => exact ⟨fileError, rfl⟩
    | reading dir path file fileError hdir hopen hread => exact ⟨fileError, rfl⟩
  obtain ⟨fileError, rfl⟩ := hfile
  unfold buildStoredArticleResponse at h
  repeat' split at h
  all_goals cases h

theorem messageIdTreePath_of_messageId (messageId : MessageId) :
    ∃ path, messageIdTreePath (asBytes messageId.value) = some path := by
  have hvalid := messageId.valid
  simp only [validateMessageId, Bool.and_eq_true, decide_eq_true_eq] at hvalid
  unfold messageIdTreePath
  rw [if_neg (by omega)]
  exact ⟨_, rfl⟩

theorem exists_path_of_open_error {messageId : Option MessageId} {error : FileError}
    (h : openStoredArticleResponse dir articleId (messageId.map MessageId.value) = .error error) :
    ∃ path, dir.openFile path = .error error := by
  -- An error of opening is an error of the directory: the path of a message-id always fits.
  have hid : ∀ messageId : MessageId, openArticleResponse dir (.messageId messageId.value) =
      .error error → ∃ path, dir.openFile path = .error error := by
    intro messageId hopen
    obtain ⟨path, hpath⟩ := messageIdTreePath_of_messageId messageId
    rw [openArticleResponse, hpath] at hopen
    exact ⟨path, hopen⟩
  unfold openStoredArticleResponse at h
  cases articleId with
  | none =>
    cases messageId with
    | none => cases h
    | some messageId => exact hid messageId h
  | some articleId =>
    cases hnumber : openArticleResponse dir (.number articleId) with
    | error numberError =>
      simp only [hnumber] at h
      cases h
      exact ⟨_, hnumber⟩
    | ok found =>
      simp only [hnumber, ok_bind] at h
      cases found with
      | some file => cases h
      | none =>
        cases messageId with
        | none => cases h
        | some messageId => exact hid messageId h

section Stored

variable {config : ServerConfig} {dir : ArticleDir} (hdir : config.articleDir = some dir)

include hdir

theorem opened_of_storedArticleReply {messageId : Option Str}
    (h : storedArticleReply config kind articleId messageId = .ok (some (.file file))) :
    ∃ path, dir.openFile path = .ok (some file) := by
  unfold storedArticleReply at h
  simp only [hdir] at h
  split at h
  · cases h
  · cases h
  · next found hopen =>
    split_ifs at h with hkind
    · cases h
      exact exists_path_of_openStoredArticleResponse hopen
    · repeat' split at h
      all_goals cases h

variable (hparses : dir.Parses)

include hparses

/-- A reply from a stored file fails for a reason from outside, or because the file lacks the part.
-/
theorem storedArticleReply_error {messageId : Option MessageId}
    (h : storedArticleReply config kind articleId (messageId.map MessageId.value) = .error error) :
    External config error ∨ kind ≠ .article ∧
      ∃ file article,
        openStoredArticleResponse dir articleId (messageId.map MessageId.value) = .ok (some file) ∧
          file.readToEnd = .ok file.bytes ∧ Article.parse file.bytes = .ok (some article) ∧
          ¬ Provides kind article := by
  unfold storedArticleReply at h
  simp only [hdir] at h
  split at h
  · next fileError hopen =>
    cases h
    obtain ⟨path, hpath⟩ := exists_path_of_open_error hopen
    exact .inl (.opening dir path fileError hdir hpath)
  · cases h
  · next file hopen =>
    split_ifs at h with hkind
    obtain ⟨path, hpath⟩ := exists_path_of_openStoredArticleResponse hopen
    cases hread : file.readError with
    | some fileError =>
      simp only [StoredFile.readToEnd, hread] at h
      cases h
      exact .inl (.reading dir path file fileError hdir hpath hread)
    | none =>
      obtain ⟨article, harticle⟩ := hparses path file hpath hread
      have hbytes : file.readToEnd = .ok file.bytes := by rw [StoredFile.readToEnd, hread]
      refine .inr ⟨hkind, file, article, hopen, hbytes, harticle, ?_⟩
      rw [← buildStoredArticleResponse_ok_iff hkind harticle]
      rintro ⟨response, hresponse⟩
      simp only [hbytes, hresponse] at h
      cases h

omit hparses

/-- If the file that is opened lacks the part, the reply fails for a reason of the server's own. -/
theorem storedArticleReply_fails {messageId : Option Str} {article : Article}
    (hkind : kind ≠ .article)
    (hopen : openStoredArticleResponse dir articleId messageId = .ok (some file))
    (hread : file.readToEnd = .ok bytes) (hparse : Article.parse bytes = .ok (some article))
    (hlacks : ¬ Provides kind article) :
    ∃ error, storedArticleReply config kind articleId messageId = .error error ∧
      ¬ External config error := by
  cases hbuild : buildStoredArticleResponse kind bytes with
  | ok response =>
      exact absurd ((buildStoredArticleResponse_ok_iff hkind hparse).mp ⟨_, hbuild⟩) hlacks
  | error error =>
    refine ⟨.stored error, ?_, not_external_of_build hbuild⟩
    simp only [storedArticleReply, hdir, hopen, hkind, if_false, hread, hbuild]

end Stored

section Arms

variable {config : ServerConfig} {now : Nat} {kept : KeptCommand} {memory : SessionMemory}

/-- How a retrieval without an error finds its article: by its message-id, or by the number of the
selected article. -/
def retrievalKey (kept : KeptCommand) (memory : SessionMemory) : Option Nat × Option MessageId :=
  match kept.request.messageId with
  | some messageId => (none, some messageId)
  | none => (some (selectedArticleId kept.command memory), none)

theorem handleRetrieval_eq_error_iff :
    handleRetrieval config kept.command (some kept.commandLines) memory kind first buildMessageId
        buildSelected = .error error ↔
      articleSelectorError kept.command (some kept.commandLines) memory.sessionState config true =
        none ∧ storedArticleReply config kind (retrievalKey kept memory).1
          ((retrievalKey kept memory).2.map MessageId.value) = .error error := by
  -- HEAD, STAT and BODY fail exactly when the reply from the stored file does.
  unfold handleRetrieval retrievalKey
  rw [Option.bind_some, kept.commandMessageId_eq]
  cases articleSelectorError kept.command (some kept.commandLines) memory.sessionState config
    true with
  | some response => simp
  | none =>
    dsimp only
    cases kept.request.messageId with
    | some messageId =>
      simp only [Option.map_some, true_and]
      cases storedArticleReply config kind none (some messageId.value) with
      | error error => simp [bind, Except.bind]
      | ok reply =>
        simp only [ok_bind]
        repeat' split
        all_goals simp
    | none =>
      simp only [Option.map_none, true_and]
      cases storedArticleReply config kind (some (selectedArticleId kept.command memory)) none with
      | error error => simp [bind, Except.bind]
      | ok reply =>
        simp only [ok_bind]
        repeat' split
        all_goals simp

theorem handleArticle_error (hdir : config.articleDir = some dir) (hparses : dir.Parses)
    (h : handleArticle config kept.command (some kept.commandLines) memory = .error error) :
    External config error := by
  unfold handleArticle at h
  split at h
  · cases h
  · simp only [hdir, Option.isSome_some, if_true, Option.bind_some, kept.commandMessageId_eq] at h
    cases hreply : storedArticleReply config .article
        (if (kept.request.messageId.map MessageId.value).isSome = true then kept.command.articleId
          else kept.command.articleId.or memory.sessionState.currentArticle)
        (kept.request.messageId.map MessageId.value) with
    | error found =>
      rw [hreply] at h
      cases h
      exact (storedArticleReply_error hdir hparses hreply).resolve_right fun hfailed =>
        hfailed.1 rfl
    | ok reply =>
      rw [hreply, ok_bind] at h
      split at h
      all_goals cases h

theorem respond_other (h : isRetrieval kept.request.kind = false)
    (hlast : kept.request.kind ≠ .last)
    (hnext : kept.request.kind ≠ .next) :
    ∃ handled bytes, respond config now kept.command (some kept.commandLines) memory = .ok handled ∧
      handled.reply = .response bytes := by
  unfold respond
  rw [kept.kind_command]
  split
  all_goals
    rename_i hkind
    first
    | exact absurd hkind hlast
    | exact absurd hkind hnext
    | rw [hkind] at h
      exact absurd h (by decide)
    | exact ⟨_, _, rfl, rfl⟩
    | simp only [handleListVariant, handleGroup, handleListGroup, handleNewGroups, handleNewNews,
        handleOverview]
      repeat' split
      all_goals exact ⟨_, _, rfl, rfl⟩

def NAVIGATION_STATUSES : List Bytes := ["223", "412", "420", "421", "422"].map ascii

theorem handleNavigation_cases (hindex : config.articleIndex = some index) (move : Nat → Option Nat)
    {missing : Bytes} (fixtureResponse : Nat → Bytes)
    (hmissing : missing.take 3 ∈ NAVIGATION_STATUSES) :
    (∃ handled bytes, handleNavigation config memory move missing fixtureResponse = .ok handled ∧
        handled.close = false ∧ handled.reply = .response bytes ∧
          bytes.take 3 ∈ NAVIGATION_STATUSES) ∨
      handleNavigation config memory move missing fixtureResponse = .error .navigationNotFound ∧
        ∃ current target, memory.sessionState.currentArticle = some current ∧
          move current = some target ∧ index.articleEntry target = none := by
  unfold handleNavigation navigateTo buildNavigationArticleResponseInto
  simp only [hindex]
  split_ifs with hgroup
  · exact .inl ⟨_, _, rfl, rfl, rfl, by decide +kernel⟩
  cases hcurrent : memory.sessionState.currentArticle with
  | none => exact .inl ⟨_, _, rfl, rfl, rfl, by decide +kernel⟩
  | some current =>
    cases hmove : move current with
    | none => exact .inl ⟨memory.answer missing, missing, by simp [hmove], rfl, rfl, hmissing⟩
    | some target =>
      cases hentry : index.articleEntry target with
      | none => exact .inr ⟨by simp [hmove, hentry], current, target, rfl, hmove, hentry⟩
      | some entry =>
        left
        have hstatus : ((ascii "223 ").take 3) ∈ NAVIGATION_STATUSES := by decide +kernel
        refine ⟨_, _, by simp only [hmove, hentry, Option.map_some]; rfl, rfl, rfl, ?_⟩
        rw [clear, List.nil_append, List.append_assoc, List.append_assoc, List.append_assoc,
          List.append_assoc, List.take_append_of_le_length (by decide)]
        exact hstatus

theorem fixture_next (group : FixtureGroup) : ∀ current ∈ group.articleNumbers,
    ((group.articleNumbers.idxOf? current).bind fun position =>
      group.articleNumbers[position + 1]?) =
      if current + 1 ∈ group.articleNumbers then some (current + 1) else none := by
  cases group <;> decide

theorem fixture_previous (group : FixtureGroup) : ∀ current ∈ group.articleNumbers,
    ((group.articleNumbers.idxOf? current).bind fun position =>
        if position = 0 then none else group.articleNumbers[position - 1]?) =
      if current - 1 ∈ group.articleNumbers then some (current - 1) else none := by
  cases group <;> decide

theorem not_zero_mem_fixture (group : FixtureGroup) : 0 ∉ group.articleNumbers := by
  cases group <;> decide

/-- An article beside the current one, in the direction of the command. -/
def Beside (kind : RequestKind) (current target : Nat) : Prop :=
  kind = .next ∧ target = current + 1 ∨ kind = .last ∧ current = target + 1

/-- The article that LAST or NEXT moves to. -/
def movesTo (index : ArticleStoreIndex) (kind : RequestKind) (state : SessionState)
    (current : Nat) : Option Nat :=
  if kind = .next then state.currentGroupNextArticle current (some index)
  else state.currentGroupPreviousArticle current (some index)

theorem movesTo_fixture {state : SessionState} {group : FixtureGroup}
    (hkind : kind = .last ∨ kind = .next) (hgroup : state.selectedGroup = some (.fixture group))
    (hcurrent : current ∈ group.articleNumbers) :
    movesTo index kind state current = some target ↔
      target ∈ group.articleNumbers ∧ Beside kind current target := by
  -- In a fixture group these are the articles beside the current one.
  have harticles : state.currentGroupArticles (some index) = some group.articleNumbers := by
    rw [SessionState.currentGroupArticles, hgroup]
    rfl
  have hzero := not_zero_mem_fixture group
  unfold movesTo Beside SessionState.currentGroupNextArticle
    SessionState.currentGroupPreviousArticle
  simp only [harticles, Option.bind_eq_bind, Option.bind_some]
  rcases hkind with rfl | rfl
  · rw [if_neg (by decide), fixture_previous group current hcurrent]
    have hpos : current ≠ 0 := by
      rintro rfl
      exact hzero hcurrent
    split_ifs with hmem
    · simp only [Option.some.injEq, false_and, true_and, false_or]
      constructor
      · rintro rfl
        exact ⟨hmem, by omega⟩
      · rintro ⟨-, htarget⟩
        omega
    · simp only [false_and, true_and, false_or, false_iff]
      rintro ⟨htarget, rfl⟩
      exact hmem htarget
  · rw [if_pos rfl, fixture_next group current hcurrent]
    split_ifs with hmem
    · simp only [Option.some.injEq, false_and, true_and, or_false]
      constructor
      · rintro rfl
        exact ⟨hmem, rfl⟩
      · rintro ⟨-, htarget⟩
        omega
    · simp only [false_and, true_and, or_false, false_iff]
      rintro ⟨htarget, rfl⟩
      exact hmem htarget

theorem mem_of_movesTo {state : SessionState} (h : movesTo index kind state current = some target) :
    ∃ articles, state.currentGroupArticles (some index) = some articles ∧ current ∈ articles ∧
      target ∈ articles := by
  unfold movesTo at h
  split_ifs at h
  · obtain ⟨articles, harticles, h⟩ := Option.bind_eq_some_iff.mp h
    obtain ⟨position, hposition, h⟩ := Option.bind_eq_some_iff.mp h
    obtain ⟨hlt, hget, -⟩ := List.idxOf?_eq_some_iff.mp hposition
    exact ⟨articles, harticles, hget ▸ List.getElem_mem hlt, List.mem_of_getElem? h⟩
  · obtain ⟨articles, harticles, h⟩ := Option.bind_eq_some_iff.mp h
    obtain ⟨position, hposition, h⟩ := Option.bind_eq_some_iff.mp h
    obtain ⟨hlt, hget, -⟩ := List.idxOf?_eq_some_iff.mp hposition
    split_ifs at h
    exact ⟨articles, harticles, hget ▸ List.getElem_mem hlt, List.mem_of_getElem? h⟩

theorem respond_navigation (hindex : config.articleIndex = some index)
    (hkind : kept.request.kind = .last ∨ kept.request.kind = .next) :
    ∃ missing fixtureResponse, missing.take 3 ∈ NAVIGATION_STATUSES ∧
      respond config now kept.command (some kept.commandLines) memory =
        handleNavigation config memory (movesTo index kept.request.kind memory.sessionState) missing
          fixtureResponse := by
  unfold respond
  rw [kept.kind_command]
  rcases hkind with hkind | hkind
  · refine ⟨crlfText ["422 no previous article in this group"],
      lastResponseForArticle, by decide +kernel, ?_⟩
    rw [hkind]
    have hmove : previousArticle config memory = movesTo index .last memory.sessionState := by
      funext current
      simp [previousArticle, movesTo, hindex]
    dsimp only
    rw [handleLast, hmove]
  · refine ⟨crlfText ["421 no next article in this group"],
      nextResponseForArticle, by decide +kernel, ?_⟩
    rw [hkind]
    have hmove : nextArticle config memory = movesTo index .next memory.sessionState := by
      funext current
      simp [nextArticle, movesTo, hindex]
    dsimp only
    rw [handleNext, hmove]

theorem write_error {σ : Type} {writer : AsyncWrite UInt8 σ} {reply : Reply}
    {session : SessionWriter σ} (h : reply.write writer session = .error error) :
    (∃ writeError, error = .write writeError) ∨
      ∃ file fileError, reply = .file file ∧ file.readError = some fileError ∧
        error = .stored (.file fileError) := by
  have hmap {α : Type} {result : Except WriteError α}
      (hresult : result.mapError ServerError.write = .error error) :
      ∃ writeError, error = .write writeError := by
    cases result with
    | error writeError => exact ⟨writeError, (Except.error.inj hresult).symm⟩
    | ok value => cases hresult
  unfold Reply.write at h
  split at h
  · exact .inl (hmap h)
  · exact .inl (hmap h)
  · exact .inl (hmap h)
  · next file =>
    generalize hwritten : Except.mapError ServerError.write _ = written at h
    cases written with
    | error writeError =>
      cases h
      exact .inl (hmap hwritten)
    | ok written =>
      rw [ok_bind] at h
      split at h
      · next fileError hread => exact .inr ⟨file, fileError, rfl, hread, (Except.error.inj h).symm⟩
      · cases h

theorem opened_of_handleRetrieval (hdir : config.articleDir = some dir)
    (h : handleRetrieval config kept.command (some kept.commandLines) memory kind first
      buildMessageId buildSelected = .ok handled)
    (hfile : handled.reply = .file file) :
    ∃ path, dir.openFile path = .ok (some file) := by
  unfold handleRetrieval at h
  split at h
  · cases h
    cases hfile
  · split at h
    all_goals
      obtain ⟨reply, hreply, h⟩ := bind_eq_ok.mp h
      split at h
      · cases h
        cases hfile
        exact opened_of_storedArticleReply hdir hreply
      · split_ifs at h
        all_goals
          cases h
          cases hfile

theorem opened_of_handleArticle (hdir : config.articleDir = some dir)
    (h : handleArticle config kept.command (some kept.commandLines) memory = .ok handled)
    (hfile : handled.reply = .file file) : ∃ path, dir.openFile path = .ok (some file) := by
  unfold handleArticle at h
  split at h
  · cases h
    cases hfile
  · simp only [hdir, Option.isSome_some, if_true] at h
    obtain ⟨reply, hreply, h⟩ := bind_eq_ok.mp h
    split at h
    · cases h
      cases hfile
      exact opened_of_storedArticleReply hdir hreply
    · cases h
      cases hfile

theorem opened_of_respond (hdir : config.articleDir = some dir)
    (hindex : config.articleIndex = some index)
    (h : respond config now kept.command (some kept.commandLines) memory = .ok handled)
    (hfile : handled.reply = .file file) : ∃ path, dir.openFile path = .ok (some file) := by
  -- A reply that is a file is a file of the directory.
  by_cases hretrieval : isRetrieval kept.request.kind = true
  · unfold respond at h
    rw [kept.kind_command] at h
    simp only [isRetrieval, Bool.or_eq_true, decide_eq_true_eq] at hretrieval
    rcases hretrieval with ((hkind | hkind) | hkind) | hkind
    all_goals simp only [hkind] at h
    · exact opened_of_handleArticle hdir h hfile
    all_goals exact opened_of_handleRetrieval hdir h hfile
  · rw [Bool.not_eq_true] at hretrieval
    by_cases hkind : kept.request.kind = .last ∨ kept.request.kind = .next
    · obtain ⟨missing, fixtureResponse, hmissing, hrespond⟩ := respond_navigation hindex hkind
      rcases handleNavigation_cases hindex _ fixtureResponse hmissing with
        ⟨other, bytes, hother, -, hreply, -⟩ | hfails
      · rw [hrespond, hother] at h
        rw [← Except.ok.inj h, hreply] at hfile
        cases hfile
      · rw [hrespond, hfails.1] at h
        cases h
    · rw [not_or] at hkind
      obtain ⟨other, bytes, hother, hreply⟩ := respond_other hretrieval hkind.1 hkind.2
      rw [hother] at h
      rw [← Except.ok.inj h, hreply] at hfile
      cases hfile

/-- The command fails for no reason of the server's own, and LAST and NEXT are always answered. -/
structure Survives (config : ServerConfig) (now : Nat) (memory : SessionMemory)
    (kept : KeptCommand) : Prop where
  errors :
    ∀ {σ : Type} (writer : AsyncWrite UInt8 σ) (session : SessionWriter σ) (error : ServerError),
    handleCommand writer config now kept.command (some kept.commandLines) ⟨session, memory⟩ =
      .error error → External config error
  navigation : kept.request.kind = .last ∨ kept.request.kind = .next →
    ∃ handled, respond config now kept.command (some kept.commandLines) memory = .ok handled ∧
      handled.close = false ∧ handled.reply.bytes.take 3 ∈ NAVIGATION_STATUSES

/-- LAST and NEXT do not lead to an article of a fixture group that the index does not have, and
HEAD and BODY do not ask a stored response for a part it does not have. -/
structure Answerable (config : ServerConfig) (dir : ArticleDir) (index : ArticleStoreIndex)
    (memory : SessionMemory) (kept : KeptCommand) : Prop where
  navigation : ∀ group current target, memory.sessionState.selectedGroup = some (.fixture group) →
    memory.sessionState.currentArticle = some current → target ∈ group.articleNumbers →
      Beside kept.request.kind current target → (index.articleEntry target).isSome = true
  stored : kept.request.kind = .head ∨ kept.request.kind = .body →
    articleSelectorError kept.command (some kept.commandLines) memory.sessionState config true =
      none → ∀ file bytes article,
        openStoredArticleResponse dir (retrievalKey kept memory).1
            ((retrievalKey kept memory).2.map MessageId.value) = .ok (some file) →
          file.readToEnd = .ok bytes → Article.parse bytes = .ok (some article) →
            Provides kept.request.kind article

section Main

variable {dir : ArticleDir} {index : ArticleStoreIndex} (hdir : config.articleDir = some dir)
  (hbuild : ArticleStoreIndex.build dir.entries = .ok index)
  (hindex : config.articleIndex = some index)

section Enough

variable (hanswerable : Answerable config dir index memory kept)

include hanswerable

include hbuild in
theorem Answerable.entry (hkind : kept.request.kind = .last ∨ kept.request.kind = .next)
    (hcurrent : memory.sessionState.currentArticle = some current)
    (hmoves : movesTo index kept.request.kind memory.sessionState current = some target) :
    index.articleEntry target ≠ none := by
  obtain ⟨articles, harticles, hmem, htarget⟩ := mem_of_movesTo hmoves
  obtain ⟨group, hgroup, hnumbers⟩ := Option.bind_eq_some_iff.mp harticles
  cases group with
  | fixture group =>
    have hsame : group.articleNumbers = articles := Option.some.inj hnumbers
    rw [← hsame] at hmem
    obtain ⟨htarget, hbeside⟩ := (movesTo_fixture hkind hgroup hmem).mp hmoves
    have hsome := hanswerable.navigation group current target hgroup hcurrent htarget hbeside
    intro hnone
    rw [hnone] at hsome
    cases hsome
  | indexed name =>
    obtain ⟨stored, hstored, hsame⟩ := Option.map_eq_some_iff.mp hnumbers
    rw [← hsame] at htarget
    obtain ⟨entry, hentry⟩ := exists_entry_of_build hbuild hstored htarget
    rw [hentry]
    exact Option.some_ne_none entry

include hdir in
theorem Answerable.retrieval (hparses : dir.Parses)
    (h : handleRetrieval config kept.command (some kept.commandLines) memory kept.request.kind first
      buildMessageId buildSelected = .error error) : External config error := by
  obtain ⟨hselector, hreply⟩ := handleRetrieval_eq_error_iff.mp h
  rcases storedArticleReply_error hdir hparses hreply with
    hexternal | ⟨-, file, article, hopen, hread, hparse, hlacks⟩
  · exact hexternal
  · by_cases hkind : kept.request.kind = .head ∨ kept.request.kind = .body
    · exact absurd (hanswerable.stored hkind hselector file file.bytes article hopen hread hparse)
        hlacks
    · rw [not_or] at hkind
      exact absurd ⟨fun hhead => absurd hhead hkind.1, fun hbody => absurd hbody hkind.2⟩ hlacks

include hdir hbuild hindex

theorem Answerable.respond_error (hparses : dir.Parses)
    (h : respond config now kept.command (some kept.commandLines) memory = .error error) :
    External config error := by
  by_cases hretrieval : isRetrieval kept.request.kind = true
  · unfold respond at h
    rw [kept.kind_command] at h
    simp only [isRetrieval, Bool.or_eq_true, decide_eq_true_eq] at hretrieval
    rcases hretrieval with ((hkind | hkind) | hkind) | hkind
    all_goals simp only [hkind] at h
    · exact handleArticle_error hdir hparses h
    all_goals
      apply hanswerable.retrieval hdir hparses
      rw [hkind]
      exact h
  · rw [Bool.not_eq_true] at hretrieval
    by_cases hkind : kept.request.kind = .last ∨ kept.request.kind = .next
    · obtain ⟨missing, fixtureResponse, hmissing, hrespond⟩ := respond_navigation hindex hkind
      rcases handleNavigation_cases hindex _ fixtureResponse hmissing with
        ⟨handled, bytes, hhandled, -⟩ | ⟨-, current, target, hcurrent, hmoves, hentry⟩
      · rw [hrespond, hhandled] at h
        cases h
      · exact absurd hentry (hanswerable.entry hbuild hkind hcurrent hmoves)
    · rw [not_or] at hkind
      obtain ⟨handled, bytes, hhandled, -⟩ := respond_other hretrieval hkind.1 hkind.2
      rw [hhandled] at h
      cases h

theorem Answerable.survives (hparses : dir.Parses) : Survives config now memory kept where
  errors writer session error h := by
    unfold handleCommand at h
    cases hrespond : respond config now kept.command (some kept.commandLines) memory with
    | error found =>
      rw [hrespond] at h
      cases h
      exact hanswerable.respond_error hdir hbuild hindex hparses hrespond
    | ok handled =>
      simp only [hrespond, ok_bind] at h
      generalize hwritten : handled.reply.write writer _ = written at h
      cases written with
      | ok written => cases h
      | error found =>
        cases h
        rcases write_error hwritten with ⟨writeError, rfl⟩ | ⟨file, fileError, hfile, hread, rfl⟩
        · exact .write writeError
        · obtain ⟨path, hpath⟩ := opened_of_respond hdir hindex hrespond hfile
          exact .reading dir path file fileError hdir hpath hread
  navigation hkind := by
    obtain ⟨missing, fixtureResponse, hmissing, hrespond⟩ := respond_navigation hindex hkind
    rcases handleNavigation_cases hindex _ fixtureResponse hmissing with
      ⟨handled, bytes, hhandled, hclose, hreply, hstatus⟩ | ⟨-, current, target, hcurrent, hmoves,
        hentry⟩
    · refine ⟨handled, hrespond.trans hhandled, hclose, ?_⟩
      rw [hreply]
      exact hstatus
    · exact absurd hentry (hanswerable.entry hbuild hkind hcurrent hmoves)

end Enough

include hdir hindex

theorem Survives.answerable (hpoints : memory.sessionState.Points config.articleIndex)
    (hsurvives : Survives config now memory kept) : Answerable config dir index memory kept where
  navigation group current target hgroup hcurrent htarget hbeside := by
    -- A command that does not survive shows what it lacks.
    have hkind : kept.request.kind = .last ∨ kept.request.kind = .next := by
      rcases hbeside with hnext | hlast
      · exact .inr hnext.1
      · exact .inl hlast.1
    have hselected : memory.sessionState.groupSelected = true := hpoints.1.mpr (by rw [hgroup]; rfl)
    have hmem : current ∈ group.articleNumbers := by
      obtain ⟨articles, harticles, hmem⟩ := hpoints.2 current hcurrent
      rw [SessionState.currentGroupArticles, hgroup] at harticles
      rw [show group.articleNumbers = articles from Option.some.inj harticles]
      exact hmem
    have hmoves : movesTo index kept.request.kind memory.sessionState current = some target :=
      (movesTo_fixture hkind hgroup hmem).mpr ⟨htarget, hbeside⟩
    obtain ⟨missing, fixtureResponse, -, hrespond⟩ := respond_navigation hindex hkind
    obtain ⟨handled, hhandled, -⟩ := hsurvives.navigation hkind
    rw [hrespond] at hhandled
    -- without an entry the reply could not have been built
    cases hentry : index.articleEntry target with
    | some entry => rfl
    | none =>
      unfold handleNavigation navigateTo buildNavigationArticleResponseInto at hhandled
      simp [hselected, hcurrent, hmoves, hindex, hentry] at hhandled
  stored hkind hselector file bytes article hopen hread hparse := by
    by_contra hlacks
    have harticle : kept.request.kind ≠ .article := by
      rcases hkind with hkind | hkind
      all_goals
        rw [hkind]
        decide
    obtain ⟨error, hreply, hexternal⟩ := storedArticleReply_fails hdir harticle hopen hread hparse
      hlacks
    have hrespond : respond config now kept.command (some kept.commandLines) memory =
        .error error := by
      unfold respond
      rw [kept.kind_command]
      rcases hkind with hkind | hkind
      all_goals
        rw [hkind] at hreply ⊢
        exact handleRetrieval_eq_error_iff.mpr ⟨hselector, hreply⟩
    apply hexternal
    apply hsurvives.errors vecSink (⟨⟨(), []⟩, .new 1, ⟨0, 0, 0, 0⟩⟩ : SessionWriter Unit)
    unfold handleCommand
    rw [hrespond]
    rfl

end Main

end Arms

/-- With an index whose files are all article responses, a command in a reachable state is answered,
unless the writer or a file fails, exactly if LAST and NEXT do not lead to an article of a fixture
group that the index does not have, and HEAD and BODY do not ask a stored response for a part it
does not have. -/
theorem command_survives_iff_answerable {config : ServerConfig} {dir : ArticleDir}
    {index : ArticleStoreIndex}
    (hdir : config.articleDir = some dir) (hbuild : ArticleStoreIndex.build dir.entries = .ok index)
    (hindex : config.articleIndex = some index) (hparses : dir.Parses) {memory : SessionMemory}
    (hreachable : ReachableMemory config memory) (kept : KeptCommand) (now : Nat) :
    Survives config now memory kept ↔ Answerable config dir index memory kept :=
  ⟨fun hsurvives => hsurvives.answerable hdir hindex hreachable.points,
    fun hanswerable => hanswerable.survives hdir hbuild hindex hparses⟩

def openTwoArticles (path : List Bytes) : Option StoredFile :=
  (([1, 2].zip (collectArticlePaths twoArticles)).find? fun file =>
    articleIdTreePath file.1 = path).map Prod.snd

def openingServer : ServerConfig :=
  .fromBoundArgs id ⟨16, 16, .plain, some ⟨twoArticles, fun path => .ok (openTwoArticles path)⟩, 1⟩

def headCurrent : KeptCommand := .ofLine (ascii "HEAD\r\n") (by decide +kernel)

theorem provided_of_openTwoArticles {path : List Bytes} {file : StoredFile}
    (hopen : openTwoArticles path = some file) :
    ∃ article, file.readToEnd = .ok file.bytes ∧ Article.parse file.bytes = .ok (some article) ∧
      article.headers.isSome = true ∧ article.body.isSome = true := by
  obtain ⟨⟨number, found⟩, hfound, rfl⟩ := Option.map_eq_some_iff.mp hopen
  have hall : ∀ file ∈ collectArticlePaths twoArticles, file.readError = none ∧
      (Article.parse file.bytes).toOption.join.any
        (fun article => article.headers.isSome && article.body.isSome) = true := by
    decide +kernel
  obtain ⟨hread, hany⟩ := hall found (List.of_mem_zip (List.mem_of_find?_eq_some hfound)).2
  rw [Option.any_eq_true] at hany
  obtain ⟨article, harticle, hparts⟩ := hany
  refine ⟨article, ?_, ?_, Bool.and_eq_true_iff.mp hparts⟩
  · rw [StoredFile.readToEnd, hread]
  · cases hparse : Article.parse found.bytes with
    | error error =>
      rw [hparse] at harticle
      cases harticle
    | ok parsed =>
      rw [hparse] at harticle
      exact congrArg Except.ok harticle

/-- After `GROUP misc.test`, where HEAD opens the file of article 1. -/
theorem next_and_head_survive_after_group :
    ∃ memory file, ReachableMemory openingServer memory ∧
      memory.sessionState.selectedGroup = some (.indexed "misc.test".toList) ∧
      memory.sessionState.currentArticle = some 1 ∧
      openTwoArticles (articleIdTreePath (selectedArticleId headCurrent.command memory)) =
        some file ∧
      Survives openingServer 0 memory nextCommand ∧
        Survives openingServer 0 memory headCurrent := by
  obtain ⟨index, group, hbuild, hgroup, hlist⟩ := build_twoArticles
  have hindex : openingServer.articleIndex = some index := articleIndex_of_dir id rfl hbuild
  have hdir : openingServer.articleDir =
      some ⟨twoArticles, fun path => .ok (openTwoArticles path)⟩ := by
    rw [openingServer, ServerConfig.fromBoundArgs]
  have hparses : (⟨twoArticles, fun path => .ok (openTwoArticles path)⟩ : ArticleDir).Parses := by
    intro path file hopen _
    obtain ⟨article, -, hparse, -⟩ := provided_of_openTwoArticles (Except.ok.inj hopen)
    exact ⟨article, hparse⟩
  obtain ⟨memory, hreachable, hstate⟩ := exists_miscTest_selected hbuild hindex hgroup
  have hselected : memory.sessionState.selectedGroup = some (.indexed "misc.test".toList) := by
    rw [hstate]
    rfl
  have hcurrent : memory.sessionState.currentArticle = some 1 := by
    rw [hstate, SessionState.standingAt, hlist]
    rfl
  have hsurvives : ∀ kept : KeptCommand, Survives openingServer 0 memory kept := by
    intro kept
    refine (command_survives_iff_answerable hdir hbuild hindex hparses hreachable kept 0).mpr
      ⟨?_, ?_⟩
    · intro group current target hfixture
      rw [hselected] at hfixture
      cases hfixture
    · intro _ _ file bytes article hopen hread hparse
      obtain ⟨path, hpath⟩ := exists_path_of_openStoredArticleResponse hopen
      obtain ⟨found, hbytes, hfound, hheaders, hbody⟩ :=
        provided_of_openTwoArticles (Except.ok.inj hpath)
      obtain rfl : file.bytes = bytes := Except.ok.inj (hbytes.symm.trans hread)
      obtain rfl : found = article := Option.some.inj (Except.ok.inj (hfound.symm.trans hparse))
      exact ⟨fun _ => hheaders, fun _ => hbody⟩
  have harticleId : headCurrent.command.articleId = none := by decide +kernel
  have hopen : (openTwoArticles (articleIdTreePath 1)).isSome = true := by decide +kernel
  obtain ⟨file, hfile⟩ := Option.isSome_iff_exists.mp hopen
  refine ⟨_, file, hreachable, hselected, hcurrent, ?_, hsurvives nextCommand,
    hsurvives headCurrent⟩
  rw [selectedArticleId, harticleId, hcurrent]
  exact hfile

/-- `GROUP alt.test` selects the fixture group although there is an index. -/
def fixtureSelected : SessionMemory :=
  ⟨⟨true, some (.fixture .altTest), some 1⟩, [], crlfText ["211 3 1 3 alt.test"]⟩

def statServer : ServerConfig :=
  .fromBoundArgs id ⟨16, 16, .plain, some ⟨[], fun _ => .ok (some ⟨ascii "223 1 <a@b>\r\n", none⟩)⟩,
    1⟩

def headById : KeptCommand := .ofLine (ascii "HEAD <a@b>\r\n") (by decide +kernel)

/-- NEXT in a fixture group ends the session, and so does HEAD of a stored response without headers.
-/
theorem next_in_fixture_group_fails :
    ReachableMemory miscTestServer fixtureSelected ∧
      respond miscTestServer 0 nextCommand.command (some nextCommand.commandLines) fixtureSelected =
        .error .navigationNotFound ∧
      (Article.parse (ascii "223 1 <a@b>\r\n")).isOk = true ∧
      respond statServer 0 headById.command (some headById.commandLines) .initial =
        .error (.stored .missingHeaders) := by
  refine ⟨?_, by decide +kernel, by decide +kernel, by decide +kernel⟩
  have hgroup : respond miscTestServer 0 groupAltTest.command (some groupAltTest.commandLines)
    .initial =
      .ok ⟨.response (crlfText ["211 3 1 3 alt.test"]), fixtureSelected, false⟩ := by decide +kernel
  exact (ReachableMemory.initial miscTestServer).next groupAltTest hgroup

end NntpBench.Server
