import NntpBench.Server.GroupCommands
import NntpBench.Server.IndexBuild
import NntpBench.Server.Sessions

namespace NntpBench.Server

open Protocol Terminator ExceptBind

/-- Handles commands, each at its time, until one of them ends the session: the replies and what is
remembered. -/
def runCommands (config : ServerConfig) :
    List (KeptCommand × Nat) → SessionMemory → Except ServerError (List Reply × SessionMemory)
  | [], memory => .ok ([], memory)
  | (kept, now) :: commands, memory => do
    let handled ← respond config now kept.command (some kept.commandLines) memory
    if handled.close then .ok ([handled.reply], handled.memory)
    else do
      let (replies, memory) ← runCommands config commands handled.memory
      .ok (handled.reply :: replies, memory)

theorem runCommands_cons {config : ServerConfig} {kept : KeptCommand} {now : Nat}
    {memory : SessionMemory}
    {handled : Handled} {commands : List (KeptCommand × Nat)} {replies : List Reply}
    {final : SessionMemory}
    (hhandled : respond config now kept.command (some kept.commandLines) memory = .ok handled)
    (hclose : handled.close = false)
    (hrest : runCommands config commands handled.memory = .ok (replies, final)) :
    runCommands config ((kept, now) :: commands) memory =
      .ok (handled.reply :: replies, final) := by
  rw [runCommands, hhandled, ok_bind, hclose, hrest]
  rfl

/-- The session is at a position of an indexed group. -/
def SessionState.standingAt (groupName : Str) (group : ArticleStoreGroup)
    (position : Nat) : SessionState :=
  ⟨true, some (.indexed groupName), group.articleNumbers[position]?⟩

/-- The reply names an article and the message-id of its entry. -/
def Names (index : ArticleStoreIndex) (articleNumber : Nat) (reply : Reply) : Prop :=
  ∃ entry, index.articleEntry articleNumber = some entry ∧
    reply = .response (ascii "223 " ++ decimalText articleNumber ++ ascii " " ++
      asBytes entry.messageId ++ ascii " article retrieved - request text separately" ++ CRLF)

def NO_NEXT_ARTICLE : Bytes := crlfText ["421 no next article in this group"]

def NO_PREVIOUS_ARTICLE : Bytes := crlfText ["422 no previous article in this group"]

theorem idxOf?_getElem {numbers : List Nat} (hsorted : numbers.Pairwise (· < ·))
    {position articleNumber : Nat}
    (h : numbers[position]? = some articleNumber) : numbers.idxOf? articleNumber =
      some position := by
  obtain ⟨hlt, rfl⟩ := List.getElem?_eq_some_iff.mp h
  rw [List.idxOf?_eq_some_iff]
  refine ⟨hlt, rfl, ?_⟩
  intro earlier hearlier hequal
  have hless := List.pairwise_iff_getElem.mp hsorted earlier position (by omega) hlt hearlier
  omega

section Walk

variable {config : ServerConfig} {index : ArticleStoreIndex} {groupName : Str}
  {group : ArticleStoreGroup}
  {memory : SessionMemory} {position current : Nat}

section Moves

variable (hgroup : index.groups[groupName]? = some group)
  (hcurrent : group.articleNumbers[position]? = some current)

include hgroup

theorem currentGroupArticles_standingAt :
    (SessionState.standingAt groupName group position).currentGroupArticles (some index) =
      some group.articleNumbers := by
  show (index.groups[groupName]?).map ArticleStoreGroup.articleNumbers = some group.articleNumbers
  rw [hgroup]
  rfl

include hcurrent

theorem currentGroupNextArticle_standingAt :
    (SessionState.standingAt groupName group position).currentGroupNextArticle current
      (some index) = group.articleNumbers[position + 1]? := by
  unfold SessionState.currentGroupNextArticle
  rw [currentGroupArticles_standingAt hgroup]
  simp [idxOf?_getElem group.sorted hcurrent]

theorem currentGroupPreviousArticle_standingAt :
    (SessionState.standingAt groupName group position).currentGroupPreviousArticle current
      (some index) = if position = 0 then none else group.articleNumbers[position - 1]? := by
  unfold SessionState.currentGroupPreviousArticle
  rw [currentGroupArticles_standingAt hgroup]
  simp [idxOf?_getElem group.sorted hcurrent]

end Moves

theorem handleNavigation_names {move : Nat → Option Nat} {missing : Bytes}
    {fixtureResponse : Nat → Bytes}
    {target position' : Nat} {entry : ArticleStoreEntry} (hindex : config.articleIndex = some index)
    (hstate : memory.sessionState = .standingAt groupName group position)
    (hcurrent : group.articleNumbers[position]? = some current) (hmove : move current = some target)
    (htarget : group.articleNumbers[position']? = some target)
    (hentry : index.articleEntry target = some entry) :
    ∃ handled, handleNavigation config memory move missing fixtureResponse = .ok handled ∧
      handled.close = false ∧ Names index target handled.reply ∧
        handled.memory.sessionState = .standingAt groupName group position' := by
  have hhandled : handleNavigation config memory move missing fixtureResponse =
      .ok ((memory.withCurrentArticle (some target)).answerBuilt
        (ascii "223 " ++ decimalText target ++
        ascii " " ++ asBytes entry.messageId ++
          ascii " article retrieved - request text separately" ++ CRLF)) := by
    unfold handleNavigation navigateTo buildNavigationArticleResponseInto
    rw [hstate]
    simp only [SessionState.standingAt, hcurrent, hmove, hindex, hentry]
    rfl
  refine ⟨_, hhandled, rfl, ⟨entry, hentry, rfl⟩, ?_⟩
  rw [SessionState.standingAt, htarget]
  simp [SessionMemory.answerBuilt, SessionMemory.withCurrentArticle, hstate,
    SessionState.standingAt]

theorem handleNavigation_missing {move : Nat → Option Nat} {missing : Bytes}
    {fixtureResponse : Nat → Bytes}
    (hstate : memory.sessionState = .standingAt groupName group position)
    (hcurrent : group.articleNumbers[position]? = some current) (hmove : move current = none) :
    handleNavigation config memory move missing fixtureResponse = .ok (memory.answer missing) := by
  unfold handleNavigation
  rw [hstate]
  simp only [SessionState.standingAt, hcurrent, hmove]
  rfl

section Steps

variable {root : List DirEntry} {kept : KeptCommand} (now : Nat)
  (hbuild : ArticleStoreIndex.build root = .ok index) (hindex : config.articleIndex = some index)
  (hgroup : index.groups[groupName]? = some group)
  (hstate : memory.sessionState = .standingAt groupName group position)
  (hcurrent : group.articleNumbers[position]? = some current)

include hbuild hindex hgroup hstate hcurrent

theorem respond_next_names {target : Nat} (hkind : kept.request.kind = .next)
    (htarget : group.articleNumbers[position + 1]? = some target) :
    ∃ handled, respond config now kept.command (some kept.commandLines) memory = .ok handled ∧
      handled.close = false ∧ Names index target handled.reply ∧
        handled.memory.sessionState = .standingAt groupName group (position + 1) := by
  obtain ⟨entry, hentry⟩ := exists_entry_of_build hbuild hgroup (List.mem_of_getElem? htarget)
  rw [respond, kept.kind_command, hkind]
  apply handleNavigation_names hindex hstate hcurrent _ htarget hentry
  rw [nextArticle, hindex, hstate, ← htarget]
  exact currentGroupNextArticle_standingAt hgroup hcurrent

theorem respond_last_names {target : Nat} (hkind : kept.request.kind = .last) (hpos : position ≠ 0)
    (htarget : group.articleNumbers[position - 1]? = some target) :
    ∃ handled, respond config now kept.command (some kept.commandLines) memory = .ok handled ∧
      handled.close = false ∧ Names index target handled.reply ∧
        handled.memory.sessionState = .standingAt groupName group (position - 1) := by
  obtain ⟨entry, hentry⟩ := exists_entry_of_build hbuild hgroup (List.mem_of_getElem? htarget)
  rw [respond, kept.kind_command, hkind]
  apply handleNavigation_names hindex hstate hcurrent _ htarget hentry
  rw [previousArticle, hindex, hstate, ← htarget]
  show SessionState.currentGroupPreviousArticle _ current (some index) = _
  rw [currentGroupPreviousArticle_standingAt hgroup hcurrent, if_neg hpos]

omit hbuild

theorem respond_next_missing (hkind : kept.request.kind = .next)
    (hlast : group.articleNumbers[position + 1]? = none) :
    respond config now kept.command (some kept.commandLines) memory =
      .ok (memory.answer NO_NEXT_ARTICLE) := by
  rw [respond, kept.kind_command, hkind]
  apply handleNavigation_missing hstate hcurrent
  rw [nextArticle, hindex, hstate, ← hlast]
  exact currentGroupNextArticle_standingAt hgroup hcurrent

theorem respond_last_missing (hkind : kept.request.kind = .last) (hfirst : position = 0) :
    respond config now kept.command (some kept.commandLines) memory =
      .ok (memory.answer NO_PREVIOUS_ARTICLE) := by
  rw [respond, kept.kind_command, hkind]
  apply handleNavigation_missing hstate hcurrent
  rw [previousArticle, hindex, hstate]
  show SessionState.currentGroupPreviousArticle _ current (some index) = _
  rw [currentGroupPreviousArticle_standingAt hgroup hcurrent, if_pos hfirst]

end Steps

theorem respond_group {root : List DirEntry} {kept : KeptCommand} (now : Nat)
    (memory : SessionMemory)
    (hbuild : ArticleStoreIndex.build root = .ok index) (hindex : config.articleIndex = some index)
    (hgroup : index.groups[groupName]? = some group) (hkind : kept.request.kind = .group)
    (hargs : lineArgs kept.line = asBytes groupName) :
    ∃ handled, respond config now kept.command (some kept.commandLines) memory = .ok handled ∧
      handled.close = false ∧ handled.memory.sessionState = .standingAt groupName group 0 := by
  have htrim := trim_of_build hbuild hgroup
  have hnumbers : index.articleNumbersForGroup (trim groupName) = some group.articleNumbers := by
    rw [htrim, ArticleStoreIndex.articleNumbersForGroup, hgroup]
    rfl
  rw [respond, kept.kind_command, hkind]
  dsimp only
  rw [handleGroup_indexed hargs hindex hnumbers]
  refine ⟨_, rfl, rfl, ?_⟩
  rw [SessionState.standingAt, ← List.head?_eq_getElem?, htrim]
  rfl

theorem not_success_missing : (Reply.response NO_NEXT_ARTICLE).isSuccess = false ∧
    (Reply.response NO_PREVIOUS_ARTICLE).isSuccess = false := by
  decide

def AnswersNext (index : ArticleStoreIndex) (group : ArticleStoreGroup) (position : Nat)
    (reply : Reply) : Prop :=
  match group.articleNumbers[position]? with
  | some articleNumber => Names index articleNumber reply
  | none => reply = .response NO_NEXT_ARTICLE

theorem AnswersNext.beyond {position position' : Nat} {reply : Reply}
    (h : AnswersNext index group position reply) (hend : group.articleNumbers.length ≤ position)
    (hend' : group.articleNumbers.length ≤ position') : AnswersNext index group position'
      reply := by
  unfold AnswersNext at h ⊢
  rw [List.getElem?_eq_none hend] at h
  rw [List.getElem?_eq_none hend']
  exact h

theorem runCommands_next {root : List DirEntry} (hbuild : ArticleStoreIndex.build root = .ok index)
    (hindex : config.articleIndex = some index) (hgroup : index.groups[groupName]? = some group)
    (commands : List (KeptCommand × Nat))
    (hnext : ∀ command ∈ commands, command.1.request.kind = .next)
    (memory : SessionMemory) (position : Nat) (hposition : position < group.articleNumbers.length)
    (hstate : memory.sessionState = .standingAt groupName group position) :
    ∃ replies final, runCommands config commands memory = .ok (replies, final) ∧
      replies.length = commands.length ∧
      (∀ i reply, replies[i]? = some reply → AnswersNext index group (position + 1 + i) reply) ∧
      final.sessionState =
        .standingAt groupName group
          (min (position + commands.length) (group.articleNumbers.length - 1)) := by
  -- NEXT, any number of times.
  induction commands generalizing memory position with
  | nil =>
    refine ⟨[], memory, rfl, rfl, by simp, ?_⟩
    rw [hstate, List.length_nil, Nat.add_zero, Nat.min_eq_left (by omega)]
  | cons command commands ih =>
    obtain ⟨kept, now⟩ := command
    have hkind : kept.request.kind = .next := hnext _ List.mem_cons_self
    have hrest : ∀ command ∈ commands, command.1.request.kind = .next := fun command hmem =>
      hnext command (List.mem_cons_of_mem _ hmem)
    have hcurrent := List.getElem?_eq_getElem hposition
    by_cases hmore : position + 1 < group.articleNumbers.length
    · have htarget := List.getElem?_eq_getElem hmore
      obtain ⟨handled, hhandled, hclose, hnames, hmoved⟩ :=
        respond_next_names now hbuild hindex hgroup hstate hcurrent hkind htarget
      obtain ⟨replies, final, hrun, hlength, hreplies, hfinal⟩ :=
        ih hrest handled.memory (position + 1) hmore hmoved
      refine ⟨handled.reply :: replies, final, runCommands_cons hhandled hclose
        hrun, by simp [hlength], ?_, ?_⟩
      · intro i reply hreply
        cases i with
        | zero =>
          rw [← Option.some.inj hreply, AnswersNext, Nat.add_zero, htarget]
          exact hnames
        | succ i =>
          rw [show position + 1 + (i + 1) = position + 1 + 1 + i by omega]
          exact hreplies i reply hreply
      · have hsum : position + 1 + commands.length = position + (commands.length + 1) := by omega
        rw [hfinal, List.length_cons, hsum]
    · -- at the last article, where the session stays
      have hnone : group.articleNumbers[position + 1]? = none := List.getElem?_eq_none (by omega)
      have hhandled := respond_next_missing now hindex hgroup hstate hcurrent hkind hnone
      obtain ⟨replies, final, hrun, hlength, hreplies, hfinal⟩ :=
        ih hrest memory position hposition hstate
      refine ⟨_ :: replies, final, runCommands_cons hhandled rfl hrun, by simp [hlength], ?_, ?_⟩
      · intro i reply hreply
        cases i with
        | zero =>
          rw [← Option.some.inj hreply, AnswersNext, Nat.add_zero, hnone]
          rfl
        | succ i => exact (hreplies i reply hreply).beyond (by omega) (by omega)
      · rw [hfinal, List.length_cons, Nat.min_eq_right (by omega), Nat.min_eq_right (by omega)]

/-- What GROUP, NEXT and LAST do in an indexed group. -/
structure Walks (config : ServerConfig) (index : ArticleStoreIndex) (groupName : Str)
    (group : ArticleStoreGroup) : Prop where
  /-- After GROUP, NEXT names the second article, the third and so on, and from then on there is no
  next one. -/
  forward :
    ∀ (kept : KeptCommand) (now : Nat) (nexts : List (KeptCommand × Nat)) (memory : SessionMemory),
    kept.request.kind = .group → lineArgs kept.line = asBytes groupName →
      (∀ command ∈ nexts, command.1.request.kind = .next) →
        ∃ reply replies final,
          runCommands config ((kept, now) :: nexts) memory = .ok (reply :: replies, final) ∧
          replies.length = nexts.length ∧
          (∀ i reply, replies[i]? = some reply → AnswersNext index group (i + 1) reply) ∧
          final.sessionState =
            .standingAt groupName group (min nexts.length (group.articleNumbers.length - 1))
  /-- LAST names the article before the current one, if there is one. -/
  backward : ∀ (kept : KeptCommand) (now : Nat) (memory : SessionMemory) (position : Nat),
    kept.request.kind = .last → position < group.articleNumbers.length →
      memory.sessionState = .standingAt groupName group position →
        ∃ handled, respond config now kept.command (some kept.commandLines) memory = .ok handled ∧
          if position = 0 then
            handled.reply = .response NO_PREVIOUS_ARTICLE ∧
              handled.memory.sessionState = memory.sessionState
          else
            (∃ articleNumber, group.articleNumbers[position - 1]? = some articleNumber ∧
              Names index articleNumber handled.reply) ∧
              handled.memory.sessionState = .standingAt groupName group (position - 1)
  /-- LAST takes a NEXT back that has succeeded, and NEXT takes such a LAST back. -/
  undone : ∀ (kept kept' : KeptCommand) (now now' : Nat) (memory : SessionMemory) (position : Nat)
    (handled : Handled),
    kept.request.kind = .next ∧ kept'.request.kind = .last ∨
        kept.request.kind = .last ∧ kept'.request.kind = .next →
      position < group.articleNumbers.length →
        memory.sessionState = .standingAt groupName group position →
          respond config now kept.command (some kept.commandLines) memory = .ok handled →
            handled.reply.isSuccess = true →
              ∃ handled', respond config now' kept'.command (some kept'.commandLines)
                handled.memory = .ok handled' ∧
                handled'.memory.sessionState = memory.sessionState

theorem walks_of_build {root : List DirEntry} (hbuild : ArticleStoreIndex.build root = .ok index)
    (hindex : config.articleIndex = some index) (hgroup : index.groups[groupName]? = some group) :
    Walks config index groupName group where
  forward kept now nexts memory hkind hargs hnexts := by
    have hpos : 0 < group.articleNumbers.length :=
      List.length_pos_iff.mpr (nonempty_of_build hbuild hgroup)
    obtain ⟨handled, hhandled, hclose, hstate⟩ :=
      respond_group now memory hbuild hindex hgroup hkind hargs
    obtain ⟨replies, final, hrun, hlength, hreplies, hfinal⟩ :=
      runCommands_next hbuild hindex hgroup nexts hnexts handled.memory 0 hpos hstate
    refine ⟨_, replies, final, runCommands_cons hhandled hclose hrun, hlength, ?_, ?_⟩
    · intro i reply hreply
      rw [Nat.add_comm i]
      exact hreplies i reply hreply
    · rw [hfinal, Nat.zero_add]
  backward kept now memory position hkind hposition hstate := by
    have hcurrent := List.getElem?_eq_getElem hposition
    by_cases hfirst : position = 0
    · refine ⟨_, respond_last_missing now hindex hgroup hstate hcurrent hkind hfirst, ?_⟩
      rw [if_pos hfirst]
      exact ⟨rfl, rfl⟩
    · have htarget :=
        List.getElem?_eq_getElem (show position - 1 < group.articleNumbers.length by omega)
      obtain ⟨handled, hhandled, -, hnames, hmoved⟩ :=
        respond_last_names now hbuild hindex hgroup hstate hcurrent hkind hfirst htarget
      refine ⟨handled, hhandled, ?_⟩
      rw [if_neg hfirst]
      exact ⟨⟨_, htarget, hnames⟩, hmoved⟩
  undone kept kept' now now' memory position handled hkinds hposition hstate hhandled hsuccess := by
    have hcurrent := List.getElem?_eq_getElem hposition
    rcases hkinds with ⟨hkind, hkind'⟩ | ⟨hkind, hkind'⟩
    · by_cases hmore : position + 1 < group.articleNumbers.length
      · have htarget := List.getElem?_eq_getElem hmore
        obtain ⟨moved, hmoved, -, -, hstate'⟩ :=
          respond_next_names now hbuild hindex hgroup hstate hcurrent hkind htarget
        rw [hhandled] at hmoved
        rw [← Except.ok.inj hmoved] at hstate'
        obtain ⟨back, hback, -, -, hrestored⟩ :=
          respond_last_names now' hbuild hindex hgroup hstate' htarget
          hkind' (Nat.succ_ne_zero position) hcurrent
        exact ⟨back, hback, hrestored.trans hstate.symm⟩
      · rw [respond_next_missing now hindex hgroup hstate hcurrent hkind
          (List.getElem?_eq_none (by omega))] at hhandled
        rw [← Except.ok.inj hhandled] at hsuccess
        exact absurd (not_success_missing.1.symm.trans hsuccess) Bool.false_ne_true
    · by_cases hfirst : position = 0
      · rw [respond_last_missing now hindex hgroup hstate hcurrent hkind hfirst] at hhandled
        rw [← Except.ok.inj hhandled] at hsuccess
        exact absurd (not_success_missing.2.symm.trans hsuccess) Bool.false_ne_true
      · have htarget :=
          List.getElem?_eq_getElem (show position - 1 < group.articleNumbers.length by omega)
        obtain ⟨moved, hmoved, -, -, hstate'⟩ :=
          respond_last_names now hbuild hindex hgroup hstate hcurrent hkind hfirst htarget
        rw [hhandled] at hmoved
        rw [← Except.ok.inj hmoved] at hstate'
        have hposition' : position - 1 + 1 = position := by omega
        have hcurrent' : group.articleNumbers[position - 1 + 1]? =
            some (group.articleNumbers.get ⟨position, hposition⟩) := by
          rw [hposition']
          exact hcurrent
        obtain ⟨back, hback, -, -, hrestored⟩ :=
          respond_next_names now' hbuild hindex hgroup hstate' htarget hkind' hcurrent'
        rw [hposition'] at hrestored
        exact ⟨back, hback, hrestored.trans hstate.symm⟩

end Walk

theorem exists_miscTest_selected {config : ServerConfig} {index : ArticleStoreIndex}
    {group : ArticleStoreGroup} (hbuild : ArticleStoreIndex.build twoArticles = .ok index)
    (hindex : config.articleIndex = some index)
    (hgroup : index.groups["misc.test".toList]? = some group) :
    ∃ memory, ReachableMemory config memory ∧
      memory.sessionState = SessionState.standingAt "misc.test".toList group 0 := by
  have hkind : groupMiscTest.request.kind = .group := by decide +kernel
  obtain ⟨handled, hhandled, -, hstate⟩ :=
    respond_group 0 .initial hbuild hindex hgroup hkind (by decide +kernel)
  exact ⟨_, (ReachableMemory.initial config).next groupMiscTest hhandled, hstate⟩

def twoArticlesServer : ServerConfig :=
  .fromBoundArgs id ⟨16, 16, .plain, some ⟨twoArticles, fun _ => .ok none⟩, 1⟩

def nextCommand : KeptCommand := .ofLine (ascii "NEXT\r\n") (by decide +kernel)

theorem walk_of_two_articles :
    ∃ index group reply replies final,
      twoArticlesServer.articleIndex = some index ∧ index.groups["misc.test".toList]? = some group ∧
      runCommands twoArticlesServer [(groupMiscTest, 0), (nextCommand, 0), (nextCommand, 0)]
        .initial = .ok (reply :: replies, final) ∧
      replies.length = 2 ∧ ∀ i reply, replies[i]? = some reply →
        AnswersNext index group (i + 1) reply := by
  obtain ⟨index, group, hbuild, hgroup, -⟩ := build_twoArticles
  have hindex : twoArticlesServer.articleIndex = some index := articleIndex_of_dir id rfl hbuild
  obtain ⟨reply, replies, final, hrun, hlength, hreplies, -⟩ :=
    (walks_of_build hbuild hindex hgroup).forward groupMiscTest 0 [(nextCommand, 0),
      (nextCommand, 0)] .initial
      (by decide +kernel) (by decide +kernel) (by decide +kernel)
  exact ⟨index, group, reply, replies, final, hindex, hgroup, hrun, hlength, hreplies⟩

end NntpBench.Server
