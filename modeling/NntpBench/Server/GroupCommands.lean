import NntpBench.Server.Sessions

namespace NntpBench.Server

open Protocol Terminator

variable {fixture : FixtureGroup} {index : ArticleStoreIndex} {name : Str} {articles : List Nat}

def groupLine (group : GroupName) : Bytes := commandBytes (ascii "GROUP") (asBytes group.value)

def listgroupLine (group : GroupName) : Bytes :=
  commandBytes (ascii "LISTGROUP") (asBytes group.value)

theorem lineArgs_eq_splitVerb (line : Bytes) : lineArgs line =
    (splitVerb (lineContent line)).2 := by
  unfold lineArgs splitVerb
  dsimp only
  cases hfind : (lineContent line).findIdx? isCommandWs with
  | none => simp
  | some split =>
    have hlt : split < (lineContent line).length :=
      (List.findIdx?_eq_some_iff_findIdx_eq.mp hfind).1
    simp [hlt]

theorem lineArgs_commandBytes {verb args : Bytes} (hverb : IsArgument verb) (hargs : Spaced args) :
    lineArgs (commandBytes verb args) = args := by
  rw [lineArgs_eq_splitVerb, lineContent, stripCompleteCrlfLine_commandBytes hverb hargs,
    Option.getD_some, splitVerb_line hverb hargs]

theorem kind_groupCommand {verb : Bytes} {kind : RequestKind} (group : GroupName)
    (hverb : (verb, CommandKind.direct kind) ∈ COMMAND_DESCRIPTORS) (hargument : IsArgument verb)
    (hlength : verb.length ≤ 9)
    (hdirect : classifyDirectCommand kind (asBytes group.value) = kind) (hauth : kind ≠ .authInfo) :
    (RequestLine.parse (commandBytes verb (asBytes group.value))).kind =
      if (asBytes group.value).length ≤ MAX_COMMAND_ARGUMENT_BYTES then kind else .unknown := by
  -- A command with a group name is what its verb says, unless the name is too long.
  have hspaced := group.isArgument.visible.spaced
  have hclass : classifyRequestKind verb (asBytes group.value) = kind := by
    rw [classifyRequestKind_direct hverb, hdirect]
  have hline : (commandBytes verb (asBytes group.value)).length =
      verb.length + (asBytes group.value).length + 3 := by
    have hcrlf : CRLF.length = 2 := rfl
    unfold commandBytes
    rw [if_neg group.isArgument.nonempty]
    simp only [List.length_append, List.length_cons, hcrlf]
    omega
  split_ifs with hlimit
  · have hshort : (commandBytes verb (asBytes group.value)).length ≤
        MAX_INITIAL_RESPONSE_LINE_BYTES := by
      unfold MAX_COMMAND_ARGUMENT_BYTES at hlimit
      unfold MAX_INITIAL_RESPONSE_LINE_BYTES
      omega
    rw [parse_commandBytes hargument hspaced hshort hlimit]
    exact hclass
  · by_cases hsasl : (commandBytes verb (asBytes group.value)).length ≤
        MAX_AUTHINFO_SASL_COMMAND_LINE_BYTES
    · rw [parse_commandBytes_eq hargument hspaced hsasl, if_pos]
      refine ⟨.inr (Nat.lt_of_not_le hlimit), ?_⟩
      rw [hclass]
      exact hauth
    · unfold RequestLine.parse
      rw [if_pos (Nat.lt_of_not_le hsasl)]

theorem kind_groupLine (group : GroupName) :
    (RequestLine.parse (groupLine group)).kind =
      if (asBytes group.value).length ≤ MAX_COMMAND_ARGUMENT_BYTES then .group else .unknown := by
  refine kind_groupCommand group (by decide) ⟨by decide, by decide⟩ (by decide) ?_ (by decide)
  unfold classifyDirectCommand kindIf
  simp only [validateUtf8Arg_asBytes, group.valid, if_true]

theorem kind_listgroupLine (group : GroupName) :
    (RequestLine.parse (listgroupLine group)).kind =
      if (asBytes group.value).length ≤ MAX_COMMAND_ARGUMENT_BYTES then .listGroup
        else .unknown := by
  refine kind_groupCommand group (by decide) ⟨by decide, by decide⟩ (by decide) ?_ (by decide)
  unfold classifyDirectCommand kindIf
  simp only [commandTokens_singleton group.isArgument, validateUtf8Arg_asBytes, group.valid,
    if_true, if_neg group.isArgument.nonempty]

/-- The reply has status 411. -/
def Reply.isNoSuchNewsgroup (self : Reply) : Bool :=
  (StatusCode.parse self.bytes).any fun status => status.code = 411

/-- The words of the status line; for status 211 they are the status, the article count, the low and
the high water mark and the name of the group. -/
def Reply.statusWords (self : Reply) : List Bytes := (self.bytes.takeWhile (· ≠ CR)).splitOn SP

/-- The two commands agree: either both say that there is no such group, or none does; and after two
successes the session is in the same state and the two replies report the same. -/
def GroupsAgree (group listgroup : Handled) : Prop :=
  (listgroup.reply.isNoSuchNewsgroup = true ↔ group.reply.isNoSuchNewsgroup = true) ∧
    (group.reply.isSuccess = true → listgroup.reply.isSuccess = true →
      group.memory.sessionState = listgroup.memory.sessionState ∧
        group.reply.statusWords = listgroup.reply.statusWords)

/-- The name of a group is spelled in a way that both commands understand alike: an indexed group is
also one of the fixture groups, and any other fixture group is spelled as the server spells it. -/
def SpelledAlike (config : ServerConfig) (group : GroupName) : Prop :=
  match config.articleIndex with
  | none => True
  | some index =>
    match index.articleNumbersForGroup (trim group.value) with
    | some _ => (fixtureGroupFromName (asBytes group.value)).isSome = true
    | none =>
      ∀ fixture, fixtureGroupFromName (asBytes group.value) = some fixture →
        group.value = fixture.name

section Answers

variable {config : ServerConfig} {memory : SessionMemory} {group : GroupName} {kept : KeptCommand}

theorem trim_of_fixture (h : fixtureGroupFromName (asBytes group.value) = some fixture) :
    trim group.value = group.value := by
  -- A fixture group has no blanks in its name.
  have hrange : ∀ byte ∈ asBytes group.value, 0x21 ≤ byte.toNat ∧ byte.toNat < 128 := by
    intro byte hbyte
    refine ⟨group.isArgument.visible byte hbyte, ?_⟩
    have hlower : toAsciiLowercase byte ∈ (asBytes group.value).map toAsciiLowercase :=
      List.mem_map_of_mem hbyte
    have hsmall : (toAsciiLowercase byte).toNat < 128 := by
      have hall : ∀ name ∈ [ascii "alt.test", ascii "comp.lang.rust", ascii "empty.test"],
          ∀ byte ∈ name.map toAsciiLowercase, byte.toNat < 128 := by decide
      unfold fixtureGroupFromName eqIgnoreAsciiCase at h
      split_ifs at h with halt hcomp hempty
      · rw [of_decide_eq_true halt] at hlower
        exact hall _ (by simp) _ hlower
      · rw [of_decide_eq_true hcomp] at hlower
        exact hall _ (by simp) _ hlower
      · rw [of_decide_eq_true hempty] at hlower
        exact hall _ (by simp) _ hlower
    unfold toAsciiLowercase at hsmall
    split_ifs at hsmall with hupper
    · simp only [Bool.and_eq_true, decide_eq_true_eq, UInt8.le_iff_toNat_le] at hupper
      exact Nat.lt_of_le_of_lt hupper.2 (by decide)
    · exact hsmall
  have hblank := not_whitespace_of_ascii (Utf8.decode_encode group.value) hrange
  exact trim_eq_self (fun c hc => hblank c (List.mem_of_mem_head? hc))
    (fun c hc => hblank c (List.mem_of_getLast? hc))

theorem firstCommandArg_of_isArgument {token : Bytes} (h : IsArgument token) :
    firstCommandArg token = some token := by
  have hnone : token.findIdx? isCommandWs = none :=
    List.findIdx?_eq_none_iff.mpr fun byte hmem => h.visible.not_commandWs hmem
  have hskip : skipCommandWs token = token := by
    unfold skipCommandWs
    cases token with
    | nil => rfl
    | cons byte rest =>
      rw [List.dropWhile_cons_of_neg]
      simp [h.visible.not_commandWs List.mem_cons_self]
  unfold firstCommandArg
  simp only [hskip, if_neg h.nonempty, hnone, Option.getD_none, List.take_length]

theorem listgroupRangeArg_of_isArgument {token : Bytes} (h : IsArgument token) :
    listgroupRangeArg token = none := by
  unfold listgroupRangeArg nthCommandArg
  rw [commandTokens_singleton h]
  simp

theorem handleListGroup_unknown (hargs : lineArgs kept.line = asBytes group.value)
    (h : fixtureGroupFromName (asBytes group.value) = none) :
    handleListGroup config kept.command (some kept.commandLines) memory =
      memory.answer NO_SUCH_NEWSGROUP := by
  have herror : listgroupStateError (asBytes group.value) memory.sessionState =
      some NO_SUCH_NEWSGROUP := by
    unfold listgroupStateError listgroupExplicitGroupArg
    rw [firstCommandArg_of_isArgument group.isArgument, Option.any_some, h]
    rfl
  unfold handleListGroup
  rw [kept.commandArgs_eq, hargs]
  simp only [herror]

theorem listgroupStateError_fixture (state : SessionState)
    (h : fixtureGroupFromName (asBytes group.value) = some fixture) :
    listgroupStateError (asBytes group.value) state = none := by
  unfold listgroupStateError listgroupExplicitGroupArg
  rw [firstCommandArg_of_isArgument group.isArgument, Option.any_some, h]
  simp [group.isArgument.nonempty]

theorem fromUtf8_asBytes (value : Str) : fromUtf8 (asBytes value) = some value :=
  Utf8.decode_encode value

theorem handleGroup_indexed (hargs : lineArgs kept.line = asBytes name)
    (hindex : config.articleIndex = some index)
    (h : index.articleNumbersForGroup (trim name) = some articles) :
    handleGroup config kept.command (some kept.commandLines) memory =
      ({ memory with
        sessionState := .selectGroup (.indexed (trim name)) articles.head? } :
          SessionMemory).answerAux
        (writeStatusLine memory.auxResponseBuffer (trim name) articles) := by
  unfold handleGroup groupResponseForArgsWithIndexInto selectIndexedGroup
  rw [kept.commandArgs_eq, hargs, hindex]
  simp [fromUtf8_asBytes, h, writeGroupResponse]

theorem handleGroup_fixture (hargs : lineArgs kept.line = asBytes group.value)
    (hindex : config.articleIndex = some index)
    (hnone : index.articleNumbersForGroup (trim group.value) = none)
    (h : fixtureGroupFromName (asBytes group.value) = some fixture) :
    handleGroup config kept.command (some kept.commandLines) memory =
      ({ memory with
        sessionState := .selectGroup (.fixture fixture) fixture.firstArticle } :
          SessionMemory).answerAux
        (writeStatusLine memory.auxResponseBuffer fixture.name fixture.articleNumbers) := by
  unfold handleGroup groupResponseForArgsWithIndexInto selectIndexedGroup
  rw [kept.commandArgs_eq, hargs, hindex]
  simp [fromUtf8_asBytes, hnone, h, writeGroupResponse]

theorem handleGroup_unknown (hargs : lineArgs kept.line = asBytes group.value)
    (hindex : config.articleIndex = some index)
    (hnone : index.articleNumbersForGroup (trim group.value) = none)
    (h : fixtureGroupFromName (asBytes group.value) = none) :
    handleGroup config kept.command (some kept.commandLines) memory =
      memory.answer NO_SUCH_NEWSGROUP := by
  unfold handleGroup groupResponseForArgsWithIndexInto
  rw [kept.commandArgs_eq, hargs, hindex]
  simp [fromUtf8_asBytes, hnone, h]

theorem listgroupGroupName_fixture (currentGroup : Option Str)
    (h : fixtureGroupFromName (asBytes group.value) = some fixture) :
    listgroupGroupName (asBytes group.value) currentGroup = group.value := by
  have hne : group.value ≠ [] := by
    intro hnil
    apply group.isArgument.nonempty
    rw [hnil]
    rfl
  unfold listgroupGroupName listgroupExplicitGroupArg
  rw [firstCommandArg_of_isArgument group.isArgument]
  simp [fromUtf8_asBytes, trim_of_fixture h, Option.filter, hne]

theorem handleListGroup_indexed (hargs : lineArgs kept.line = asBytes group.value)
    (hindex : config.articleIndex = some index)
    (hfixture : fixtureGroupFromName (asBytes group.value) = some fixture)
    (h : index.articleNumbersForGroup group.value = some articles) :
    handleListGroup config kept.command (some kept.commandLines) memory =
      ({ memory with
        sessionState := .selectGroup (.indexed group.value) articles.head? } :
          SessionMemory).answerAux
        (writeListgroupResponse memory.auxResponseBuffer group.value articles none) := by
  unfold handleListGroup listgroupResponseForArgsWithIndexInto selectIndexedGroup
  rw [kept.commandArgs_eq, hargs, hindex]
  simp [listgroupStateError_fixture _ hfixture, listgroupGroupName_fixture _ hfixture, h,
    listgroupRangeArg_of_isArgument group.isArgument]

theorem handleListGroup_fixture (hargs : lineArgs kept.line = asBytes group.value)
    (hindex : config.articleIndex = some index)
    (hfixture : fixtureGroupFromName (asBytes group.value) = some fixture)
    (h : index.articleNumbersForGroup group.value = none) :
    handleListGroup config kept.command (some kept.commandLines) memory =
      ({ memory with
        sessionState := .selectGroup (.fixture fixture) fixture.firstArticle } :
          SessionMemory).answerAux
        (writeListgroupResponse memory.auxResponseBuffer group.value fixture.articleNumbers
          none) := by
  unfold handleListGroup listgroupResponseForArgsWithIndexInto selectIndexedGroup
  rw [kept.commandArgs_eq, hargs, hindex]
  simp [listgroupStateError_fixture _ hfixture, listgroupGroupName_fixture _ hfixture, h, hfixture]

theorem handleGroup_plain (hargs : lineArgs kept.line = asBytes group.value)
    (hindex : config.articleIndex = none)
    (h : fixtureGroupFromName (asBytes group.value) = some fixture) :
    handleGroup config kept.command (some kept.commandLines) memory =
      ({ memory with
        sessionState := .selectGroup (.fixture fixture) fixture.firstArticle } :
          SessionMemory).answer (groupResponseForGroup fixture) := by
  unfold handleGroup
  rw [kept.commandArgs_eq, hargs, hindex]
  simp [h]

theorem handleGroup_plain_unknown (hargs : lineArgs kept.line = asBytes group.value)
    (hindex : config.articleIndex = none)
    (h : fixtureGroupFromName (asBytes group.value) = none) :
    handleGroup config kept.command (some kept.commandLines) memory =
      memory.answer NO_SUCH_NEWSGROUP := by
  unfold handleGroup
  rw [kept.commandArgs_eq, hargs, hindex]
  simp [h]

def listgroupResponseForGroup : FixtureGroup → Bytes
  | .altTest => LISTGROUP_RESPONSE
  | .compLangRust => LISTGROUP_COMP_RESPONSE
  | .emptyTest => LISTGROUP_EMPTY_GROUP_RESPONSE

theorem handleListGroup_plain (hargs : lineArgs kept.line = asBytes group.value)
    (hindex : config.articleIndex = none)
    (h : fixtureGroupFromName (asBytes group.value) = some fixture) :
    handleListGroup config kept.command (some kept.commandLines) memory =
      ({ memory with
        sessionState := .selectGroup (.fixture fixture) fixture.firstArticle } :
          SessionMemory).answer (listgroupResponseForGroup fixture) := by
  have hselected (currentGroup : Option FixtureGroup) :
      listgroupSelectedGroup (asBytes group.value) currentGroup = some fixture := by
    unfold listgroupSelectedGroup listgroupExplicitGroupArg
    rw [firstCommandArg_of_isArgument group.isArgument, Option.bind_some, h, Option.some_or]
  have hresponse : listgroupResponseForArgs (asBytes group.value) (some fixture) =
      listgroupResponseForGroup fixture := by
    unfold listgroupResponseForArgs
    rw [hselected, listgroupRangeArg_of_isArgument group.isArgument, listgroupExplicitGroupArg,
      firstCommandArg_of_isArgument group.isArgument, Option.any_some, h]
    cases fixture <;> rfl
  unfold handleListGroup
  rw [kept.commandArgs_eq, hargs, hindex]
  simp [listgroupStateError_fixture _ h, hselected, hresponse]

end Answers

theorem statusWords_line {line rest : Bytes} (h : CR ∉ line) :
    (Reply.response (line ++ CRLF ++ rest)).statusWords = line.splitOn SP := by
  have hcrlf : CRLF = [CR, LF] := rfl
  unfold Reply.statusWords Reply.bytes
  rw [List.append_assoc, List.takeWhile_append_of_pos]
  · simp [hcrlf]
  · intro byte hbyte
    have hne : byte ≠ CR := fun heq => h (heq ▸ hbyte)
    simpa using hne

theorem splitOn_injective (separator : UInt8) :
    Function.Injective fun line : Bytes => line.splitOn separator := by
  intro line line' h
  have hjoin := congrArg ([separator].intercalate) h
  simpa only [List.intercalate_splitOn] using hjoin

def statusLineOf (name : Str) (articles : List Nat) : Bytes :=
  ascii "211 " ++ decimalText articles.length ++ ascii " " ++ decimalText (articles.headD 0) ++
    ascii " " ++ decimalText (articles.getLastD 0) ++ ascii " " ++ asBytes name

theorem writeStatusLine_eq (response : Bytes) (name : Str) (articles : List Nat) :
    writeStatusLine response name articles = statusLineOf name articles ++ CRLF := by
  simp [writeStatusLine, statusLineOf, clear]

theorem cr_not_mem_statusLineOf (h : CR ∉ asBytes name) (articles : List Nat) :
    CR ∉ statusLineOf name articles := by
  have hdecimal (number : Nat) : CR ∉ decimalText number :=
    (isArgument_decimalText number).visible.clean.cr
  have hstatus : CR ∉ ascii "211 " := by decide
  have hblank : CR ∉ ascii " " := by decide
  simp [statusLineOf, hdecimal, hstatus, hblank, h]

theorem statusLineOf_inj {name' : Str}
    (h : statusLineOf name articles = statusLineOf name' articles) : name = name' := by
  have hbytes : asBytes name = asBytes name' := List.append_cancel_left h
  have hdecode := congrArg fromUtf8 hbytes
  rw [fromUtf8_asBytes, fromUtf8_asBytes] at hdecode
  exact Option.some.inj hdecode

theorem statusWords_writeStatusLine (h : CR ∉ asBytes name) (response : Bytes)
    (articles : List Nat) :
    (Reply.response (writeStatusLine response name articles)).statusWords =
      (statusLineOf name articles).splitOn SP := by
  rw [writeStatusLine_eq, ← List.append_nil (_ ++ CRLF)]
  exact statusWords_line (cr_not_mem_statusLineOf h articles)

theorem statusWords_writeListgroupResponse (h : CR ∉ asBytes name) (response : Bytes)
    (articles : List Nat) :
    (Reply.response (writeListgroupResponse response name articles none)).statusWords =
      (statusLineOf name articles).splitOn SP := by
  unfold writeListgroupResponse
  rw [writeStatusLine_eq, List.append_assoc]
  exact statusWords_line (cr_not_mem_statusLineOf h articles)

theorem found_of_start {bytes : Bytes} (h : ascii "211" <+: bytes) :
    (Reply.response bytes).isSuccess = true ∧ (Reply.response bytes).isNoSuchNewsgroup = false := by
  obtain ⟨rest, rfl⟩ := h
  unfold Reply.isSuccess Reply.isNoSuchNewsgroup Reply.bytes
  rw [StatusCode.parse_append (by decide)]
  decide

theorem start_writeStatusLine (response : Bytes) (name : Str) (articles : List Nat) :
    ascii "211" <+: writeStatusLine response name articles := by
  have hstatus : ascii "211 " = ascii "211" ++ [SP] := by decide
  rw [writeStatusLine_eq, statusLineOf, hstatus]
  simp only [List.append_assoc]
  exact List.prefix_append _ _

theorem start_writeListgroupResponse (response : Bytes) (name : Str) (articles : List Nat) :
    ascii "211" <+: writeListgroupResponse response name articles none := by
  unfold writeListgroupResponse
  rw [List.append_assoc]
  exact (start_writeStatusLine response name articles).trans (List.prefix_append _ _)

theorem isNoSuchNewsgroup_refusal :
    (Reply.response NO_SUCH_NEWSGROUP).isNoSuchNewsgroup = true ∧
      (Reply.response NO_SUCH_NEWSGROUP).isSuccess = false := by
  decide

theorem groupsAgree_refused (memory : SessionMemory) :
    GroupsAgree (memory.answer NO_SUCH_NEWSGROUP) (memory.answer NO_SUCH_NEWSGROUP) :=
  ⟨Iff.rfl, fun _ _ => ⟨rfl, rfl⟩⟩

theorem not_found_of_unknown (command : ParsedCommand) :
    (Reply.response (unknownCommandResponse command)).isSuccess = false ∧
      (Reply.response (unknownCommandResponse command)).isNoSuchNewsgroup = false := by
  unfold unknownCommandResponse
  split_ifs <;> decide

section Agreement

variable {config : ServerConfig} {memory : SessionMemory} {group : GroupName}
  {kept kept' : KeptCommand}

theorem groupsAgree_iff_spelledAlike (hargs : lineArgs kept.line = asBytes group.value)
    (hargs' : lineArgs kept'.line = asBytes group.value) :
    GroupsAgree (handleGroup config kept.command (some kept.commandLines) memory)
        (handleListGroup config kept'.command (some kept'.commandLines) memory) ↔
      SpelledAlike config group := by
  have hcr : CR ∉ asBytes group.value := group.isArgument.visible.clean.cr
  unfold SpelledAlike
  cases hindex : config.articleIndex with
  | none =>
    refine ⟨fun _ => trivial, fun _ => ?_⟩
    cases hfixture : fixtureGroupFromName (asBytes group.value) with
    | none =>
      rw [handleGroup_plain_unknown hargs hindex hfixture, handleListGroup_unknown hargs' hfixture]
      exact groupsAgree_refused memory
    | some fixture =>
      rw [handleGroup_plain hargs hindex hfixture, handleListGroup_plain hargs' hindex hfixture]
      have hwords : (Reply.response (groupResponseForGroup fixture)).statusWords =
          (Reply.response (listgroupResponseForGroup fixture)).statusWords := by
        cases fixture <;> decide
      have hstatus : (Reply.response (listgroupResponseForGroup fixture)).isNoSuchNewsgroup =
          (Reply.response (groupResponseForGroup fixture)).isNoSuchNewsgroup := by
        cases fixture <;> decide
      exact ⟨Bool.eq_iff_iff.mp hstatus, fun _ _ => ⟨rfl, hwords⟩⟩
  | some index =>
    dsimp only
    cases hnumbers : index.articleNumbersForGroup (trim group.value) with
    | some articles =>
      dsimp only
      rw [handleGroup_indexed hargs hindex hnumbers]
      have hgroup :=
        found_of_start (start_writeStatusLine memory.auxResponseBuffer (trim group.value)
        articles)
      cases hfixture : fixtureGroupFromName (asBytes group.value) with
      | none =>
        -- GROUP finds the indexed group, and LISTGROUP refuses it
        rw [handleListGroup_unknown hargs' hfixture]
        constructor
        · intro hagree
          have hrefused := hagree.1.mp isNoSuchNewsgroup_refusal.1
          exact absurd (hgroup.2.symm.trans hrefused) (by decide)
        · intro hsome
          cases hsome
      | some fixture =>
        have htrim := trim_of_fixture hfixture
        rw [htrim] at hnumbers hgroup ⊢
        rw [handleListGroup_indexed hargs' hindex hfixture hnumbers]
        have hlistgroup := found_of_start (start_writeListgroupResponse memory.auxResponseBuffer
          group.value articles)
        refine ⟨fun _ => rfl, fun _ => ⟨?_, fun _ _ => ⟨rfl, ?_⟩⟩⟩
        · exact Bool.eq_iff_iff.mp (hlistgroup.2.trans hgroup.2.symm)
        · exact (statusWords_writeStatusLine hcr _ _).trans
            (statusWords_writeListgroupResponse hcr _ _).symm
    | none =>
      dsimp only
      cases hfixture : fixtureGroupFromName (asBytes group.value) with
      | none =>
        rw [handleGroup_unknown hargs hindex hnumbers hfixture,
          handleListGroup_unknown hargs' hfixture]
        refine ⟨fun _ fixture hsome => ?_, fun _ => groupsAgree_refused memory⟩
        cases hsome
      | some fixture =>
        rw [handleGroup_fixture hargs hindex hnumbers hfixture]
        rw [trim_of_fixture hfixture] at hnumbers
        rw [handleListGroup_fixture hargs' hindex hfixture hnumbers]
        have hcr' : CR ∉ asBytes fixture.name := by
          cases fixture <;> decide
        have hgroup := found_of_start (start_writeStatusLine memory.auxResponseBuffer fixture.name
          fixture.articleNumbers)
        have hlistgroup := found_of_start (start_writeListgroupResponse memory.auxResponseBuffer
          group.value fixture.articleNumbers)
        constructor
        · -- the words of the two status lines tell the two names apart
          intro hagree other hother
          have hwords := (hagree.2 hgroup.1 hlistgroup.1).2
          have hlines := (statusWords_writeStatusLine hcr' memory.auxResponseBuffer
            fixture.articleNumbers).symm.trans
              (hwords.trans (statusWords_writeListgroupResponse hcr _ _))
          rw [← Option.some.inj hother]
          exact (statusLineOf_inj (splitOn_injective SP hlines)).symm
        · intro hspelled
          have hname := hspelled fixture rfl
          refine ⟨?_, fun _ _ => ⟨rfl, ?_⟩⟩
          · exact Bool.eq_iff_iff.mp (hlistgroup.2.trans hgroup.2.symm)
          · rw [← hname]
            exact (statusWords_writeStatusLine hcr _ _).trans
              (statusWords_writeListgroupResponse hcr _ _).symm

end Agreement

/-- GROUP and LISTGROUP agree on a group name exactly when the name is too long for a command, or
when it is spelled in a way that both understand alike. -/
theorem group_and_listgroup_agree_iff (config : ServerConfig) (memory : SessionMemory)
    (group : GroupName) (kept kept' : KeptCommand) (hline : kept.line = groupLine group)
    (hline' : kept'.line = listgroupLine group) (now : Nat) :
    ∃ handled handled',
      respond config now kept.command (some kept.commandLines) memory = .ok handled ∧
        respond config now kept'.command (some kept'.commandLines) memory = .ok handled' ∧
        (GroupsAgree handled handled' ↔
          MAX_COMMAND_ARGUMENT_BYTES < (asBytes group.value).length ∨
            SpelledAlike config group) := by
  have hspaced := group.isArgument.visible.spaced
  have hkind : kept.command.kind = _ := kept.kind_command.trans (hline ▸ kind_groupLine group)
  have hkind' : kept'.command.kind = _ :=
    kept'.kind_command.trans (hline' ▸ kind_listgroupLine group)
  by_cases hlimit : (asBytes group.value).length ≤ MAX_COMMAND_ARGUMENT_BYTES
  · have hargs : lineArgs kept.line = asBytes group.value := by
      rw [hline]
      exact lineArgs_commandBytes ⟨by decide, by decide⟩ hspaced
    have hargs' : lineArgs kept'.line = asBytes group.value := by
      rw [hline']
      exact lineArgs_commandBytes ⟨by decide, by decide⟩ hspaced
    rw [if_pos hlimit] at hkind hkind'
    refine ⟨_, _, by rw [respond, hkind], by rw [respond, hkind'], ?_⟩
    rw [groupsAgree_iff_spelledAlike hargs hargs', or_iff_right (Nat.not_lt.mpr hlimit)]
  · rw [if_neg hlimit] at hkind hkind'
    refine ⟨_, _, by rw [respond, hkind], by rw [respond, hkind'], ?_⟩
    have hunknown := not_found_of_unknown kept.command
    have hunknown' := not_found_of_unknown kept'.command
    refine ⟨fun _ => .inl (Nat.lt_of_not_le hlimit), fun _ => ⟨?_, fun hsuccess => ?_⟩⟩
    · exact Bool.eq_iff_iff.mp (hunknown'.2.trans hunknown.2.symm)
    · exact absurd (hunknown.1.symm.trans hsuccess) (by decide)

def listgroupAltTest : KeptCommand := .ofLine (ascii "LISTGROUP alt.test\r\n") (by decide)

/-- A server whose index has a group under the name of a fixture group. -/
def indexedAltTestServer : ServerConfig :=
  .fromBoundArgs id ⟨16, 16, .plain,
    some ⟨[.file "7".toList ⟨crlfText ["220 7 <a@b> article", "From: x", "Newsgroups: alt.test", "",
      "body", "."], none⟩], fun _ => .ok none⟩, 1⟩

theorem spelledAlike_alt_test (config : ServerConfig) :
    SpelledAlike config ⟨"alt.test".toList, by decide⟩ := by
  have hfixture : fixtureGroupFromName (asBytes "alt.test".toList) = some .altTest := by decide
  unfold SpelledAlike
  split
  · trivial
  · split
    · rw [hfixture]
      rfl
    · rw [hfixture]
      rintro - ⟨⟩
      rfl

theorem group_and_listgroup_agree_on_indexed_group :
    indexedAltTestServer.articleIndex.bind (·.articleNumbersForGroup "alt.test".toList) = some [7] ∧
    ∃ handled handled',
      respond indexedAltTestServer 0 groupAltTest.command (some groupAltTest.commandLines)
        .initial = .ok handled ∧
        respond indexedAltTestServer 0 listgroupAltTest.command (some listgroupAltTest.commandLines)
            .initial = .ok handled' ∧
        GroupsAgree handled handled' := by
  refine ⟨by decide +kernel, ?_⟩
  -- the name is spelled as the server spells it, so what the index holds does not matter
  generalize indexedAltTestServer = config
  obtain ⟨handled, handled', hgroup, hlistgroup, hagree⟩ :=
    group_and_listgroup_agree_iff config .initial ⟨"alt.test".toList, by decide⟩ groupAltTest
      listgroupAltTest (by decide) (by decide) 0
  exact ⟨handled, handled', hgroup, hlistgroup, hagree.mpr (.inr (spelledAlike_alt_test config))⟩

def miscTestServer : ServerConfig :=
  .fromBoundArgs id ⟨16, 16, .plain,
    some ⟨[.file "1".toList
      ⟨crlfText ["220 1 <a@b> article", "From: x", "Newsgroups: misc.test", "",
      "body", "."], none⟩], fun _ => .ok none⟩, 1⟩

def groupMiscTest : KeptCommand := .ofLine (ascii "GROUP misc.test\r\n") (by decide)

def listgroupMiscTest : KeptCommand := .ofLine (ascii "LISTGROUP misc.test\r\n") (by decide)

def groupUpperCase : KeptCommand := .ofLine (ascii "GROUP ALT.TEST\r\n") (by decide)

def listgroupUpperCase : KeptCommand := .ofLine (ascii "LISTGROUP ALT.TEST\r\n") (by decide)

def miscTestReply (kept : KeptCommand) : Except ServerError Bytes :=
  (respond miscTestServer 0 kept.command (some kept.commandLines) .initial).map fun handled =>
    handled.reply.bytes

/-- GROUP selects a group of the index, and LISTGROUP says that there is no such group; and the two
report a fixture group under two names if its name is not given in lower case. -/
theorem listgroup_refuses_an_indexed_group :
    miscTestReply groupMiscTest = .ok (crlfText ["211 1 1 1 misc.test"]) ∧
      miscTestReply listgroupMiscTest = .ok (crlfText ["411 no such newsgroup"]) ∧
      miscTestReply groupUpperCase = .ok (crlfText ["211 3 1 3 alt.test"]) ∧
      miscTestReply listgroupUpperCase =
        .ok (crlfText ["211 3 1 3 ALT.TEST", "1", "2", "3", "."]) := by
  decide +kernel

end NntpBench.Server
