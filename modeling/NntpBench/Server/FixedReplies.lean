import NntpBench.ReplyFrames
import NntpBench.Server.Commands

namespace NntpBench.Server

open Protocol Terminator

theorem crlfText_eq (first : String) (rows : List String) :
    crlfText (first :: rows ++ ["."]) =
      ascii first ++ CRLF ++ wireLines (rows.map ascii) ++ DOT_TERMINATOR := by
  have hdot : ascii "." ++ CRLF = DOT_TERMINATOR := by decide
  simp [crlfText, wireLines, List.flatMap_map, hdot]

theorem chooseByGroups_of_all {P : Bytes → Prop}
    {full compAlt compEmpty comp altEmpty alt empty none : Bytes}
    (h : ∀ reply ∈ [full, compAlt, compEmpty, comp, altEmpty, alt, empty, none], P reply)
    (args : Bytes) :
    P (chooseByGroups args full compAlt compEmpty comp altEmpty alt empty none) := by
  apply h
  unfold chooseByGroups
  split <;> simp

theorem isFrame_listActiveResponse (args : Bytes) : IsFrame .listActive (listActiveResponse args) :=
  chooseByGroups_of_all (by decide +kernel) args

theorem isFrame_listActiveTimesResponse (args : Bytes) :
    IsFrame .listActiveTimes (listActiveTimesResponse args) :=
  chooseByGroups_of_all (by decide +kernel) args

theorem isFrame_listNewsgroupsResponse (args : Bytes) :
    IsFrame .listNewsgroups (listNewsgroupsResponse args) :=
  chooseByGroups_of_all (by decide +kernel) args

theorem isFrame_newgroupsResponse (args : Bytes) (currentYear : Nat) :
    IsFrame .newGroups (newgroupsResponse args currentYear) := by
  unfold newgroupsResponse
  split_ifs <;> decide +kernel

theorem isFrame_newnewsResponse (args : Bytes) (currentYear : Nat) :
    IsFrame .newNews (newnewsResponse args currentYear) := by
  unfold newnewsResponse
  dsimp only
  split_ifs <;> decide +kernel

/-- A row that is a line of its own and that a check accepts. -/
def IsRow (check : Bytes → Bool) (row : String) : Prop :=
  IsLineContent (ascii row) ∧ isBareDotLine (ascii row) = false ∧ check (ascii row) = true

instance (check : Bytes → Bool) (row : String) : Decidable (IsRow check row) :=
  inferInstanceAs (Decidable (_ ∧ _ ∧ _))

/-- A row that stands in the replies to OVER and to XOVER. -/
def IsFixedRow (row : String) (number : Nat) : Prop :=
  IsRow validateXoverResponseLine row ∧ IsOverviewRow (ascii row) number

instance (row : String) (number : Nat) : Decidable (IsFixedRow row number) :=
  inferInstanceAs (Decidable (_ ∧ _))

theorem isFixedRow_messageId : IsFixedRow (overviewRow1 "0") 0 := by decide +kernel

theorem isFixedRow_first : IsFixedRow (overviewRow1 "1") 1 := by decide +kernel

theorem isFixedRow_second : IsFixedRow overviewRow2 2 := by decide +kernel

theorem isFixedRow_third : IsFixedRow overviewRow3 3 := by decide +kernel

/-- Fixed rows in the order of their numbers. -/
structure FixedRows (rows : List (String × Nat)) : Prop where
  fixed : ∀ row ∈ rows, IsFixedRow row.1 row.2
  increasing : (rows.map Prod.snd).Pairwise (· < ·)

section FixedRows

variable {rows : List (String × Nat)} (h : FixedRows rows)
include h

theorem FixedRows.lines : ∀ line ∈ (rows.map Prod.fst).map ascii, IsLineContent line := by
  simp only [List.forall_mem_map]
  exact fun row hrow => (h.fixed row hrow).1.1

theorem FixedRows.isFrame_xover : IsFrame .xover (overviewText (rows.map Prod.fst)) := by
  have hline : AcceptedLine .xover ⟨224, by decide, by decide⟩
      (ascii "224 Overview information follows") := by decide +kernel
  unfold overviewText
  rw [crlfText_eq, hline.isFrame_rows_iff (by decide) (by decide) (fun _ _ => rfl) h.lines]
  simp only [List.forall_mem_map]
  exact fun row hrow => (h.fixed row hrow).1.2

theorem FixedRows.isFrame_over : IsFrame .over (overviewText (rows.map Prod.fst)) := by
  have hline : AcceptedLine .over ⟨224, by decide, by decide⟩
      (ascii "224 Overview information follows") := by decide +kernel
  have hdot : [DOT] ∉ (rows.map Prod.fst).map ascii := by
    simp only [List.mem_map, not_exists, not_and]
    rintro _ ⟨row, hrow, rfl⟩ hdot
    have hbare := (h.fixed row hrow).2.1
    rw [hdot] at hbare
    exact absurd hbare (by decide)
  have hover : List.Forall₂ IsOverviewRow ((rows.map Prod.fst).map ascii) (rows.map Prod.snd) := by
    simp only [List.forall₂_map_left_iff, List.forall₂_map_right_iff, List.forall₂_same]
    exact fun row hrow => (h.fixed row hrow).2
  unfold overviewText
  rw [crlfText_eq, hline.isFrame_block_iff (by decide) (by decide) h.lines]
  exact ⟨hdot, (validateOverviewResponseContent_wireLines h.lines).mpr ⟨_, hover, h.increasing⟩⟩

end FixedRows

theorem fixedRows_first : FixedRows [(overviewRow1 "1", 1)] :=
  ⟨by simpa using isFixedRow_first, by decide⟩

theorem fixedRows_firstTwo : FixedRows [(overviewRow1 "1", 1), (overviewRow2, 2)] :=
  ⟨by simpa using ⟨isFixedRow_first, isFixedRow_second⟩, by decide⟩

theorem overviewResponseForSelector_rows (otherwise args : Bytes) {P : Bytes → Prop}
    (hrows : ∀ rows, FixedRows rows → P (overviewText (rows.map Prod.fst))) (hother : P otherwise) :
    P (overviewResponseForSelector otherwise args) := by
  unfold overviewResponseForSelector
  split_ifs
  · exact hrows [(overviewRow1 "0", 0)] ⟨by simpa using isFixedRow_messageId, by decide⟩
  · exact hrows [(overviewRow1 "1", 1), (overviewRow2, 2), (overviewRow3, 3)]
      ⟨by simpa using ⟨isFixedRow_first, isFixedRow_second, isFixedRow_third⟩, by decide⟩
  · exact hrows _ fixedRows_firstTwo
  · exact hrows [(overviewRow2, 2), (overviewRow3, 3)]
      ⟨by simpa using ⟨isFixedRow_second, isFixedRow_third⟩, by decide⟩
  · exact hrows [(overviewRow2, 2)] ⟨by simpa using isFixedRow_second, by decide⟩
  · exact hrows [(overviewRow3, 3)] ⟨by simpa using isFixedRow_third, by decide⟩
  · exact hother

theorem isFrame_overResponseForArgs (args : Bytes) : IsFrame .over (overResponseForArgs args) :=
  overviewResponseForSelector_rows _ args (fun _ hrows => hrows.isFrame_over)
    fixedRows_first.isFrame_over

theorem isFrame_xoverResponseForArgs (args : Bytes) : IsFrame .xover
    (xoverResponseForArgs args) := by
  unfold xoverResponseForArgs
  split_ifs
  · exact fixedRows_first.isFrame_xover
  · exact overviewResponseForSelector_rows _ args (fun _ hrows => hrows.isFrame_xover)
      fixedRows_firstTwo.isFrame_xover

/-- The tables of a header command hold frames. -/
def HeaderTables.Framed (tables : HeaderTables) (kind : RequestKind) : Prop :=
  ∀ table ∈ [tables.messageId, tables.sender, tables.date, tables.references, tables.bytes,
    tables.lines, tables.subject],
    ∀ reply ∈ [table.all, table.messageId, table.first, table.secondAndThird, table.second,
      table.third], IsFrame kind reply

instance (tables : HeaderTables) (kind : RequestKind) : Decidable (tables.Framed kind) :=
  inferInstanceAs (Decidable (∀ table ∈ _, _))

theorem HeaderTables.Framed.isFrame {tables : HeaderTables} {kind : RequestKind}
    (h : tables.Framed kind)
    (args : Bytes) : IsFrame kind (headerResponseForArgs tables args) := by
  have htable (table : HeaderResponses)
    (hreplies : ∀ reply ∈ [table.all, table.messageId, table.first,
      table.secondAndThird, table.second, table.third], IsFrame kind reply)
        (selector : Option Bytes) :
      IsFrame kind (headerResponseForSelector table selector) := by
    apply hreplies
    unfold headerResponseForSelector
    split_ifs <;> simp
  apply htable
  apply h
  split_ifs <;> simp

theorem isFrame_hdrResponseForArgs (args : Bytes) : IsFrame .hdr (hdrResponseForArgs args) :=
  HeaderTables.Framed.isFrame (by decide +kernel) args

theorem isFrame_xhdrResponseForArgs (args : Bytes) : IsFrame .xhdr (xhdrResponseForArgs args) :=
  HeaderTables.Framed.isFrame (by decide +kernel) args

theorem isFrame_groupResponseForGroup (group : FixtureGroup) :
    IsFrame .group (groupResponseForGroup group) := by
  cases group <;> decide +kernel

theorem isFrame_listgroupResponseForArgs (args : Bytes) (currentGroup : Option FixtureGroup) :
    IsFrame .listGroup (listgroupResponseForArgs args currentGroup) := by
  unfold listgroupResponseForArgs
  dsimp only
  generalize (listgroupSelectedGroup args currentGroup).getD .altTest = group
  generalize listgroupRangeArg args = range
  split
  · decide +kernel
  cases group with
  | emptyTest =>
    show IsFrame .listGroup LISTGROUP_EMPTY_GROUP_RESPONSE
    decide +kernel
  | compLangRust =>
    dsimp only
    split_ifs <;> decide +kernel
  | altTest =>
    cases range with
    | none => decide +kernel
    | some range =>
      dsimp only
      split_ifs <;> decide +kernel

def fixedReply : RequestKind → Option Bytes
  | .list => some LIST_RESPONSE
  | .listOverviewFmt => some LIST_OVERVIEW_FMT_RESPONSE
  | .listHeaders => some LIST_HEADERS_RESPONSE
  | .listDistribPats => some LIST_DISTRIB_PATS_RESPONSE
  | .post => some (crlfText ["440 posting not permitted"])
  | .ihave => some (crlfText ["435 article not wanted"])
  | .check | .takeThis | .authInfo | .startTls | .modeStream => some COMMAND_UNAVAILABLE
  | .authInfoUser | .authInfoPass =>
    some (crlfText ["483 command unavailable until TLS has been negotiated"])
  | .capabilities => some CAPABILITIES_RESPONSE
  | .help => some HELP_RESPONSE
  | .modeReader => some MODE_READER_RESPONSE
  | .quit => some QUIT_RESPONSE
  | _ => none

theorem isFrame_fixedReply (kind : RequestKind) : ∀ reply ∈ fixedReply kind,
    IsFrame kind reply := by
  cases kind <;> decide +kernel

theorem isFrame_unknownCommandResponse (command : ParsedCommand) :
    IsFrame .unknown (unknownCommandResponse command) := by
  unfold unknownCommandResponse
  split_ifs <;> decide +kernel

end NntpBench.Server
