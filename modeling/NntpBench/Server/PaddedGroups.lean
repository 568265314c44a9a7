import NntpBench.Server.PaddedLines

namespace NntpBench.Server

open Protocol Terminator

theorem not_visible_append {args blanks : Bytes} (hne : blanks ≠ [])
    (hblanks : ∀ byte ∈ blanks, isCommandWs byte = true) : ¬ Visible (args ++ blanks) := by
  obtain ⟨blank, rest, rfl⟩ := List.exists_cons_of_ne_nil hne
  intro hvisible
  have hws := hblanks blank List.mem_cons_self
  rw [hvisible.not_commandWs (List.mem_append_right _ List.mem_cons_self)] at hws
  cases hws

/-- The name is no fixture, or the index has it. -/
def GroupTakesBlanks (config : ServerConfig) (args : Bytes) : Prop :=
  fixtureGroupFromName args = none ∨
    ∃ index, config.articleIndex = some index ∧
      (index.articleNumbersForGroup (trim ((fromUtf8 args).getD []))).isSome = true

section Groups

variable {config : ServerConfig} {memory : SessionMemory} {kept kept' : KeptCommand}
  {blanks : Bytes}

theorem Padded.exists_names (h : Padded kept kept' blanks) (hkind : kept.request.kind = .group) :
    ∃ name name', fromUtf8 (lineArgs kept.line) = some name ∧
      fromUtf8 (lineArgs kept'.line) = some name' ∧ trim name' = trim name := by
  obtain ⟨group, hargs, name, hutf8, htrim⟩ := exists_groupName hkind
  obtain ⟨group', hargs', name', hutf8', htrim'⟩ := exists_groupName (h.kind.trans hkind)
  refine ⟨name, name', hutf8, hutf8', ?_⟩
  have hdecode := congrArg fromUtf8 (hargs'.symm.trans (h.args_eq.trans hargs))
  rw [fromUtf8_asBytes, fromUtf8_asBytes] at hdecode
  rw [htrim', htrim, Option.some.inj hdecode]

theorem respond_group_eq (hkind : kept.request.kind = .group) (config : ServerConfig) (now : Nat)
    (memory : SessionMemory) :
    respond config now kept.command (some kept.commandLines) memory =
      .ok (handleGroup config kept.command (some kept.commandLines) memory) := by
  unfold respond
  rw [kept.kind_command, hkind]

theorem ne_no_such_newsgroup {bytes : Bytes} (h : bytes.head? = some 50) :
    NO_SUCH_NEWSGROUP ≠ bytes := by
  rintro rfl
  exact absurd h (by decide)

theorem Padded.group_iff (h : Padded kept kept' blanks) (hkind : kept.request.kind = .group)
    (hargs : lineArgs kept'.line = lineArgs kept.line ++ blanks) (hne : blanks ≠ []) (now : Nat) :
    AnswersAlike config now memory kept kept' ↔ GroupTakesBlanks config (lineArgs kept.line) := by
  obtain ⟨name, name', hutf8, hutf8', htrim⟩ := h.exists_names hkind
  have hpadded : fixtureGroupFromName (lineArgs kept'.line) = none := by
    rw [hargs, Option.eq_none_iff_forall_ne_some]
    exact fun fixture hfixture => not_visible_append hne h.blank (visible_of_fixture hfixture)
  unfold AnswersAlike GroupTakesBlanks
  rw [respond_group_eq hkind, respond_group_eq (h.kind.trans hkind)]
  unfold handleGroup groupResponseForArgsWithIndexInto selectIndexedGroup
  rw [kept.commandArgs_eq, kept'.commandArgs_eq]
  simp only [hutf8, hutf8', htrim, hpadded, Option.bind_eq_bind, Option.bind_some, Option.getD_some]
  cases config.articleIndex with
  | none =>
    cases fixtureGroupFromName (lineArgs kept.line) with
    | none => simp
    | some fixture =>
      have hother := ne_no_such_newsgroup (head?_groupResponseForGroup fixture)
      exact ⟨fun hsame => absurd (congrArg Prod.fst (Except.ok.inj hsame)) hother, by simp⟩
  | some index =>
    cases hnumbers : index.articleNumbersForGroup (trim name) with
    | some articles => simp [hnumbers]
    | none =>
      cases fixtureGroupFromName (lineArgs kept.line) with
      | none => simp [hnumbers]
      | some fixture =>
        have hother := ne_no_such_newsgroup (head?_writeStatusLine memory.auxResponseBuffer
          fixture.name fixture.articleNumbers)
        simp only [hnumbers, Option.map_some, Option.map_none]
        exact ⟨fun hsame => absurd (congrArg Prod.fst (Except.ok.inj hsame))
          hother, by simp [hnumbers]⟩

end Groups

def listedNames (config : ServerConfig) : List Bytes :=
  match config.articleIndex with
  | some index => index.groups.toList.map fun (name, _) => asBytes name
  | none => [ascii "comp.lang.rust", ascii "alt.test", ascii "empty.test"]

/-- The index was built from a directory. -/
def ServerConfig.Indexed (config : ServerConfig) : Prop :=
  ∀ index, config.articleIndex = some index → ∃ root, ArticleStoreIndex.build root = .ok index

theorem subset_of_mem_splitOn {text piece : Str} {separator : Char}
    (h : piece ∈ text.splitOn separator) : piece ⊆ text := by
  induction text generalizing piece with
  | nil => simp_all [List.splitOn]
  | cons c text ih =>
    rw [List.splitOn, List.splitOnP_cons_eq_if_modifyHead] at h
    split_ifs at h
    · rcases List.mem_cons.mp h with rfl | hrest
      · exact List.nil_subset _
      · exact List.subset_cons_of_subset c (ih hrest)
    · cases hsplit : text.splitOnP (· == separator) with
      | nil => simp [hsplit] at h
      | cons first rest =>
        rw [hsplit, List.modifyHead_cons] at h
        have hfirst : first ⊆ text := ih (by rw [List.splitOn, hsplit]; exact List.mem_cons_self)
        rcases List.mem_cons.mp h with rfl | hrest
        · exact List.cons_subset_cons c hfirst
        · apply List.subset_cons_of_subset c (ih _)
          rw [List.splitOn, hsplit]
          exact List.mem_cons_of_mem first hrest

theorem isLineContent_of_build {root : List DirEntry} {index : ArticleStoreIndex} {groupName : Str}
    {group : ArticleStoreGroup} (hbuild : ArticleStoreIndex.build root = .ok index)
    (hgroup : index.groups[groupName]? = some group) : IsLineContent (asBytes groupName) := by
  obtain ⟨value, hvalue, hname⟩ := exists_newsgroups_of_build hbuild hgroup
  unfold parseNewsgroups at hname
  split at hname
  · next text hutf8 =>
    obtain ⟨piece, hpiece, rfl⟩ := List.mem_map.mp (List.mem_filter.mp hname).1
    have hbytes : asBytes (trim piece) ⊆ value := by
      rw [← Utf8.encode_of_decode hutf8]
      intro byte hbyte
      obtain ⟨c, hc, hencoded⟩ := List.mem_flatMap.mp hbyte
      exact List.mem_flatMap.mpr ⟨c, subset_of_mem_splitOn hpiece (mem_of_mem_trim hc), hencoded⟩
    exact ⟨fun hcr => hvalue.1 (hbytes hcr), fun hlf => hvalue.2 (hbytes hlf)⟩
  · cases hname

theorem append_space_inj {x x' t t' : Bytes} (ht : SP ∉ t) (ht' : SP ∉ t')
    (h : x ++ ascii " " ++ t = x' ++ ascii " " ++ t') : x = x' := by
  -- the last blank of a text stands in front of its last field
  have hdrop {x t : Bytes} (ht : SP ∉ t) :
      (x ++ ascii " " ++ t).rdropWhile (· ≠ SP) = x ++ ascii " " := by
    rw [List.rdropWhile, List.reverse_append, List.dropWhile_append_of_pos]
    · rw [List.reverse_append]
      simp [ascii]
    · intro byte hbyte
      simp only [decide_eq_true_eq]
      rintro rfl
      exact ht (List.mem_reverse.mp hbyte)
  have hsame := congrArg (List.rdropWhile (· ≠ SP)) h
  rw [hdrop ht, hdrop ht'] at hsame
  exact List.append_cancel_right hsame

theorem space_decimalText (number : Nat) : SP ∉ decimalText number := by
  intro hmem
  exact absurd ((isArgument_decimalText number).visible.not_commandWs hmem) (by decide)

theorem isLineContent_decimalText (number : Nat) : IsLineContent (decimalText number) :=
  ⟨(isArgument_decimalText number).clean.cr, (isArgument_decimalText number).clean.lf⟩

/-- What the three LIST commands have in common: a line for each group that is listed, from which
its name can be read. -/
structure ListsGroups (responseForIndexInto : Bytes → Bytes → ArticleStoreIndex → Bytes)
    (fixtureResponse : Bytes → Bytes) : Prop where
  rows : ∃ (statusLine : Bytes) (content : Str → ArticleStoreGroup → Bytes),
    (∀ name group, IsLineContent (asBytes name) → IsLineContent (content name group)) ∧
    (∀ name name' group group', content name group = content name' group' →
      asBytes name = asBytes name') ∧
    ∀ response args index, responseForIndexInto response args index =
      formatActiveGroupResponseInto response statusLine args index fun name group =>
        content name group ++ CRLF
  fixtures : ∀ args args', fixtureResponse args = fixtureResponse args' ↔
    ∀ name ∈ [ascii "comp.lang.rust", ascii "alt.test", ascii "empty.test"],
      listsGroup args name = listsGroup args' name

theorem chooseByGroups_eq_iff
    {args args' full compAlt compEmpty comp altEmpty alt empty none : Bytes}
    (hdistinct : [full, compAlt, compEmpty, comp, altEmpty, alt, empty, none].Nodup) :
    chooseByGroups args full compAlt compEmpty comp altEmpty alt empty none =
        chooseByGroups args' full compAlt compEmpty comp altEmpty alt empty none ↔
      ∀ name ∈ [ascii "comp.lang.rust", ascii "alt.test", ascii "empty.test"],
        listsGroup args name = listsGroup args' name := by
  unfold chooseByGroups
  simp only [List.nodup_cons, List.mem_cons, List.not_mem_nil, or_false, not_or, forall_eq_or_imp,
    forall_eq] at hdistinct ⊢
  generalize listsGroup args (ascii "comp.lang.rust") = a
  generalize listsGroup args (ascii "alt.test") = b
  generalize listsGroup args (ascii "empty.test") = c
  generalize listsGroup args' (ascii "comp.lang.rust") = a'
  generalize listsGroup args' (ascii "alt.test") = b'
  generalize listsGroup args' (ascii "empty.test") = c'
  cases a <;> cases b <;> cases c <;> cases a' <;> cases b' <;> cases c' <;> simp <;> grind

theorem listsGroups_active : ListsGroups listActiveResponseForIndexInto listActiveResponse where
  rows := by
    refine ⟨_, fun name group => asBytes name ++ ascii " " ++
      decimalText (group.articleNumbers.getLastD 0) ++ ascii " " ++
      decimalText (group.articleNumbers.headD 0) ++ ascii " y", ?_, ?_, fun _ _ _ => rfl⟩
    · intro name group hname
      have hlast := isLineContent_decimalText (group.articleNumbers.getLastD 0)
      have hfirst := isLineContent_decimalText (group.articleNumbers.headD 0)
      simp only [isLineContent_append, hname, hlast, hfirst, true_and]
      decide
    · intro name name' group group' h
      exact append_space_inj (space_decimalText _) (space_decimalText _)
        (append_space_inj (space_decimalText _) (space_decimalText _) (List.append_cancel_right h))
  fixtures args args' := chooseByGroups_eq_iff (by decide +kernel)

theorem listsGroups_activeTimes :
    ListsGroups listActiveTimesResponseForIndexInto listActiveTimesResponse where
  rows := by
    refine ⟨_, fun name group => asBytes name ++ ascii " " ++ decimalText group.activeTime ++
      ascii " bench@nntpbench.local", ?_, ?_, fun _ _ _ => rfl⟩
    · intro name group hname
      simp only [isLineContent_append, hname, isLineContent_decimalText, true_and]
      decide
    · intro name name' group group' h
      exact append_space_inj (space_decimalText _) (space_decimalText _)
        (List.append_cancel_right h)
  fixtures args args' := chooseByGroups_eq_iff (by decide +kernel)

theorem listsGroups_newsgroups :
    ListsGroups listNewsgroupsResponseForIndexInto listNewsgroupsResponse where
  rows := by
    refine ⟨_, fun name _ => asBytes name ++ ascii " article_dir-backed group", ?_, ?_,
      fun _ _ _ => rfl⟩
    · intro name group hname
      exact isLineContent_append.mpr ⟨hname, by decide⟩
    · exact fun name name' group group' h => List.append_cancel_right h
  fixtures args args' := chooseByGroups_eq_iff (by decide +kernel)

/-- LIST ACTIVE, LIST ACTIVE.TIMES and LIST NEWSGROUPS are one handler. -/
theorem exists_listVariant {kind : RequestKind} (hkind : listsGroups kind = true) :
    ∃ responseForIndexInto fixtureResponse, ListsGroups responseForIndexInto fixtureResponse ∧
      ∀ (kept : KeptCommand), kept.request.kind = kind → ∀ config now memory,
        respond config now kept.command (some kept.commandLines) memory =
          .ok (handleListVariant config kept.command (some kept.commandLines) memory kind
            responseForIndexInto fixtureResponse) := by
  have hcases : kind = .listActive ∨ kind = .listActiveTimes ∨ kind = .listNewsgroups := by
    simpa [listsGroups, or_assoc] using hkind
  rcases hcases with rfl | rfl | rfl
  · refine ⟨_, _, listsGroups_active, ?_⟩
    intro kept hkept config now memory
    simp only [respond, kept.kind_command, hkept]
  · refine ⟨_, _, listsGroups_activeTimes, ?_⟩
    intro kept hkept config now memory
    simp only [respond, kept.kind_command, hkept]
  · refine ⟨_, _, listsGroups_newsgroups, ?_⟩
    intro kept hkept config now memory
    simp only [respond, kept.kind_command, hkept]

/-- Which groups were listed can be read from the lines. -/
theorem listed_eq_iff {rows : List (Str × ArticleStoreGroup)} {p q : Bytes → Bool}
    {content : Str → ArticleStoreGroup → Bytes}
    (hlines : ∀ row ∈ rows, IsLineContent (content row.1 row.2))
    (hnames : ∀ name name' group group', content name group = content name' group' →
      asBytes name = asBytes name') :
    (rows.filter fun row => p (asBytes row.1)).flatMap (fun row => content row.1 row.2 ++ CRLF) =
        (rows.filter fun row => q (asBytes row.1)).flatMap (fun row => content row.1 row.2 ++
          CRLF) ↔
      ∀ row ∈ rows, p (asBytes row.1) = q (asBytes row.1) := by
  constructor
  · intro h
    have hfiltered (p : Bytes → Bool) :
        ∀ line ∈ (rows.filter fun row => p (asBytes row.1)).map fun row => content row.1 row.2,
          IsLineContent line := by
      intro line hline
      obtain ⟨row, hrow, rfl⟩ := List.mem_map.mp hline
      exact hlines row (List.mem_of_mem_filter hrow)
    have hsame := wireLines_inj (hfiltered p) (hfiltered q) (by
      rw [wireLines, wireLines, List.flatMap_map, List.flatMap_map]
      exact h)
    have hother {p q : Bytes → Bool} (hsame : (rows.filter fun row => p (asBytes row.1)).map
        (fun row => content row.1 row.2) = (rows.filter fun row => q (asBytes row.1)).map
          fun row => content row.1 row.2) {row : Str × ArticleStoreGroup} (hrow : row ∈ rows)
        (hp : p (asBytes row.1) = true) : q (asBytes row.1) = true := by
      have hmem : content row.1 row.2 ∈ (rows.filter fun row => q (asBytes row.1)).map
          fun row => content row.1 row.2 := by
        rw [← hsame]
        exact List.mem_map_of_mem (List.mem_filter.mpr ⟨hrow, hp⟩)
      obtain ⟨found, hfound, hcontent⟩ := List.mem_map.mp hmem
      rw [← hnames _ _ _ _ hcontent]
      exact (List.mem_filter.mp hfound).2
    intro row hrow
    exact Bool.eq_iff_iff.mpr ⟨hother hsame hrow, hother hsame.symm hrow⟩
  · intro h
    rw [List.filter_congr h]

/-- The groups that the server lists for the arguments are the same. -/
def ListsAlike (config : ServerConfig) (args args' : Bytes) : Prop :=
  ∀ name ∈ listedNames config, listsGroup args' name = listsGroup args name

section Lists

variable {config : ServerConfig} {memory : SessionMemory} {kept kept' : KeptCommand}
  {blanks : Bytes}

theorem Padded.list_iff (h : Padded kept kept' blanks) (hindexed : config.Indexed)
    (hkind : listsGroups kept.request.kind = true) (now : Nat) :
    AnswersAlike config now memory kept kept' ↔
      ListsAlike config (listVariantWildmatArgs kept.request.kind (lineArgs kept.line))
        (listVariantWildmatArgs kept.request.kind (lineArgs kept'.line)) := by
  obtain ⟨responseForIndexInto, fixtureResponse, hlists, hrespond⟩ := exists_listVariant hkind
  unfold AnswersAlike ListsAlike listedNames
  rw [hrespond kept rfl, hrespond kept' h.kind]
  unfold handleListVariant
  rw [kept.commandArgs_eq, kept'.commandArgs_eq]
  cases hconfig : config.articleIndex with
  | none =>
    rw [← hlists.fixtures]
    refine ⟨fun hsame => congrArg Prod.fst (Except.ok.inj hsame), fun hsame => ?_⟩
    dsimp only
    rw [hsame]
  | some index =>
    obtain ⟨root, hbuild⟩ := hindexed index hconfig
    obtain ⟨statusLine, content, hlines, hnames, hrows⟩ := hlists.rows
    have hcontent : ∀ row ∈ index.groups.toList, IsLineContent (content row.1 row.2) := by
      intro row hrow
      exact hlines _ _ (isLineContent_of_build hbuild
        (Std.TreeMap.mem_toList_iff_getElem?_eq_some.mp hrow))
    rw [List.forall_mem_map]
    refine Iff.trans ?_ (listed_eq_iff hcontent hnames)
    dsimp only
    rw [hrows, hrows]
    constructor
    · intro hsame
      have hbytes := congrArg Prod.fst (Except.ok.inj hsame)
      exact List.append_cancel_left (List.append_cancel_right hbytes)
    · intro hsame
      exact congrArg (fun rows => seen (.ok (memory.answerAux
        (memory.auxResponseBuffer ++ statusLine ++ rows ++ DOT_TERMINATOR)))) hsame

end Lists

end NntpBench.Server
