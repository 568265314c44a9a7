import Mathlib
import NntpBench.ArticleSections
import NntpBench.Lib.Except
import NntpBench.Lib.Filled
import NntpBench.Server.ArticleStore

namespace NntpBench.Server

open Protocol Terminator ExceptBind

variable {groupName : Str} {articleNumber : Nat}

/-- Two listings of one directory: entries change places, in it and in the directories below it. -/
inductive Relisted : List DirEntry → List DirEntry → Prop
  | refl (entries : List DirEntry) : Relisted entries entries
  | swap (first second : DirEntry) (rest : List DirEntry) :
    Relisted (first :: second :: rest) (second :: first :: rest)
  | cons (entry : DirEntry) {entries entries' : List DirEntry} (h : Relisted entries entries') :
    Relisted (entry :: entries) (entry :: entries')
  | inside (name : Str) (rest : List DirEntry) {entries entries' : List DirEntry}
    (h : Relisted entries entries') :
    Relisted (.dir name entries :: rest) (.dir name entries' :: rest)
  | trans {entries entries' entries'' : List DirEntry} (h : Relisted entries entries')
    (h' : Relisted entries' entries'') : Relisted entries entries''

namespace Relisted

theorem perm {entries entries' : List DirEntry} (h : Relisted entries entries') :
    (collectArticlePaths entries).Perm (collectArticlePaths entries') := by
  induction h with
  | refl entries => exact .refl _
  | swap first second rest =>
    simp only [collectArticlePaths]
    rw [← List.append_assoc, ← List.append_assoc]
    exact List.perm_append_comm.append_right _
  | cons entry h ih => exact ih.append_left _
  | inside name rest h ih =>
    simp only [collectArticlePaths, collectEntry]
    apply List.Perm.append_right
    split_ifs
    · exact .refl _
    · exact ih
  | trans h h' ih ih' => exact ih.trans ih'

theorem moveLast (entry : DirEntry) (entries : List DirEntry) :
    Relisted (entry :: entries) (entries ++ [entry]) := by
  induction entries with
  | nil => exact .refl _
  | cons next entries ih => exact (swap entry next entries).trans (ih.cons next)

end Relisted

theorem collectArticlePaths_append (left right : List DirEntry) :
    collectArticlePaths (left ++ right) = collectArticlePaths left ++
      collectArticlePaths right := by
  induction left with
  | nil => rfl
  | cons entry left ih =>
    rw [List.cons_append, collectArticlePaths, collectArticlePaths, ih, List.append_assoc]

mutual

theorem exists_last_of_entry (entry : DirEntry) {file : StoredFile}
    (h : file ∈ collectEntry entry) :
    ∃ entry', (∀ rest, Relisted (entry :: rest) (entry' :: rest)) ∧
      ∃ before, collectEntry entry' = before ++ [file] := by
  match entry with
  | .file name contents =>
    refine ⟨.file name contents, fun rest => .refl _, [], ?_⟩
    simp only [collectEntry] at h ⊢
    split_ifs at h ⊢
    · rw [List.mem_singleton.mp h]
      rfl
    · cases h
  | .dir name entries =>
    simp only [collectEntry] at h
    split_ifs at h with hname
    · cases h
    · obtain ⟨entries', hlisted, before, hbefore⟩ := exists_last entries h
      refine ⟨.dir name entries', fun rest => .inside name rest hlisted, before, ?_⟩
      rw [collectEntry, if_neg hname, hbefore]
  | .other name =>
    simp only [collectEntry] at h
    cases h

theorem exists_last (entries : List DirEntry) {file : StoredFile}
    (h : file ∈ collectArticlePaths entries) : ∃ entries', Relisted entries entries' ∧
      ∃ before, collectArticlePaths entries' = before ++ [file] := by
  match entries with
  | [] =>
    simp only [collectArticlePaths] at h
    cases h
  | entry :: entries =>
    rw [collectArticlePaths, List.mem_append] at h
    by_cases hrest : file ∈ collectArticlePaths entries
    · obtain ⟨entries', hlisted, before, hbefore⟩ := exists_last entries hrest
      refine ⟨entry :: entries', hlisted.cons entry, collectEntry entry ++ before, ?_⟩
      rw [collectArticlePaths, hbefore, List.append_assoc]
    · obtain ⟨entry', hlisted, before, hbefore⟩ :=
        exists_last_of_entry entry (h.resolve_right hrest)
      refine ⟨entries ++ [entry'], (hlisted entries).trans (.moveLast entry' entries),
        collectArticlePaths entries ++ before, ?_⟩
      rw [collectArticlePaths_append, collectArticlePaths, collectArticlePaths, hbefore,
        List.append_nil, List.append_assoc]

end

abbrev NumberedEntry := Nat × ArticleStoreEntry

/-- The article of a file, if it is one that is indexed. -/
def indexedArticle (file : StoredFile) : Except BuildError (Option NumberedEntry) :=
  match file.readToEnd with
  | .error error => .error (.file error)
  | .ok bytes =>
    match Article.parse bytes with
    | .error _ => .ok none
    | .ok none => .ok none
    | .ok (some article) =>
      match article.articleNumber with
      | none => .ok none
      | some articleNumber =>
        match headerOf article "Date" with
        | none => .ok (some (articleNumber, articleStoreEntry article none))
        | some date =>
          match parseRfc2822DateKey date with
          | .error panic => .error (.panic panic)
          | .ok dateKey => .ok (some (articleNumber, articleStoreEntry article dateKey))

def indexedArticles (files : List StoredFile) : List NumberedEntry :=
  files.flatMap fun file => (indexedArticle file).toOption.join.toList

def IndexBuilder.addArticles (self : IndexBuilder) (articles : List NumberedEntry) : IndexBuilder :=
  articles.foldl (fun builder article => builder.addArticle article.1 article.2) self

def indexOf (articles : List NumberedEntry) : ArticleStoreIndex :=
  (IndexBuilder.empty.addArticles articles).finish

theorem addFile_eq (builder : IndexBuilder) (file : StoredFile) :
    builder.addFile file = (indexedArticle file).map fun article =>
      builder.addArticles article.toList := by
  unfold IndexBuilder.addFile indexedArticle
  cases file.readToEnd with
  | error error => rfl
  | ok bytes =>
    dsimp only
    cases Article.parse bytes with
    | error error => rfl
    | ok parsed =>
      cases parsed with
      | none => rfl
      | some article =>
        dsimp only
        cases article.articleNumber with
        | none => rfl
        | some articleNumber =>
          dsimp only
          cases headerOf article "Date" with
          | none => rfl
          | some date =>
            dsimp only
            cases parseRfc2822DateKey date with
            | error panic => rfl
            | ok dateKey => rfl

theorem foldlM_addFile (files : List StoredFile) (builder built : IndexBuilder) :
    files.foldlM IndexBuilder.addFile builder = .ok built ↔
      (∀ file ∈ files, ∃ article, indexedArticle file = .ok article) ∧
        builder.addArticles (indexedArticles files) = built := by
  induction files generalizing builder with
  | nil => simp [indexedArticles, IndexBuilder.addArticles, pure, Except.pure]
  | cons file files ih =>
    rw [List.foldlM_cons, addFile_eq]
    cases hfile : indexedArticle file with
    | error error => simp [Except.map, bind, Except.bind, hfile]
    | ok article =>
      simp [Except.map, ih, hfile, indexedArticles, IndexBuilder.addArticles, Except.toOption]

theorem build_eq_ok_iff (root : List DirEntry) (index : ArticleStoreIndex) :
    ArticleStoreIndex.build root = .ok index ↔
      (∀ file ∈ collectArticlePaths root, ∃ article, indexedArticle file = .ok article) ∧
        indexOf (indexedArticles (collectArticlePaths root)) = index := by
  unfold ArticleStoreIndex.build
  rw [bind_eq_ok]
  constructor
  · rintro ⟨builder, hbuilder, hfinish⟩
    obtain ⟨hread, hfold⟩ := (foldlM_addFile _ _ _).mp hbuilder
    refine ⟨hread, ?_⟩
    rw [indexOf, hfold]
    exact Except.ok.inj hfinish
  · rintro ⟨hread, rfl⟩
    exact ⟨_, (foldlM_addFile _ _ _).mpr ⟨hread, rfl⟩, rfl⟩

/-- A group that an article names, with the number and the date it is filed under. -/
structure Filing where
  groupName : Str
  articleNumber : Nat
  dateKey : Nat

def filings (articles : List NumberedEntry) : List Filing :=
  articles.flatMap fun article =>
    article.2.newsgroups.map fun groupName => ⟨groupName, article.1, article.2.dateKey.getD 0⟩

theorem filings_append (articles : List NumberedEntry) (article : NumberedEntry) :
    filings (articles ++ [article]) = filings articles ++
      article.2.newsgroups.map fun groupName =>
        ⟨groupName, article.1, article.2.dateKey.getD 0⟩ := by
  simp [filings]

def ArticleStoreGroupBuilder.add (self : ArticleStoreGroupBuilder) (filing : Filing) :
    ArticleStoreGroupBuilder :=
  ⟨self.articleNumbers ++ [filing.articleNumber], max self.activeTime filing.dateKey⟩

theorem addArticles_empty (articles : List NumberedEntry) :
    IndexBuilder.empty.addArticles articles =
      { groups :=
        Filled.gather Filing.groupName ArticleStoreGroupBuilder.add ⟨[], 0⟩ (filings articles)
        articlesByNumber := Filled.fill Prod.fst Prod.snd articles
        articlesByMessageId := Filled.fill (fun article => article.2.messageId) Prod.fst articles
          } := by
  induction articles using List.reverseRecOn with
  | nil => rfl
  | append_singleton articles article ih =>
    rw [IndexBuilder.addArticles] at ih ⊢
    rw [List.foldl_append, ih, Filled.fill_append, Filled.fill_append, filings_append,
      Filled.gather, Filled.gather, List.foldl_append, List.foldl_map]
    rfl

theorem foldl_add (found : List Filing) (builder : ArticleStoreGroupBuilder) :
    found.foldl ArticleStoreGroupBuilder.add builder =
      ⟨builder.articleNumbers ++ found.map Filing.articleNumber,
        (found.map Filing.dateKey).foldl max builder.activeTime⟩ := by
  induction found generalizing builder with
  | nil => simp
  | cons filing found ih => simp [ih, ArticleStoreGroupBuilder.add]

def filedUnder (articles : List NumberedEntry) (groupName : Str) : List Filing :=
  (filings articles).filter fun filing => filing.groupName = groupName

theorem mem_filedUnder {articles : List NumberedEntry} {filing : Filing} :
    filing ∈ filedUnder articles groupName ↔
      filing.groupName = groupName ∧ ∃ article ∈ articles, groupName ∈ article.2.newsgroups ∧
        filing.articleNumber = article.1 ∧ filing.dateKey = article.2.dateKey.getD 0 := by
  obtain ⟨name, number, date⟩ := filing
  simp only [filedUnder, filings, List.mem_filter, List.mem_flatMap, List.mem_map, Filing.mk.injEq,
    decide_eq_true_eq]
  constructor
  · rintro ⟨⟨article, harticle, other, hother, rfl, rfl, rfl⟩, rfl⟩
    exact ⟨rfl, article, harticle, hother, rfl, rfl⟩
  · rintro ⟨rfl, article, harticle, hname, rfl, rfl⟩
    exact ⟨⟨article, harticle, name, hname, rfl, rfl, rfl⟩, rfl⟩

theorem groups_indexOf (articles : List NumberedEntry) (groupName : Str) :
    (indexOf articles).groups[groupName]? =
      match filedUnder articles groupName with
      | [] => none
      | found => some (IndexBuilder.finishGroup
          ⟨found.map Filing.articleNumber, (found.map Filing.dateKey).foldl max 0⟩) := by
  rw [indexOf, addArticles_empty, IndexBuilder.finish, Std.TreeMap.getElem?_map,
    Filled.gather_getElem?]
  have hfilter : (filings articles).filter (fun filing => decide (filing.groupName = groupName)) =
      filedUnder articles groupName := rfl
  rw [hfilter]
  cases filedUnder articles groupName with
  | nil => rfl
  | cons first rest => simp only [Option.map_some, foldl_add, List.nil_append]

theorem articlesByNumber_indexOf (articles : List NumberedEntry) :
    (indexOf articles).articlesByNumber = Filled.fill Prod.fst Prod.snd articles := by
  rw [indexOf, addArticles_empty]
  rfl

theorem articlesByMessageId_indexOf (articles : List NumberedEntry) :
    (indexOf articles).articlesByMessageId =
      Filled.fill (fun article => article.2.messageId) Prod.fst articles := by
  rw [indexOf, addArticles_empty]
  rfl

theorem group_indexOf {articles : List NumberedEntry} {group : ArticleStoreGroup}
    (h : (indexOf articles).groups[groupName]? = some group) :
    group.articleNumbers ≠ [] ∧ ∀ articleNumber, articleNumber ∈ group.articleNumbers ↔
      ∃ entry, (articleNumber, entry) ∈ articles ∧ groupName ∈ entry.newsgroups := by
  -- A group has the numbers of the articles that name it.
  have hnumbers : ∀ articleNumber, articleNumber ∈ group.articleNumbers ↔
      ∃ filing ∈ filedUnder articles groupName, filing.articleNumber = articleNumber := by
    intro articleNumber
    rw [groups_indexOf] at h
    cases hfiled : filedUnder articles groupName with
    | nil => simp [hfiled] at h
    | cons first rest =>
      rw [hfiled] at h
      rw [← Option.some.inj h]
      simp only [IndexBuilder.finishGroup, List.mem_dedup, List.mem_insertionSort, List.mem_map]
  constructor
  · intro hempty
    rw [groups_indexOf] at h
    cases hfiled : filedUnder articles groupName with
    | nil => simp [hfiled] at h
    | cons first rest =>
      have hfirst := (hnumbers first.articleNumber).mpr ⟨first, by simp [hfiled], rfl⟩
      simp [hempty] at hfirst
  · intro articleNumber
    rw [hnumbers]
    simp only [mem_filedUnder]
    constructor
    · rintro ⟨filing, ⟨hname, ⟨number, entry⟩, harticle, hnames, hnumber, hdate⟩, rfl⟩
      refine ⟨entry, ?_, hnames⟩
      rw [hnumber]
      exact harticle
    · rintro ⟨entry, harticle, hnames⟩
      exact ⟨⟨groupName, articleNumber, entry.dateKey.getD 0⟩,
        ⟨rfl, (articleNumber, entry), harticle, hnames, rfl, rfl⟩, rfl⟩

theorem exists_group_indexOf {articles : List NumberedEntry} {article : NumberedEntry}
    (h : article ∈ articles) (hname : groupName ∈ article.2.newsgroups) :
    ∃ group, (indexOf articles).groups[groupName]? = some group := by
  have hfiled : (⟨groupName, article.1, article.2.dateKey.getD 0⟩ : Filing) ∈
      filedUnder articles groupName := mem_filedUnder.mpr ⟨rfl, article, h, hname, rfl, rfl⟩
  rw [groups_indexOf]
  cases hfound : filedUnder articles groupName with
  | nil =>
    rw [hfound] at hfiled
    cases hfiled
  | cons first rest => exact ⟨_, rfl⟩

theorem trim_trim (value : Str) : trim (trim value) = trim value := by
  have hdrop : (trim value).dropWhile isUnicodeWhitespace = trim value := by
    rw [List.dropWhile_eq_self_iff]
    intro hpos
    have hstart : trim value <+: value.dropWhile isUnicodeWhitespace := List.rdropWhile_prefix _ _
    have hne : value.dropWhile isUnicodeWhitespace ≠ [] := by
      intro hnil
      rw [hnil, List.prefix_nil] at hstart
      simp [hstart] at hpos
    have hfirst := List.head_dropWhile_not isUnicodeWhitespace hne
    rw [List.head_eq_getElem] at hfirst
    rw [hstart.getElem hpos, hfirst]
    exact Bool.false_ne_true
  rw [trim, hdrop]
  exact List.rdropWhile_idempotent _ _

theorem trim_of_mem_parseNewsgroups {value : Bytes}
    (h : groupName ∈ parseNewsgroups value) : trim groupName = groupName := by
  unfold parseNewsgroups at h
  split at h
  · obtain ⟨piece, -, rfl⟩ := List.mem_map.mp (List.mem_filter.mp h).1
    exact trim_trim piece
  · cases h

theorem exists_article_of_mem {files : List StoredFile} {article : NumberedEntry}
    (h : article ∈ indexedArticles files) :
    ∃ file ∈ files, ∃ (bytes : Bytes) (parsed : Article) (dateKey : Option Nat),
      file.readToEnd = .ok bytes ∧ Article.parse bytes = .ok (some parsed) ∧
        parsed.articleNumber = some article.1 ∧ article.2 = articleStoreEntry parsed dateKey := by
  -- An article that is indexed has the entry of a parsed article.
  obtain ⟨file, hfile, hmem⟩ := List.mem_flatMap.mp h
  have hread : indexedArticle file = .ok (some article) := by
    cases hindexed : indexedArticle file with
    | error error => simp [hindexed, Except.toOption] at hmem
    | ok found =>
      rw [hindexed] at hmem
      exact congrArg Except.ok (Option.mem_toList.mp hmem)
  unfold indexedArticle at hread
  split at hread
  · cases hread
  · next bytes hbytes =>
    split at hread
    · cases hread
    · cases hread
    · next parsed hparsed =>
      split at hread
      · cases hread
      · next articleNumber hnumber =>
        split at hread
        · cases hread
          exact ⟨file, hfile, bytes, parsed, none, hbytes, hparsed, hnumber, rfl⟩
        · split at hread
          · cases hread
          · next dateKey hdate =>
            cases hread
            exact ⟨file, hfile, bytes, parsed, dateKey, hbytes, hparsed, hnumber, rfl⟩

theorem isLineContent_of_headerOf {article : Article} {name : String} {value : Bytes}
    (h : headerOf article name = some value) : IsLineContent value := by
  obtain ⟨headers, -, hget⟩ := Option.bind_eq_some_iff.mp h
  exact Headers.isLineContent_of_get hget

section Built

variable {root : List DirEntry} {index : ArticleStoreIndex} {groupName : Str}
  {group : ArticleStoreGroup}
  (hbuild : ArticleStoreIndex.build root = .ok index)
  (hgroup : index.groups[groupName]? = some group)

include hbuild hgroup

theorem nonempty_of_build : group.articleNumbers ≠ [] := by
  obtain ⟨-, rfl⟩ := (build_eq_ok_iff root index).mp hbuild
  exact (group_indexOf hgroup).1

theorem exists_entry_of_build (h : articleNumber ∈ group.articleNumbers) :
    ∃ entry, index.articleEntry articleNumber = some entry := by
  obtain ⟨-, rfl⟩ := (build_eq_ok_iff root index).mp hbuild
  obtain ⟨entry, hmem, -⟩ := ((group_indexOf hgroup).2 articleNumber).mp h
  rw [ArticleStoreIndex.articleEntry, articlesByNumber_indexOf]
  exact Filled.exists_fill_of_mem hmem

theorem le_max_of_build (h : articleNumber ∈ group.articleNumbers) :
    articleNumber ≤ MAX_ARTICLE_NUMBER := by
  obtain ⟨-, rfl⟩ := (build_eq_ok_iff root index).mp hbuild
  obtain ⟨entry, hmem, -⟩ := ((group_indexOf hgroup).2 articleNumber).mp h
  obtain ⟨file, -, bytes, parsed, dateKey, -, hparsed, hnumber, -⟩ := exists_article_of_mem hmem
  obtain ⟨⟨number, hfound, hmax⟩, -⟩ := Article.of_parse hparsed
  rw [hnumber] at hfound
  rw [show articleNumber = number from Option.some.inj hfound]
  exact hmax

theorem exists_newsgroups_of_build : ∃ value, IsLineContent value ∧
    groupName ∈ parseNewsgroups value := by
  have hne := nonempty_of_build hbuild hgroup
  obtain ⟨-, rfl⟩ := (build_eq_ok_iff root index).mp hbuild
  obtain ⟨articleNumber, hnumber⟩ := List.exists_mem_of_ne_nil _ hne
  obtain ⟨entry, hmem, hname⟩ := ((group_indexOf hgroup).2 articleNumber).mp hnumber
  obtain ⟨file, -, bytes, parsed, dateKey, -, -, -, hentry⟩ := exists_article_of_mem hmem
  rw [show entry = _ from hentry, articleStoreEntry] at hname
  cases hheader : headerOf parsed "Newsgroups" with
  | none => simp [hheader] at hname
  | some value =>
    rw [hheader] at hname
    exact ⟨value, isLineContent_of_headerOf hheader, hname⟩

theorem trim_of_build : trim groupName = groupName := by
  obtain ⟨value, -, hname⟩ := exists_newsgroups_of_build hbuild hgroup
  exact trim_of_mem_parseNewsgroups hname

theorem name_ne_nil_of_build : groupName ≠ [] := by
  obtain ⟨value, -, hname⟩ := exists_newsgroups_of_build hbuild hgroup
  unfold parseNewsgroups at hname
  cases hutf8 : fromUtf8 value with
  | none => simp [hutf8] at hname
  | some text =>
    rw [hutf8] at hname
    simpa using (List.mem_filter.mp hname).2

end Built

theorem exists_entry_of_messageId {root : List DirEntry} {index : ArticleStoreIndex}
    {messageId : Str} (hbuild : ArticleStoreIndex.build root = .ok index)
    (h : index.articleNumberForMessageId messageId = some articleNumber) :
    ∃ entry, index.articleEntry articleNumber = some entry := by
  obtain ⟨-, rfl⟩ := (build_eq_ok_iff root index).mp hbuild
  rw [ArticleStoreIndex.articleNumberForMessageId, articlesByMessageId_indexOf] at h
  obtain ⟨⟨number, entry⟩, hmem, -, rfl⟩ := Filled.exists_of_fill h
  rw [ArticleStoreIndex.articleEntry, articlesByNumber_indexOf]
  exact Filled.exists_fill_of_mem hmem

theorem finishGroup_perm {numbers numbers' : List Nat} (h : numbers.Perm numbers')
    (activeTime : Nat) :
    IndexBuilder.finishGroup ⟨numbers, activeTime⟩ = IndexBuilder.finishGroup
      ⟨numbers', activeTime⟩ := by
  have hsorted : numbers.insertionSort (· ≤ ·) = numbers'.insertionSort (· ≤ ·) := by
    apply List.Perm.eq_of_pairwise' (List.pairwise_insertionSort _ _)
      (List.pairwise_insertionSort _ _)
    exact ((List.perm_insertionSort _ _).trans h).trans (List.perm_insertionSort _ _).symm
  simp only [IndexBuilder.finishGroup, hsorted]

theorem groups_indexOf_perm {articles articles' : List NumberedEntry} (h : articles.Perm articles')
    (groupName : Str) :
    (indexOf articles).groups[groupName]? = (indexOf articles').groups[groupName]? := by
  have hfiled : (filedUnder articles groupName).Perm (filedUnder articles' groupName) :=
    (h.flatMap_right _).filter _
  rw [groups_indexOf, groups_indexOf]
  cases hfound : filedUnder articles groupName with
  | nil =>
    rw [hfound] at hfiled
    rw [hfiled.nil_eq]
  | cons first rest =>
    rw [hfound] at hfiled
    cases hfound' : filedUnder articles' groupName with
    | nil =>
      rw [hfound'] at hfiled
      exact absurd hfiled.eq_nil (List.cons_ne_nil _ _)
    | cons first' rest' =>
      rw [hfound'] at hfiled
      simp only
      rw [(hfiled.map Filing.dateKey).foldl_eq, finishGroup_perm (hfiled.map Filing.articleNumber)]

/-- The three maps agree with each other. -/
structure ArticleStoreIndex.Consistent (index : ArticleStoreIndex) : Prop where
  messageIds : ∀ messageId articleNumber,
    index.articleNumberForMessageId messageId = some articleNumber →
      ∃ entry, index.articleEntry articleNumber = some entry ∧ entry.messageId = messageId
  members : ∀ (groupName : Str) group, index.groups[groupName]? = some group →
    ∀ articleNumber ∈ group.articleNumbers,
      ∃ entry, index.articleEntry articleNumber = some entry ∧ groupName ∈ entry.newsgroups
  newsgroups : ∀ articleNumber entry, index.articleEntry articleNumber = some entry →
    ∀ groupName ∈ entry.newsgroups,
      ∃ group, index.groups[groupName]? = some group ∧ articleNumber ∈ group.articleNumbers
  increasing : ∀ (groupName : Str) group, index.groups[groupName]? = some group →
    group.articleNumbers.Pairwise (· < ·) ∧ group.articleNumbers ≠ []

/-- The two indexes hold the same under every key. -/
structure ArticleStoreIndex.Same (index index' : ArticleStoreIndex) : Prop where
  groups : ∀ groupName : Str, index.groups[groupName]? = index'.groups[groupName]?
  entries : ∀ articleNumber, index.articleEntry articleNumber = index'.articleEntry articleNumber
  numbers : ∀ messageId,
    index.articleNumberForMessageId messageId = index'.articleNumberForMessageId messageId

/-- No two of the articles have one number and different entries, or one message-id and different
numbers. -/
structure Unambiguous (articles : List NumberedEntry) : Prop where
  entries : Filled.Determines Prod.fst Prod.snd articles
  numbers : Filled.Determines (fun article => article.2.messageId) Prod.fst articles

theorem Unambiguous.perm {articles articles' : List NumberedEntry} (h : Unambiguous articles)
    (hperm : articles.Perm articles') : Unambiguous articles' where
  entries article harticle other hother :=
    h.entries article (hperm.mem_iff.mpr harticle) other (hperm.mem_iff.mpr hother)
  numbers article harticle other hother :=
    h.numbers article (hperm.mem_iff.mpr harticle) other (hperm.mem_iff.mpr hother)

theorem Unambiguous.articleEntry_iff {articles : List NumberedEntry} (h : Unambiguous articles)
    {entry : ArticleStoreEntry} :
    (indexOf articles).articleEntry articleNumber = some entry ↔
      (articleNumber, entry) ∈ articles := by
  rw [ArticleStoreIndex.articleEntry, articlesByNumber_indexOf, h.entries.fill_iff]
  constructor
  · rintro ⟨⟨number, found⟩, hmem, rfl, rfl⟩
    exact hmem
  · intro hmem
    exact ⟨_, hmem, rfl, rfl⟩

theorem Unambiguous.consistent {articles : List NumberedEntry} (h : Unambiguous articles) :
    (indexOf articles).Consistent where
  messageIds messageId articleNumber hnumber := by
    rw [ArticleStoreIndex.articleNumberForMessageId, articlesByMessageId_indexOf] at hnumber
    obtain ⟨⟨number, entry⟩, hmem, hid, rfl⟩ := Filled.exists_of_fill hnumber
    exact ⟨entry, h.articleEntry_iff.mpr hmem, hid⟩
  members groupName group hgroup articleNumber hmember := by
    obtain ⟨entry, hmem, hname⟩ := ((group_indexOf hgroup).2 articleNumber).mp hmember
    exact ⟨entry, h.articleEntry_iff.mpr hmem, hname⟩
  newsgroups articleNumber entry hentry groupName hname := by
    have hmem := h.articleEntry_iff.mp hentry
    obtain ⟨group, hgroup⟩ := exists_group_indexOf hmem hname
    exact ⟨group, hgroup, ((group_indexOf hgroup).2 articleNumber).mpr ⟨entry, hmem, hname⟩⟩
  increasing groupName group hgroup := ⟨group.sorted, (group_indexOf hgroup).1⟩

theorem Unambiguous.same {articles articles' : List NumberedEntry} (h : Unambiguous articles)
    (hperm : articles.Perm articles') : (indexOf articles).Same (indexOf articles') where
  groups := groups_indexOf_perm hperm
  entries articleNumber := by
    rw [ArticleStoreIndex.articleEntry, ArticleStoreIndex.articleEntry, articlesByNumber_indexOf,
      articlesByNumber_indexOf, h.entries.fill_perm hperm]
  numbers messageId := by
    rw [ArticleStoreIndex.articleNumberForMessageId, ArticleStoreIndex.articleNumberForMessageId,
      articlesByMessageId_indexOf, articlesByMessageId_indexOf, h.numbers.fill_perm hperm]

/-- Every listing of the directory gives an index that is consistent, and the same one. -/
def ListingsAgree (root : List DirEntry) (index : ArticleStoreIndex) : Prop :=
  ∀ root', Relisted root root' →
    ∃ index', ArticleStoreIndex.build root' = .ok index' ∧ index'.Consistent ∧ index.Same index'

theorem exists_article_last {root : List DirEntry} {article : NumberedEntry}
    (h : article ∈ indexedArticles (collectArticlePaths root)) :
    ∃ root', Relisted root root' ∧
      ∃ before, indexedArticles (collectArticlePaths root') = before ++ [article] := by
  obtain ⟨file, hfile, harticle⟩ := List.mem_flatMap.mp h
  have hread : (indexedArticle file).toOption.join.toList = [article] := by
    rw [Option.mem_toList.mp harticle]
    rfl
  obtain ⟨root', hlisted, before, hbefore⟩ := exists_last root hfile
  refine ⟨root', hlisted, indexedArticles before, ?_⟩
  rw [hbefore, indexedArticles, List.flatMap_append]
  simp [hread, indexedArticles]

/-- The index is consistent whatever the listing, and does not depend on it, exactly if no two files
name one number with different entries, or one message-id with different numbers. -/
theorem index_consistent_iff_unambiguous {root : List DirEntry} {index : ArticleStoreIndex}
    (h : ArticleStoreIndex.build root = .ok index) :
    ListingsAgree root index ↔ Unambiguous (indexedArticles (collectArticlePaths root)) := by
  obtain ⟨hread, rfl⟩ := (build_eq_ok_iff root index).mp h
  constructor
  · intro hagree
    -- the listing in which an article is the last shows what the index has under its keys
    have hlast : ∀ article ∈ indexedArticles (collectArticlePaths root),
        (indexOf (indexedArticles (collectArticlePaths root))).articleEntry article.1 =
          some article.2 ∧
          (indexOf (indexedArticles (collectArticlePaths root))).articleNumberForMessageId
            article.2.messageId = some article.1 := by
      intro article harticle
      obtain ⟨root', hlisted, before, hbefore⟩ := exists_article_last harticle
      obtain ⟨index', hbuild, -, hsame⟩ := hagree root' hlisted
      obtain ⟨-, rfl⟩ := (build_eq_ok_iff root' index').mp hbuild
      rw [hsame.entries, hsame.numbers, hbefore, ArticleStoreIndex.articleEntry,
        ArticleStoreIndex.articleNumberForMessageId, articlesByNumber_indexOf,
          articlesByMessageId_indexOf]
      exact ⟨Filled.fill_append_getElem? before article, Filled.fill_append_getElem? before article⟩
    constructor
    · intro article harticle other hother hnumber
      have hentry := (hlast article harticle).1
      rw [hnumber, (hlast other hother).1] at hentry
      exact (Option.some.inj hentry).symm
    · intro article harticle other hother hkey
      have hid : article.2.messageId = other.2.messageId := hkey
      have hnumber := (hlast article harticle).2
      rw [hid, (hlast other hother).2] at hnumber
      exact (Option.some.inj hnumber).symm
  · intro hunambiguous root' hlisted
    have hperm : (indexedArticles (collectArticlePaths root)).Perm
        (indexedArticles (collectArticlePaths root')) := hlisted.perm.flatMap_right _
    refine ⟨_, (build_eq_ok_iff root' _).mpr ⟨?_, rfl⟩, (hunambiguous.perm hperm).consistent,
      hunambiguous.same hperm⟩
    intro file hfile
    exact hread file (hlisted.perm.mem_iff.mpr hfile)

def storedArticle (number messageId newsgroup : String) : DirEntry :=
  .file number.toList
    ⟨ascii ("220 " ++ number ++ " " ++ messageId ++ "\r\nNewsgroups: " ++ newsgroup ++
      "\r\n\r\ntext\r\n.\r\n"), none⟩

def twoArticles : List DirEntry :=
  [storedArticle "1" "<a@b>" "misc.test", .dir "sub".toList [storedArticle "2" "<c@d>" "misc.test"]]

theorem two_articles_indexed_alike :
    ∃ index, ArticleStoreIndex.build twoArticles = .ok index ∧ ListingsAgree twoArticles index := by
  have hok : (ArticleStoreIndex.build twoArticles).isOk := by decide +kernel
  obtain ⟨index, hindex⟩ := ExceptBind.exists_ok_of_isOk hok
  refine ⟨index, hindex, (index_consistent_iff_unambiguous hindex).mpr ⟨?_, ?_⟩⟩
  · unfold Filled.Determines
    decide +kernel
  · unfold Filled.Determines
    decide +kernel

theorem build_twoArticles :
    ∃ index group, ArticleStoreIndex.build twoArticles = .ok index ∧
      index.groups["misc.test".toList]? = some group ∧ group.articleNumbers = [1, 2] := by
  have hok : (ArticleStoreIndex.build twoArticles).isOk := by decide +kernel
  obtain ⟨index, hbuild⟩ := ExceptBind.exists_ok_of_isOk hok
  have hnumbers : (ArticleStoreIndex.build twoArticles).toOption.bind
      (fun index => (index.groups["misc.test".toList]?).map ArticleStoreGroup.articleNumbers) =
        some [1, 2] := by
    decide +kernel
  rw [hbuild] at hnumbers
  obtain ⟨group, hgroup, hlist⟩ := Option.map_eq_some_iff.mp hnumbers
  exact ⟨index, group, hbuild, hgroup, hlist⟩

def oneNumberTwice : List DirEntry :=
  [storedArticle "1" "<a@b>" "misc.test", .dir "sub".toList [storedArticle "1" "<c@d>" "misc.misc"]]

/-- The message-id of the article that was read first leads to the other one. -/
theorem overwritten_article_leaves_traces :
    ∃ index, ArticleStoreIndex.build oneNumberTwice = .ok index ∧ ¬ index.Consistent := by
  have hok : (ArticleStoreIndex.build oneNumberTwice).isOk := by decide +kernel
  obtain ⟨index, hindex⟩ := ExceptBind.exists_ok_of_isOk hok
  refine ⟨index, hindex, ?_⟩
  have hfound : (ArticleStoreIndex.build oneNumberTwice).toOption.map (fun index =>
      (index.articleNumberForMessageId "<a@b>".toList,
        (index.articleEntry 1).map ArticleStoreEntry.messageId)) =
      some (some 1, some "<c@d>".toList) := by decide +kernel
  rw [hindex] at hfound
  simp only [Except.toOption, Option.map_some, Option.some.injEq, Prod.mk.injEq,
    Option.map_eq_some_iff] at hfound
  obtain ⟨hnumber, entry, hentry, hid⟩ := hfound
  intro hconsistent
  obtain ⟨found, hfound, hfoundId⟩ := hconsistent.messageIds _ _ hnumber
  rw [hentry] at hfound
  rw [← Option.some.inj hfound, hid] at hfoundId
  exact absurd hfoundId (by decide)

end NntpBench.Server
