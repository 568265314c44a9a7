import NntpBench.Server.GroupCommands

namespace NntpBench.Server

open Protocol Terminator

theorem visible_of_toAsciiLowercase {byte : UInt8}
    (h : 0x21 ≤ (toAsciiLowercase byte).toNat ∧ (toAsciiLowercase byte).toNat < 128) :
    0x21 ≤ byte.toNat ∧ byte.toNat < 128 := by
  unfold toAsciiLowercase at h
  split_ifs at h with hupper
  · simp only [Bool.and_eq_true, decide_eq_true_eq, UInt8.le_iff_toNat_le] at hupper
    exact ⟨Nat.le_trans (by decide) hupper.1, Nat.lt_of_le_of_lt hupper.2 (by decide)⟩
  · exact h

/-- The supported headers are visible ASCII, and none of them looks like a message-id or a number.
-/
theorem bytes_of_supported {header : Bytes} (h : hdrFieldIsSupported header = true) :
    ∀ byte ∈ header,
      (0x21 ≤ byte.toNat ∧ byte.toNat < 128) ∧ byte ≠ 60 ∧ isAsciiDigit byte = false := by
  have hall : ∀ name ∈ HDR_FIELDS, ∀ byte ∈ name.map toAsciiLowercase,
      (0x21 ≤ byte.toNat ∧ byte.toNat < 128) ∧ byte ≠ 60 ∧ isAsciiDigit byte = false := by
    decide
  obtain ⟨name, hname, hequal⟩ := List.any_eq_true.mp h
  intro byte hbyte
  have hlower := List.mem_map_of_mem (f := toAsciiLowercase) hbyte
  rw [of_decide_eq_true hequal] at hlower
  obtain ⟨hrange, hne, hdigit⟩ := hall name hname _ hlower
  refine ⟨visible_of_toAsciiLowercase hrange, ?_, ?_⟩
  · rintro rfl
    exact hne (by decide)
  · unfold toAsciiLowercase at hdigit
    split_ifs at hdigit with hupper
    · rw [Bool.eq_false_iff]
      intro hself
      simp only [isAsciiDigit, Bool.and_eq_true, decide_eq_true_eq,
        UInt8.le_iff_toNat_le] at hself hupper
      have hlow : 65 ≤ byte.toNat := hupper.1
      have hhigh : byte.toNat ≤ 57 := hself.2
      omega
    · exact hdigit

theorem trim_append_blanks {value blanks : Str} (h : ∀ c ∈ blanks, isUnicodeWhitespace c = true) :
    trim (value ++ blanks) = trim value := by
  have hdrop (text : Str) :
      (text ++ blanks).rdropWhile isUnicodeWhitespace = text.rdropWhile isUnicodeWhitespace := by
    unfold List.rdropWhile
    rw [List.reverse_append, List.dropWhile_append_of_pos]
    intro c hc
    exact h c (List.mem_reverse.mp hc)
  unfold trim
  rw [List.dropWhile_append]
  split_ifs with hempty
  · have hnil : value.dropWhile isUnicodeWhitespace = [] := List.isEmpty_iff.mp hempty
    have hblanks : blanks.dropWhile isUnicodeWhitespace = [] := List.dropWhile_eq_nil_iff.mpr h
    rw [hnil, hblanks]
  · exact hdrop _

theorem mem_of_mem_trim {value : Str} {c : Char} (h : c ∈ trim value) : c ∈ value := by
  have hmem :=
    (List.rdropWhile_prefix isUnicodeWhitespace (value.dropWhile isUnicodeWhitespace)).subset h
  exact (List.dropWhile_suffix isUnicodeWhitespace).subset hmem

theorem mem_trim_of_not_whitespace {value : Str} {c : Char} (hc : c ∈ value)
    (h : isUnicodeWhitespace c = false) : c ∈ trim value := by
  have hdrop {text : Str} (hmem : c ∈ text) : c ∈ text.dropWhile isUnicodeWhitespace := by
    rw [← List.takeWhile_append_dropWhile (p := isUnicodeWhitespace) (l := text)] at hmem
    rcases List.mem_append.mp hmem with htake | hrest
    · have hblank := List.mem_takeWhile_imp htake
      rw [h] at hblank
      cases hblank
    · exact hrest
  unfold trim List.rdropWhile
  rw [List.mem_reverse]
  exact hdrop (List.mem_reverse.mpr (hdrop hc))

theorem parseArticleIdArg_of_nondigit {args : Bytes} {byte : UInt8} (hbyte : byte ∈ args)
    (hvisible : 0x21 ≤ byte.toNat ∧ byte.toNat < 128) (hdigit : isAsciiDigit byte = false) :
    parseArticleIdArg args = none := by
  unfold parseArticleIdArg
  cases hutf8 : fromUtf8 args with
  | none => rfl
  | some text =>
    have hencode : asBytes text = args := Utf8.encode_of_decode hutf8
    rw [← hencode] at hbyte
    obtain ⟨c, hc, hencoded⟩ := List.mem_flatMap.mp hbyte
    have hcode : c.toNat = byte.toNat :=
      (Utf8.utf8EncodeChar_of_ascii_mem hencoded (UInt8.lt_iff_toNat_lt.mpr hvisible.2)).2
    have hwhite : isUnicodeWhitespace c = false := by
      simp only [isUnicodeWhitespace, hcode]
      simp
      omega
    have hmem : byte ∈ asBytes (trim text) :=
      List.mem_flatMap.mpr ⟨c, mem_trim_of_not_whitespace hc hwhite, hencoded⟩
    rw [Option.bind_some]
    dsimp only
    rw [if_pos]
    right
    exact List.any_eq_true.mpr ⟨byte, hmem, by rw [hdigit]; rfl⟩

theorem firstCommandArg_eq (args : Bytes) : firstCommandArg args = (commandTokens args).head? := by
  -- The first argument is the first token.
  rw [← commandTokens_skipCommandWs]
  unfold firstCommandArg
  dsimp only
  cases hskip : skipCommandWs args with
  | nil => rfl
  | cons first rest =>
    have hfirst : isCommandWs first = false := by
      have hdrop : args.dropWhile isCommandWs = first :: rest := hskip
      have hnot :=
        List.head_dropWhile_not isCommandWs (show args.dropWhile isCommandWs ≠ [] by simp [hdrop])
      simpa [hdrop] using hnot
    rw [if_neg (List.cons_ne_nil first rest)]
    cases hfind : (first :: rest).findIdx? isCommandWs with
    | none =>
      rw [Option.getD_none, List.take_length, commandTokens,
        List.splitOnP_eq_singleton (List.findIdx?_eq_none_iff.mp hfind)]
      rfl
    | some split =>
      obtain ⟨hlt, hblank, hbefore⟩ := List.findIdx?_eq_some_iff_getElem.mp hfind
      have htoken : ∀ byte ∈ (first :: rest).take split, isCommandWs byte = false := by
        intro byte hbyte
        obtain ⟨position, hposition, hget⟩ := List.mem_take_iff_getElem.mp hbyte
        rw [← hget]
        simpa using hbefore position (by omega)
      have hne : (first :: rest).take split ≠ [] := by
        intro hnil
        have hzero : split = 0 := by
          simpa using hnil
        subst hzero
        rw [List.getElem_cons_zero, hfirst] at hblank
        cases hblank
      rw [Option.getD_some]
      conv_rhs => rw [← List.take_append_drop split (first :: rest), List.drop_eq_getElem_cons hlt]
      rw [commandTokens, List.splitOnP_append_cons_of_forall_mem htoken _ hblank,
        List.filter_cons_of_pos (by simpa using hne)]
      rfl

theorem exists_of_firstCommandArg {args token : Bytes} (h : firstCommandArg args = some token)
    (hfirst : ∀ byte ∈ args.head?, isCommandWs byte = false) : token ≠ [] ∧ ∃ rest, args = token ++
      rest := by
  have hskip : skipCommandWs args = args := by
    unfold skipCommandWs
    cases args with
    | nil => rfl
    | cons byte args => rw [List.dropWhile_cons_of_neg (by simp [hfirst byte rfl])]
  constructor
  · rw [firstCommandArg_eq] at h
    have hmem := List.mem_of_mem_head? h
    unfold commandTokens at hmem
    simpa using (List.mem_filter.mp hmem).2
  · unfold firstCommandArg at h
    rw [hskip] at h
    dsimp only at h
    split_ifs at h
    rw [← Option.some.inj h]
    exact ⟨_, (List.take_append_drop _ _).symm⟩

theorem infix_of_infix_append_cons {α : Type*} {word left right : List α} {separator : α}
    (hnot : separator ∉ word) (h : word <:+: left ++ separator :: right) : word <:+: left ∨
      word <:+: right := by
  -- A word without the separator is on one of its sides.
  obtain ⟨before, after, heq⟩ := h
  rw [List.append_assoc] at heq
  rcases List.append_eq_append_iff.mp heq with ⟨middle, hleft, hrest⟩ | ⟨middle, hbefore, hrest⟩
  · rcases List.append_eq_append_iff.mp hrest with ⟨tail, hmiddle, -⟩ | ⟨tail, hword, htail⟩
    · left
      exact ⟨before, tail, by rw [hleft, hmiddle, List.append_assoc]⟩
    · cases tail with
      | nil =>
        left
        rw [List.append_nil] at hword
        exact ⟨before, [], by rw [hleft, hword, List.append_nil]⟩
      | cons first tail =>
        rw [List.cons_append] at htail
        obtain ⟨rfl, -⟩ := List.cons.inj htail
        exact absurd (by rw [hword]; simp) hnot
  · cases middle with
    | nil =>
      cases word with
      | nil => exact .inl (List.nil_infix)
      | cons first word =>
        rw [List.nil_append, List.cons_append] at hrest
        obtain ⟨rfl, -⟩ := List.cons.inj hrest
        exact absurd List.mem_cons_self hnot
    | cons first middle =>
      right
      rw [List.cons_append] at hrest
      obtain ⟨-, hright⟩ := List.cons.inj hrest
      exact ⟨middle, after, by rw [hright, List.append_assoc]⟩

theorem blanks_induction {motive : Bytes → Prop}
    (cut : ∀ left blank right, isCommandWs blank = true → motive left → motive right →
      motive (left ++ blank :: right))
    (word : ∀ args, (∀ byte ∈ args, isCommandWs byte = false) → motive args)
    (args : Bytes) : motive args := by
  by_cases hblank : ∃ blank ∈ args, isCommandWs blank = true
  · obtain ⟨blank, hmem, hws⟩ := hblank
    obtain ⟨left, right, rfl⟩ := List.append_of_mem hmem
    exact cut left blank right hws (blanks_induction cut word left)
      (blanks_induction cut word right)
  · apply word
    intro byte hbyte
    rw [Bool.eq_false_iff]
    exact fun hws => hblank ⟨byte, hbyte, hws⟩
termination_by args.length
decreasing_by
  all_goals
    subst_vars
    rw [List.length_append, List.length_cons]
    omega

theorem exists_token_of_infix {word : Bytes} (hne : word ≠ [])
    (hword : ∀ byte ∈ word, isCommandWs byte = false)
    (args : Bytes) : word <:+: args → ∃ token ∈ commandTokens args, word <:+: token := by
  -- A word without blanks is inside one of the tokens.
  induction args using blanks_induction with
  | cut left blank right hws ihLeft ihRight =>
    intro h
    have hnot : blank ∉ word := by
      intro hmem
      rw [hword blank hmem] at hws
      cases hws
    rw [commandTokens_append_cons _ _ hws]
    rcases infix_of_infix_append_cons hnot h with hleft | hright
    · obtain ⟨token, htoken, hin⟩ := ihLeft hleft
      exact ⟨token, List.mem_append_left _ htoken, hin⟩
    · obtain ⟨token, htoken, hin⟩ := ihRight hright
      exact ⟨token, List.mem_append_right _ htoken, hin⟩
  | word args hall =>
    intro h
    have hargs : args ≠ [] := by
      rintro rfl
      exact hne (List.infix_nil.mp h)
    refine ⟨args, ?_, h⟩
    rw [commandTokens, List.splitOnP_eq_singleton hall]
    simp [hargs]

theorem infix_of_mem_commandTokens {token : Bytes} (args : Bytes) :
    token ∈ commandTokens args → token <:+: args := by
  induction args using blanks_induction with
  | cut left blank right hws ihLeft ihRight =>
    intro h
    rw [commandTokens_append_cons _ _ hws] at h
    rcases List.mem_append.mp h with hleft | hright
    · exact (ihLeft hleft).trans (List.prefix_append left _).isInfix
    · exact (ihRight hright).trans
        ((List.suffix_cons blank right).trans (List.suffix_append left _)).isInfix
  | word args hall =>
    intro h
    rw [commandTokens, List.splitOnP_eq_singleton hall] at h
    rw [List.mem_singleton.mp (List.mem_of_mem_filter h)]

theorem findMessageId_of_first {args rest : Bytes} {first : UInt8} (hargs : args = first :: rest)
    (hblank : isAsciiWhitespace first = false) (hfirst : first ≠ 60) : findMessageId args =
      none := by
  subst hargs
  unfold findMessageId
  rw [List.findIdx?_cons]
  simp only [hblank, Bool.not_false, if_true, Option.bind_eq_bind, Option.bind_some]
  cases hfin : (first :: rest).reverse.findIdx? fun byte => !isAsciiWhitespace byte with
  | none => rfl
  | some fromEnd =>
    rw [Option.bind_some]
    have hlt := (List.findIdx?_eq_some_iff_findIdx_eq.mp hfin).1
    rw [List.length_reverse, List.length_cons] at hlt
    have hhead : ((first :: rest).extract 0 ((first :: rest).length - fromEnd)).head? ≠
        some 60 := by
      rw [List.extract_eq_take_drop, List.drop_zero, Nat.sub_zero, List.length_cons,
        show rest.length + 1 - fromEnd = (rest.length - fromEnd) + 1 by omega, List.take_succ_cons,
        List.head?_cons]
      intro hequal
      exact hfirst (Option.some.inj hequal)
    rw [if_pos (.inl hhead)]

namespace KeptCommand

variable {self : KeptCommand}

theorem messageId_command (h : self.request.messageId = none) : self.command.messageId = none := by
  have hbytes := self.commandMessageIdBytes_eq
  rw [h, commandMessageIdBytes] at hbytes
  exact Option.map_eq_none_iff.mp hbytes

theorem messageId_of_first {rest : Bytes} {first : UInt8}
    (hargs : self.request.args = first :: rest)
    (hblank : isAsciiWhitespace first = false) (hfirst : first ≠ 60) : self.request.messageId =
      none := by
  rw [RequestLine.messageId, findMessageId_of_first hargs hblank hfirst]
  rfl

theorem request_args {args : Bytes} (hkind : self.request.kind ≠ .unknown)
    (hargs : lineArgs self.line = args)
    (hne : args ≠ []) (hlast : ∀ byte ∈ args.getLast?, isCommandWs byte = false) :
      self.request.args = args := by
  obtain ⟨blanks, hblanks, heq⟩ := lineArgs_eq hkind
  rw [hargs] at heq
  split_ifs at heq with hnil
  · exact absurd heq hne
  · cases hlastBlank : blanks.getLast? with
    | none =>
      rw [List.getLast?_eq_none_iff] at hlastBlank
      rw [heq, hlastBlank, List.append_nil]
      rfl
    | some blank =>
      have hmem : blank ∈ blanks := List.mem_of_getLast? hlastBlank
      have hfalse := hlast blank (by rw [heq, List.getLast?_append, hlastBlank]; rfl)
      rw [hblanks blank hmem] at hfalse
      cases hfalse

end KeptCommand

namespace KeptCommand

variable {self : KeptCommand}

theorem commandTokens_request (h : self.request.kind ≠ .unknown) :
    commandTokens self.request.args = commandTokens (lineArgs self.line) := by
  obtain ⟨blanks, hblanks, hline⟩ := lineArgs_eq h
  rw [hline]
  split_ifs with hnil
  · rw [show self.request.args = [] from hnil]
  · exact (commandTokens_append_blanks _ hblanks).symm

theorem head?_request (h : self.request.kind ≠ .unknown) :
    ∀ byte ∈ self.request.args.head?, isCommandWs byte = false := by
  intro byte hbyte
  obtain ⟨rest, hargs⟩ := List.head?_eq_some_iff.mp hbyte
  obtain ⟨blanks, -, hline⟩ := lineArgs_eq h
  rw [show (RequestLine.parse self.line).args = byte :: rest from hargs,
    if_neg (List.cons_ne_nil _ _)] at hline
  unfold lineArgs at hline
  dsimp only at hline
  cases hsplit : (lineContent self.line).findIdx? isCommandWs with
  | none =>
    rw [hsplit] at hline
    cases hline
  | some split =>
    rw [hsplit] at hline
    have hdrop : ((lineContent self.line).drop split).dropWhile isCommandWs = byte ::
      (rest ++ blanks) := hline
    have hnot := List.head_dropWhile_not isCommandWs
      (show ((lineContent self.line).drop split).dropWhile isCommandWs ≠ [] by simp [hdrop])
    simpa [hdrop] using hnot

theorem of_supported {header : Bytes} (hkind : self.request.kind ≠ .unknown)
    (hfirst : (commandTokens (lineArgs self.line)).head? = some header)
    (hsupported : hdrFieldIsSupported header = true) :
    self.command.messageId = none ∧ self.command.articleId = none := by
  rw [← commandTokens_request hkind, ← firstCommandArg_eq] at hfirst
  obtain ⟨hne, rest, hargs⟩ := exists_of_firstCommandArg hfirst (head?_request hkind)
  obtain ⟨first, more, rfl⟩ := List.exists_cons_of_ne_nil hne
  obtain ⟨hvisible, hstart, hdigit⟩ := bytes_of_supported hsupported first List.mem_cons_self
  have hheader : Visible (first :: more) := fun byte hbyte =>
    UInt8.le_iff_toNat_le.mpr (bytes_of_supported hsupported byte hbyte).1.1
  constructor
  · exact messageId_command (messageId_of_first hargs (hheader.not_whitespace List.mem_cons_self)
      hstart)
  · have hmem : first ∈ self.request.args := by
      rw [hargs]
      exact List.mem_append_left _ List.mem_cons_self
    rw [articleId_command]
    exact parseArticleIdArg_of_nondigit hmem hvisible hdigit

end KeptCommand

theorem visible_trim {value : Str} (h : Visible (asBytes value)) : Visible
    (asBytes (trim value)) := by
  intro byte hbyte
  obtain ⟨c, hc, hencoded⟩ := List.mem_flatMap.mp hbyte
  exact h byte (List.mem_flatMap.mpr ⟨c, mem_of_mem_trim hc, hencoded⟩)

theorem exists_groupName {kept : KeptCommand} (hkind : kept.request.kind = .group) :
    ∃ group : GroupName, kept.request.args = asBytes group.value ∧
      ∃ text, fromUtf8 (lineArgs kept.line) = some text ∧ trim text = trim group.value := by
  -- GROUP has a group name for its argument, and takes no notice of blanks behind it.
  have hknown : (RequestLine.parse kept.line).kind ≠ .unknown := by
    rw [show (RequestLine.parse kept.line).kind = _ from hkind]
    decide
  obtain ⟨-, -, -, hclass⟩ := parse_of_known hknown
  rw [show (RequestLine.parse kept.line).kind = _ from hkind] at hclass
  have hdirect := classifyDirectCommand_of_classify (ascii "GROUP") (by decide) hclass.symm
  have hvalid : validateUtf8Arg validateGroupName (RequestLine.parse kept.line).args = true := by
    rw [classifyDirectCommand, kindIf] at hdirect
    split_ifs at hdirect with hvalid
    exact hvalid
  obtain ⟨value, hvalue, hname⟩ := Option.any_eq_true _ _ |>.mp hvalid
  have hargs : (RequestLine.parse kept.line).args = asBytes value :=
    (Utf8.encode_of_decode hvalue).symm
  refine ⟨⟨value, hname⟩, hargs, ?_⟩
  obtain ⟨blanks, hblanks, hline⟩ := lineArgs_eq hknown
  rw [hargs, if_neg (GroupName.isArgument ⟨value, hname⟩).nonempty] at hline
  have hblank : ∀ byte ∈ blanks, byte = SP ∨ byte = HT := by
    intro byte hbyte
    simpa [isCommandWs] using hblanks byte hbyte
  have hascii : ∀ byte ∈ blanks, byte < 128 := by
    intro byte hbyte
    rcases hblank byte hbyte with rfl | rfl <;> decide
  refine ⟨value ++ blanks.map fun byte => Char.ofNat byte.toNat, ?_, trim_append_blanks ?_⟩
  · rw [hline, ← Utf8.encode_map_ofNat hascii, asBytes, ← Utf8.encode_append]
    rw [Utf8.encode_map_ofNat hascii]
    exact Utf8.decode_encode _
  · intro c hc
    obtain ⟨byte, hbyte, rfl⟩ := List.mem_map.mp hc
    rcases hblank byte hbyte with rfl | rfl <;> decide

theorem exists_name_of_fixture {token : Bytes} {fixture : FixtureGroup}
    (h : fixtureGroupFromName token = some fixture) :
    ∃ name ∈ [ascii "alt.test", ascii "comp.lang.rust", ascii "empty.test"],
      token.map toAsciiLowercase = name.map toAsciiLowercase := by
  unfold fixtureGroupFromName eqIgnoreAsciiCase at h
  split_ifs at h with halt hcomp hempty
  · exact ⟨_, by simp, of_decide_eq_true halt⟩
  · exact ⟨_, by simp, of_decide_eq_true hcomp⟩
  · exact ⟨_, by simp, of_decide_eq_true hempty⟩

theorem visible_of_fixture {token : Bytes} {fixture : FixtureGroup}
    (h : fixtureGroupFromName token = some fixture) : Visible token := by
  have hall : ∀ name ∈ [ascii "alt.test", ascii "comp.lang.rust", ascii "empty.test"],
      ∀ byte ∈ name.map toAsciiLowercase, 0x21 ≤ byte.toNat ∧ byte.toNat < 128 := by decide
  obtain ⟨name, hmem, hequal⟩ := exists_name_of_fixture h
  intro byte hbyte
  have hlower := List.mem_map_of_mem (f := toAsciiLowercase) hbyte
  rw [hequal] at hlower
  exact (visible_of_toAsciiLowercase (hall name hmem _ hlower)).1

theorem visible_listgroupGroupName {args : Bytes} {state : SessionState} {currentGroup : Option Str}
    (herror : listgroupStateError args state = none)
    (hcurrent : ∀ name ∈ currentGroup, Visible (asBytes name)) :
    Visible (asBytes (listgroupGroupName args currentGroup)) := by
  -- The group of a LISTGROUP command can be written in a command, if the current one can.
  have hdefault : Visible (asBytes (currentGroup.getD "alt.test".toList)) := by
    cases currentGroup with
    | none => decide
    | some name => exact hcurrent name rfl
  unfold listgroupGroupName
  dsimp only
  cases hexplicit : ((listgroupExplicitGroupArg args).bind fromUtf8).map trim with
  | none => exact hdefault
  | some name =>
    rw [Option.filter_some]
    split_ifs with hne
    · obtain ⟨text, htext, rfl⟩ := Option.map_eq_some_iff.mp hexplicit
      obtain ⟨token, htoken, hutf8⟩ := Option.bind_eq_some_iff.mp htext
      apply visible_trim
      rw [show asBytes text = token from Utf8.encode_of_decode hutf8]
      unfold listgroupStateError at herror
      split_ifs at herror with hunknown
      rw [htoken, Option.any_some] at hunknown
      cases hfixture : fixtureGroupFromName token with
      | none => simp [hfixture] at hunknown
      | some fixture => exact visible_of_fixture hfixture
    · exact hdefault

end NntpBench.Server
