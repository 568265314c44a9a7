import NntpBench.Capabilities
import NntpBench.ContentLines

namespace NntpBench.Protocol

open Terminator

variable {line token rest : Bytes} {lines : List Bytes}

def lineWords (line : Bytes) : List Bytes := (line.splitOnP isBlank).filter (· ≠ [])

def isKeywordLine (line : Bytes) : Bool := (lineWords line).head?.any isKeywordToken

def lineLabel (line : Bytes) : Bytes := (lineWords line).headD []

theorem lineWords_nil : lineWords [] = [] := by decide

theorem lineWords_of_visible (hne : line ≠ []) (h : ∀ byte ∈ line, isBlank byte = false) :
    lineWords line = [line] := by
  unfold lineWords
  rw [List.splitOnP_eq_singleton h]
  simp [hne]

theorem lineWords_dropWhile (rest : Bytes) : lineWords (rest.dropWhile isBlank) =
    lineWords rest := by
  induction rest with
  | nil => rfl
  | cons byte rest ih =>
    by_cases hblank : isBlank byte = true
    · rw [List.dropWhile_cons_of_pos hblank, ih]
      unfold lineWords
      rw [List.splitOnP_cons_eq_if_modifyHead, if_pos hblank]
      simp
    · rw [List.dropWhile_cons_of_neg hblank]

theorem lineWords_of_split {next : Bytes} (h : splitResponseWsToken line = some (token, next)) :
    lineWords line = token :: lineWords next := by
  -- A word and what stands behind it.
  unfold splitResponseWsToken at h
  split_ifs at h with hstart
  rw [not_or] at hstart
  cases hfind : line.findIdx? isBlank with
  | none =>
    simp only [hfind] at h
    obtain ⟨rfl, rfl⟩ := Prod.mk.inj (Option.some.inj h)
    rw [lineWords_of_visible hstart.1 (List.findIdx?_eq_none_iff.mp hfind), lineWords_nil]
  | some tokenEnd =>
    simp only [hfind] at h
    split_ifs at h with hrest
    obtain ⟨rfl, rfl⟩ := Prod.mk.inj (Option.some.inj h)
    obtain ⟨hlt, hblank, hbefore⟩ := List.findIdx?_eq_some_iff_getElem.mp hfind
    have htoken : ∀ byte ∈ line.take tokenEnd, isBlank byte = false := by
      intro byte hbyte
      obtain ⟨i, hi, rfl⟩ := List.mem_iff_getElem.mp hbyte
      rw [List.length_take] at hi
      rw [List.getElem_take]
      exact Bool.not_eq_true _ ▸ hbefore i (by omega)
    have hne : line.take tokenEnd ≠ [] := by
      intro hnil
      rw [List.take_eq_nil_iff] at hnil
      rcases hnil with hzero | hnil
      · subst hzero
        apply hstart.2
        rw [List.head?_eq_getElem?, List.getElem?_eq_getElem hlt]
        exact hblank
      · exact hstart.1 hnil
    rw [lineWords_dropWhile]
    have hsplit : line = line.take tokenEnd ++ (line)[tokenEnd] :: line.drop (tokenEnd + 1) := by
      rw [List.getElem_cons_drop, List.take_append_drop]
    have hdrop : line.drop tokenEnd = (line)[tokenEnd] :: line.drop (tokenEnd + 1) :=
      (List.getElem_cons_drop hlt).symm
    rw [hdrop]
    nth_rewrite 1 [hsplit]
    unfold lineWords
    rw [List.splitOnP_append_cons_of_forall_mem htoken _ hblank,
      List.splitOnP_cons_eq_if_modifyHead, if_pos hblank]
    simp [hne]

theorem lineWords_of_responseWsTokens {tokens : List Bytes}
    (h : responseWsTokens rest = some tokens) : lineWords rest = tokens := by
  induction tokens generalizing rest with
  | nil =>
    by_cases hnil : rest = []
    · rw [hnil, lineWords_nil]
    · rw [responseWsTokens_eq hnil] at h
      obtain ⟨pair, -, h⟩ := Option.bind_eq_some_iff.mp h
      obtain ⟨tokens, -, h⟩ := Option.map_eq_some_iff.mp h
      cases h
  | cons token tokens ih =>
    have hne : rest ≠ [] := by
      rintro rfl
      cases h
    rw [responseWsTokens_eq hne] at h
    obtain ⟨⟨first, next⟩, hsplit, h⟩ := Option.bind_eq_some_iff.mp h
    obtain ⟨others, hothers, h⟩ := Option.map_eq_some_iff.mp h
    obtain ⟨rfl, rfl⟩ := List.cons.inj h
    rw [lineWords_of_split hsplit, ih hothers]

theorem isSome_fromUtf8_of_ascii (h : ∀ byte ∈ token, byte < 128) :
    (fromUtf8 token).isSome = true := by
  have hencode := congrArg fromUtf8 (Utf8.encode_map_ofNat h)
  rw [← hencode]
  exact Option.isSome_iff_exists.mpr ⟨_, Utf8.decode_encode _⟩

/-- The bytes of a line behind its label are words of text. -/
def Readable (rest : Bytes) : Prop :=
  ∃ tokens, responseWsTokens rest = some tokens ∧ ∀ token ∈ tokens, (fromUtf8 token).isSome = true

theorem readable_of_all {valid : Bytes → Bool}
    (hvalid : ∀ token, valid token = true → (fromUtf8 token).isSome = true)
    (h : ((responseWsTokens rest).any fun tokens => tokens.all valid) = true) : Readable rest := by
  cases htokens : responseWsTokens rest with
  | none =>
    rw [htokens] at h
    cases h
  | some tokens =>
    rw [htokens, Option.any_some, List.all_eq_true] at h
    exact ⟨tokens, htokens, fun token htoken => hvalid token (h token htoken)⟩

theorem isSome_of_any {valid : Str → Bool} (h : (fromUtf8 token).any valid = true) :
    (fromUtf8 token).isSome = true := by
  cases hutf8 : fromUtf8 token with
  | none =>
    rw [hutf8] at h
    cases h
  | some value => rfl

theorem isSome_of_eqIgnoreAsciiCase (name : Bytes)
    (hname : ∀ byte ∈ name.map toAsciiLowercase, byte < 128)
    (h : eqIgnoreAsciiCase token name = true) : (fromUtf8 token).isSome = true := by
  apply isSome_fromUtf8_of_ascii
  intro byte hbyte
  have hlower : toAsciiLowercase byte ∈ token.map toAsciiLowercase := List.mem_map_of_mem hbyte
  rw [of_decide_eq_true h] at hlower
  have hsmall := hname _ hlower
  unfold toAsciiLowercase at hsmall
  split_ifs at hsmall with hupper
  · simp only [Bool.and_eq_true, decide_eq_true_eq] at hupper
    exact UInt8.lt_of_le_of_lt hupper.2 (by decide)
  · exact hsmall

theorem isSome_of_argument (h : validateCapabilityArgumentToken token = true) :
    (fromUtf8 token).isSome = true :=
  isSome_of_any h

theorem isSome_of_saslMechanism (h : validateSaslMechanism token = true) :
    (fromUtf8 token).isSome = true := by
  apply isSome_fromUtf8_of_ascii
  intro byte hbyte
  simp only [validateSaslMechanism, Bool.and_eq_true, List.all_eq_true] at h
  have hrange := h.2 byte hbyte
  simp only [isAsciiDigit, Bool.or_eq_true, Bool.and_eq_true, decide_eq_true_eq] at hrange
  rcases hrange with ((hupper | hdigit) | rfl) | rfl
  · exact UInt8.lt_of_le_of_lt hupper.2 (by decide)
  · exact UInt8.lt_of_le_of_lt hdigit.2 (by decide)
  · decide
  · decide

theorem isSome_of_versionNumber (h : validateVersionNumberToken token = true) :
    (fromUtf8 token).isSome = true := by
  apply isSome_fromUtf8_of_ascii
  intro byte hbyte
  simp only [validateVersionNumberToken, Bool.and_eq_true, List.all_eq_true] at h
  have hdigit := h.2 byte hbyte
  simp only [isAsciiDigit, Bool.and_eq_true, decide_eq_true_eq] at hdigit
  exact UInt8.lt_of_le_of_lt hdigit.2 (by decide)

theorem readable_of_argumentTokens (h : validateCapabilityArgumentTokens rest = true) :
    Readable rest :=
  readable_of_all (fun _ => isSome_of_argument) h

theorem readable_of_all_ne {valid : Bytes → Bool}
    (hvalid : ∀ token, valid token = true → (fromUtf8 token).isSome = true)
    (h : ((responseWsTokens rest).any fun tokens => tokens.all valid && tokens ≠ []) = true) :
    Readable rest := by
  apply readable_of_all hvalid
  cases htokens : responseWsTokens rest with
  | none =>
    rw [htokens] at h
    cases h
  | some tokens =>
    rw [htokens, Option.any_some, Bool.and_eq_true] at h
    exact h.1

theorem readable_nil : Readable [] := ⟨[], rfl, by simp⟩

theorem readable_of_known {label : Bytes}
    (h : validateKnownCapabilityResponseLine label rest = some true) : Readable rest := by
  unfold validateKnownCapabilityResponseLine at h
  split_ifs at h with hsimple himplementation hlist hover hempty hauthinfo hsasl
  · have hnil : rest = [] := of_decide_eq_true (Option.some.inj h)
    rw [hnil]
    exact readable_nil
  · exact readable_of_argumentTokens (Option.some.inj h)
  · exact readable_of_all_ne (fun _ => isSome_of_any) (Option.some.inj h)
  · rw [hempty]
    exact readable_nil
  · split at h
    · cases h
    · next token next hsplit =>
      have hboth := Option.some.inj h
      rw [Bool.and_eq_true, decide_eq_true_eq] at hboth
      refine ⟨[token], ?_, ?_⟩
      · rw [responseWsTokens_eq hempty, hsplit, Option.bind_some, hboth.1]
        rfl
      · rw [List.forall_mem_singleton]
        exact isSome_of_eqIgnoreAsciiCase _ (by decide) hboth.2
  · refine readable_of_all ?_ (Option.some.inj h)
    intro token htoken
    rw [Bool.or_eq_true] at htoken
    rcases htoken with htoken | htoken
    · exact isSome_of_eqIgnoreAsciiCase _ (by decide) htoken
    · exact isSome_of_eqIgnoreAsciiCase _ (by decide) htoken
  · exact readable_of_all_ne (fun _ => isSome_of_saslMechanism) (Option.some.inj h)

/-- A line that the check accepts: its label, and readable words behind it. -/
structure Listed (line : Bytes) : Prop where
  split : ∃ label rest, splitResponseWsToken line = some (label, rest) ∧
    (isKeywordToken label = true → Readable rest)

theorem listed_of_validate (h : validateCapabilityResponseLine line = true) :
    Listed line := by
  unfold validateCapabilityResponseLine at h
  cases hsplit : splitResponseWsToken line with
  | none =>
    rw [hsplit] at h
    cases h
  | some pair =>
    obtain ⟨label, rest⟩ := pair
    refine ⟨⟨label, rest, hsplit, fun hkeyword => ?_⟩⟩
    simp only [hsplit, hkeyword, Bool.not_true, Bool.false_eq_true, if_false] at h
    split at h
    · next valid hknown =>
      rw [h] at hknown
      exact readable_of_known hknown
    · exact readable_of_argumentTokens h

theorem listed_of_version (h : validateVersionResponseLine line = true) :
    Listed line ∧ eqIgnoreAsciiCase (lineLabel line) (ascii "VERSION") = true ∧
      2 ≤ (lineWords line).length := by
  unfold validateVersionResponseLine at h
  cases hsplit : splitResponseWsToken line with
  | none =>
    rw [hsplit] at h
    cases h
  | some pair =>
    obtain ⟨label, rest⟩ := pair
    have hwords := lineWords_of_split hsplit
    simp only [hsplit, Bool.and_eq_true] at h
    refine ⟨⟨⟨label, rest, hsplit, fun _ => ?_⟩⟩, ?_, ?_⟩
    · exact readable_of_all_ne (fun _ => isSome_of_versionNumber) h.2
    · rw [lineLabel, hwords]
      exact h.1.1
    · cases htokens : responseWsTokens rest with
      | none =>
        rw [htokens] at h
        cases h.2
      | some tokens =>
        rw [htokens, Option.any_some, Bool.and_eq_true] at h
        rw [hwords, lineWords_of_responseWsTokens htokens, List.length_cons]
        have hpos := List.length_pos_of_ne_nil (of_decide_eq_true h.2.2)
        omega

def CapabilityEntry.words (self : CapabilityEntry) : List Bytes :=
  asBytes self.label :: self.arguments.map asBytes

theorem exists_mapM_fromUtf8 {tokens : List Bytes}
    (h : ∀ token ∈ tokens, (fromUtf8 token).isSome = true) :
    ∃ values, tokens.mapM fromUtf8 = some values ∧ values.map asBytes = tokens := by
  induction tokens with
  | nil => exact ⟨[], rfl, rfl⟩
  | cons token tokens ih =>
    rw [List.forall_mem_cons] at h
    obtain ⟨value, hvalue⟩ := Option.isSome_iff_exists.mp h.1
    obtain ⟨values, hvalues, hbytes⟩ := ih h.2
    refine ⟨value :: values, ?_, ?_⟩
    · simp [List.mapM_cons, hvalue, hvalues]
    · rw [List.map_cons, hbytes]
      exact congrArg (· :: tokens) (Utf8.encode_of_decode hvalue)

/-- A listed line with a keyword becomes an entry with its words, and any other line is left out. -/
theorem entry_of_listed (h : Listed line) :
    (capabilityEntryFromLine line).map CapabilityEntry.words =
      if isKeywordLine line then some (lineWords line) else none := by
  obtain ⟨label, rest, hsplit, hreadable⟩ := h.split
  have hwords := lineWords_of_split hsplit
  have hkeyword : isKeywordLine line = isKeywordToken label := by
    rw [isKeywordLine, hwords]
    rfl
  unfold capabilityEntryFromLine
  rw [hkeyword]
  cases hlabel : isKeywordToken label with
  | false => simp [hsplit, hlabel]
  | true =>
    obtain ⟨tokens, htokens, htext⟩ := hreadable hlabel
    obtain ⟨values, hvalues, hbytes⟩ := exists_mapM_fromUtf8 htext
    obtain ⟨text, htext⟩ := Option.isSome_iff_exists.mp (isSome_of_any hlabel)
    have hlabelBytes : asBytes text = label := Utf8.encode_of_decode htext
    simp [hsplit, hlabel, htokens, hvalues, htext, CapabilityEntry.words, hbytes, hlabelBytes,
      hwords, lineWords_of_responseWsTokens htokens]

theorem isAsciiAlphabetic_of_toAsciiLowercase {byte : UInt8}
    (h : isAsciiAlphabetic (toAsciiLowercase byte) = true) : isAsciiAlphabetic byte = true := by
  unfold toAsciiLowercase at h
  split_ifs at h with hupper
  · rw [isAsciiAlphabetic, Bool.or_eq_true]
    exact Or.inl hupper
  · exact h

theorem isKeywordToken_of_version
    (h : eqIgnoreAsciiCase token (ascii "VERSION") = true) : isKeywordToken token = true := by
  -- VERSION is a keyword in every spelling.
  have hlower := of_decide_eq_true h
  have hletters : ∀ byte ∈ token, isAsciiAlphabetic byte = true := by
    intro byte hbyte
    apply isAsciiAlphabetic_of_toAsciiLowercase
    have hmem : toAsciiLowercase byte ∈ token.map toAsciiLowercase := List.mem_map_of_mem hbyte
    rw [hlower] at hmem
    exact (by decide : ∀ b ∈ (ascii "VERSION").map toAsciiLowercase, isAsciiAlphabetic b = true)
      _ hmem
  have hlength : token.length = 7 := by
    have hlengths := congrArg List.length hlower
    rwa [List.length_map, List.length_map] at hlengths
  obtain ⟨value, hvalue⟩ :=
    Option.isSome_iff_exists.mp (isSome_of_eqIgnoreAsciiCase _ (by decide) h)
  have hbytes : asBytes value = token := Utf8.encode_of_decode hvalue
  rw [isKeywordToken, hvalue, Option.any_some, validateKeyword, hbytes]
  match token, hletters, hlength with
  | first :: rest, hletters, hlength =>
    rw [List.forall_mem_cons] at hletters
    rw [List.length_cons] at hlength
    have hrest : rest.all isKeywordByte = true := by
      rw [List.all_eq_true]
      intro byte hbyte
      simp [isKeywordByte, isAsciiAlphanumeric, hletters.2 byte hbyte]
    simp only [hletters.1, hrest, Bool.true_and, Bool.and_true, decide_eq_true_eq]
    omega

def labelSeenStep (label line : Bytes) : Except Bool Unit :=
  match splitResponseWsToken line with
  | none => .error false
  | some (seenLabel, _) => if eqIgnoreAsciiCase seenLabel label then .error true else .ok ()

theorem capabilityLabelSeen_eq (seen label : Bytes) :
    capabilityLabelSeen seen label =
      match forStrictLines false (fun _ line _ => labelSeenStep label line) () seen with
      | .ok () => false
      | .error found => found :=
  rfl

theorem capabilityLabelSeen_wireLines (label : Bytes) (hlines : ∀ line ∈ lines, IsLineContent line)
    (hlisted : ∀ line ∈ lines, Listed line) :
    capabilityLabelSeen (wireLines lines) label =
      lines.any fun line => eqIgnoreAsciiCase (lineLabel line) label := by
  rw [capabilityLabelSeen_eq,
    forStrictLines_wireLines (fun _ line => labelSeenStep label line) hlines]
  clear hlines
  induction lines with
  | nil => rfl
  | cons line lines ih =>
    rw [List.forall_mem_cons] at hlisted
    obtain ⟨seenLabel, rest, hsplit, -⟩ := hlisted.1.split
    have hlabel : lineLabel line = seenLabel := by
      rw [lineLabel, lineWords_of_split hsplit]
      rfl
    rw [List.foldlM_cons, List.any_cons, hlabel]
    simp only [labelSeenStep, hsplit]
    by_cases hsame : eqIgnoreAsciiCase seenLabel label = true
    · rw [if_pos hsame, hsame]
      rfl
    · rw [if_neg hsame, Bool.eq_false_iff.mpr hsame]
      exact ih hlisted.2

/-- Two lines in order, where the second is a keyword line, have different labels. -/
def LabelsDiffer (line later : Bytes) : Prop :=
  isKeywordLine later = true → eqIgnoreAsciiCase (lineLabel line) (lineLabel later) = false

def capabilityStep (seen line : Bytes) : Option Bytes :=
  if !validateCapabilityResponseLine line then none
  else
    match splitResponseWsToken line with
    | none => none
    | some (label, _) =>
      if isKeywordToken label ∧
          (eqIgnoreAsciiCase label (ascii "VERSION") ∨ capabilityLabelSeen seen label) then
        none
      else some (seen ++ line ++ CRLF)

theorem capabilityStep_eq_some {before : List Bytes} {seen : Bytes}
    (hbefore : ∀ line ∈ before, IsLineContent line) (hlisted : ∀ line ∈ before, Listed line)
    (h : capabilityStep (wireLines before) line = some seen) :
    Listed line ∧ seen = wireLines (before ++ [line]) ∧
      (isKeywordLine line = true → eqIgnoreAsciiCase (ascii "VERSION") (lineLabel line) = false) ∧
      ∀ earlier ∈ before, LabelsDiffer earlier line := by
  -- What a line that the step accepts is like, next to the lines before it.
  unfold capabilityStep at h
  split_ifs at h with hvalid
  rw [Bool.not_eq_true, Bool.not_eq_false'] at hvalid
  have hline := listed_of_validate hvalid
  obtain ⟨label, rest, hsplit, -⟩ := hline.split
  have hwords := lineWords_of_split hsplit
  have hlabel : lineLabel line = label := by
    rw [lineLabel, hwords]
    rfl
  have hkeyword : isKeywordLine line = isKeywordToken label := by
    rw [isKeywordLine, hwords]
    rfl
  simp only [hsplit] at h
  split_ifs at h with hrepeated
  rw [capabilityLabelSeen_wireLines label hbefore hlisted, not_and_or, not_or] at hrepeated
  have hnew (hline : isKeywordLine line = true) :
      ¬ eqIgnoreAsciiCase label (ascii "VERSION") = true ∧
        ¬ (before.any fun line => eqIgnoreAsciiCase (lineLabel line) label) = true := by
    rw [hkeyword] at hline
    exact hrepeated.resolve_left (not_not.mpr hline)
  refine ⟨hline, ?_, ?_, ?_⟩
  · rw [← Option.some.inj h, wireLines_append]
    simp [wireLines, CRLF]
  · intro hline
    have hversion := (hnew hline).1
    rw [hlabel, Bool.eq_false_iff]
    intro hsame
    apply hversion
    rw [eqIgnoreAsciiCase, decide_eq_true_eq] at hsame ⊢
    exact hsame.symm
  · intro earlier hearlier hline
    have hunseen := (hnew hline).2
    rw [hlabel, Bool.eq_false_iff]
    intro hsame
    exact hunseen (List.any_eq_true.mpr ⟨earlier, hearlier, hsame⟩)

theorem foldlM_capabilityStep {before : List Bytes} {final : Bytes}
    (hbefore : ∀ line ∈ before, IsLineContent line) (hlisted : ∀ line ∈ before, Listed line)
    (hlines : ∀ line ∈ lines, IsLineContent line) (hdiffer : before.Pairwise LabelsDiffer)
    (h : lines.foldlM
      (fun seen line => if isBareDotLine line then none else capabilityStep seen line)
      (wireLines before) = some final) :
    (∀ line ∈ lines, Listed line) ∧ (before ++ lines).Pairwise LabelsDiffer ∧
      ∀ line ∈ lines, isKeywordLine line = true →
        eqIgnoreAsciiCase (ascii "VERSION") (lineLabel line) = false := by
  -- the state of the fold is the part of the content that was read
  induction lines generalizing before with
  | nil => exact ⟨by simp, by simpa using hdiffer, by simp⟩
  | cons line lines ih =>
    rw [List.forall_mem_cons] at hlines
    rw [List.foldlM_cons] at h
    obtain ⟨seen, hstep, h⟩ := Option.bind_eq_some_iff.mp h
    split_ifs at hstep
    obtain ⟨hline, rfl, hversion, hnew⟩ := capabilityStep_eq_some hbefore hlisted hstep
    have hbefore' : ∀ earlier ∈ before ++ [line], IsLineContent earlier :=
      List.forall_mem_append.mpr ⟨hbefore, List.forall_mem_singleton.mpr hlines.1⟩
    have hlisted' : ∀ earlier ∈ before ++ [line], Listed earlier :=
      List.forall_mem_append.mpr ⟨hlisted, List.forall_mem_singleton.mpr hline⟩
    have hdiffer' : (before ++ [line]).Pairwise LabelsDiffer := by
      rw [List.pairwise_append]
      refine ⟨hdiffer, List.pairwise_singleton _ _, ?_⟩
      intro earlier hearlier later hlater
      rw [List.mem_singleton] at hlater
      rw [hlater]
      exact hnew earlier hearlier
    obtain ⟨hall, hpairs, hversions⟩ := ih hbefore' hlisted' hlines.2 hdiffer' h
    rw [List.append_assoc, List.singleton_append] at hpairs
    rw [List.forall_mem_cons, List.forall_mem_cons]
    exact ⟨⟨hline, hall⟩, hpairs, hversion, hversions⟩

theorem lines_of_validateCapabilities {content : Bytes}
    (h : validateCapabilitiesResponseContent content = true) :
    ∃ version lines, content = wireLines (version :: lines) ∧
      (∀ line ∈ version :: lines, IsLineContent line) ∧
      validateVersionResponseLine version = true ∧ (∀ line ∈ lines, Listed line) ∧
      (version :: lines).Pairwise LabelsDiffer := by
  -- The lines of a body that passes the check.
  unfold validateCapabilitiesResponseContent at h
  split at h
  · cases h
  · next fin hfin =>
    obtain ⟨version, rest, rfl, hcontent, rfl⟩ := exists_line_of_strictCrlfLineContentEnd hfin
    have htake : (version ++ CR :: LF :: rest).take version.length = version := List.take_left
    have hdrop : (version ++ CR :: LF :: rest).drop (version.length + CRLF.length) = rest := by
      rw [← List.drop_drop, List.drop_left]
      rfl
    rw [htake, hdrop] at h
    split_ifs at h with hversion
    rw [Bool.not_eq_true, Bool.not_eq_false'] at hversion
    obtain ⟨final, hfinal⟩ := Option.isSome_iff_exists.mp h
    obtain ⟨lines, rfl, hlines⟩ := exists_wireLines_of_validateCrlfLines hfinal
    rw [validateCrlfLines_wireLines hlines] at hfinal
    have hnone : ∀ line ∈ ([] : List Bytes), IsLineContent line := by simp
    obtain ⟨hlisted, hpairs, hversions⟩ :=
      foldlM_capabilityStep hnone (by simp) hlines List.Pairwise.nil hfinal
    refine ⟨version, lines, (wireLines_cons _ _).symm, ?_, hversion, hlisted, ?_⟩
    · rw [List.forall_mem_cons]
      exact ⟨hcontent, hlines⟩
    · rw [List.pairwise_cons]
      refine ⟨?_, hpairs⟩
      intro line hline hkeyword
      have hlabel := (listed_of_version hversion).2.1
      have hother := hversions line hline hkeyword
      rw [eqIgnoreAsciiCase, decide_eq_true_eq] at hlabel
      rw [eqIgnoreAsciiCase, decide_eq_false_iff_not] at hother ⊢
      rwa [hlabel]

def entryStep (entries : List CapabilityEntry) (line : Bytes) :
    Except Unit (List CapabilityEntry) :=
  match capabilityEntryFromLine line with
  | some entry => .ok (entries ++ [entry])
  | none => .ok entries

theorem foldlM_entryStep (lines : List Bytes) (entries : List CapabilityEntry) :
    lines.foldlM entryStep entries =
      .ok (entries ++ lines.filterMap capabilityEntryFromLine) := by
  induction lines generalizing entries with
  | nil => simp [pure, Except.pure]
  | cons line lines ih =>
    rw [List.foldlM_cons, entryStep]
    cases hentry : capabilityEntryFromLine line with
    | none =>
      rw [List.filterMap_cons_none hentry]
      exact ih entries
    | some entry =>
      rw [List.filterMap_cons_some hentry, ← List.singleton_append, ← List.append_assoc]
      exact ih (entries ++ [entry])

theorem CapabilityList.exists_lines_of_parse {content : Bytes} {list : CapabilityList}
    (h : CapabilityList.parse content = some list) :
    ∃ version lines, content = wireLines (version :: lines) ∧
      (∀ line ∈ version :: lines, IsLineContent line) ∧
      validateVersionResponseLine version = true ∧ (version :: lines).Pairwise LabelsDiffer ∧
      list.entries.map CapabilityEntry.words =
        ((version :: lines).filter isKeywordLine).map lineWords := by
  -- An accepted body has one entry for each of its keyword lines.
  unfold CapabilityList.parse at h
  split_ifs at h with hvalid
  rw [Bool.not_eq_true, Bool.not_eq_false'] at hvalid
  obtain ⟨version, lines, rfl, hlines, hversion, hlisted, hdiffer⟩ :=
    lines_of_validateCapabilities hvalid
  refine ⟨version, lines, rfl, hlines, hversion, hdiffer, ?_⟩
  have hall : ∀ line ∈ version :: lines, Listed line :=
    List.forall_mem_cons.mpr ⟨(listed_of_version hversion).1, hlisted⟩
  have hentries : list.entries = (version :: lines).filterMap capabilityEntryFromLine := by
    change ((forStrictLines () (fun entries line _ => entryStep entries line) []
      (wireLines (version :: lines))).toOption.map CapabilityList.mk) = some list at h
    rw [forStrictLines_wireLines entryStep hlines, foldlM_entryStep, List.nil_append] at h
    exact (congrArg CapabilityList.entries (Option.some.inj h)).symm
  rw [hentries, List.map_filterMap, ← List.filterMap_eq_map, ← List.filterMap_eq_filter,
    List.filterMap_filterMap]
  apply List.filterMap_congr
  intro line hline
  rw [entry_of_listed (hall line hline)]
  by_cases hkeyword : isKeywordLine line = true
  · simp [hkeyword, Option.guard]
  · simp [hkeyword, Option.guard]

/-- Labels that differ whatever their case. -/
def DifferentLabels (label later : Bytes) : Prop := eqIgnoreAsciiCase label later = false

theorem pairwise_labels (h : lines.Pairwise LabelsDiffer) :
    ((lines.filter isKeywordLine).map lineLabel).Pairwise DifferentLabels := by
  rw [List.pairwise_map]
  apply (List.Pairwise.filter isKeywordLine h).imp_of_mem
  intro line later _ hlater hdiffer
  exact hdiffer (List.of_mem_filter hlater)

theorem labels_of_words {entries : List CapabilityEntry}
    (h : entries.map CapabilityEntry.words = lines.map lineWords) :
    entries.map (fun entry => asBytes entry.label) = lines.map lineLabel := by
  have hheads := congrArg (List.map fun words => words.headD []) h
  rw [List.map_map, List.map_map] at hheads
  exact hheads

theorem CapabilityList.get_eq_some_iff {list : CapabilityList}
    (h : (list.entries.map fun entry => asBytes entry.label).Pairwise DifferentLabels) (label : Str)
    (entry : CapabilityEntry) :
    list.get label = some entry ↔
      entry ∈ list.entries ∧ eqIgnoreAsciiCase (asBytes entry.label) (asBytes label) = true := by
  obtain ⟨entries⟩ := list
  unfold CapabilityList.get
  dsimp only at h ⊢
  induction entries with
  | nil => simp
  | cons first entries ih =>
    rw [List.map_cons, List.pairwise_cons] at h
    by_cases hfirst : eqIgnoreAsciiCase (asBytes first.label) (asBytes label) = true
    · rw [List.find?_cons, hfirst, Option.some.injEq, List.mem_cons]
      constructor
      · rintro rfl
        exact ⟨Or.inl rfl, hfirst⟩
      · rintro ⟨rfl | hmem, hentry⟩
        · rfl
        · -- a later entry with this label would repeat the first one
          have hother := h.1 _ (List.mem_map_of_mem hmem)
          rw [DifferentLabels, eqIgnoreAsciiCase, decide_eq_false_iff_not] at hother
          rw [eqIgnoreAsciiCase, decide_eq_true_eq] at hfirst hentry
          exact absurd (hfirst.trans hentry.symm) hother
    · rw [List.find?_cons, Bool.eq_false_iff.mpr hfirst, ih h.2, List.mem_cons]
      constructor
      · intro hentry
        exact ⟨Or.inr hentry.1, hentry.2⟩
      · rintro ⟨rfl | hmem, hentry⟩
        · exact absurd hentry hfirst
        · exact ⟨hmem, hentry⟩

/-- **A capability list is its keyword lines.** The entries of an accepted body are the words of its
keyword lines, in order. The first is VERSION with its versions, no label occurs twice, and `get`
finds the entry of a label. A body that repeats a label is refused. -/
theorem capability_list_is_keyword_lines (content : Bytes) :
    (∀ list, CapabilityList.parse content = some list →
      (∃ lines, content = wireLines lines ∧ (∀ line ∈ lines, IsLineContent line) ∧
        list.entries.map CapabilityEntry.words = (lines.filter isKeywordLine).map lineWords) ∧
      (∃ version entries, list.entries = version :: entries ∧
        eqIgnoreAsciiCase (asBytes version.label) (ascii "VERSION") = true ∧
        version.arguments ≠ []) ∧
      (list.entries.map fun entry => asBytes entry.label).Pairwise DifferentLabels ∧
      ∀ label entry, list.get label = some entry ↔
        entry ∈ list.entries ∧ eqIgnoreAsciiCase (asBytes entry.label) (asBytes label) = true) ∧
    ∀ lines rest, content = wireLines lines ++ rest → (∀ line ∈ lines, IsLineContent line) →
      ¬ ((lines.filter isKeywordLine).map lineLabel).Pairwise DifferentLabels →
      CapabilityList.parse content = none := by
  constructor
  · intro list hparse
    obtain ⟨version, lines, hcontent, hlines, hversion, hdiffer, hwords⟩ :=
      CapabilityList.exists_lines_of_parse hparse
    have hlabels : (list.entries.map fun entry => asBytes entry.label).Pairwise
        DifferentLabels := by
      rw [labels_of_words hwords]
      exact pairwise_labels hdiffer
    refine ⟨⟨_, hcontent, hlines, hwords⟩, ?_, hlabels, CapabilityList.get_eq_some_iff hlabels⟩
    obtain ⟨-, hlabel, htwo⟩ := listed_of_version hversion
    -- the version line has a keyword, so it is the first line with one
    have hkeyword : isKeywordLine version = true := by
      have hfirst := isKeywordToken_of_version hlabel
      unfold lineLabel at hfirst
      unfold isKeywordLine
      cases hcases : lineWords version with
      | nil =>
        rw [hcases] at htwo
        cases htwo
      | cons first words =>
        rw [hcases] at hfirst
        exact hfirst
    rw [List.filter_cons_of_pos hkeyword, List.map_cons] at hwords
    obtain ⟨entry, entries, hentries, hentry, -⟩ := List.map_eq_cons_iff.mp hwords
    refine ⟨entry, entries, hentries, ?_, ?_⟩
    · rw [lineLabel, ← hentry] at hlabel
      exact hlabel
    · intro hnone
      rw [← hentry, CapabilityEntry.words, hnone] at htwo
      exact absurd htwo (by decide : ¬ 2 ≤ 1)
  · intro lines rest hcontent hlines hrepeated
    rw [Option.eq_none_iff_forall_ne_some]
    intro list hparse
    obtain ⟨version, others, hother, hothers, -, hdiffer, -⟩ :=
      CapabilityList.exists_lines_of_parse hparse
    obtain ⟨more, hmore, -⟩ :=
      exists_append_of_wireLines hlines hothers (hother.symm.trans hcontent)
    apply hrepeated
    apply pairwise_labels
    rw [hmore, List.pairwise_append] at hdiffer
    exact hdiffer.1

/-- A list with two capabilities, and the same list with a repeated label. -/
theorem capability_list_of_version_and_reader :
    (∃ list, CapabilityList.parse (ascii "VERSION 2\r\nREADER\r\n") = some list ∧
      (list.entries.map fun entry => asBytes entry.label).Pairwise DifferentLabels) ∧
    CapabilityList.parse (ascii "VERSION 2\r\nREADER\r\nreader\r\n") = none := by
  constructor
  · have hparse : CapabilityList.parse (ascii "VERSION 2\r\nREADER\r\n") =
        some ⟨[⟨"VERSION".toList, ["2".toList]⟩, ⟨"READER".toList, []⟩]⟩ := by
      decide +kernel
    exact ⟨_, hparse, ((capability_list_is_keyword_lines _).1 _ hparse).2.2.1⟩
  · apply (capability_list_is_keyword_lines _).2
      [ascii "VERSION 2", ascii "READER", ascii "reader"] []
    · decide
    · decide
    · unfold DifferentLabels
      decide

end NntpBench.Protocol
