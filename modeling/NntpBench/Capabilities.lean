import NntpBench.ResponseContent

namespace NntpBench.Protocol

open Terminator

def splitResponseWsToken (line : Bytes) : Option (Bytes × Bytes) :=
  if line = [] ∨ line.head?.any isBlank then none
  else
    match line.findIdx? isBlank with
    | none => some (line, [])
    | some tokenEnd =>
      let rest := (line.drop tokenEnd).dropWhile isBlank
      if rest = [] then none else some (line.take tokenEnd, rest)

/-- The tokens that the loop `while !rest.is_empty()` takes off `rest`, if it gets to the end.
Each round takes at least one byte, so `rest.length` rounds are enough. -/
def takeResponseWsTokens : Nat → Bytes → Option (List Bytes)
  | _, [] => some []
  | 0, _ :: _ => none
  | rounds + 1, byte :: rest => do
    let (token, next) ← splitResponseWsToken (byte :: rest)
    let tokens ← takeResponseWsTokens rounds next
    some (token :: tokens)

def responseWsTokens (rest : Bytes) : Option (List Bytes) :=
  takeResponseWsTokens rest.length rest

theorem length_splitResponseWsToken {line token next : Bytes}
    (h : splitResponseWsToken line = some (token, next)) : next.length < line.length := by
  unfold splitResponseWsToken at h
  split_ifs at h with hstart
  have hpos : 0 < line.length := by
    apply List.length_pos_of_ne_nil
    intro hnil
    exact hstart (Or.inl hnil)
  split at h
  · obtain ⟨-, rfl⟩ := Prod.mk.inj (Option.some.inj h)
    simpa using hpos
  · next tokenEnd hfind =>
    dsimp only at h
    split_ifs at h with hrest
    obtain ⟨-, rfl⟩ := Prod.mk.inj (Option.some.inj h)
    have htoken : 0 < tokenEnd := by
      apply Nat.pos_of_ne_zero
      intro hzero
      subst hzero
      obtain ⟨hlt, hblank, -⟩ := List.findIdx?_eq_some_iff_getElem.mp hfind
      apply hstart
      right
      rw [List.head?_eq_getElem?, List.getElem?_eq_getElem hlt]
      exact hblank
    have hle : ((line.drop tokenEnd).dropWhile isBlank).length ≤ (line.drop tokenEnd).length :=
      (List.dropWhile_suffix _).length_le
    rw [List.length_drop] at hle
    omega

theorem takeResponseWsTokens_of_le {rounds : Nat} {rest : Bytes} (h : rest.length ≤ rounds) :
    takeResponseWsTokens rounds rest = responseWsTokens rest := by
  unfold responseWsTokens
  induction rounds using Nat.strong_induction_on generalizing rest with
  | _ rounds ih =>
    match rounds, rest, h with
    | 0, [], _ => rfl
    | rounds + 1, [], _ => simp [takeResponseWsTokens]
    | rounds + 1, b :: rest, h =>
      rw [List.length_cons, takeResponseWsTokens, takeResponseWsTokens]
      cases hsplit : splitResponseWsToken (b :: rest) with
      | none => rfl
      | some pair =>
        obtain ⟨token, next⟩ := pair
        have hnext := length_splitResponseWsToken hsplit
        simp only [List.length_cons] at h hnext
        simp only [Option.bind_eq_bind, Option.bind_some]
        rw [ih rounds (Nat.lt_succ_self _) (by omega : next.length ≤ rounds),
          ih rest.length (by omega) (by omega : next.length ≤ rest.length)]

theorem responseWsTokens_eq {rest : Bytes} (hne : rest ≠ []) :
    responseWsTokens rest =
      (splitResponseWsToken rest).bind fun (token, next) =>
        (responseWsTokens next).map (token :: ·) := by
  match rest, hne with
  | b :: rest, _ =>
    unfold responseWsTokens
    rw [List.length_cons, takeResponseWsTokens]
    cases hsplit : splitResponseWsToken (b :: rest) with
    | none => rfl
    | some pair =>
      obtain ⟨token, next⟩ := pair
      have hnext := length_splitResponseWsToken hsplit
      simp only [List.length_cons] at hnext
      simp only [Option.bind_eq_bind, Option.bind_some]
      rw [takeResponseWsTokens_of_le (by omega : next.length ≤ rest.length)]
      exact (Option.map_eq_bind ..).symm

def validateCapabilityArgumentToken (token : Bytes) : Bool := validatePCharToken token

def validateCapabilityArgumentTokens (rest : Bytes) : Bool :=
  (responseWsTokens rest).any fun tokens => tokens.all validateCapabilityArgumentToken

def validateVersionNumberToken (token : Bytes) : Bool :=
  token ≠ [] && token.length ≤ 6 && token.head?.any (fun byte => 49 ≤ byte && byte ≤ 57) &&
    token.all isAsciiDigit

def validateVersionResponseLine (line : Bytes) : Bool :=
  match splitResponseWsToken line with
  | none => false
  | some (label, rest) =>
    eqIgnoreAsciiCase label (ascii "VERSION") && rest ≠ [] &&
      (responseWsTokens rest).any fun tokens =>
        tokens.all validateVersionNumberToken && tokens ≠ []

def validateKnownCapabilityResponseLine (label rest : Bytes) : Option Bool :=
  if [ascii "HDR", ascii "IHAVE", ascii "MODE-READER", ascii "NEWNEWS", ascii "POST",
      ascii "READER", ascii "STARTTLS", ascii "STREAMING"].any (eqIgnoreAsciiCase label) then
    some (rest = [])
  else if eqIgnoreAsciiCase label (ascii "IMPLEMENTATION") then
    some (validateCapabilityArgumentTokens rest)
  else if eqIgnoreAsciiCase label (ascii "LIST") then
    some ((responseWsTokens rest).any fun tokens => tokens.all isKeywordToken && tokens ≠ [])
  else if eqIgnoreAsciiCase label (ascii "OVER") then
    if rest = [] then some true
    else
      match splitResponseWsToken rest with
      | none => some false
      | some (token, next) => some (next = [] && eqIgnoreAsciiCase token (ascii "MSGID"))
  else if eqIgnoreAsciiCase label (ascii "AUTHINFO") then
    some ((responseWsTokens rest).any fun tokens =>
      tokens.all fun token =>
        eqIgnoreAsciiCase token (ascii "USER") || eqIgnoreAsciiCase token (ascii "SASL"))
  else if eqIgnoreAsciiCase label (ascii "SASL") then
    some ((responseWsTokens rest).any fun tokens =>
      tokens.all validateSaslMechanism && tokens ≠ [])
  else none

def validateCapabilityResponseLine (line : Bytes) : Bool :=
  match splitResponseWsToken line with
  | none => false
  | some (label, rest) =>
    if !isKeywordToken label then
      validateCapabilityArgumentToken label &&
        label.head?.any (fun byte => !isAsciiAlphabetic byte) &&
        validateCapabilityArgumentTokens rest
    else
      match validateKnownCapabilityResponseLine label rest with
      | some valid => valid
      | none => validateCapabilityArgumentTokens rest

/-- `capability_label_seen` over the lines `seen` before the current one. -/
def capabilityLabelSeen (seen label : Bytes) : Bool :=
  let outcome := forStrictLines false (fun _ line _ =>
    match splitResponseWsToken line with
    | none => .error false
    | some (seenLabel, _) => if eqIgnoreAsciiCase seenLabel label then .error true else .ok ())
    () seen
  match outcome with
  | .ok () => false
  | .error found => found

/-- The state is the part of the content, after the version line, that was read so far. -/
def validateCapabilitiesResponseContent (content : Bytes) : Bool :=
  match strictCrlfLineContentEndFrom content 0 with
  | none => false
  | some versionLineEnd =>
    if !validateVersionResponseLine (content.take versionLineEnd) then false
    else
      (validateCrlfLines (content.drop (versionLineEnd + CRLF.length)) [] fun seen line =>
        if !validateCapabilityResponseLine line then none
        else
          match splitResponseWsToken line with
          | none => none
          | some (label, _) =>
            if isKeywordToken label ∧
                (eqIgnoreAsciiCase label (ascii "VERSION") ∨ capabilityLabelSeen seen label) then
              none
            else some (seen ++ line ++ CRLF)).isSome

structure CapabilityEntry where
  label : Str
  arguments : List Str
  deriving DecidableEq, Repr

structure CapabilityList where
  entries : List CapabilityEntry
  deriving DecidableEq, Repr

def capabilityEntryFromLine (line : Bytes) : Option CapabilityEntry := do
  let (label, rest) ← splitResponseWsToken line
  if !isKeywordToken label then none
  else
    let tokens ← responseWsTokens rest
    let arguments ← tokens.mapM fromUtf8
    let label ← fromUtf8 label
    some { label, arguments }

def CapabilityList.parse (content : Bytes) : Option CapabilityList :=
  if !validateCapabilitiesResponseContent content then none
  else
    let outcome := forStrictLines () (fun entries line _ =>
      match capabilityEntryFromLine line with
      | some entry => .ok (entries ++ [entry])
      | none => .ok entries) [] content
    outcome.toOption.map CapabilityList.mk

def CapabilityList.get (self : CapabilityList) (label : Str) : Option CapabilityEntry :=
  self.entries.find? fun entry => eqIgnoreAsciiCase (asBytes entry.label) (asBytes label)

def validateNonArticleResponseContent (kind : RequestKind) (statusLine content : Bytes) : Bool :=
  match kind with
  | .list | .listActive | .newGroups => allCrlfLines content validateActiveResponseLine
  | .listActiveTimes => allCrlfLines content validateActiveTimesResponseLine
  | .listNewsgroups => allCrlfLines content validateNewsgroupsResponseLine
  | .listOverviewFmt => validateOverviewFmtResponseContent content
  | .listHeaders => validateHeaderListResponseContent content
  | .listDistribPats => allCrlfLines content validateDistribPatsResponseLine
  | .listGroup => validateListgroupResponseContent statusLine content
  | .newNews => allCrlfLines content isMessageIdToken
  | .over => validateOverviewResponseContent content
  | .xover => allCrlfLines content validateXoverResponseLine
  | .hdr => allCrlfLines content validateHeaderResponseLine
  | .xhdr => allCrlfLines content validateXhdrResponseLine
  | .capabilities => validateCapabilitiesResponseContent content
  | .help => allCrlfLines content validateHelpTextLine
  | .unknown => allCrlfLines content validateGenericMultilineResponseLine
  | _ => true

def validateFramedNonArticleResponseContent (kind : RequestKind) (status : StatusCode)
    (statusLine content : Bytes) : Bool :=
  if isArticlePair kind status.code then true
  else if !(ResponseDescriptor.forRequestStatus kind status).framing.isMultiline then true
  else validateNonArticleResponseContent kind statusLine content

end NntpBench.Protocol
