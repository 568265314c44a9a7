import NntpBench.Arguments
import NntpBench.Lib.Except
import NntpBench.Request

namespace NntpBench.Protocol

open Terminator

/-- One command line: no NUL, and exactly one CR and one LF, which are its last two bytes. -/
structure IsCommandLine (line : Bytes) : Prop where
  nul : NUL ∉ line
  cr : line.count CR = 1
  lf : line.count LF = 1
  ends : CRLF <:+ line

theorem isCommandLine_of_clean {body : Bytes} (h : Clean body) : IsCommandLine (body ++ CRLF) where
  nul := by
    simp only [List.mem_append, not_or]
    exact ⟨h.nul, by decide⟩
  cr := by
    rw [List.count_append, List.count_eq_zero_of_not_mem h.cr]
    rfl
  lf := by
    rw [List.count_append, List.count_eq_zero_of_not_mem h.lf]
    rfl
  ends := List.suffix_append body CRLF

def throughFirstLf (output : Bytes) : Bytes :=
  match memchr LF output with
  | some i => output.take (i + 1)
  | none => output

theorem throughFirstLf_of_clean {body : Bytes} (h : Clean body) (rest : Bytes) :
    throughFirstLf (body ++ CRLF ++ rest) = body ++ CRLF := by
  have hmem : LF ∉ body ++ [CR] := by simp [h.lf]
  have hsplit : body ++ CRLF ++ rest = (body ++ [CR]) ++ LF :: rest := by simp [crlf_eq]
  have hfind : memchr LF (body ++ CRLF ++ rest) = some (body ++ [CR]).length :=
    memchr_eq_some_iff.mpr ⟨body ++ [CR], rest, hsplit, rfl, hmem⟩
  have hlength : (body ++ [CR]).length + 1 = (body ++ CRLF).length := by simp
  rw [throughFirstLf, hfind]
  dsimp only
  rw [hlength, List.take_left]

theorem clean_optionalArg {arg : Option Str} (h : ∀ value ∈ arg, Clean (asBytes value)) :
    Clean (writeOptionalArg arg) := by
  cases arg with
  | none => exact clean_nil
  | some value => exact clean_append (by decide) (h value rfl)

theorem clean_gmt (gmt : Bool) : Clean (if gmt then ascii " GMT" else []) := by
  cases gmt <;> decide

/-- The keyword of a CAPABILITIES request has been checked. -/
def Request.KeywordChecked : Request → Prop
  | .capabilities (some keyword) => validateKeyword keyword = true
  | _ => True

theorem RequestCall.keywordChecked {call : RequestCall} {request : Request}
    (h : call.build = .ok request) : request.KeywordChecked := by
  cases call with
  | capabilitiesKeyword keyword =>
    simp only [RequestCall.build, Request.capabilitiesKeyword] at h
    split_ifs at h with hvalid
    cases h
    exact hvalid
  | _ =>
    simp only [RequestCall.build, Request.fromMessageId, Request.fromNumber, Request.fromSelector,
      Request.listgroupGroupRange, Request.headerQuery, Request.newgroups, Request.newnews,
      Request.takethis, Request.authinfoBytes, Request.listWildmat, ExceptBind.bind_eq_ok,
      Except.ok.injEq] at h
    grind [Request.KeywordChecked]

def IsLine (wire : Bytes) : Prop := ∃ body, Clean body ∧ wire = body ++ CRLF

section Encoders

variable {verb : Bytes} (hverb : Clean verb)
include hverb

theorem isLine_simple : IsLine (writeSimpleRequestWire verb) := ⟨verb, hverb, rfl⟩

theorem isLine_oneArg {arg : Str} (harg : Clean (asBytes arg)) :
    IsLine (writeOneArgRequestWire verb arg) :=
  ⟨verb ++ asBytes arg, clean_append hverb harg, rfl⟩

theorem isLine_optionalArg {arg : Option Str} (harg : ∀ value ∈ arg, Clean (asBytes value)) :
    IsLine (writeOptionalArgRequestWire verb arg) :=
  ⟨verb ++ writeOptionalArg arg, clean_append hverb (clean_optionalArg harg), rfl⟩

theorem isLine_articleRef (articleRef : ArticleRef) :
    IsLine (writeArticleRefRequestWire verb articleRef) := by
  refine ⟨_, clean_append hverb ?_, rfl⟩
  cases articleRef with
  | current => exact clean_nil
  | number value => exact clean_append (by decide) ((isArgument_decimalText value.toNat).clean)
  | messageId messageId => exact clean_append (by decide) messageId.isArgument.clean

theorem isLine_headerQuery (header : HeaderName) (selector : Option ArticleSelector) :
    IsLine (writeHeaderQueryRequestWire verb header selector) := by
  refine ⟨_, clean_append (clean_append (clean_append hverb (by decide)) header.isArgument.clean)
    (clean_optionalArg ?_), rfl⟩
  intro value hvalue
  obtain ⟨selector, -, rfl⟩ := Option.map_eq_some_iff.mp hvalue
  exact selector.isArgument.clean

theorem isLine_datetime (date : NntpDate) (time : NntpTime) (gmt : Bool) :
    IsLine (writeDatetimeRequestWire verb date time gmt) :=
  ⟨_, clean_append (clean_append (clean_append
    (clean_append hverb date.isArgument.clean) (by decide)) time.isArgument.clean)
    (clean_gmt gmt), rfl⟩

end Encoders

theorem clean_wildmatArg (wildmat : Option Wildmat) :
    Clean (writeOptionalArg (wildmat.map (·.value))) := by
  apply clean_optionalArg
  intro value hvalue
  obtain ⟨wildmat, -, rfl⟩ := Option.map_eq_some_iff.mp hvalue
  exact wildmat.isArgument.clean

theorem isLine_listgroup (group : Option GroupName) (range : Option ListGroupRange) :
    IsLine (writeListgroupRequestWire group range) := by
  refine ⟨_, clean_append (clean_append (by decide) (clean_optionalArg ?_)) ?_, rfl⟩
  · intro value hvalue
    obtain ⟨name, -, rfl⟩ := Option.map_eq_some_iff.mp hvalue
    exact name.isArgument.clean
  · split
    · exact clean_append (by decide) (ListGroupRange.isArgument _).clean
    · exact clean_nil

theorem isLine_newnews (wildmat : Wildmat) (date : NntpDate) (time : NntpTime) (gmt : Bool) :
    IsLine (writeNewnewsRequestWire wildmat date time gmt) := by
  have hwildmat := clean_append (by decide : Clean (ascii "NEWNEWS ")) wildmat.isArgument.clean
  have hdate := clean_append (clean_append hwildmat (by decide : Clean (ascii " ")))
    date.isArgument.clean
  have htime := clean_append (clean_append hdate (by decide : Clean (ascii " ")))
    time.isArgument.clean
  exact ⟨_, clean_append htime (clean_gmt gmt), rfl⟩

theorem isLine_list (kind : ListKind) (wildmat : Option Wildmat) :
    IsLine (writeListRequestWire kind wildmat) := by
  have hkind : Clean kind.asWire := by cases kind <;> decide
  exact ⟨_, clean_append (clean_append (by decide) hkind) (clean_wildmatArg wildmat), rfl⟩

theorem isLine_authinfo (kind : AuthInfoKind) (value : AuthInfoValue) :
    IsLine (writeAuthinfoRequestWire kind value) := by
  have hkind : Clean kind.asWire := by cases kind <;> decide
  exact ⟨_, clean_append (clean_append (clean_append (by decide) hkind) (by decide)) value.clean,
    rfl⟩

theorem Request.isLine_writeWireTo {request : Request} (h : request.KeywordChecked)
    (hkind : request.kind ≠ .takeThis) : IsLine request.writeWireTo := by
  -- Every request but a TAKETHIS is one line.
  cases request with
  | article articleRef => exact isLine_articleRef (by decide) articleRef
  | body articleRef => exact isLine_articleRef (by decide) articleRef
  | head articleRef => exact isLine_articleRef (by decide) articleRef
  | stat articleRef => exact isLine_articleRef (by decide) articleRef
  | listVariant kind wildmat => exact isLine_list kind wildmat
  | group name => exact isLine_oneArg (by decide) name.isArgument.clean
  | listGroup name range => exact isLine_listgroup name range
  | «over» selector =>
    apply isLine_optionalArg (by decide)
    intro value hvalue
    obtain ⟨selector, -, rfl⟩ := Option.map_eq_some_iff.mp hvalue
    exact selector.isArgument.clean
  | xover selector =>
    apply isLine_optionalArg (by decide)
    intro value hvalue
    obtain ⟨selector, -, rfl⟩ := Option.map_eq_some_iff.mp hvalue
    exact selector.isArgument.clean
  | hdr header selector => exact isLine_headerQuery (by decide) header selector
  | xhdr header selector => exact isLine_headerQuery (by decide) header selector
  | newGroups day time gmt => exact isLine_datetime (by decide) day time gmt
  | newNews wildmat day time gmt => exact isLine_newnews wildmat day time gmt
  | ihave messageId => exact isLine_oneArg (by decide) messageId.isArgument.clean
  | check messageId => exact isLine_oneArg (by decide) messageId.isArgument.clean
  | takeThis messageId payload => exact absurd rfl hkind
  | authInfo kind value => exact isLine_authinfo kind value
  | capabilities keyword =>
    cases keyword with
    | none => exact isLine_simple (by decide)
    | some keyword => exact isLine_oneArg (by decide) (isArgument_of_validateKeyword h).clean
  | last | next | post | startTls | list | help | date | modeReader | modeStream | quit =>
    exact isLine_simple (by decide)

/-- Whatever strings and bytes a caller passes to a constructor function, the request it returns
is written as one command line, and a TAKETHIS starts with one: no argument can add a line. -/
theorem constructed_request_is_one_command_line (call : RequestCall) (request : Request)
    (h : call.build = .ok request) :
    (request.kind ≠ .takeThis → IsCommandLine request.writeWireTo) ∧
      (request.kind = .takeThis → IsCommandLine (throughFirstLf request.writeWireTo)) := by
  refine ⟨?_, ?_⟩
  · intro hkind
    obtain ⟨body, hbody, hwire⟩ :=
      Request.isLine_writeWireTo (RequestCall.keywordChecked h) hkind
    rw [hwire]
    exact isCommandLine_of_clean hbody
  · intro hkind
    cases request with
    | takeThis messageId payload =>
      have hbody := clean_append (by decide : Clean (ascii "TAKETHIS ")) messageId.isArgument.clean
      rw [Request.writeWireTo, writeTransferRequestWire, throughFirstLf_of_clean hbody]
      exact isCommandLine_of_clean hbody
    | listVariant kind wildmat => cases kind <;> cases hkind
    | authInfo kind value => cases kind <;> cases hkind
    | _ => cases hkind

theorem built_takethis_is_one_command_line :
    ∃ request, (RequestCall.takethis "a@b".toList (ascii "x\r\nQUIT\r\n")).build = .ok request ∧
      IsCommandLine (throughFirstLf request.writeWireTo) := by
  have hbuild : (RequestCall.takethis "a@b".toList (ascii "x\r\nQUIT\r\n")).build =
      .ok (.takeThis ⟨"<a@b>".toList, by decide⟩ (ascii "x\r\nQUIT\r\n")) := by
    rfl
  exact ⟨_, hbuild, (constructed_request_is_one_command_line _ _ hbuild).2 rfl⟩

end NntpBench.Protocol
