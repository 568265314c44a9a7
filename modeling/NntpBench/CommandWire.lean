import NntpBench.CommandLine
import NntpBench.Lines
import NntpBench.RequestWire

namespace NntpBench.Protocol

open Terminator

def commandBytes (verb args : Bytes) : Bytes :=
  verb ++ (if args = [] then [] else SP :: args) ++ CRLF

/-- Arguments with no blank around them and no whitespace but blanks in them. -/
structure Spaced (args : Bytes) : Prop where
  clean : Clean args
  formFeed : 12 ∉ args
  first : ∀ byte ∈ args.head?, isCommandWs byte = false
  last : ∀ byte ∈ args.getLast?, isCommandWs byte = false

theorem Visible.not_commandWs {bytes : Bytes} (h : Visible bytes) {byte : UInt8}
    (hmem : byte ∈ bytes) : isCommandWs byte = false := by
  have hwhite := h.not_whitespace hmem
  simp only [isAsciiWhitespace, Bool.or_eq_false_iff] at hwhite
  simp [isCommandWs, hwhite]

theorem Visible.spaced {bytes : Bytes} (h : Visible bytes) : Spaced bytes where
  clean := h.clean
  formFeed := h.not_mem (by decide)
  first := fun _ hbyte => h.not_commandWs (List.mem_of_head? hbyte)
  last := fun _ hbyte => h.not_commandWs (List.mem_of_getLast? hbyte)

theorem IsArgument.spaced_append {token rest : Bytes} (htoken : IsArgument token)
    (hclean : Clean rest) (hformFeed : 12 ∉ rest)
    (hlast : ∀ byte ∈ rest.getLast?, isCommandWs byte = false) (hne : rest ≠ []) :
    Spaced (token ++ SP :: rest) where
  clean := clean_append htoken.clean (clean_append (by decide : Clean [SP]) hclean)
  formFeed := by
    simp only [List.mem_append, List.mem_cons, not_or]
    exact ⟨htoken.visible.not_mem (by decide), by decide, hformFeed⟩
  first := by
    rw [List.head?_append_of_ne_nil _ htoken.nonempty]
    exact htoken.visible.spaced.first
  last := by
    rw [List.getLast?_append_of_ne_nil _ (List.cons_ne_nil _ _), List.getLast?_cons_of_ne_nil hne]
    exact hlast

theorem IsArgument.spaced_cons {token rest : Bytes} (htoken : IsArgument token)
    (hrest : Spaced rest) (hne : rest ≠ []) : Spaced (token ++ SP :: rest) :=
  htoken.spaced_append hrest.clean hrest.formFeed hrest.last hne

section

variable {verb args : Bytes} (hverb : IsArgument verb) (hargs : Spaced args)
include hverb hargs

theorem spaced_line : Spaced (verb ++ if args = [] then [] else SP :: args) := by
  split_ifs with hnil
  · rw [List.append_nil]
    exact hverb.visible.spaced
  · exact hverb.spaced_cons hargs hnil

theorem stripCompleteCrlfLine_commandBytes :
    stripCompleteCrlfLine (commandBytes verb args) =
      some (verb ++ if args = [] then [] else SP :: args) := by
  have hline := spaced_line hverb hargs
  exact stripCompleteCrlfLine_crlf ⟨hline.clean.cr, hline.clean.lf⟩

theorem commandSpacingIsInvalid_line :
    commandSpacingIsInvalid (verb ++ if args = [] then [] else SP :: args) = false := by
  have hline := spaced_line hverb hargs
  have hne : verb ++ (if args = [] then [] else SP :: args) ≠ [] := by simp [hverb.nonempty]
  generalize verb ++ (if args = [] then [] else SP :: args) = line at hline hne
  unfold commandSpacingIsInvalid
  simp only [Bool.or_eq_false_iff, decide_eq_false_iff_not, Option.any_eq_false, List.any_eq_false]
  refine ⟨⟨hne, fun byte hbyte => ?_⟩, fun byte hmem => ?_⟩
  · simp [hline.first byte hbyte]
  · have hcr : byte ≠ CR := fun heq => hline.clean.cr (heq ▸ hmem)
    have hlf : byte ≠ LF := fun heq => hline.clean.lf (heq ▸ hmem)
    have hff : byte ≠ 12 := fun heq => hline.formFeed (heq ▸ hmem)
    simp only [isAsciiWhitespace, isCommandWs, hcr, hlf, hff]
    grind

theorem splitVerb_line :
    splitVerb (verb ++ if args = [] then [] else SP :: args) = (verb, args) := by
  have hnone : ∀ byte ∈ verb, isCommandWs byte = false :=
    fun byte hmem => hverb.visible.not_commandWs hmem
  unfold splitVerb
  split_ifs with hnil
  · subst hnil
    have hfind : verb.findIdx? isCommandWs = none := List.findIdx?_eq_none_iff.mpr hnone
    simp [hfind]
  · have hfind : (verb ++ SP :: args).findIdx? isCommandWs = some verb.length := by
      rw [List.findIdx?_append, List.findIdx?_eq_none_iff.mpr hnone]
      simp [List.findIdx?_cons, isCommandWs]
    have hskip : skipCommandWs (SP :: args) = args := by
      unfold skipCommandWs
      rw [List.dropWhile_cons_of_pos (by decide)]
      cases args with
      | nil => rfl
      | cons byte rest =>
        rw [List.dropWhile_cons_of_neg]
        simp [hargs.first byte rfl]
    simp [hfind, hskip]

theorem stripCommandEolWs_line :
    stripCommandEolWs (verb ++ if args = [] then [] else SP :: args) =
      verb ++ if args = [] then [] else SP :: args := by
  unfold stripCommandEolWs
  rw [List.rdropWhile_eq_self_iff]
  intro hne
  simp [(spaced_line hverb hargs).last _ (List.getLast?_eq_some_getLast hne)]

theorem parse_commandBytes_eq
    (hline : (commandBytes verb args).length ≤ MAX_AUTHINFO_SASL_COMMAND_LINE_BYTES) :
    RequestLine.parse (commandBytes verb args) =
      if ((commandBytes verb args).length > MAX_INITIAL_RESPONSE_LINE_BYTES ∨
          args.length > MAX_COMMAND_ARGUMENT_BYTES) ∧ classifyRequestKind verb args ≠ .authInfo then
        ⟨.unknown, verb, args⟩
      else ⟨classifyRequestKind verb args, verb, args⟩ := by
  unfold RequestLine.parse
  rw [if_neg (by omega), stripCompleteCrlfLine_commandBytes hverb hargs]
  simp only [stripCommandEolWs_line hverb hargs, commandSpacingIsInvalid_line hverb hargs,
    splitVerb_line hverb hargs, Bool.false_eq_true, if_false]

theorem parse_commandBytes
    (hline : (commandBytes verb args).length ≤ MAX_INITIAL_RESPONSE_LINE_BYTES)
    (hlimit : args.length ≤ MAX_COMMAND_ARGUMENT_BYTES) :
    RequestLine.parse (commandBytes verb args) = ⟨classifyRequestKind verb args, verb, args⟩ := by
  have hsasl : (commandBytes verb args).length ≤ MAX_AUTHINFO_SASL_COMMAND_LINE_BYTES := by
    unfold MAX_INITIAL_RESPONSE_LINE_BYTES at hline
    unfold MAX_AUTHINFO_SASL_COMMAND_LINE_BYTES
    omega
  rw [parse_commandBytes_eq hverb hargs hsasl, if_neg]
  omega

end

theorem commandTokens_singleton {token : Bytes} (h : IsArgument token) :
    commandTokens token = [token] := by
  unfold commandTokens
  rw [List.splitOnP_eq_singleton fun byte hmem => h.visible.not_commandWs hmem]
  simp [h.nonempty]

theorem commandTokens_cons {token : Bytes} (h : IsArgument token) (rest : Bytes) :
    commandTokens (token ++ SP :: rest) = token :: commandTokens rest := by
  unfold commandTokens
  rw [List.splitOnP_append_cons_of_forall_mem (fun byte hmem => h.visible.not_commandWs hmem) SP
    (by decide)]
  simp [h.nonempty]

theorem commandTokens_append_cons (left right : Bytes) {blank : UInt8}
    (h : isCommandWs blank = true) :
    commandTokens (left ++ blank :: right) = commandTokens left ++ commandTokens right := by
  unfold commandTokens
  rw [List.splitOnP_append_cons _ _ h, List.filter_append]

theorem commandTokens_append_blanks (args : Bytes) {blanks : Bytes}
    (h : ∀ byte ∈ blanks, isCommandWs byte = true) :
    commandTokens (args ++ blanks) = commandTokens args := by
  induction blanks generalizing args with
  | nil => rw [List.append_nil]
  | cons blank blanks ih =>
    obtain ⟨hblank, hrest⟩ := List.forall_mem_cons.mp h
    have hnil : commandTokens blanks = [] := ih [] hrest
    rw [commandTokens_append_cons _ _ hblank, hnil, List.append_nil]

theorem commandTokens_skipCommandWs (args : Bytes) : commandTokens
    (skipCommandWs args) = commandTokens args := by
  unfold skipCommandWs
  induction args with
  | nil => rfl
  | cons byte args ih =>
    by_cases hblank : isCommandWs byte = true
    · rw [List.dropWhile_cons_of_pos hblank, ih]
      exact (commandTokens_append_cons [] args hblank).symm
    · rw [List.dropWhile_cons_of_neg hblank]

theorem validateUtf8Arg_asBytes (validate : Str → Bool) (value : Str) :
    validateUtf8Arg validate (asBytes value) = validate value := by
  simp [validateUtf8Arg, fromUtf8, asBytes, Utf8.decode_encode]

def ArticleRef.args : ArticleRef → List Bytes
  | .current => []
  | .number value => [decimalText value.toNat]
  | .messageId value => [asBytes value.value]

def joinArgs (tokens : List Bytes) : Bytes := [SP].intercalate tokens

def Request.command : Request → Bytes × List Bytes
  | .article articleRef => (ascii "ARTICLE", articleRef.args)
  | .body articleRef => (ascii "BODY", articleRef.args)
  | .head articleRef => (ascii "HEAD", articleRef.args)
  | .stat articleRef => (ascii "STAT", articleRef.args)
  | .listVariant kind wildmat => (ascii "LIST", kind.asWire :: wildmat.toList.map (asBytes ·.value))
  | .group name => (ascii "GROUP", [asBytes name.value])
  | .listGroup none _ => (ascii "LISTGROUP", [])
  | .listGroup (some name) range =>
    (ascii "LISTGROUP", asBytes name.value :: range.toList.map (asBytes ·.value))
  | .last => (ascii "LAST", [])
  | .next => (ascii "NEXT", [])
  | .over selector => (ascii "OVER", selector.toList.map (asBytes ·.value))
  | .xover selector => (ascii "XOVER", selector.toList.map (asBytes ·.value))
  | .hdr header selector =>
    (ascii "HDR", asBytes header.value :: selector.toList.map (asBytes ·.value))
  | .xhdr header selector =>
    (ascii "XHDR", asBytes header.value :: selector.toList.map (asBytes ·.value))
  | .newGroups day time gmt =>
    (ascii "NEWGROUPS", asBytes day.value :: asBytes time.value :: if gmt then [ascii "GMT"]
      else [])
  | .newNews wildmat day time gmt =>
    (ascii "NEWNEWS", asBytes wildmat.value :: asBytes day.value :: asBytes time.value ::
      if gmt then [ascii "GMT"] else [])
  | .post => (ascii "POST", [])
  | .ihave messageId => (ascii "IHAVE", [asBytes messageId.value])
  | .check messageId => (ascii "CHECK", [asBytes messageId.value])
  | .takeThis messageId _ => (ascii "TAKETHIS", [asBytes messageId.value])
  | .authInfo kind value => (ascii "AUTHINFO", [kind.asWire, value.value])
  | .startTls => (ascii "STARTTLS", [])
  | .list => (ascii "LIST", [])
  | .help => (ascii "HELP", [])
  | .capabilities keyword => (ascii "CAPABILITIES", keyword.toList.map asBytes)
  | .date => (ascii "DATE", [])
  | .modeReader => (ascii "MODE", [ascii "READER"])
  | .modeStream => (ascii "MODE", [ascii "STREAM"])
  | .quit => (ascii "QUIT", [])

@[simp] theorem joinArgs_nil : joinArgs [] = [] := rfl

@[simp] theorem joinArgs_singleton (token : Bytes) : joinArgs [token] = token := by
  simp [joinArgs]

@[simp] theorem joinArgs_cons_cons (first second : Bytes) (rest : List Bytes) :
    joinArgs (first :: second :: rest) = first ++ SP :: joinArgs (second :: rest) := by
  simp [joinArgs, List.intercalate_cons_cons]

theorem joinArgs_ne_nil {tokens : List Bytes} (h : ∀ token ∈ tokens, IsArgument token)
    (hne : tokens ≠ []) : joinArgs tokens ≠ [] := by
  match tokens, hne with
  | [token], _ =>
    rw [joinArgs_singleton]
    exact (h token List.mem_cons_self).nonempty
  | first :: second :: rest, _ => simp

theorem spaced_joinArgs {tokens : List Bytes} (h : ∀ token ∈ tokens, IsArgument token) :
    Spaced (joinArgs tokens) := by
  induction tokens with
  | nil => exact visible_nil.spaced
  | cons first rest ih =>
    obtain ⟨hfirst, hrest⟩ := List.forall_mem_cons.mp h
    cases rest with
    | nil =>
      rw [joinArgs_singleton]
      exact hfirst.visible.spaced
    | cons second rest =>
      rw [joinArgs_cons_cons]
      exact hfirst.spaced_cons (ih hrest) (joinArgs_ne_nil hrest (List.cons_ne_nil _ _))

theorem commandTokens_joinArgs {tokens : List Bytes} (h : ∀ token ∈ tokens, IsArgument token) :
    commandTokens (joinArgs tokens) = tokens := by
  induction tokens with
  | nil => rfl
  | cons first rest ih =>
    obtain ⟨hfirst, hrest⟩ := List.forall_mem_cons.mp h
    cases rest with
    | nil =>
      rw [joinArgs_singleton]
      exact commandTokens_singleton hfirst
    | cons second rest =>
      rw [joinArgs_cons_cons, commandTokens_cons hfirst, ih hrest]

/-- What `from_number` makes sure of. -/
def ArticleRef.Valid : ArticleRef → Prop
  | .number value => 0 < value.toNat ∧ value.toNat ≤ MAX_ARTICLE_NUMBER
  | _ => True

/-- What the constructor functions make sure of and the type does not. -/
def Request.Constructed : Request → Prop
  | .article articleRef | .body articleRef | .head articleRef | .stat articleRef => articleRef.Valid
  | .capabilities (some keyword) => validateKeyword keyword = true
  | .listVariant kind (some _) => kind ∈ [.active, .activeTimes, .newsgroups]
  | _ => True

theorem ArticleRef.valid_of_fromNumber {value : UInt64} {articleRef : ArticleRef}
    (h : fromNumber value = some articleRef) : articleRef.Valid := by
  unfold fromNumber at h
  split_ifs at h with hout
  cases h
  have hpos : value.toNat ≠ 0 := fun hzero => hout (.inl (UInt64.toNat_inj.mp hzero))
  change 0 < value.toNat ∧ value.toNat ≤ MAX_ARTICLE_NUMBER
  omega

theorem ArticleRef.valid_of_fromSelector {value : Str} {articleRef : ArticleRef}
    (h : fromSelector value = some articleRef) : articleRef.Valid := by
  unfold fromSelector at h
  split_ifs at h with hshape hdigits
  · obtain ⟨number, -, hnumber⟩ := Option.bind_eq_some_iff.mp h
    exact valid_of_fromNumber hnumber
  · obtain ⟨messageId, -, rfl⟩ := Option.map_eq_some_iff.mp h
    trivial

theorem orInvalid_eq_ok {α : Type} {error : InvalidArgument} {arg : Option α} {value : α} :
    orInvalid error arg = .ok value ↔ arg = some value := by
  cases arg <;> simp [orInvalid]

theorem RequestCall.constructed {call : RequestCall} {request : Request}
    (h : call.build = .ok request) : request.Constructed := by
  cases call with
  | capabilitiesKeyword keyword =>
    simp only [RequestCall.build, Request.capabilitiesKeyword] at h
    split_ifs at h with hvalid
    cases h
    exact hvalid
  | _ =>
    simp only [RequestCall.build, Request.fromMessageId, Request.fromNumber, Request.fromSelector,
      Request.listgroupGroupRange, Request.headerQuery, Request.newgroups, Request.newnews,
      Request.takethis, Request.authinfoBytes, Request.listWildmat, ExceptBind.bind_eq_ok,
      orInvalid_eq_ok, Except.ok.injEq] at h
    grind [Request.Constructed, ArticleRef.Valid, ArticleRef.valid_of_fromNumber,
      ArticleRef.valid_of_fromSelector]

def Request.transfer : Request → Bytes
  | .takeThis _ payload => writeDotStuffedArticle payload
  | _ => []

@[simp] theorem commandBytes_nil (verb : Bytes) : commandBytes verb [] = verb ++ CRLF := by
  simp [commandBytes]

theorem commandBytes_of_ne_nil (verb : Bytes) {args : Bytes} (h : args ≠ []) :
    commandBytes verb args = verb ++ ascii " " ++ args ++ CRLF := by
  simp [commandBytes, h, ascii]

theorem writeOptionalArg_some (arg : Str) :
    writeOptionalArg (some arg) = ascii " " ++ asBytes arg := rfl

section Encoders

variable (verb : Bytes)

theorem writeArticleRefRequestWire_eq (articleRef : ArticleRef) :
    writeArticleRefRequestWire verb articleRef = commandBytes verb (joinArgs articleRef.args) := by
  cases articleRef with
  | current => simp [writeArticleRefRequestWire, ArticleRef.args]
  | number value =>
    simp [writeArticleRefRequestWire, ArticleRef.args,
      commandBytes_of_ne_nil verb (isArgument_decimalText value.toNat).nonempty]
  | messageId value =>
    simp [writeArticleRefRequestWire, ArticleRef.args,
      commandBytes_of_ne_nil verb value.isArgument.nonempty]

theorem writeOneArgRequestWire_eq {arg : Str} (h : IsArgument (asBytes arg)) :
    writeOneArgRequestWire (verb ++ ascii " ") arg =
      commandBytes verb (joinArgs [asBytes arg]) := by
  rw [joinArgs_singleton, commandBytes_of_ne_nil verb h.nonempty, writeOneArgRequestWire]

theorem joinArgs_optional (first : Bytes) (arg : Option Str) :
    joinArgs (first :: arg.toList.map asBytes) = first ++ writeOptionalArg arg := by
  cases arg with
  | none => simp [writeOptionalArg]
  | some arg =>
    rw [Option.toList_some, List.map_singleton, joinArgs_cons_cons, joinArgs_singleton]
    rfl

theorem writeOptionalArgRequestWire_eq {arg : Option Str}
    (h : ∀ value ∈ arg, IsArgument (asBytes value)) :
    writeOptionalArgRequestWire verb arg =
      commandBytes verb (joinArgs (arg.toList.map asBytes)) := by
  cases arg with
  | none => simp [writeOptionalArgRequestWire, writeOptionalArg]
  | some arg =>
    rw [Option.toList_some, List.map_singleton, joinArgs_singleton,
      commandBytes_of_ne_nil verb (h arg rfl).nonempty, writeOptionalArgRequestWire,
      writeOptionalArg_some, List.append_assoc verb, List.append_assoc verb, List.append_assoc verb]

theorem commandBytes_optional {first : Bytes} (hfirst : first ≠ []) (arg : Option Str) :
    commandBytes verb (joinArgs (first :: arg.toList.map asBytes)) =
      verb ++ ascii " " ++ first ++ writeOptionalArg arg ++ CRLF := by
  rw [joinArgs_optional, commandBytes_of_ne_nil]
  · simp
  · simp [hfirst]

theorem joinArgs_gmt (first : Bytes) (gmt : Bool) :
    joinArgs (first :: if gmt then [ascii "GMT"] else []) =
      first ++ if gmt then ascii " GMT" else [] := by
  cases gmt with
  | false => simp
  | true => simp [ascii]

theorem writeDatetimeRequestWire_eq (date : NntpDate) (time : NntpTime) (gmt : Bool) :
    writeDatetimeRequestWire (verb ++ ascii " ") date time gmt = commandBytes verb
      (joinArgs (asBytes date.value :: asBytes time.value :: if gmt then [ascii "GMT"]
        else [])) := by
  rw [joinArgs_cons_cons, joinArgs_gmt, commandBytes_of_ne_nil]
  · simp [writeDatetimeRequestWire, ascii]
  · simp

end Encoders

theorem Request.writeWireTo_eq {request : Request} (h : request.Constructed) :
    request.writeWireTo =
      commandBytes request.command.1 (joinArgs request.command.2) ++ request.transfer := by
  -- A request is written as its command line and, for TAKETHIS, the article.
  have hmap : ∀ {α : Type} (value : α → Str) (arg : Option α),
      arg.toList.map (fun a => asBytes (value a)) = (arg.map value).toList.map asBytes := by
    intro α value arg
    cases arg <;> rfl
  have hline : ∀ {wire line : Bytes}, wire = line → wire = line ++ [] :=
    fun heq => heq.trans (List.append_nil _).symm
  cases request with
  | article articleRef | body articleRef | head articleRef | stat articleRef =>
    apply hline
    exact writeArticleRefRequestWire_eq _ articleRef
  | listVariant kind wildmat =>
    apply hline
    rw [command, hmap, commandBytes_optional]
    · simp [writeWireTo, writeListRequestWire, ascii]
    · cases kind <;> decide
  | group name =>
    apply hline
    exact writeOneArgRequestWire_eq (ascii "GROUP") name.isArgument
  | listGroup name range =>
    cases name with
    | none =>
      cases range <;> rfl
    | some name =>
      apply hline
      rw [command, hmap, commandBytes_optional _ name.isArgument.nonempty]
      cases range with
      | none => simp [writeWireTo, writeListgroupRequestWire, writeOptionalArg]
      | some range => simp [writeWireTo, writeListgroupRequestWire, writeOptionalArg]
  | «over» selector =>
    apply hline
    rw [command, hmap]
    apply writeOptionalArgRequestWire_eq
    intro value hvalue
    obtain ⟨selector, -, rfl⟩ := Option.map_eq_some_iff.mp hvalue
    exact selector.isArgument
  | xover selector =>
    apply hline
    rw [command, hmap]
    apply writeOptionalArgRequestWire_eq
    intro value hvalue
    obtain ⟨selector, -, rfl⟩ := Option.map_eq_some_iff.mp hvalue
    exact selector.isArgument
  | hdr header selector | xhdr header selector =>
    apply hline
    rw [command, hmap, commandBytes_optional _ header.isArgument.nonempty]
    rfl
  | newGroups day time gmt =>
    apply hline
    exact writeDatetimeRequestWire_eq (ascii "NEWGROUPS") day time gmt
  | newNews wildmat day time gmt =>
    apply hline
    rw [command, joinArgs_cons_cons, joinArgs_cons_cons, joinArgs_gmt,
      commandBytes_of_ne_nil]
    · simp [writeWireTo, writeNewnewsRequestWire, ascii]
    · simp
  | ihave messageId =>
    apply hline
    exact writeOneArgRequestWire_eq (ascii "IHAVE") messageId.isArgument
  | check messageId =>
    apply hline
    exact writeOneArgRequestWire_eq (ascii "CHECK") messageId.isArgument
  | takeThis messageId payload =>
    rw [transfer]
    exact congrArg (· ++ _) (writeOneArgRequestWire_eq (ascii "TAKETHIS") messageId.isArgument)
  | authInfo kind value =>
    apply hline
    rw [command, joinArgs_cons_cons, joinArgs_singleton,
      commandBytes_of_ne_nil]
    · simp [writeWireTo, writeAuthinfoRequestWire, ascii]
    · simp
  | capabilities keyword =>
    cases keyword with
    | none => rfl
    | some keyword =>
      apply hline
      exact writeOneArgRequestWire_eq (ascii "CAPABILITIES") (isArgument_of_validateKeyword h)
  | last | next | post | startTls | list | help | date | modeReader | modeStream | quit => rfl

end NntpBench.Protocol
