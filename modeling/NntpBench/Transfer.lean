import Mathlib
import NntpBench.Article
import NntpBench.Framing

namespace NntpBench.Server

open Terminator

inductive CommandReadError where
  | io
  | truncatedLine
  | truncatedBody
  | bodyLineMissingCrlf
  | bodyLineNotDotStuffed
  deriving DecidableEq, Repr

inductive TakeThisBodyState where
  | lineStart
  | lineStartDot
  | lineStartDotCr
  | line
  | lineCr
  deriving DecidableEq, Repr

/-- One byte of a body: the next state, the end of the body, or why the byte is not allowed. -/
inductive BodyStep where
  | next (state : TakeThisBodyState)
  | complete
  | invalid (error : CommandReadError)
  deriving DecidableEq, Repr

/-- The transitions that `scan_dot_terminated_body` and `read_dot_terminated_body` both have. -/
def TakeThisBodyState.step (state : TakeThisBodyState) (byte : UInt8) : BodyStep :=
  match state with
  | .lineStart =>
    if byte = DOT then .next .lineStartDot
    else if byte = CR then .next .lineCr
    else if byte = LF then .invalid .bodyLineMissingCrlf
    else .next .line
  | .lineStartDot =>
    if byte = DOT then .next .line
    else if byte = CR then .next .lineStartDotCr
    else if byte = LF then .invalid .bodyLineMissingCrlf
    else .invalid .bodyLineNotDotStuffed
  | .lineStartDotCr => if byte = LF then .complete else .invalid .bodyLineMissingCrlf
  | .line =>
    if byte = CR then .next .lineCr
    else if byte = LF then .invalid .bodyLineMissingCrlf
    else .next .line
  | .lineCr => if byte = LF then .next .lineStart else .invalid .bodyLineMissingCrlf

/-- What the bytes of a slice make of a body: its end, an error at a byte, or an open body. -/
inductive BodyProgress where
  | complete (consumed : Nat)
  | invalid (error : CommandReadError) (consumed : Nat)
  | incomplete (state : TakeThisBodyState)
  deriving DecidableEq, Repr

/-- The loop over the bytes of a slice; `consumed` counts the bytes before it. -/
def scanBody (state : TakeThisBodyState) (consumed : Nat) : Bytes → BodyProgress
  | [] => .incomplete state
  | byte :: rest =>
    match state.step byte with
    | .next state => scanBody state (consumed + 1) rest
    | .complete => .complete (consumed + 1)
    | .invalid error => .invalid error (consumed + 1)

inductive TransferBodyScan where
  | complete (fin : Nat)
  | incomplete
  | invalid
  deriving DecidableEq, Repr

def scanDotTerminatedBody (data : Bytes) (start : Nat) : TransferBodyScan :=
  match getFrom data start with
  | none => .incomplete
  | some slice =>
    match scanBody .lineStart 0 slice with
    | .complete consumed => .complete (start + consumed)
    | .invalid _ _ => .invalid
    | .incomplete _ => .incomplete

theorem scanDotTerminatedBody_eq {data : Bytes} {start : Nat} (hstart : start ≤ data.length) :
    scanDotTerminatedBody data start =
      match scanBody .lineStart 0 (data.drop start) with
      | .complete consumed => .complete (start + consumed)
      | .invalid _ _ => .invalid
      | .incomplete _ => .incomplete := by
  rw [scanDotTerminatedBody, getFrom_of_le hstart]

end NntpBench.Server

namespace NntpBench.Protocol

open Server Terminator ListSearch

variable {line payload : Bytes} {lines : List Bytes}

/-- The lines that `crlf_normalized_payload_lines` yields: CR, LF and CRLF each end a line.
`line` holds the bytes of the current line. -/
def payloadLinesFrom (line : Bytes) : Bytes → List Bytes
  | [] => if line = [] then [] else [line]
  | b :: rest =>
    if b = CR then
      match rest with
      | c :: after =>
        if c = LF then line :: payloadLinesFrom [] after
        else line :: payloadLinesFrom [] (c :: after)
      | [] => line :: payloadLinesFrom [] []
    else if b = LF then line :: payloadLinesFrom [] rest
    else payloadLinesFrom (line ++ [b]) rest

def crlfNormalizedPayloadLines (payload : Bytes) : List Bytes := payloadLinesFrom [] payload

/-- A line as it goes on the wire, without its CRLF. -/
def stuffLine (line : Bytes) : Bytes :=
  if ascii "." <+: line then ascii "." ++ line else line

/-- The block that `write_dot_stuffed_article` and `write_transfer_request_wire` write. -/
def writeDotStuffedArticle (payload : Bytes) : Bytes :=
  if payload = [] then DOT_TERMINATOR
  else (crlfNormalizedPayloadLines payload).flatMap (fun line => stuffLine line ++ CRLF) ++
    DOT_TERMINATOR

/-- A line on the wire: no CR or LF, and no leading dot that is not doubled. -/
structure WireLine (line : Bytes) : Prop where
  content : IsLineContent line
  stuffed : ascii "." <+: line → ascii ".." <+: line

theorem WireLine.ne_dot (h : WireLine line) : line ≠ [DOT] := by
  rintro rfl
  exact absurd (h.stuffed (by decide)) (by decide)

theorem not_dotLine (hline : IsLineContent line) (hdot : line ≠ [DOT]) (rest : Bytes) :
    ¬ DOT_TERMINATOR <+: line ++ CR :: LF :: rest := by
  rw [dot_terminator_eq]
  intro hstart
  match line, hline, hdot with
  | [], _, _ => simp at hstart
  | [b], _, hdot =>
    have hb : DOT = b := by simpa using hstart
    subst hb
    exact hdot rfl
  | b :: c :: line, hline, _ =>
    simp only [List.cons_append, List.cons_prefix_cons] at hstart
    obtain ⟨rfl, rfl, -⟩ := hstart
    exact hline.1 (by simp)

theorem forall_mem_payloadLinesFrom {P : UInt8 → Prop} (hline : ∀ b ∈ line, P b)
    (hpayload : ∀ b ∈ payload, b ≠ CR → b ≠ LF → P b) :
    ∀ l ∈ payloadLinesFrom line payload, ∀ b ∈ l, P b := by
  fun_induction payloadLinesFrom line payload with
  | case1 => simp
  | case2 line => simpa using hline
  | case3 line after ih => grind
  | case4 line c after hlf ih => grind
  | case5 line => grind
  | case6 line rest hcr ih => grind
  | case7 line b rest hcr hlf ih => grind

theorem isLineContent_of_mem
    (h : line ∈ crlfNormalizedPayloadLines payload) : IsLineContent line := by
  have hbytes : ∀ l ∈ crlfNormalizedPayloadLines payload, ∀ b ∈ l, b ≠ CR ∧ b ≠ LF :=
    forall_mem_payloadLinesFrom (by simp) fun b _ hcr hlf => ⟨hcr, hlf⟩
  exact ⟨fun hmem => (hbytes line h CR hmem).1 rfl, fun hmem => (hbytes line h LF hmem).2 rfl⟩

theorem nul_mem_stuffLine_iff : NUL ∈ stuffLine line ↔ NUL ∈ line := by
  have hdot : NUL ∉ ascii "." := by decide
  unfold stuffLine
  split_ifs
  · simp [hdot]
  · rfl

theorem nul_not_mem_stuffLine (hnul : NUL ∉ payload)
    (h : line ∈ crlfNormalizedPayloadLines payload) : NUL ∉ stuffLine line := by
  have hbytes : ∀ l ∈ crlfNormalizedPayloadLines payload, ∀ b ∈ l, b ≠ NUL := by
    refine forall_mem_payloadLinesFrom (by simp) ?_
    rintro b hb - - rfl
    exact hnul hb
  rw [nul_mem_stuffLine_iff]
  exact fun hmem => hbytes line h NUL hmem rfl

theorem wireLine_stuffLine (h : IsLineContent line) : WireLine (stuffLine line) := by
  unfold stuffLine
  split_ifs with hdot
  · obtain ⟨rest, rfl⟩ := hdot
    refine ⟨isLineContent_append.mpr ⟨by decide, h⟩, fun _ => ⟨rest, rfl⟩⟩
  · exact ⟨h, fun hd => absurd hd hdot⟩

def wireLines (lines : List Bytes) : Bytes := lines.flatMap fun line => line ++ CRLF

theorem wireLines_cons (line : Bytes) (lines : List Bytes) :
    wireLines (line :: lines) = line ++ CR :: LF :: wireLines lines := by
  simp [wireLines, crlf_eq]

theorem length_wireLines_cons (line : Bytes) (lines : List Bytes) :
    (wireLines (line :: lines)).length = line.length + 2 + (wireLines lines).length := by
  rw [wireLines_cons, List.length_append, List.length_cons, List.length_cons]
  omega

/-- The block of every payload is its stuffed lines and the dot line; an empty payload has no
lines, so the writer's special case is the general one. -/
theorem writeDotStuffedArticle_eq (payload : Bytes) :
    writeDotStuffedArticle payload =
      wireLines ((crlfNormalizedPayloadLines payload).map stuffLine) ++ DOT_TERMINATOR := by
  unfold writeDotStuffedArticle wireLines
  rw [List.flatMap_map]
  split_ifs with hempty
  · subst hempty
    rfl
  · rfl

theorem findSub_crlf_line (h : IsLineContent line) (pat rest : Bytes) :
    findSub (CR :: LF :: pat) (line ++ CR :: LF :: rest) =
      if pat <+: rest then some line.length
      else (findSub (CR :: LF :: pat) rest).map (· + (line.length + 2)) := by
  induction line with
  | nil =>
    rw [List.nil_append]
    split_ifs with hpat
    · apply findSub_of_startsWith
      simpa using hpat
    · rw [findSub_cons_of_not_startsWith (by simpa using hpat),
        findSub_cons_of_not_startsWith (by simp), Option.map_map]
      rfl
  | cons b line ih =>
    obtain ⟨hcr, -, hline⟩ := isLineContent_cons.mp h
    have hb : ¬ CR :: LF :: pat <+: b :: (line ++ CR :: LF :: rest) := by
      rw [List.cons_prefix_cons]
      intro hp
      exact hcr hp.1.symm
    rw [List.cons_append, findSub_cons_of_not_startsWith hb, ih hline]
    split_ifs with hpat
    · rfl
    · rw [Option.map_map, List.length_cons]
      congr 1

theorem findSub_terminator_line (h : IsLineContent line) (rest : Bytes) :
    findSub TERMINATOR (line ++ CR :: LF :: rest) =
      if DOT_TERMINATOR <+: rest then some line.length
      else (findSub TERMINATOR rest).map (· + (line.length + 2)) :=
  findSub_crlf_line h DOT_TERMINATOR rest

theorem bounds_lines (h : ∀ line ∈ lines, IsLineContent line) (hdot : ∀ line ∈ lines, line ≠ [DOT])
    (rest : Bytes) :
    DotTerminatedBlocks.bounds (wireLines lines ++ DOT_TERMINATOR ++ rest) =
      some ((wireLines lines).length, (wireLines lines).length + DOT_TERMINATOR.length) := by
  -- A block whose lines are not the dot alone ends at its dot line and nowhere before.
  induction lines with
  | nil =>
    apply DotTerminatedBlocks.bounds_of_empty
    exact List.prefix_append _ _
  | cons line lines ih =>
    rw [List.forall_mem_cons] at h hdot
    have hrest := ih h.2 hdot.2
    have hsplit : wireLines (line :: lines) ++ DOT_TERMINATOR ++ rest =
        line ++ CR :: LF :: (wireLines lines ++ DOT_TERMINATOR ++ rest) := by
      rw [wireLines_cons]
      simp
    rw [hsplit, DotTerminatedBlocks.bounds_of_content (not_dotLine h.1 hdot.1 _),
      findSub_terminator_line h.1, length_wireLines_cons]
    split_ifs with hdot
    · rw [DotTerminatedBlocks.bounds_of_empty hdot] at hrest
      have hzero := congrArg Prod.fst (Option.some.inj hrest)
      simp only at hzero
      rw [← hzero]
      rfl
    · rw [DotTerminatedBlocks.bounds_of_content hdot] at hrest
      obtain ⟨i, hi, heq⟩ := Option.map_eq_some_iff.mp hrest
      rw [hi]
      have hcontent := congrArg Prod.fst heq
      simp only at hcontent
      simp only [Option.map_some, length_dot_terminator, ← hcontent, Option.some.injEq,
        Prod.mk.injEq]
      omega

theorem bounds_wireLines (h : ∀ line ∈ lines, WireLine line) (rest : Bytes) :
    DotTerminatedBlocks.bounds (wireLines lines ++ DOT_TERMINATOR ++ rest) =
      some ((wireLines lines).length, (wireLines lines).length + DOT_TERMINATOR.length) :=
  bounds_lines (fun line hline => (h line hline).content) (fun line hline => (h line hline).ne_dot)
    rest

theorem scanBody_line (h : IsLineContent line) (offset : Nat) (rest : Bytes) :
    scanBody .line offset (line ++ CR :: LF :: rest) =
      scanBody .lineStart (offset + line.length + 2) rest := by
  induction line generalizing offset with
  | nil => rfl
  | cons b line ih =>
    obtain ⟨hcr, hlf, hline⟩ := isLineContent_cons.mp h
    rw [List.cons_append, scanBody]
    simp only [TakeThisBodyState.step, hcr, hlf, if_false]
    rw [ih hline, List.length_cons]
    congr 1
    omega

theorem scanBody_wireLine (h : WireLine line) (offset : Nat) (rest : Bytes) :
    scanBody .lineStart offset (line ++ CR :: LF :: rest) =
      scanBody .lineStart (offset + line.length + 2) rest := by
  match line, h with
  | [], _ => rfl
  | b :: line, h =>
    obtain ⟨hcr, hlf, hline⟩ := isLineContent_cons.mp h.content
    rw [List.cons_append, scanBody]
    by_cases hdot : b = DOT
    · subst hdot
      obtain ⟨after, hafter⟩ := h.stuffed ⟨line, rfl⟩
      have hline' : line = DOT :: after := (List.cons.inj hafter).2.symm
      subst hline'
      obtain ⟨-, -, hrest⟩ := isLineContent_cons.mp hline
      have hscan := scanBody_line hrest (offset + 2) rest
      simp only [TakeThisBodyState.step, if_true, List.cons_append, scanBody]
      rw [hscan, List.length_cons, List.length_cons]
      congr 1
      omega
    · have hscan := scanBody_line hline (offset + 1) rest
      simp only [TakeThisBodyState.step, hdot, hcr, hlf, if_false]
      rw [hscan, List.length_cons]
      congr 1
      omega

theorem scanBody_wireLines (h : ∀ line ∈ lines, WireLine line) (offset : Nat) (rest : Bytes) :
    scanBody .lineStart offset (wireLines lines ++ DOT_TERMINATOR ++ rest) =
      .complete (offset + (wireLines lines).length + DOT_TERMINATOR.length) := by
  induction lines generalizing offset with
  | nil => rfl
  | cons line lines ih =>
    have hrest := ih (fun l hmem => h l (List.mem_cons_of_mem _ hmem)) (offset + line.length + 2)
    rw [length_wireLines_cons, wireLines_cons]
    simp only [List.append_assoc, List.cons_append] at hrest ⊢
    rw [scanBody_wireLine (h line (by simp)), hrest]
    congr 1
    omega

theorem unstuffFrom_content (h : IsLineContent line) (rest : Bytes) :
    unstuffFrom false (line ++ CR :: LF :: rest) = line ++ CR :: LF :: unstuffFrom true rest := by
  induction line with
  | nil => rfl
  | cons b line ih =>
    obtain ⟨-, hlf, hline⟩ := isLineContent_cons.mp h
    rw [List.cons_append, unstuffFrom, Bool.false_and, if_neg (by simp)]
    simp only [hlf, decide_false, ih hline, List.cons_append]

theorem unstuffFrom_stuffLine (h : IsLineContent line) (rest : Bytes) :
    unstuffFrom true (stuffLine line ++ CR :: LF :: rest) =
      line ++ CR :: LF :: unstuffFrom true rest := by
  unfold stuffLine
  split_ifs with hdot
  · exact unstuffFrom_content h rest
  · match line, h, hdot with
    | [], _, _ => rfl
    | b :: line, h, hdot =>
      obtain ⟨-, hlf, hline⟩ := isLineContent_cons.mp h
      have hb : b ≠ DOT := by
        rintro rfl
        exact hdot ⟨line, rfl⟩
      rw [List.cons_append, unstuffFrom]
      simp only [hb, hlf, decide_false, Bool.and_false, Bool.false_eq_true, if_false,
        unstuffFrom_content hline, List.cons_append]

theorem unstuff_wireLines (h : ∀ line ∈ lines, IsLineContent line) :
    unstuffKnownDotLines (wireLines (lines.map stuffLine)) = wireLines lines := by
  unfold unstuffKnownDotLines
  induction lines with
  | nil => rfl
  | cons line lines ih =>
    rw [List.map_cons, wireLines_cons, wireLines_cons,
      unstuffFrom_stuffLine (h line (by simp)), ih fun l hmem => h l (List.mem_cons_of_mem _ hmem)]

theorem validateBodyContent_wireLines (h : ∀ line ∈ lines, WireLine line)
    (hnul : ∀ line ∈ lines, NUL ∉ line) :
    ∃ transformation, validateBodyContent (wireLines lines) = .ok transformation := by
  have hclean : NUL ∉ wireLines lines := by
    intro hmem
    obtain ⟨line, hline, hin⟩ := List.mem_flatMap.mp hmem
    rcases List.mem_append.mp hin with hin | hin
    · exact hnul line hline hin
    · exact absurd hin (by decide)
  unfold validateBodyContent
  rw [if_neg hclean]
  generalize BodyTransformation.none = transformation
  clear hclean hnul
  induction lines generalizing transformation with
  | nil => exact ⟨transformation, rfl⟩
  | cons line lines ih =>
    have hrest := ih fun l hmem => h l (List.mem_cons_of_mem _ hmem)
    have hline := h line (by simp)
    rw [wireLines_cons, forStrictLines_line _ _ hline.content]
    by_cases hdot : ascii "." <+: line
    · simp only [hdot, hline.stuffed hdot, if_true]
      exact hrest .unstuff
    · simp only [hdot, if_false]
      exact hrest transformation

/-- The blocks that the iterator yields, one `next` after another, until it ends. -/
inductive Yields : DotTerminatedBlocks → List DotTerminatedBlock → Prop where
  | done {iterator : DotTerminatedBlocks} (h : iterator.next = none) : Yields iterator []
  | next {iterator rest : DotTerminatedBlocks} {block : DotTerminatedBlock}
    {blocks : List DotTerminatedBlock} (h : iterator.next = some (block, rest))
    (hrest : Yields rest blocks) : Yields iterator (block :: blocks)

/-- What is read back from the block of one payload in `data`. -/
structure ReadsBack (data payload : Bytes) (block : DotTerminatedBlock) : Prop where
  bytes : block.bytes = writeDotStuffedArticle payload
  scan : scanDotTerminatedBody data block.start = .complete block.blockEnd
  unstuffed : unstuffKnownDotLines block.content =
    (crlfNormalizedPayloadLines payload).flatMap fun line => line ++ CRLF
  valid : NUL ∉ payload → ∃ transformation, validateBodyContent block.content = .ok transformation

theorem stuffed_lines (payload : Bytes) :
    ∀ line ∈ (crlfNormalizedPayloadLines payload).map stuffLine, WireLine line := by
  intro line hmem
  obtain ⟨raw, hraw, rfl⟩ := List.mem_map.mp hmem
  exact wireLine_stuffLine (isLineContent_of_mem hraw)

theorem next_of_block (before after payload : Bytes) :
    ∃ block, (dotTerminatedBlocks (before ++ (writeDotStuffedArticle payload ++ after))
          before.length).next =
        some (block, dotTerminatedBlocks (before ++ (writeDotStuffedArticle payload ++ after))
          (before ++ writeDotStuffedArticle payload).length) ∧
      ReadsBack (before ++ (writeDotStuffedArticle payload ++ after)) payload block := by
  -- The block of a payload is found, scanned and read back wherever it stands.
  have hblock := writeDotStuffedArticle_eq payload
  generalize hcontent : wireLines ((crlfNormalizedPayloadLines payload).map stuffLine) =
    content at hblock
  generalize hdata : before ++ (writeDotStuffedArticle payload ++ after) = data
  have hslice : data.drop before.length = content ++ DOT_TERMINATOR ++ after := by
    rw [← hdata, List.drop_left, hblock]
  have hget : getFrom data before.length = some (content ++ DOT_TERMINATOR ++ after) := by
    rw [getFrom_of_le (by rw [← hdata, List.length_append]; omega), hslice]
  have hbounds := bounds_wireLines (stuffed_lines payload) after
  have hscan := scanBody_wireLines (stuffed_lines payload) 0 after
  rw [hcontent] at hbounds hscan
  have hlength : (content ++ DOT_TERMINATOR).length = content.length + DOT_TERMINATOR.length :=
    List.length_append
  have hbytes : data.extract before.length (before.length + (content.length +
      DOT_TERMINATOR.length)) = content ++ DOT_TERMINATOR := by
    rw [List.extract_eq_take_drop, hslice, Nat.add_sub_cancel_left, ← hlength, List.take_left]
  have hcontentBytes : data.extract before.length (before.length + content.length) = content := by
    rw [List.extract_eq_take_drop, hslice, Nat.add_sub_cancel_left, List.append_assoc,
      List.take_left]
  refine ⟨⟨content ++ DOT_TERMINATOR, content, data.extract (before.length + content.length)
    (before.length + (content.length + DOT_TERMINATOR.length)), before.length,
    before.length + content.length, before.length + (content.length + DOT_TERMINATOR.length)⟩,
    ?_, ⟨hblock.symm, ?_, ?_, ?_⟩⟩
  · unfold DotTerminatedBlocks.next dotTerminatedBlocks
    dsimp only
    rw [hget, Option.bind_some, if_neg (by simp [dot_terminator_eq]), hbounds, Option.map_some,
      List.length_append, hblock, hlength]
    simp only [hbytes, hcontentBytes]
  · simp only [scanDotTerminatedBody, hget, hscan, Nat.zero_add]
  · rw [← hcontent]
    exact unstuff_wireLines fun line hmem => isLineContent_of_mem hmem
  · intro hnul
    rw [← hcontent]
    apply validateBodyContent_wireLines (stuffed_lines payload)
    intro line hmem
    obtain ⟨raw, hraw, rfl⟩ := List.mem_map.mp hmem
    exact nul_not_mem_stuffLine hnul hraw

theorem yields_blocks (before : Bytes) (payloads : List Bytes) :
    ∃ blocks, Yields (dotTerminatedBlocks
        (before ++ (payloads.map writeDotStuffedArticle).flatten) before.length) blocks ∧
      List.Forall₂ (ReadsBack (before ++ (payloads.map writeDotStuffedArticle).flatten))
        payloads blocks := by
  induction payloads generalizing before with
  | nil =>
    refine ⟨[], .done ?_, .nil⟩
    simp [DotTerminatedBlocks.next, dotTerminatedBlocks, getFrom]
  | cons payload payloads ih =>
    rw [List.map_cons, List.flatten_cons]
    obtain ⟨block, hnext, hreads⟩ :=
      next_of_block before (payloads.map writeDotStuffedArticle).flatten payload
    obtain ⟨blocks, hyields, hall⟩ := ih (before ++ writeDotStuffedArticle payload)
    rw [List.append_assoc] at hyields hall
    exact ⟨block :: blocks, .next hnext hyields, .cons hreads hall⟩

/-- The lines of a payload: CR, LF and CRLF each end one, and every other byte stands in one. -/
inductive PayloadLines : Bytes → List Bytes → Prop where
  | done : PayloadLines [] []
  | last {line : Bytes} (hline : IsLineContent line) (hne : line ≠ []) : PayloadLines line [line]
  | next {line ending rest : Bytes} {lines : List Bytes} (hline : IsLineContent line)
    (hending : ending = [CR] ∧ rest.head? ≠ some LF ∨ ending = [LF] ∨ ending = CRLF)
    (hrest : PayloadLines rest lines) : PayloadLines (line ++ ending ++ rest) (line :: lines)

theorem payloadLines_payloadLinesFrom (line payload : Bytes) (hline : IsLineContent line) :
    PayloadLines (line ++ payload) (payloadLinesFrom line payload) := by
  fun_induction payloadLinesFrom line payload with
  | case1 => exact .done
  | case2 line hne =>
    rw [List.append_nil]
    exact .last hline hne
  | case3 line after ih =>
    have hrest := ih ⟨by simp, by simp⟩
    simpa [crlf_eq] using PayloadLines.next hline (.inr (.inr rfl)) hrest
  | case4 line c after hlf ih =>
    have hrest := ih ⟨by simp, by simp⟩
    simpa using PayloadLines.next hline (.inl ⟨rfl, by simpa using hlf⟩) hrest
  | case5 line ih =>
    have hrest := ih ⟨by simp, by simp⟩
    simpa using PayloadLines.next hline (.inl ⟨rfl, by simp⟩) hrest
  | case6 line rest hcr ih =>
    have hrest := ih ⟨by simp, by simp⟩
    simpa using PayloadLines.next hline (.inr (.inl rfl)) hrest
  | case7 line b rest hcr hlf ih =>
    have hb : IsLineContent (line ++ [b]) :=
      isLineContent_append.mpr ⟨hline, isLineContent_cons.mpr ⟨hcr, hlf, by simp, by simp⟩⟩
    simpa using ih hb

/-- The bodies of any articles, written one after another, are read back one by one: the iterator
yields exactly one block for each, the server's scan ends where the block ends, and unstuffing
gives the normalised lines; without NUL bytes the content also passes the article's body check. -/
theorem transfer_bodies_read_back (payloads : List Bytes) :
    ∃ blocks, Yields (dotTerminatedBlocks (payloads.map writeDotStuffedArticle).flatten 0) blocks ∧
      List.Forall₂ (fun payload block =>
        block.bytes = writeDotStuffedArticle payload ∧
        scanDotTerminatedBody (payloads.map writeDotStuffedArticle).flatten block.start =
          .complete block.blockEnd ∧
        unstuffKnownDotLines block.content =
          (crlfNormalizedPayloadLines payload).flatMap (fun line => line ++ CRLF) ∧
        PayloadLines payload (crlfNormalizedPayloadLines payload) ∧
        (NUL ∉ payload →
          ∃ transformation, validateBodyContent block.content = .ok transformation))
        payloads blocks := by
  obtain ⟨blocks, hyields, hall⟩ := yields_blocks [] payloads
  have hlines (payload : Bytes) : PayloadLines payload (crlfNormalizedPayloadLines payload) :=
    payloadLines_payloadLinesFrom [] payload ⟨List.not_mem_nil, List.not_mem_nil⟩
  exact ⟨blocks, hyields, hall.imp fun payload block h =>
    ⟨h.bytes, h.scan, h.unstuffed, hlines payload, h.valid⟩⟩

theorem transfer_bodies_read_back_two :
    ∃ first second, Yields (dotTerminatedBlocks
        ([ascii ".a\n", []].map writeDotStuffedArticle).flatten 0) [first, second] ∧
      unstuffKnownDotLines first.content = ascii ".a\r\n" ∧
      ∃ transformation, validateBodyContent first.content = .ok transformation := by
  obtain ⟨blocks, hyields, hall⟩ := transfer_bodies_read_back [ascii ".a\n", []]
  cases hall with
  | cons hfirst hrest =>
    cases hrest with
    | cons hsecond hnil =>
      cases hnil
      exact ⟨_, _, hyields, hfirst.2.2.1.trans (by decide), hfirst.2.2.2.2 (by decide)⟩

end NntpBench.Protocol
