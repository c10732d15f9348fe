import AcpBridge.Buzz.Capture

/-! What an extraction reports. A miss is logged with its true cause and with nothing of the
prompt but a byte count; of a rendered block nothing is noted but a wrong count in its header
and, in sender mode, a batch of several senders. -/
namespace AcpBridge

/-- Why a prompt yields no identity. -/
inductive Miss
  | noBlock
  | noSections
  | noChannelLine
  | noUuid (bytes : ℕ)
  | noSender

def Miss.reason : Miss → String
  | noBlock => "no [Buzz events — N events] / [Buzz event: <tag>] block in prompt"
  | noSections => "Buzz events block contains no event sections"
  | noChannelLine => "no `Channel:` line in Buzz events block"
  | noUuid bytes => "first `Channel:` line has no valid `(#<uuid>)` capture (" ++
      toString bytes ++ " bytes)"
  | noSender => "last event section has no valid `From: … hex: <64-hex>` line"

/-- A header whose count is not the number of sections. -/
def countNote (declared : Option Usize) (parsed : ℕ) : List String :=
  match declared with
  | none => []
  | some declared => if parsed = declared.val then [] else
      ["Buzz header declares " ++ toString declared.val ++ " events but " ++
        toString parsed ++ " sections were parsed; parsing anyway"]

/-- A batch of several senders. -/
def sendersNote (distinct : ℕ) : List String :=
  if distinct > 1 then
    ["Buzz batch contains " ++ toString distinct ++
      " distinct senders; attributing the turn to the last event's sender (spec §5.3)"]
  else []

/-- The first header line of a prompt, and what stands behind it. -/
def Opens (promptText : String) (header : Str) (body : List Str) : Prop :=
  (IsMultiHeader header ∨ IsSingleHeader header) ∧
    ∃ pre, Str.lines promptText.toList = pre ++ header :: body ∧
      ∀ l ∈ pre, ¬ (IsMultiHeader l ∨ IsSingleHeader l)

/-- The block of a prompt has a section. -/
def HasSections (promptText : String) : Prop :=
  ∃ header body, Opens promptText header body ∧
    (IsMultiHeader header → ∃ l ∈ body, IsSeparator l)

theorem opens_iff {promptText : String} {header : Str} {body : List Str} :
    Opens promptText header body ↔
      (Str.lines promptText.toList).dropWhile (!isHeader ·) = header :: body := by
  have hnot : ∀ l, isHeader l = false ↔ ¬ (IsMultiHeader l ∨ IsSingleHeader l) := fun l => by
    rw [← isHeader_iff, Bool.not_eq_true]
  constructor
  · rintro ⟨hh, pre, hlines, hpre⟩
    rw [hlines]
    exact BuzzPromptExtractor.dropWhile_header (fun l hl => (hnot l).mpr (hpre l hl))
      (isHeader_iff.mpr hh)
  · intro h
    have hstop := List.head?_dropWhile_not (p := (!isHeader ·)) (l := Str.lines promptText.toList)
    have happ := List.takeWhile_append_dropWhile (p := (!isHeader ·))
      (l := Str.lines promptText.toList)
    rw [h] at happ
    simp only [h, List.head?_cons] at hstop
    refine ⟨isHeader_iff.mp (by simpa using hstop), _, happ.symm, fun l hl => ?_⟩
    rw [← hnot]
    simpa using List.mem_takeWhile_imp hl

namespace BuzzPromptExtractor
variable (x : BuzzPromptExtractor) {promptText : String} {header : Str} {body : List Str}

/-- When each cause is the one that stops the extraction. -/
def Misses (promptText : String) : Miss → Prop
  | .noBlock => ∀ l ∈ Str.lines promptText.toList, ¬ (IsMultiHeader l ∨ IsSingleHeader l)
  | .noSections => ∃ header body, Opens promptText header body ∧ IsMultiHeader header ∧
      ∀ l ∈ body, ¬ IsSeparator l
  | .noChannelLine => x.hostUnit = .channel ∧ HasSections promptText ∧
      x.decidingLine promptText = none
  | .noUuid bytes => x.hostUnit = .channel ∧ ∃ line, x.decidingLine promptText = some line ∧
      bytes = line.len ∧ ∀ before uuid, UuidShape uuid →
        line ≠ "Channel: ".toList ++ (before ++ "(#".toList ++ uuid ++ ")".toList)
  | .noSender => x.hostUnit = .sender ∧ HasSections promptText ∧
      ∀ line, x.decidingLine promptText = some line → ∀ before hex, KeyShape hex →
        line ≠ "From: ".toList ++ (before ++ "hex: ".toList ++ hex ++ ")".toList)

section Blocks

/-- A block has no section exactly when its header announces several and no separator
follows. -/
theorem blockSections_eq_nil_iff (hh : IsMultiHeader header ∨ IsSingleHeader header) :
    (blockSections header body).1 = [] ↔ IsMultiHeader header ∧ ∀ l ∈ body, ¬ IsSeparator l := by
  have hplain : (∀ l ∈ body, ¬ IsSeparator l) ↔ body.countP isSectionSeparator = 0 := by
    rw [List.countP_eq_zero]
    simp only [isSectionSeparator_iff]
  have hlen : (sections body).length = body.countP isSectionSeparator := by
    rw [sections_eq_slices]
    exact Split.slices_length body
  rcases hh with hm | hs
  · rw [blockSections_multi hm, and_iff_right hm, hplain, ← hlen, List.length_eq_zero_iff]
  · rw [blockSections_single hs]
    simp [hs.not_multi]

theorem exists_parsed (h : HasSections promptText) : ∃ header body,
    (Str.lines promptText.toList).dropWhile (!isHeader ·) = header :: body ∧
      (blockSections header body).1 ≠ [] := by
  obtain ⟨header, body, hopens, hsep⟩ := h
  refine ⟨header, body, opens_iff.mp hopens, fun hnil => ?_⟩
  obtain ⟨hm, hplain⟩ := (blockSections_eq_nil_iff hopens.1).mp hnil
  obtain ⟨l, hl, hs⟩ := hsep hm
  exact hplain l hl hs

theorem hasSections_of_decidingLine {line : Str} (h : x.decidingLine promptText = some line) :
    HasSections promptText := by
  unfold decidingLine at h
  cases hlines : (Str.lines promptText.toList).dropWhile (!isHeader ·) with
  | nil => simp [hlines] at h
  | cons header body =>
    have hopens := opens_iff.mpr hlines
    refine ⟨header, body, hopens, fun hm => ?_⟩
    by_contra hplain
    push Not at hplain
    have hnil := (blockSections_eq_nil_iff hopens.1).mpr ⟨hm, hplain⟩
    rw [hlines] at h
    simp only [hnil, List.flatten_nil, List.find?_nil, List.getLast?_nil, Option.bind_none] at h
    cases hu : x.hostUnit <;> simp [hu] at h

theorem channelUuid_eq_none {line : Str} : channelUuid line = none ↔
    ∀ before uuid, UuidShape uuid →
      line ≠ "Channel: ".toList ++ (before ++ "(#".toList ++ uuid ++ ")".toList) := by
  constructor
  · intro h before uuid hshape hline
    have hsome := channelUuid_eq_some.mpr ⟨hshape, before, hline⟩
    simp [h] at hsome
  · intro h
    by_contra hne
    obtain ⟨uuid, hsome⟩ := Option.ne_none_iff_exists'.mp hne
    obtain ⟨hshape, before, hline⟩ := channelUuid_eq_some.mp hsome
    exact h before uuid hshape hline

theorem fromHex_eq_none {line : Str} : fromHex line = none ↔
    ∀ before hex, KeyShape hex →
      line ≠ "From: ".toList ++ (before ++ "hex: ".toList ++ hex ++ ")".toList) := by
  constructor
  · intro h before hex hshape hline
    have hsome := fromHex_eq_some.mpr ⟨hshape, before, hline⟩
    simp [h] at hsome
  · intro h
    by_contra hne
    obtain ⟨hex, hsome⟩ := Option.ne_none_iff_exists'.mp hne
    obtain ⟨hshape, before, hline⟩ := fromHex_eq_some.mp hsome
    exact h before hex hshape hline

end Blocks

section Misses

theorem tryExtract_channel (hu : x.hostUnit = .channel) (h : HasSections promptText) :
    (x.decidingLine promptText = none →
      x.tryExtract promptText = .error Miss.noChannelLine.reason) ∧
    ∀ line, x.decidingLine promptText = some line → channelUuid line = none →
      x.tryExtract promptText = .error (Miss.noUuid line.len).reason := by
  obtain ⟨header, body, hlines, hne⟩ := exists_parsed h
  have hempty : (blockSections header body).1.isEmpty = false := by
    rw [List.isEmpty_eq_false_iff]
    exact hne
  constructor
  · intro hnone
    simp only [decidingLine, hlines, hu] at hnone
    simp only [tryExtract, extractLines, hlines, hempty, hu, channelUserId, hnone]
    rfl
  · intro line hline hcapture
    simp only [decidingLine, hlines, hu] at hline
    simp only [tryExtract, extractLines, hlines, hempty, hu, channelUserId, hline, hcapture]
    rfl

theorem tryExtract_sender (hu : x.hostUnit = .sender) (h : HasSections promptText)
    (hnone : (x.decidingLine promptText).bind fromHex = none) :
    x.tryExtract promptText = .error Miss.noSender.reason := by
  obtain ⟨header, body, hlines, hne⟩ := exists_parsed h
  have hempty : (blockSections header body).1.isEmpty = false := by
    rw [List.isEmpty_eq_false_iff]
    exact hne
  simp only [decidingLine, hlines, hu] at hnone
  have hlast : ((blockSections header body).1.map sectionSender).getLast?.join = none := by
    rw [List.getLast?_map, ← hnone]
    cases (blockSections header body).1.getLast? <;> rfl
  simp only [tryExtract, extractLines, hlines, hempty, hu, senderUserId, hlast]
  rfl

theorem tryExtract_of_misses {miss : Miss} (h : x.Misses promptText miss) :
    x.tryExtract promptText = .error miss.reason := by
  cases miss with
  | noBlock =>
    have hnil : (Str.lines promptText.toList).dropWhile (!isHeader ·) = [] := by
      rw [List.dropWhile_eq_nil_iff]
      intro l hl
      have hnot := h l hl
      rw [← isHeader_iff] at hnot
      simpa using hnot
    simp only [tryExtract, extractLines, hnil]
    rfl
  | noSections =>
    obtain ⟨header, body, hopens, hm, hplain⟩ := h
    have hnil := (blockSections_eq_nil_iff hopens.1).mpr ⟨hm, hplain⟩
    simp only [tryExtract, extractLines, opens_iff.mp hopens, hnil, List.isEmpty_nil, if_true]
    rfl
  | noChannelLine =>
    obtain ⟨hu, hsections, hnone⟩ := h
    exact (x.tryExtract_channel hu hsections).1 hnone
  | noUuid bytes =>
    obtain ⟨hu, line, hline, rfl, hcapture⟩ := h
    have hsections := x.hasSections_of_decidingLine hline
    exact (x.tryExtract_channel hu hsections).2 line hline (channelUuid_eq_none.mpr hcapture)
  | noSender =>
    obtain ⟨hu, hsections, hcapture⟩ := h
    apply x.tryExtract_sender hu hsections
    rw [Option.bind_eq_none_iff]
    exact fun line hline => fromHex_eq_none.mpr (hcapture line hline)

theorem exists_misses (h : x.extract promptText = none) : ∃ miss, x.Misses promptText miss := by
  have hid := x.extract_userId promptText
  rw [h, Option.map_none, eq_comm, Option.map_eq_none_iff, Option.bind_eq_none_iff] at hid
  cases hlines : (Str.lines promptText.toList).dropWhile (!isHeader ·) with
  | nil =>
    refine ⟨.noBlock, fun l hl => ?_⟩
    have hnot := List.dropWhile_eq_nil_iff.mp hlines l hl
    rw [← isHeader_iff]
    simpa using hnot
  | cons header body =>
    have hopens := opens_iff.mpr hlines
    by_cases hsections : IsMultiHeader header → ∃ l ∈ body, IsSeparator l
    · have hhas : HasSections promptText := ⟨header, body, hopens, hsections⟩
      cases hu : x.hostUnit with
      | channel =>
        simp only [capture, hu] at hid
        cases hline : x.decidingLine promptText with
        | none => exact ⟨.noChannelLine, hu, hhas, hline⟩
        | some line =>
          exact ⟨.noUuid line.len, hu, line, hline, rfl, channelUuid_eq_none.mp (hid line hline)⟩
      | sender =>
        simp only [capture, hu] at hid
        exact ⟨.noSender, hu, hhas, fun line hline => fromHex_eq_none.mp (hid line hline)⟩
    · push Not at hsections
      exact ⟨.noSections, header, body, hopens, hsections.1, hsections.2⟩

/-- A miss is logged exactly when its cause holds: the text names it, and holds nothing of the
prompt but the byte count of a line. -/
theorem miss_truthful {reason : String} : x.tryExtract promptText = .error reason ↔
    ∃ miss, x.Misses promptText miss ∧ reason = miss.reason := by
  constructor
  · intro h
    have hnone : x.extract promptText = none := by
      rw [extract, h]
      rfl
    obtain ⟨miss, hmiss⟩ := x.exists_misses hnone
    have hreason := h.symm.trans (x.tryExtract_of_misses hmiss)
    exact ⟨miss, hmiss, Except.error.inj hreason⟩
  · rintro ⟨miss, hmiss, rfl⟩
    exact x.tryExtract_of_misses hmiss

end Misses

section Notes

theorem blockSections_notes : (blockSections header body).2 =
    countNote (parseMultiHeader header) (blockSections header body).1.length := by
  unfold blockSections
  cases parseMultiHeader header <;> rfl

/-- What is noted depends on the declared count, the number of sections and, in sender mode,
the senders found in them. -/
theorem extractLines_diagnostics {lines : List Str} {identity : ExtractedIdentity}
    (hlines : lines.dropWhile (!isHeader ·) = header :: body)
    (h : x.extractLines lines = .ok identity) : identity.diagnostics =
      countNote (parseMultiHeader header) (blockSections header body).1.length ++
        match x.hostUnit with
        | .channel => []
        | .sender => sendersNote
            (((blockSections header body).1.map sectionSender).reduceOption.dedup.length) := by
  rw [← blockSections_notes]
  simp only [extractLines, hlines] at h
  generalize (blockSections header body).1 = parsed at h ⊢
  split_ifs at h
  cases hu : x.hostUnit with
  | channel =>
    simp only [hu] at h
    cases hid : x.channelUserId parsed with
    | error reason => simp [hid, Except.map] at h
    | ok userId =>
      simp only [hid, Except.map, Except.ok.injEq] at h
      rw [← h, List.append_nil]
  | sender =>
    simp only [hu, senderUserId] at h
    cases hlast : (parsed.map sectionSender).getLast?.join with
    | none =>
      simp only [hlast, Except.map] at h
      exact absurd h (by simp)
    | some last =>
      simp only [hlast, Except.map, Except.ok.injEq] at h
      rw [← h]
      rfl

theorem parseMultiHeader_stripCr : parseMultiHeader header.stripCr = parseMultiHeader header := by
  simp only [parseMultiHeader, Str.trim_stripCr]

section Rendered
variable {pre block : List Str} {events : List BuzzEvent} (hb : Renders block events)
  (hne : events ≠ []) (hn : ∀ l ∈ pre ++ block, '\n' ∉ l)
include hb hne hn

theorem readAs_of_renders :
    ReadAs (Str.lines (['\n'].intercalate (pre ++ block))) (pre.map Str.stripCr) events := by
  cases hb with
  | single h event => exact readAs_single h hn
  | @multi header h gap hgap sections hsep =>
    have hsections : sections ≠ [] := fun hnil => hne (by rw [hnil]; rfl)
    obtain ⟨init, last, rfl⟩ := (List.eq_nil_or_concat' sections).resolve_left hsections
    exact readAs_multi h hgap hsep hn

theorem lines_of_renders : ∃ header behind body, block = header :: behind ∧
    Str.lines (['\n'].intercalate (pre ++ block)) =
      pre.map Str.stripCr ++ header.stripCr :: body := by
  have hread : ∀ {header : Str} {behind : List Str}, behind ≠ [] → block = header :: behind →
      ∃ header behind body, block = header :: behind ∧
        Str.lines (['\n'].intercalate (pre ++ block)) =
          pre.map Str.stripCr ++ header.stripCr :: body := by
    intro header behind hbehind hblock
    have happ : pre ++ block = (pre ++ [header]) ++ behind := by simp [hblock]
    refine ⟨header, behind, Str.lines (['\n'].intercalate behind), hblock, ?_⟩
    rw [happ] at hn ⊢
    rw [Str.lines_intercalate (fun l hl => hn l (List.mem_append_left _ hl)) hbehind]
    simp
  cases hb with
  | single h event => exact hread (lines_ne_nil event) rfl
  | @multi header h gap hgap sections hsep =>
    obtain ⟨s, rest, rfl⟩ := List.exists_cons_of_ne_nil
      (show sections ≠ [] from fun hnil => hne (by rw [hnil]; rfl))
    exact hread (by simp) rfl

end Rendered

/-- What is noted of a block: a header that declares a wrong count and, in sender mode, a batch
of several senders. -/
def notes (declared : Option Usize) (events : List BuzzEvent) : List String :=
  countNote declared events.length ++
    match x.hostUnit with
    | .channel => []
    | .sender => sendersNote (events.map (·.hex)).dedup.length

/-- The extraction of a rendered block, with everything it reports: the id is the one of the
rendered events, and the notes are the ones their number and their senders call for. -/
theorem extract_diagnosed {pre block : List Str} {events : List BuzzEvent}
    (hpre : ∀ l ∈ pre, ¬ (IsMultiHeader l ∨ IsSingleHeader l)) (hb : Renders block events)
    (hne : events ≠ []) (hn : ∀ l ∈ pre ++ block, '\n' ∉ l) {text : String}
    (ht : text.toList = ['\n'].intercalate (pre ++ block)) : x.extract text =
      some ⟨x.userIdOf events hne, x.notes (block.head?.bind parseMultiHeader) events⟩ := by
  obtain ⟨header, body, parsed, hlines, hh, hsections, hevents, hcarries⟩ :=
    readAs_of_renders hb hne hn
  obtain ⟨own, behind, body', hblock, hown⟩ := lines_of_renders hb hne hn
  obtain ⟨rfl, rfl⟩ := List.cons.inj (List.append_cancel_left (hlines.symm.trans hown))
  have hplain : ∀ l ∈ pre.map Str.stripCr, isHeader l = false := by
    refine List.forall_mem_map.mpr fun l hl => ?_
    rw [isHeader_stripCr, ← Bool.not_eq_true, isHeader_iff]
    exact hpre l hl
  obtain ⟨ds, hx⟩ := x.extractLines_of_carries hne hplain hh hsections hevents hcarries
  have hds := x.extractLines_diagnostics (dropWhile_header hplain hh) hx
  have hcount : (blockSections own.stripCr body).1.length = events.length := by
    rw [hsections, hevents, List.length_map, List.length_map]
  have hsenders : ((blockSections own.stripCr body).1.map sectionSender).reduceOption =
      events.map (·.hex) := by
    have hsome : parsed.map (fun p => sectionSender p.1) =
        (parsed.map fun p => p.2.hex).map some := by
      rw [List.map_map]
      apply List.map_congr_left
      intro p hp
      exact sectionSender_of_carries p.2.hex_shape (hcarries p hp)
    rw [hsections, hevents, List.map_map, List.map_map]
    change (parsed.map fun p => sectionSender p.1).filterMap id = _
    rw [hsome, List.filterMap_map]
    exact List.filterMap_some
  rw [hcount, hsenders, parseMultiHeader_stripCr] at hds
  rw [extract, tryExtract, ht, hlines, hx, notes, hblock, List.head?_cons, Option.bind_some]
  exact congrArg (fun ds => some (ExtractedIdentity.mk _ ds)) hds

end Notes

end BuzzPromptExtractor

/-- The same event from another sender. -/
def replyEvent : BuzzEvent :=
  { hostileEvent with
    hex := List.replicate 64 'b'
    hex_shape := ⟨rfl, fun c hc => by rw [List.eq_of_mem_replicate hc]; decide⟩ }

def mixedBlock : List Str :=
  "[Buzz events — 3 events]".toList ::
    (([] : List Str) ++ [("--- Event 1 (mention) ---".toList, hostileEvent),
      ("--- Event 2 (message) ---".toList, replyEvent)].flatMap fun s => s.1 :: s.2.lines)

theorem mixedBlock_renders : Renders mixedBlock [hostileEvent, replyEvent] := by
  have hheader : IsMultiHeader "[Buzz events — 3 events]".toList := by decide
  have hsep : ∀ s ∈ [("--- Event 1 (mention) ---".toList, hostileEvent),
      ("--- Event 2 (message) ---".toList, replyEvent)], IsSeparator s.1 := by decide
  exact Renders.multi hheader (by simp) hsep

theorem extract_diagnosed_mixed :
    (BuzzPromptExtractor.mk .sender "buzz").extract
        (String.ofList (['\n'].intercalate (["Context: on call".toList] ++ mixedBlock))) =
      some ⟨"buzz:pubkey:" ++ String.ofList (List.replicate 64 'b'),
        ["Buzz header declares 3 events but 2 sections were parsed; parsing anyway",
          "Buzz batch contains 2 distinct senders; attributing the turn to the last event's " ++
            "sender (spec §5.3)"]⟩ := by
  refine (BuzzPromptExtractor.extract_diagnosed ⟨.sender, "buzz"⟩ (by decide)
    mixedBlock_renders (by simp) (by decide +kernel) String.toList_ofList).trans ?_
  decide +kernel

end AcpBridge
