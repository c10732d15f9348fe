import AcpBridge.Buzz.Extraction

/-! What the scanner captures from a line, and when the line it is captured from has the
whole documented form. -/
namespace AcpBridge

section Shapes
variable {c : Char} {s : Str}

private theorem hex_of_byte (hc : c.val < 128) (h : isLowerHexByte c.val.toUInt8 = true) :
    c ∈ "0123456789abcdef".toList :=
  Str.ascii_of_byte (P := (· ∈ "0123456789abcdef".toList)) hc (by decide) h

private theorem dash_of_byte (hc : c.val < 128) (h : (c.val.toUInt8 == 0x2d) = true) : c = '-' :=
  Str.ascii_of_byte (P := (· = '-')) (q := (· == 0x2d)) hc (by decide) h

private theorem lt_of_hexByte {b : UInt8} (h : isLowerHexByte b = true) : b < 128 := by
  simp only [isLowerHexByte, Bool.or_eq_true, Bool.and_eq_true, decide_eq_true_eq,
    UInt8.le_iff_toNat_le] at h
  rw [UInt8.lt_iff_toNat_lt]
  have h' : (48 ≤ b.toNat ∧ b.toNat ≤ 57) ∨ (97 ≤ b.toNat ∧ b.toNat ≤ 102) := h
  change b.toNat < 128
  omega

theorem UuidShape.of_isUuid (h : isUuid s = true) : UuidShape s := by
  simp only [isUuid, Bool.and_eq_true, beq_iff_eq, List.all_eq_true] at h
  have hascii : ∀ b ∈ s.bytes, b < 128 := by
    intro b hb
    obtain ⟨i, hi⟩ := List.mem_iff_getElem?.mp hb
    have hbyte := h.2 (b, i) (List.mem_zipIdx_iff_getElem?.mpr hi)
    simp only at hbyte
    split_ifs at hbyte with hd
    · rw [beq_iff_eq.mp hbyte]; decide
    · exact lt_of_hexByte hbyte
  obtain ⟨hmap, hc⟩ := Str.bytes_ascii hascii
  constructor
  · rw [← h.1, hmap, List.length_map]
  · intro p hp
    have hmem := List.mem_zipIdx_iff_getElem?.mp hp
    have hlt := hc p.1 (List.mem_of_getElem? hmem)
    have hbyte := h.2 (p.1.val.toUInt8, p.2) (by
      rw [hmap, List.mem_zipIdx_iff_getElem?, List.getElem?_map, hmem]
      rfl)
    simp only at hbyte
    split_ifs at hbyte ⊢ with hd
    · exact dash_of_byte hlt hbyte
    · exact hex_of_byte hlt hbyte

theorem KeyShape.of_isHex64 (h : isHex64 s = true) : KeyShape s := by
  simp only [isHex64, Bool.and_eq_true, beq_iff_eq, List.all_eq_true] at h
  obtain ⟨hmap, hc⟩ := Str.bytes_ascii fun b hb => lt_of_hexByte (h.2 b hb)
  constructor
  · rw [← h.1, Str.len, hmap, List.length_map]
  · intro c hmem
    refine hex_of_byte (hc c hmem) (h.2 _ ?_)
    rw [hmap]
    exact List.mem_map_of_mem hmem

theorem UuidShape.not_mem (h : UuidShape s) : '(' ∉ s := fun hc => (h.ascii '(' hc).2 rfl

theorem KeyShape.not_mem (h : KeyShape s) : 'h' ∉ s := fun hc => absurd (h.2 'h' hc) (by decide)

end Shapes

section Captures
variable {line : Str}

/-- A capture is anchored on nothing but the last marker and the closing parenthesis. -/
theorem channelUuid_eq_some {uuid : Str} : channelUuid line = some uuid ↔
    UuidShape uuid ∧
      ∃ before, line = "Channel: ".toList ++ (before ++ "(#".toList ++ uuid ++ ")".toList) := by
  constructor
  · intro h
    simp only [channelUuid, Option.bind_eq_bind, Option.bind_eq_some_iff,
      Str.stripPrefix_eq_some, Str.stripSuffix_eq_some] at h
    obtain ⟨rest, rfl, rest', rfl, ⟨before, candidate⟩, hlast, hif⟩ := h
    split_ifs at hif with hu
    obtain rfl := Option.some.inj hif
    exact ⟨.of_isUuid hu, before, by rw [(Str.rsplitOnce_eq_some.mp hlast).1]⟩
  · rintro ⟨hu, before, rfl⟩
    have hlast : Str.rsplitOnce (before ++ "(#".toList ++ uuid) "(#".toList = some (before, uuid) :=
      Str.rsplitOnce_append (by decide) hu.not_mem
    rw [channelUuid, Str.stripPrefix_append, Option.bind_eq_bind, Option.bind_some,
      Str.stripSuffix_append, Option.bind_eq_bind, Option.bind_some, hlast]
    exact if_pos (isUuid_of_shape hu)

theorem fromHex_eq_some {hex : Str} : fromHex line = some hex ↔
    KeyShape hex ∧
      ∃ before, line = "From: ".toList ++ (before ++ "hex: ".toList ++ hex ++ ")".toList) := by
  constructor
  · intro h
    simp only [fromHex, Option.bind_eq_bind, Option.bind_eq_some_iff,
      Str.stripPrefix_eq_some, Str.stripSuffix_eq_some] at h
    obtain ⟨rest, rfl, rest', rfl, ⟨before, candidate⟩, hlast, hif⟩ := h
    split_ifs at hif with hk
    obtain rfl := Option.some.inj hif
    exact ⟨.of_isHex64 hk, before, by rw [(Str.rsplitOnce_eq_some.mp hlast).1]⟩
  · rintro ⟨hk, before, rfl⟩
    have hlast : Str.rsplitOnce (before ++ "hex: ".toList ++ hex) "hex: ".toList =
        some (before, hex) := Str.rsplitOnce_append (by decide) hk.not_mem
    rw [fromHex, Str.stripPrefix_append, Option.bind_eq_bind, Option.bind_some,
      Str.stripSuffix_append, Option.bind_eq_bind, Option.bind_some, hlast]
    exact if_pos (isHex64_of_shape hk)

/-- The line has the documented form as soon as the text before the marker has. -/
theorem channelLine_iff {name before uuid uuid' : Str} (hu : UuidShape uuid)
    (hu' : UuidShape uuid') :
    "Channel: ".toList ++ (before ++ "(#".toList ++ uuid ++ ")".toList) = channelLine name uuid' ↔
      before = name ++ " ".toList ∧ uuid = uuid' := by
  unfold channelLine
  constructor
  · intro h
    have h' := List.append_cancel_right (List.append_cancel_left h)
    exact Str.append_inj_last "#".toList (by decide) hu.not_mem hu'.not_mem h'
  · rintro ⟨rfl, rfl⟩
    rfl

theorem fromLine_iff {sender : Sender} {before hex hex' : Str} (hk : KeyShape hex)
    (hk' : KeyShape hex') :
    "From: ".toList ++ (before ++ "hex: ".toList ++ hex ++ ")".toList) = fromLine sender hex' ↔
      before = sender.opening ∧ hex = hex' := by
  unfold fromLine
  constructor
  · intro h
    have h' := List.append_cancel_right (List.append_cancel_left h)
    exact Str.append_inj_last "ex: ".toList (by decide) hk.not_mem hk'.not_mem h'
  · rintro ⟨rfl, rfl⟩
    rfl

end Captures

namespace BuzzPromptExtractor
variable (x : BuzzPromptExtractor) (promptText : String)

/-- The line the identity is taken from: the first `Channel:` line of the block, or the first
`From:` line of its last section. -/
def decidingLine : Option Str :=
  match (Str.lines promptText.toList).dropWhile (!isHeader ·) with
  | [] => none
  | header :: body =>
    let parsed := (blockSections header body).1
    match x.hostUnit with
    | .channel => parsed.flatten.find? (Str.startsWith · "Channel: ".toList)
    | .sender => parsed.getLast?.bind (·.find? (Str.startsWith · "From: ".toList))

def capture (line : Str) : Option Str :=
  match x.hostUnit with
  | .channel => channelUuid line
  | .sender => fromHex line

/-- The id made of a capture. -/
def idOf (captured : Str) : String :=
  x.idPrefix ++ (match x.hostUnit with
    | .channel => ":channel:"
    | .sender => ":pubkey:") ++ String.ofList captured

theorem idOf_injective {c c' : Str} (h : x.idOf c = x.idOf c') : c = c' := by
  have hl := congrArg String.toList h
  simp only [idOf, String.toList_append, List.append_cancel_left_eq, String.toList_ofList] at hl
  exact hl

section Blocks
variable {parsed : List (List Str)}

theorem channelUserId_toOption (hu : x.hostUnit = .channel) : (x.channelUserId parsed).toOption =
    ((parsed.flatten.find? (Str.startsWith · "Channel: ".toList)).bind x.capture).map x.idOf := by
  unfold channelUserId
  cases hl : parsed.flatten.find? (Str.startsWith · "Channel: ".toList) with
  | none => rfl
  | some line =>
    simp only [Option.bind_some, capture, hu]
    cases hc : channelUuid line with
    | none => rfl
    | some uuid => simp [idOf, hu, Except.toOption]

theorem senderUserId_toOption (hu : x.hostUnit = .sender) :
    (x.senderUserId parsed).toOption.map (·.1) =
      ((parsed.getLast?.bind (·.find? (Str.startsWith · "From: ".toList))).bind x.capture).map
        x.idOf := by
  have hlast : (parsed.map sectionSender).getLast?.join =
      (parsed.getLast?.bind (·.find? (Str.startsWith · "From: ".toList))).bind x.capture := by
    have hcapture : x.capture = fromHex := by
      funext line
      simp only [capture, hu]
    rw [List.getLast?_map, hcapture]
    cases parsed.getLast? <;> rfl
  unfold senderUserId
  simp only [hlast]
  cases (parsed.getLast?.bind (·.find? (Str.startsWith · "From: ".toList))).bind x.capture with
  | none => rfl
  | some hex => simp [idOf, hu, Except.toOption]

end Blocks

theorem extract_userId : (x.extract promptText).map (·.userId) =
    ((x.decidingLine promptText).bind x.capture).map x.idOf := by
  unfold extract tryExtract extractLines decidingLine
  cases hlines : (Str.lines promptText.toList).dropWhile (!isHeader ·) with
  | nil => rfl
  | cons header body =>
    simp only
    generalize (blockSections header body).1 = parsed
    generalize (blockSections header body).2 = diagnostics
    by_cases hempty : parsed = []
    · rw [hempty]
      cases x.hostUnit <;> rfl
    · rw [if_neg (by simpa using hempty)]
      cases hu : x.hostUnit with
      | channel =>
        simp only
        rw [← channelUserId_toOption x hu]
        cases x.channelUserId parsed <;> rfl
      | sender =>
        simp only
        rw [← senderUserId_toOption x hu]
        cases x.senderUserId parsed <;> rfl

theorem exists_header_of_decidingLine {line : Str} (h : x.decidingLine promptText = some line) :
    ∃ header ∈ Str.lines promptText.toList, IsMultiHeader header ∨ IsSingleHeader header := by
  unfold decidingLine at h
  cases hlines : (Str.lines promptText.toList).dropWhile (!isHeader ·) with
  | nil => simp [hlines] at h
  | cons header body =>
    have hmem : header ∈ (Str.lines promptText.toList).dropWhile (!isHeader ·) := by simp [hlines]
    have hstop := List.head?_dropWhile_not (p := (!isHeader ·)) (l := Str.lines promptText.toList)
    simp only [hlines, List.head?_cons] at hstop
    exact ⟨header, (List.dropWhile_sublist _).subset hmem, isHeader_iff.mp (by simpa using hstop)⟩

/-- An id that rests on a header and on one whole line of the documented form. -/
def Grounded (userId : String) : Prop :=
  (∃ header ∈ Str.lines promptText.toList, IsMultiHeader header ∨ IsSingleHeader header) ∧
    match x.hostUnit with
    | .channel => ∃ name uuid, UuidShape uuid ∧
        x.decidingLine promptText = some (channelLine name uuid) ∧
        userId = x.idPrefix ++ ":channel:" ++ String.ofList uuid
    | .sender => ∃ sender hex, KeyShape hex ∧
        x.decidingLine promptText = some (fromLine sender hex) ∧
        userId = x.idPrefix ++ ":pubkey:" ++ String.ofList hex

/-- Where a line ends in a marker and a capture, what stands before the marker is what the
documented form has there. -/
def Anchored (line : Str) : Prop :=
  match x.hostUnit with
  | .channel => ∀ before uuid, UuidShape uuid →
      line = "Channel: ".toList ++ (before ++ "(#".toList ++ uuid ++ ")".toList) →
        ∃ name, before = name ++ " ".toList
  | .sender => ∀ before hex, KeyShape hex →
      line = "From: ".toList ++ (before ++ "hex: ".toList ++ hex ++ ")".toList) →
        ∃ sender : Sender, before = sender.opening

theorem exists_extract {line captured : Str} (hline : x.decidingLine promptText = some line)
    (hcapture : x.capture line = some captured) :
    ∃ identity, x.extract promptText = some identity ∧ identity.userId = x.idOf captured := by
  have hid := x.extract_userId promptText
  rw [hline, Option.bind_some, hcapture, Option.map_some] at hid
  exact Option.map_eq_some_iff.mp hid

theorem exists_capture {identity : ExtractedIdentity} (h : x.extract promptText = some identity) :
    ∃ line captured, x.decidingLine promptText = some line ∧ x.capture line = some captured ∧
      identity.userId = x.idOf captured := by
  have hid := x.extract_userId promptText
  rw [h, Option.map_some] at hid
  obtain ⟨captured, hbind, hof⟩ := Option.map_eq_some_iff.mp hid.symm
  obtain ⟨line, hline, hcapture⟩ := Option.bind_eq_some_iff.mp hbind
  exact ⟨line, captured, hline, hcapture, hof.symm⟩

theorem anchored_of_capture_none {line : Str} (h : x.capture line = none) : x.Anchored line := by
  unfold Anchored
  unfold capture at h
  cases hu : x.hostUnit with
  | channel =>
    intro before uuid hshape hform
    have hcapture := channelUuid_eq_some.mpr ⟨hshape, before, hform⟩
    simp [hu, hcapture] at h
  | sender =>
    intro before hex hshape hform
    have hcapture := fromHex_eq_some.mpr ⟨hshape, before, hform⟩
    simp [hu, hcapture] at h

/-- The id made of the deciding line is grounded exactly when that line is an identity line. -/
theorem grounded_iff_anchored {line captured : Str} (hline : x.decidingLine promptText = some line)
    (hcapture : x.capture line = some captured) :
    x.Grounded promptText (x.idOf captured) ↔ x.Anchored line := by
  unfold Grounded Anchored
  rw [and_iff_right (x.exists_header_of_decidingLine promptText hline), hline]
  cases hu : x.hostUnit with
  | channel =>
    simp only [hu, capture] at hcapture ⊢
    constructor
    · rintro ⟨name, uuid', hshape', hline', _⟩ before uuid hshape hform
      rw [hform] at hline'
      exact ⟨name, ((channelLine_iff hshape hshape').mp (Option.some.inj hline')).1⟩
    · intro hanchor
      obtain ⟨hshape, before, hform⟩ := channelUuid_eq_some.mp hcapture
      obtain ⟨name, hname⟩ := hanchor before captured hshape hform
      refine ⟨name, captured, hshape, ?_, by rw [idOf, hu]⟩
      rw [hform, (channelLine_iff hshape hshape).mpr ⟨hname, rfl⟩]
  | sender =>
    simp only [hu, capture] at hcapture ⊢
    constructor
    · rintro ⟨sender, hex', hshape', hline', _⟩ before hex hshape hform
      rw [hform] at hline'
      exact ⟨sender, ((fromLine_iff hshape hshape').mp (Option.some.inj hline')).1⟩
    · intro hanchor
      obtain ⟨hshape, before, hform⟩ := fromHex_eq_some.mp hcapture
      obtain ⟨sender, hopening⟩ := hanchor before captured hshape hform
      refine ⟨sender, captured, hshape, ?_, by rw [idOf, hu]⟩
      rw [hform, (fromLine_iff hshape hshape).mpr ⟨hopening, rfl⟩]

/-- Every id of a prompt is grounded exactly when its deciding line, if it ends like an
identity line, is one. -/
theorem extract_grounded_iff :
    (∀ identity, x.extract promptText = some identity → x.Grounded promptText identity.userId) ↔
      ∀ line, x.decidingLine promptText = some line → x.Anchored line := by
  constructor
  · intro h line hline
    cases hcapture : x.capture line with
    | none => exact x.anchored_of_capture_none hcapture
    | some captured =>
      obtain ⟨identity, hx, hid⟩ := x.exists_extract promptText hline hcapture
      have hground := h identity hx
      rw [hid] at hground
      exact (x.grounded_iff_anchored promptText hline hcapture).mp hground
  · intro h identity hx
    obtain ⟨line, captured, hline, hcapture, hid⟩ := x.exists_capture promptText hx
    rw [hid]
    exact (x.grounded_iff_anchored promptText hline hcapture).mpr (h line hline)

/-- No space in front of the marker: the line is not of the documented form, its uuid is
taken all the same. -/
theorem extract_not_grounded :
    (⟨.channel, "buzz"⟩ : BuzzPromptExtractor).extract
        "[Buzz event: mention]\nChannel: general(#0a1b2c3d-4e5f-6071-8293-a4b5c6d7e8f9)" =
      some ⟨"buzz:channel:0a1b2c3d-4e5f-6071-8293-a4b5c6d7e8f9", []⟩ ∧
    ¬ (⟨.channel, "buzz"⟩ : BuzzPromptExtractor).Grounded
        "[Buzz event: mention]\nChannel: general(#0a1b2c3d-4e5f-6071-8293-a4b5c6d7e8f9)"
        "buzz:channel:0a1b2c3d-4e5f-6071-8293-a4b5c6d7e8f9" := by
  have hline : (⟨.channel, "buzz"⟩ : BuzzPromptExtractor).decidingLine
      "[Buzz event: mention]\nChannel: general(#0a1b2c3d-4e5f-6071-8293-a4b5c6d7e8f9)" =
    some ("Channel: ".toList ++ ("general".toList ++ "(#".toList ++
      "0a1b2c3d-4e5f-6071-8293-a4b5c6d7e8f9".toList ++ ")".toList)) := by decide
  refine ⟨by decide, ?_⟩
  intro h
  obtain ⟨_, name, uuid, hshape, hform, _⟩ := h
  rw [hline] at hform
  have hname := ((channelLine_iff (by decide) hshape).mp (Option.some.inj hform)).1
  have hlast := congrArg List.getLast? hname
  simp at hlast

end BuzzPromptExtractor
end AcpBridge
