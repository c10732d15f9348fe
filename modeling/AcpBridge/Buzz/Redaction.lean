import Mathlib.Data.List.ReduceOption
import AcpBridge.Buzz.Log

/-! What an extraction reports depends on the form of the lines and on nothing they say. -/
namespace AcpBridge

/-- Two lines of one form and one length. The keys of the senders go together by `σ`. -/
structure LineTwin (σ : Str → Str) (line line' : Str) : Prop where
  len : line.len = line'.len
  multi : parseMultiHeader line = parseMultiHeader line'
  single : isSingleHeader line = isSingleHeader line'
  separator : isSectionSeparator line = isSectionSeparator line'
  channel : line.startsWith "Channel: ".toList = line'.startsWith "Channel: ".toList
  sender : line.startsWith "From: ".toList = line'.startsWith "From: ".toList
  uuid : (channelUuid line).isSome = (channelUuid line').isSome
  key : fromHex line' = (fromHex line).map σ

/-- Two prompts of one length whose lines go together. -/
def TextTwin (σ : Str → Str) (text text' : String) : Prop :=
  Str.len text.toList = Str.len text'.toList ∧
    List.Forall₂ (LineTwin σ) (Str.lines text.toList) (Str.lines text'.toList)

theorem LineTwin.isHeader {σ : Str → Str} {line line' : Str} (h : LineTwin σ line line') :
    isHeader line = isHeader line' := by
  simp only [AcpBridge.isHeader, h.multi, h.single]

namespace BuzzPromptExtractor
variable (x : BuzzPromptExtractor) {σ : Str → Str}

section Sections
variable {header header' : Str} {body body' : List Str} {parsed parsed' : List (List Str)}

theorem blockSections_twin (hh : LineTwin σ header header')
    (hb : List.Forall₂ (LineTwin σ) body body') :
    List.Forall₂ (List.Forall₂ (LineTwin σ)) (blockSections header body).1
        (blockSections header' body').1 ∧
      (blockSections header body).2 = (blockSections header' body').2 := by
  have hslices : List.Forall₂ (List.Forall₂ (LineTwin σ)) (sections body) (sections body') :=
    Split.slices_forall₂ body (fun _ _ h => h.separator) hb
  unfold blockSections
  rw [← hh.multi]
  cases parseMultiHeader header with
  | none => exact ⟨.cons hb .nil, rfl⟩
  | some declared =>
    refine ⟨hslices, ?_⟩
    simp only [hslices.length_eq]

theorem channelUserId_twin (h : List.Forall₂ (List.Forall₂ (LineTwin σ)) parsed parsed') :
    Alike (fun _ _ => True) (x.channelUserId parsed) (x.channelUserId parsed') := by
  have hfind := (List.rel_flatten h).find? (p := (Str.startsWith · "Channel: ".toList))
    (q := (Str.startsWith · "Channel: ".toList)) fun _ _ hl => hl.channel
  unfold channelUserId
  generalize parsed.flatten.find? (Str.startsWith · "Channel: ".toList) = found at hfind ⊢
  generalize parsed'.flatten.find? (Str.startsWith · "Channel: ".toList) = found' at hfind ⊢
  cases hfind with
  | none => exact .error _
  | @some line line' hl =>
    simp only
    have huuid := hl.uuid
    rw [hl.len]
    cases hu : channelUuid line with
    | none =>
      have hnone : channelUuid line' = none := by
        rw [← Option.not_isSome_iff_eq_none, ← huuid, hu]
        simp
      rw [hnone]
      exact .error _
    | some uuid =>
      obtain ⟨uuid', hu'⟩ := Option.isSome_iff_exists.mp (huuid.symm.trans (by rw [hu]; rfl))
      rw [hu']
      exact .ok trivial

theorem sectionSender_twin {lines lines' : List Str} (h : List.Forall₂ (LineTwin σ) lines lines') :
    sectionSender lines' = (sectionSender lines).map σ := by
  have hfind := h.find? (p := (Str.startsWith · "From: ".toList))
    (q := (Str.startsWith · "From: ".toList)) fun _ _ hl => hl.sender
  unfold sectionSender
  generalize lines.find? (Str.startsWith · "From: ".toList) = found at hfind ⊢
  generalize lines'.find? (Str.startsWith · "From: ".toList) = found' at hfind ⊢
  cases hfind with
  | none => rfl
  | some hl => exact hl.key

theorem senderUserId_twin (hσ : Function.Injective σ)
    (h : List.Forall₂ (List.Forall₂ (LineTwin σ)) parsed parsed') :
    Alike (fun r r' => r.2 = r'.2) (x.senderUserId parsed) (x.senderUserId parsed') := by
  have hsenders : parsed'.map sectionSender = (parsed.map sectionSender).map (Option.map σ) := by
    rw [List.map_map]
    induction h with
    | nil => rfl
    | cons hs _ ih =>
      rw [List.map_cons, List.map_cons, ih, sectionSender_twin hs]
      rfl
  unfold senderUserId
  rw [hsenders]
  generalize parsed.map sectionSender = senders
  have hlast : (senders.map (Option.map σ)).getLast?.join = senders.getLast?.join.map σ := by
    rw [List.getLast?_map]
    cases senders.getLast? with
    | none => rfl
    | some sender => cases sender <;> rfl
  have hcount : (senders.map (Option.map σ)).reduceOption.dedup.length =
      senders.reduceOption.dedup.length := by
    rw [List.reduceOption_map, List.dedup_map_of_injective hσ, List.length_map]
  simp only [hlast, hcount]
  cases senders.getLast?.join with
  | none => exact .error _
  | some last => exact .ok rfl

end Sections

/-- Prompts whose lines go together are extracted with the same report. -/
theorem tryExtract_twin (hσ : Function.Injective σ) {text text' : String}
    (h : TextTwin σ text text') :
    Alike (fun i i' => i.diagnostics = i'.diagnostics) (x.tryExtract text)
      (x.tryExtract text') := by
  have hblock := h.2.dropWhile (p := (!isHeader ·)) (q := (!isHeader ·)) fun _ _ hl => by
    rw [hl.isHeader]
  unfold tryExtract extractLines
  generalize (Str.lines text.toList).dropWhile (!isHeader ·) = block at hblock
  generalize (Str.lines text'.toList).dropWhile (!isHeader ·) = block' at hblock
  cases hblock with
  | nil => exact .error _
  | @cons header header' body body' hh hb =>
    obtain ⟨hparsed, hnotes⟩ := blockSections_twin hh hb
    simp only [hnotes]
    generalize (blockSections header body).1 = parsed at hparsed ⊢
    generalize (blockSections header' body').1 = parsed' at hparsed ⊢
    have hempty : parsed.isEmpty = parsed'.isEmpty := by
      cases hparsed <;> rfl
    rw [hempty]
    split_ifs
    · exact .error _
    · cases x.hostUnit with
      | channel => exact (x.channelUserId_twin hparsed).map fun _ _ _ => rfl
      | sender =>
        apply (x.senderUserId_twin hσ hparsed).map
        rintro ⟨userId, ds⟩ ⟨userId', ds'⟩ hds
        simp only at hds
        rw [hds]

end BuzzPromptExtractor
end AcpBridge
