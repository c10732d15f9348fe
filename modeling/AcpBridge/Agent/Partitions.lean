import AcpBridge.Buzz.Capture
import AcpBridge.Startup

/-! Memory partitions of the turns of one profile: which user ids can coincide when neither the
flag nor the profile pins one. -/
namespace AcpBridge

/-- What the extractor of the profile captures from a prompt. -/
def Profile.captured (p : Profile) (promptText : String) : Option Str :=
  (hostExtractorFrom p.identity).bind fun x => (x.decidingLine promptText).bind x.capture

/-- The extractor a profile configures when it names a host. -/
def Profile.extractor (p : Profile) : BuzzPromptExtractor :=
  ⟨p.identity.hostUnit, p.identity.idPrefix⟩

/-- User ids of turns coincide only where the captures do, or the sessions do. -/
structure Partitioned (p : Profile) (cli : Cli) : Prop where
  extracted : ∀ s₁ s₂ t₁ t₂ c₁ c₂, p.captured t₁ = some c₁ → p.captured t₂ = some c₂ →
    (p.bridgeState cli).userIdForTurn s₁ t₁ = (p.bridgeState cli).userIdForTurn s₂ t₂ → c₁ = c₂
  synthetic : ∀ s₁ s₂ t₁ t₂, p.captured t₁ = none → p.captured t₂ = none →
    (p.bridgeState cli).userIdForTurn s₁ t₁ = (p.bridgeState cli).userIdForTurn s₂ t₂ → s₁ = s₂
  apart : ∀ s₁ s₂ t₁ t₂ c, p.captured t₁ = some c → p.captured t₂ = none →
    (p.bridgeState cli).userIdForTurn s₁ t₁ ≠ (p.bridgeState cli).userIdForTurn s₂ t₂

namespace BuzzPromptExtractor

theorem idOf_eq (x : BuzzPromptExtractor) (captured : Str) : ∃ tag : Str,
    (x.idOf captured).toList = x.idPrefix.toList ++ ':' :: (tag ++ captured) := by
  unfold idOf
  cases x.hostUnit with
  | channel => exact ⟨"channel:".toList, by simp⟩
  | sender => exact ⟨"pubkey:".toList, by simp⟩

/-- `<prefix>:…` can only read `acp:…` when the prefix does. -/
private theorem acp_of_append {pre rest s : Str} (h : pre ++ ':' :: rest = "acp:".toList ++ s) :
    pre = "acp".toList ∨ "acp:".toList <+: pre := by
  rcases pre with _ | ⟨a, _ | ⟨b, _ | ⟨c, _ | ⟨d, pre⟩⟩⟩⟩
  · simp at h
  · simp at h
  · simp at h
  · left
    simp at h
    simp [h]
  · right
    simp at h
    simp [h]

/-- An extracted id is the synthetic id of some session exactly when its prefix reads so. -/
theorem idOf_synthetic_iff (x : BuzzPromptExtractor) (c : Str) : (∃ s, x.idOf c = "acp:" ++ s) ↔
    x.idPrefix = "acp" ∨ "acp:".toList <+: x.idPrefix.toList := by
  obtain ⟨tag, htag⟩ := x.idOf_eq c
  constructor
  · rintro ⟨s, hs⟩
    rw [hs, String.toList_append] at htag
    exact (acp_of_append htag.symm).imp_left String.toList_inj.mp
  · intro h
    obtain ⟨s, hs⟩ : ∃ s, (x.idOf c).toList = "acp:".toList ++ s := by
      rcases h with heq | ⟨r, hr⟩
      · exact ⟨tag ++ c, by rw [htag, heq]; rfl⟩
      · exact ⟨r ++ ':' :: (tag ++ c), by rw [htag, ← hr, List.append_assoc]⟩
    refine ⟨String.ofList s, ?_⟩
    rw [← String.toList_inj, hs]
    simp

theorem idOf_ne_empty (x : BuzzPromptExtractor) (c : Str) : x.idOf c ≠ "" := by
  intro h
  obtain ⟨tag, htag⟩ := x.idOf_eq c
  rw [h] at htag
  simp at htag

end BuzzPromptExtractor

section Turns
variable {p : Profile} {cli : Cli}

theorem userIdForTurn_eq (hflag : cli.userId.filter (· ≠ "") = none)
    (hdefault : p.identity.defaultUserId.filter (· ≠ "") = none) (s t : String) :
    (p.bridgeState cli).userIdForTurn s t = ((p.captured t).map p.extractor.idOf).getD
      ("acp:" ++ s) := by
  have hset : cli.userId.any (· ≠ "") = false := by
    cases hc : cli.userId with
    | none => rfl
    | some userId => simpa [hc, Option.filter_some] using hflag
  have hextract : (((hostExtractorFrom p.identity).bind (·.extract t)).map (·.userId)) =
      (p.captured t).map p.extractor.idOf := by
    unfold Profile.captured Profile.extractor hostExtractorFrom
    cases p.identity.host with
    | none => rfl
    | buzz => exact BuzzPromptExtractor.extract_userId _ t
  have hfilter : ((p.captured t).map p.extractor.idOf).filter (· ≠ "") =
      (p.captured t).map p.extractor.idOf := by
    cases p.captured t with
    | none => rfl
    | some c => simp [Option.filter_some, BuzzPromptExtractor.idOf_ne_empty]
  simp only [BridgeState.userIdForTurn, Profile.bridgeState, hset, Bool.false_eq_true, if_false,
    hextract, resolveUserId, hflag, hdefault, hfilter]
  cases p.captured t <;> rfl

/-- A prompt with both identity lines, whichever unit the profile asks for. -/
def groundedPrompt : String :=
  "[Buzz event: mention]\nChannel: general (#0a1b2c3d-4e5f-6071-8293-a4b5c6d7e8f9)\n" ++
    "From: npub1 (hex: aaaaaaaaaaaaaaaaaaaaaaaaaaaaaaaaaaaaaaaaaaaaaaaaaaaaaaaaaaaaaaaa)"

theorem captured_eq (hhost : p.identity.host = .buzz) (t : String) : p.captured t =
    ((BuzzPromptExtractor.mk p.identity.hostUnit "").decidingLine t).bind
      (BuzzPromptExtractor.mk p.identity.hostUnit "").capture := by
  unfold Profile.captured hostExtractorFrom BuzzPromptExtractor.decidingLine
    BuzzPromptExtractor.capture
  simp only [hhost, Option.bind_some]

theorem captured_channel (hhost : p.identity.host = .buzz)
    (hunit : p.identity.hostUnit = .channel) :
    p.captured groundedPrompt = some "0a1b2c3d-4e5f-6071-8293-a4b5c6d7e8f9".toList := by
  rw [captured_eq hhost, hunit]
  decide +kernel

theorem captured_sender (hhost : p.identity.host = .buzz) (hunit : p.identity.hostUnit = .sender) :
    p.captured groundedPrompt = some (List.replicate 64 'a') := by
  rw [captured_eq hhost, hunit]
  decide +kernel

theorem exists_captured (hhost : p.identity.host = .buzz) :
    ∃ c, p.captured groundedPrompt = some c := by
  cases hunit : p.identity.hostUnit with
  | channel => exact ⟨_, captured_channel hhost hunit⟩
  | sender => exact ⟨_, captured_sender hhost hunit⟩

theorem captured_empty : p.captured "" = none := by
  unfold Profile.captured hostExtractorFrom
  cases p.identity.host <;> rfl

/-- The partitions of a profile stay apart exactly when it extracts nothing or its prefix
cannot be read as the synthetic one. -/
theorem partitioned_iff (p : Profile) (cli : Cli) (hflag : cli.userId.filter (· ≠ "") = none)
    (hdefault : p.identity.defaultUserId.filter (· ≠ "") = none) :
    Partitioned p cli ↔ p.identity.host = .none ∨
      (p.identity.idPrefix ≠ "acp" ∧ ¬ "acp:".toList <+: p.identity.idPrefix.toList) := by
  have hid := @userIdForTurn_eq p cli hflag hdefault
  constructor
  · intro h
    cases hhost : p.identity.host with
    | none => exact .inl rfl
    | buzz =>
      right
      rw [← not_or]
      intro hbad
      obtain ⟨c, hc⟩ := exists_captured hhost
      -- the session whose synthetic id is the extracted one
      obtain ⟨s, hs⟩ := (p.extractor.idOf_synthetic_iff c).mpr hbad
      apply h.apart "" s groundedPrompt "" c hc captured_empty
      rw [hid, hid, hc, captured_empty, Option.map_some, Option.getD_some, hs]
      rfl
  · intro h
    constructor
    · intro s₁ s₂ t₁ t₂ c₁ c₂ h₁ h₂ heq
      rw [hid, hid, h₁, h₂] at heq
      exact p.extractor.idOf_injective heq
    · intro s₁ s₂ t₁ t₂ h₁ h₂ heq
      rw [hid, hid, h₁, h₂, ← String.toList_inj] at heq
      simpa [String.toList_inj] using heq
    · intro s₁ s₂ t₁ t₂ c h₁ h₂ heq
      rw [hid, hid, h₁, h₂, Option.map_some, Option.getD_some] at heq
      have hbad := (p.extractor.idOf_synthetic_iff c).mp ⟨s₂, heq⟩
      rcases h with hnone | hgood
      · simp [Profile.captured, hostExtractorFrom, hnone] at h₁
      · exact not_or.mpr hgood hbad

end Turns

theorem partitioned_buzz : Partitioned { identity := { host := .buzz } } {} :=
  (partitioned_iff _ _ rfl rfl).mpr (.inr ⟨by decide, by decide⟩)

/-- A profile whose prefix is the one of synthetic ids. -/
def acpProfile : Profile := { identity := { host := .buzz, idPrefix := "acp" } }

/-- A session named after a channel shares the memory of the channel. -/
theorem partitions_mix : ¬ Partitioned acpProfile {} ∧
    (acpProfile.bridgeState {}).userIdForTurn "sess_1" groundedPrompt =
      "acp:channel:0a1b2c3d-4e5f-6071-8293-a4b5c6d7e8f9" ∧
    (acpProfile.bridgeState {}).userIdForTurn "channel:0a1b2c3d-4e5f-6071-8293-a4b5c6d7e8f9" "" =
      "acp:channel:0a1b2c3d-4e5f-6071-8293-a4b5c6d7e8f9" := by
  have hextracted : (acpProfile.bridgeState {}).userIdForTurn "sess_1" groundedPrompt =
      "acp:channel:0a1b2c3d-4e5f-6071-8293-a4b5c6d7e8f9" := by
    rw [userIdForTurn_eq rfl rfl, captured_channel rfl rfl]
    decide
  have hsynthetic : (acpProfile.bridgeState {}).userIdForTurn
      "channel:0a1b2c3d-4e5f-6071-8293-a4b5c6d7e8f9" "" =
      "acp:channel:0a1b2c3d-4e5f-6071-8293-a4b5c6d7e8f9" := by
    rw [userIdForTurn_eq rfl rfl, captured_empty]
    decide
  refine ⟨fun h => ?_, hextracted, hsynthetic⟩
  exact h.apart _ _ _ _ _ (captured_channel rfl rfl) captured_empty
    (hextracted.trans hsynthetic.symm)

end AcpBridge
