import AcpBridge.Buzz

/-! The documented rendering of a Buzz events block, stated without the scanner, and the
agreement of the scanner's line tests with it. -/
namespace AcpBridge

/-- `[Buzz events — N events]` with a count that fits `usize`, up to surrounding space. -/
def IsMultiHeader (line : Str) : Prop := ∃ count declared, Str.parseUsize count = some declared ∧
  (line.trim = "[Buzz events — ".toList ++ (count ++ " events".toList) ++ "]".toList ∨
    line.trim = "[Buzz events — ".toList ++ (count ++ " event".toList) ++ "]".toList)

/-- `[Buzz event: <tag>]`, up to surrounding space. -/
def IsSingleHeader (line : Str) : Prop :=
  ∃ tag, line.trim = "[Buzz event: ".toList ++ tag ++ "]".toList

/-- `--- Event <n> (<tag>) ---`, up to surrounding space. -/
def IsSeparator (line : Str) : Prop := ∃ number tag, number ≠ [] ∧ number.all Char.isDigit = true ∧
  line.trim = "--- Event ".toList ++ (number ++ " (".toList ++ tag) ++ ") ---".toList

/-- Lower-case hex with dashes at 8, 13, 18 and 23. -/
def UuidShape (uuid : Str) : Prop := uuid.length = 36 ∧ ∀ p ∈ uuid.zipIdx,
  if p.2 ∈ [8, 13, 18, 23] then p.1 = '-' else p.1 ∈ "0123456789abcdef".toList

/-- 64 lower-case hex digits. -/
def KeyShape (hex : Str) : Prop := hex.length = 64 ∧ ∀ c ∈ hex, c ∈ "0123456789abcdef".toList

instance (uuid : Str) : Decidable (UuidShape uuid) := inferInstanceAs (Decidable (_ ∧ _))
instance (hex : Str) : Decidable (KeyShape hex) := inferInstanceAs (Decidable (_ ∧ _))

/-- A sender is shown with a label, or by its npub alone. -/
inductive Sender
  | labelled (label npub : Str)
  | bare (npub : Str)

/-- What stands between `From: ` and `hex: `. -/
def Sender.opening : Sender → Str
  | labelled label npub => label ++ " (npub: ".toList ++ npub ++ ", ".toList
  | bare npub => npub ++ " (".toList

/-- `Channel: <name> (#<uuid>)` -/
def channelLine (name uuid : Str) : Str :=
  "Channel: ".toList ++ (name ++ " ".toList ++ "(#".toList ++ uuid ++ ")".toList)

/-- `From: <label> (npub: <npub>, hex: <hex>)` or `From: <npub> (hex: <hex>)` -/
def fromLine (sender : Sender) (hex : Str) : Str :=
  "From: ".toList ++ (sender.opening ++ "hex: ".toList ++ hex ++ ")".toList)

/-- A line that is neither a separator nor one of the two lines that carry an identity. -/
def IsMetadata (line : Str) : Prop := ¬ IsSeparator line ∧
  line.startsWith "Channel: ".toList = false ∧ line.startsWith "From: ".toList = false

/-- One event of a block. The metadata stands around the two identity lines, the content
behind them; the content is under the control of the message's author. -/
structure BuzzEvent where
  name : Str
  uuid : Str
  sender : Sender
  hex : Str
  fromFirst : Bool := false
  before : List Str := []
  between : List Str := []
  after : List Str := []
  content : List Str
  uuid_shape : UuidShape uuid
  hex_shape : KeyShape hex
  metadata : ∀ l ∈ before ++ between ++ after, IsMetadata l
  content_plain : ∀ l ∈ content, ¬ IsSeparator l

namespace BuzzEvent

def lines (e : BuzzEvent) : List Str :=
  let channel := channelLine e.name e.uuid
  let sender := fromLine e.sender e.hex
  let (first, second) := if e.fromFirst then (sender, channel) else (channel, sender)
  e.before ++ first :: (e.between ++ second :: (e.after ++ e.content))

end BuzzEvent

/-- The two documented forms of a block, line by line. -/
inductive Renders : List Str → List BuzzEvent → Prop
  | single {header : Str} (h : IsSingleHeader header) (event : BuzzEvent) :
    Renders (header :: event.lines) [event]
  | multi {header : Str} (h : IsMultiHeader header) {gap : List Str}
      (hgap : ∀ l ∈ gap, ¬ IsSeparator l) {sections : List (Str × BuzzEvent)}
      (hsep : ∀ s ∈ sections, IsSeparator s.1) :
    Renders (header :: (gap ++ sections.flatMap fun s => s.1 :: s.2.lines)) (sections.map (·.2))

section Lines
variable {line : Str}

private theorem stripSuffix_events (count : Str) :
    Str.stripSuffix (count ++ " event".toList) " events".toList = none := by
  by_contra hne
  obtain ⟨t, ht⟩ := Option.ne_none_iff_exists'.mp hne
  have hlast := congrArg List.getLast? (Str.stripSuffix_eq_some.mp ht)
  simp at hlast

theorem parseMultiHeader_isSome_iff :
    (parseMultiHeader line).isSome = true ↔ IsMultiHeader line := by
  simp only [parseMultiHeader, Option.isSome_iff_exists, Option.bind_eq_bind,
    Option.bind_eq_some_iff, Str.stripPrefix_eq_some, IsMultiHeader]
  constructor
  · rintro ⟨n, rest, ht, rest', hr, count, hc, hn⟩
    refine ⟨count, n, hn, ?_⟩
    obtain rfl := Str.stripSuffix_eq_some.mp hr
    rw [ht, ← List.append_assoc]
    rcases Option.or_eq_some_iff.mp hc with h | ⟨_, h⟩
    · exact .inl (by rw [Str.stripSuffix_eq_some.mp h])
    · exact .inr (by rw [Str.stripSuffix_eq_some.mp h])
  · rintro ⟨count, n, hn, ht | ht⟩ <;> rw [List.append_assoc] at ht <;>
      refine ⟨n, _, ht, _, Str.stripSuffix_append, count, ?_, hn⟩
    · rw [Str.stripSuffix_append, Option.some_or]
    · rw [stripSuffix_events, Str.stripSuffix_append, Option.none_or]

theorem isSingleHeader_iff : isSingleHeader line = true ↔ IsSingleHeader line := by
  simp only [isSingleHeader, Bool.and_eq_true, Str.startsWith_iff, Str.endsWith_iff, IsSingleHeader]
  constructor
  · rintro ⟨⟨t, ht⟩, u, hu⟩
    -- the closing bracket is not part of the opening text
    have ht0 : t ≠ [] := by
      rintro rfl
      have hlast := congrArg List.getLast? (ht.symm.trans hu)
      simp at hlast
    obtain ⟨tag, c, rfl⟩ := (List.eq_nil_or_concat t).resolve_left ht0
    rw [List.concat_eq_append, ← List.append_assoc] at ht
    obtain ⟨_, hc⟩ := List.append_inj' (ht.symm.trans hu) rfl
    exact ⟨tag, by rw [ht, hc]⟩
  · rintro ⟨tag, ht⟩
    exact ⟨⟨tag ++ "]".toList, by rw [ht, List.append_assoc]⟩, _, ht⟩

theorem isSectionSeparator_iff : isSectionSeparator line = true ↔ IsSeparator line := by
  constructor
  · intro h
    unfold isSectionSeparator at h
    cases hp : line.trim.stripPrefix "--- Event ".toList with
    | none => simp only [hp, Bool.false_eq_true] at h
    | some rest =>
      cases hs : rest.stripSuffix ") ---".toList with
      | none => simp only [hp, hs, Bool.false_eq_true] at h
      | some rest' =>
        cases ho : rest'.splitOnce " (".toList with
        | none => simp only [hp, hs, ho, Bool.false_eq_true] at h
        | some p =>
          obtain ⟨number, tag⟩ := p
          simp only [hp, hs, ho, Bool.and_eq_true, Bool.not_eq_true',
            List.isEmpty_eq_false_iff] at h
          refine ⟨number, tag, h.1, h.2, ?_⟩
          rw [Str.stripPrefix_eq_some.mp hp, Str.stripSuffix_eq_some.mp hs,
            (Str.splitOnce_eq_some.mp ho).1, ← List.append_assoc]
  · rintro ⟨number, tag, hne, hd, ht⟩
    have hspace : ' ' ∉ number := fun hm => absurd (List.all_eq_true.mp hd _ hm) (by decide)
    have hsplit : Str.splitOnce (number ++ " (".toList ++ tag) " (".toList = some (number, tag) :=
      Str.splitOnce_append hspace
    rw [List.append_assoc] at ht
    simp only [isSectionSeparator, ht, Str.stripPrefix_append, Str.stripSuffix_append, hsplit, hd,
      List.isEmpty_eq_false_iff.mpr hne, Bool.not_false, Bool.and_self]

instance : Decidable (IsMultiHeader line) := decidable_of_iff _ parseMultiHeader_isSome_iff
instance : Decidable (IsSingleHeader line) := decidable_of_iff _ isSingleHeader_iff
instance : Decidable (IsSeparator line) := decidable_of_iff _ isSectionSeparator_iff
instance : Decidable (IsMetadata line) := inferInstanceAs (Decidable (_ ∧ _))

end Lines

section Captures

private theorem bytes_hex {s : Str} (h : ∀ c ∈ s, c ∈ "-0123456789abcdef".toList) :
    s.bytes = s.map (·.val.toUInt8) := by
  have hall : "-0123456789abcdef".toList.all (fun c => decide (c.val < 128)) = true := by decide
  exact Str.bytes_of_ascii fun c hc => of_decide_eq_true (List.all_eq_true.mp hall c (h c hc))

private theorem hex_byte : ∀ c ∈ "0123456789abcdef".toList,
    isLowerHexByte c.val.toUInt8 = true ∧ c ∈ "-0123456789abcdef".toList ∧ c ≠ '(' ∧ c ≠ 'h' := by
  have hall : "0123456789abcdef".toList.all (fun c => decide (isLowerHexByte c.val.toUInt8 = true ∧
      c ∈ "-0123456789abcdef".toList ∧ c ≠ '(' ∧ c ≠ 'h')) = true := by decide
  exact fun c hc => of_decide_eq_true (List.all_eq_true.mp hall c hc)

theorem UuidShape.ascii {uuid : Str} (h : UuidShape uuid) :
    ∀ c ∈ uuid, c ∈ "-0123456789abcdef".toList ∧ c ≠ '(' := by
  intro c hc
  obtain ⟨i, hi, rfl⟩ := List.getElem_of_mem hc
  have hp := h.2 (uuid[i], i) (List.mem_zipIdx_iff_getElem?.mpr (List.getElem?_eq_getElem hi))
  simp only at hp
  split_ifs at hp with hd
  · rw [hp]; decide
  · exact ⟨(hex_byte _ hp).2.1, (hex_byte _ hp).2.2.1⟩

theorem isUuid_of_shape {uuid : Str} (h : UuidShape uuid) : isUuid uuid = true := by
  have hb := bytes_hex fun c hc => (h.ascii c hc).1
  simp only [isUuid, hb, List.length_map, h.1, BEq.rfl, Bool.true_and, List.all_eq_true]
  rintro ⟨b, i⟩ hm
  obtain ⟨c, hc, rfl⟩ : ∃ c, (c, i) ∈ uuid.zipIdx ∧ c.val.toUInt8 = b := by
    simpa [List.zipIdx_map] using hm
  have hp := h.2 (c, i) hc
  simp only at hp ⊢
  split_ifs at hp ⊢ with hd
  · rw [hp]; decide
  · exact (hex_byte c hp).1

theorem isHex64_of_shape {hex : Str} (h : KeyShape hex) : isHex64 hex = true := by
  have hb := bytes_hex fun c hc => (hex_byte c (h.2 c hc)).2.1
  have hlen : hex.len = 64 := by rw [Str.len, hb, List.length_map, h.1]
  simp only [isHex64, hlen, hb, BEq.rfl, Bool.true_and, List.all_map, List.all_eq_true]
  exact fun c hc => (hex_byte c (h.2 c hc)).1

/-- The last `(#` is the documented one, whatever the channel is called. -/
theorem channelUuid_channelLine {name uuid : Str} (h : UuidShape uuid) :
    channelUuid (channelLine name uuid) = some uuid := by
  have hp : '(' ∉ uuid := fun hc => (h.ascii '(' hc).2 rfl
  have hlast : Str.rsplitOnce (name ++ " ".toList ++ "(#".toList ++ uuid) "(#".toList =
      some (name ++ " ".toList, uuid) := Str.rsplitOnce_append (by decide) hp
  unfold channelLine
  rw [channelUuid, Str.stripPrefix_append, Option.bind_eq_bind, Option.bind_some,
    Str.stripSuffix_append, Option.bind_eq_bind, Option.bind_some, hlast]
  exact if_pos (isUuid_of_shape h)

/-- The last `hex: ` is the documented one, whatever the sender is called. -/
theorem fromHex_fromLine {sender : Sender} {hex : Str} (h : KeyShape hex) :
    fromHex (fromLine sender hex) = some hex := by
  have hh : 'h' ∉ hex := fun hc => (hex_byte 'h' (h.2 'h' hc)).2.2.2 rfl
  have hlast : Str.rsplitOnce (sender.opening ++ "hex: ".toList ++ hex) "hex: ".toList =
      some (sender.opening, hex) := Str.rsplitOnce_append (by decide) hh
  unfold fromLine
  rw [fromHex, Str.stripPrefix_append, Option.bind_eq_bind, Option.bind_some,
    Str.stripSuffix_append, Option.bind_eq_bind, Option.bind_some, hlast]
  exact if_pos (isHex64_of_shape h)

end Captures
end AcpBridge
