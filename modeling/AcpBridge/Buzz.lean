import Mathlib.Data.List.Dedup
import AcpBridge.Config

/-! Identity extraction from the events block that Buzz renders into a prompt. -/
namespace AcpBridge

structure ExtractedIdentity where
  userId : String
  diagnostics : List String := []
deriving DecidableEq

/-- `[Buzz events — N events]`: the declared count. -/
def parseMultiHeader (line : Str) : Option Usize := do
  let rest ← line.trim.stripPrefix "[Buzz events — ".toList
  let rest ← rest.stripSuffix "]".toList
  let count ← (rest.stripSuffix " events".toList).or (rest.stripSuffix " event".toList)
  count.parseUsize

/-- `[Buzz event: <tag>]` -/
def isSingleHeader (line : Str) : Bool :=
  line.trim.startsWith "[Buzz event: ".toList && line.trim.endsWith "]".toList

/-- `--- Event <n> (<tag>) ---` -/
def isSectionSeparator (line : Str) : Bool :=
  match line.trim.stripPrefix "--- Event ".toList with
  | none => false
  | some rest =>
    match rest.stripSuffix ") ---".toList with
    | none => false
    | some rest =>
      match rest.splitOnce " (".toList with
      | none => false
      | some (number, _) => !number.isEmpty && number.all Char.isDigit

/-- ASCII code of a digit or of a letter from `a` to `f`. -/
def isLowerHexByte (b : UInt8) : Bool := (0x30 ≤ b && b ≤ 0x39) || (0x61 ≤ b && b ≤ 0x66)

/-- 36 bytes, dashes at 8, 13, 18 and 23, lower-case hex elsewhere. -/
def isUuid (candidate : Str) : Bool :=
  candidate.bytes.length == 36 && candidate.bytes.zipIdx.all fun (b, i) =>
    if i ∈ [8, 13, 18, 23] then b == 0x2d else isLowerHexByte b

def isHex64 (candidate : Str) : Bool :=
  candidate.len == 64 && candidate.bytes.all isLowerHexByte

/-- `Channel: <name> (#<uuid>)`: whatever follows the last `(#`, if it is a uuid. -/
def channelUuid (line : Str) : Option Str := do
  let rest ← line.stripPrefix "Channel: ".toList
  let rest ← rest.stripSuffix ")".toList
  let (_, candidate) ← rest.rsplitOnce "(#".toList
  if isUuid candidate then some candidate else none

/-- `From: … hex: <64-hex>)`: whatever follows the last `hex: `, if it is a key. -/
def fromHex (line : Str) : Option Str := do
  let rest ← line.stripPrefix "From: ".toList
  let rest ← rest.stripSuffix ")".toList
  let (_, candidate) ← rest.rsplitOnce "hex: ".toList
  if isHex64 candidate then some candidate else none

def isHeader (line : Str) : Bool := (parseMultiHeader line).isSome || isSingleHeader line

/-- Positions of the separators, closed by the end of the body. -/
def sectionBounds (body : List Str) : List ℕ :=
  (body.zipIdx.filterMap fun e => if isSectionSeparator e.1 then some e.2 else none) ++
    [body.length]

/-- The slice between each bound and the next, without the separator itself. -/
def sections (body : List Str) : List (List Str) :=
  let bounds := sectionBounds body
  (bounds.zip bounds.tail).map fun pair => (body.take pair.2).drop (pair.1 + 1)

structure BuzzPromptExtractor where
  hostUnit : HostUnit
  idPrefix : String

namespace BuzzPromptExtractor
variable (x : BuzzPromptExtractor)

/-- Sections of the block whose header is given, with the count diagnostics. -/
def blockSections (header : Str) (body : List Str) : List (List Str) × List String :=
  match parseMultiHeader header with
  | none => ([body], [])
  | some declared =>
    let parsed := sections body
    (parsed, if parsed.length = declared.val then [] else
      ["Buzz header declares " ++ toString declared.val ++ " events but " ++
        toString parsed.length ++ " sections were parsed; parsing anyway"])

/-- The first `Channel:` line of the block. -/
def channelUserId (parsed : List (List Str)) : Except String String :=
  match parsed.flatten.find? (Str.startsWith · "Channel: ".toList) with
  | none => .error "no `Channel:` line in Buzz events block"
  | some line =>
    match channelUuid line with
    | none => .error ("first `Channel:` line has no valid `(#<uuid>)` capture (" ++
        toString line.len ++ " bytes)")
    | some uuid => .ok (x.idPrefix ++ ":channel:" ++ String.ofList uuid)

/-- One sender a section: its first `From:` line. -/
def sectionSender (lines : List Str) : Option Str :=
  (lines.find? (Str.startsWith · "From: ".toList)).bind fromHex

/-- The sender of the last section, with the ambiguity diagnostic. -/
def senderUserId (parsed : List (List Str)) : Except String (String × List String) :=
  let senders := parsed.map sectionSender
  match senders.getLast?.join with
  | none => .error "last event section has no valid `From: … hex: <64-hex>` line"
  | some last =>
    let distinct := senders.reduceOption.dedup
    .ok (x.idPrefix ++ ":pubkey:" ++ String.ofList last, if distinct.length > 1 then
      ["Buzz batch contains " ++ toString distinct.length ++
        " distinct senders; attributing the turn to the last event's sender (spec §5.3)"] else [])

def extractLines (lines : List Str) : Except String ExtractedIdentity :=
  match lines.dropWhile (!isHeader ·) with
  | [] => .error "no [Buzz events — N events] / [Buzz event: <tag>] block in prompt"
  | header :: body =>
    let (parsed, diagnostics) := blockSections header body
    if parsed.isEmpty then .error "Buzz events block contains no event sections"
    else
      match x.hostUnit with
      | .channel => (x.channelUserId parsed).map fun userId => ⟨userId, diagnostics⟩
      | .sender => (x.senderUserId parsed).map fun (userId, ds) => ⟨userId, diagnostics ++ ds⟩

def tryExtract (promptText : String) : Except String ExtractedIdentity :=
  x.extractLines (Str.lines promptText.toList)

/-- Extraction fails soft. -/
def extract (promptText : String) : Option ExtractedIdentity := (x.tryExtract promptText).toOption

end BuzzPromptExtractor

/-- The configured extractor, if any. -/
def hostExtractorFrom (identity : Identity) : Option BuzzPromptExtractor :=
  match identity.host with
  | .none => none
  | .buzz => some ⟨identity.hostUnit, identity.idPrefix⟩

end AcpBridge
