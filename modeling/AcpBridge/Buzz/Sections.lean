import AcpBridge.Buzz.Format
import AcpBridge.Lib.Split

/-! Splitting the body of a multi-event block at its separator lines. -/
namespace AcpBridge

/-- A line that is not a separator, as the scanner tests it. -/
private abbrev plain (line : Str) : Bool := !isSectionSeparator line

theorem sectionBounds_eq_bounds (body : List Str) :
    sectionBounds body = Split.bounds isSectionSeparator body := rfl

theorem sections_eq_slices (body : List Str) :
    sections body = Split.slices isSectionSeparator body := rfl

theorem sections_append_plain {gap : List Str} (h : ∀ l ∈ gap, isSectionSeparator l = false)
    (body : List Str) : sections (gap ++ body) = sections body :=
  Split.slices_append_of_neg body h

theorem sections_blocks {blocks : List (Str × List Str)}
    (hsep : ∀ b ∈ blocks, isSectionSeparator b.1 = true)
    (hplain : ∀ b ∈ blocks, ∀ l ∈ b.2, isSectionSeparator l = false) :
    sections (blocks.flatMap fun b => b.1 :: b.2) = blocks.map (·.2) :=
  Split.slices_blocks hsep hplain

/-- Every body is split without loss: the bounds increase and every slice between two of them
is in range, each separator has one section, no section has a separator, and the lines in
front of the first separator followed by the separators and their sections are the body. -/
theorem sections_lossless (body : List Str) :
    (sectionBounds body).Pairwise (· < ·) ∧
      (∀ pair ∈ (sectionBounds body).zip (sectionBounds body).tail,
        pair.1 + 1 ≤ pair.2 ∧ pair.2 ≤ body.length) ∧
      (sections body).length = body.countP isSectionSeparator ∧
      (∀ lines ∈ sections body, ∀ line ∈ lines, isSectionSeparator line = false) ∧
      body.takeWhile plain ++
        (List.zipWith List.cons (body.filter isSectionSeparator) (sections body)).flatten =
          body := by
  simp only [sectionBounds_eq_bounds, sections_eq_slices]
  refine ⟨Split.bounds_pairwise body, ?_, Split.slices_length body, ?_, ?_⟩
  · intro pair hpair
    exact Split.slices_in_range body hpair
  · intro lines hlines line hline
    exact Split.slices_plain body hlines hline
  · exact Split.slices_rebuild body

end AcpBridge
