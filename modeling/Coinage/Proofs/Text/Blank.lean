import Coinage.Text.Blank
import Mathlib.Data.List.DropRight
import Mathlib.Data.List.TakeWhile

/-!
# Laws of blanks

Stripping removes the blanks around a text and nothing else.  A text is firm if
it neither begins nor ends with a blank: firm texts are those that stripping
leaves alone, whatever blanks they are put between.
-/

namespace Coinage.Text

/-! ## Taking and dropping at a boundary -/

variable
    {accepts : Char → Bool}
    {front rest : List Char}

theorem dropWhile_of_head?
    (stops : ∀ character ∈ rest.head?, accepts character = false) :
    rest.dropWhile accepts = rest := by
  cases rest with
  | nil => rfl
  | cons first others =>
      rw [List.dropWhile_cons_of_neg]
      simp [stops first rfl]

/-- What is left begins where the condition first fails. -/
theorem head?_dropWhile
    {source : List Char} :
    ∀ character ∈ (source.dropWhile accepts).head?,
      accepts character = false := by
  intro character head
  have stops := List.head?_dropWhile_not accepts source
  rw [head] at stops
  exact stops

/-- What is left ends where the condition last fails. -/
theorem getLast?_rdropWhile
    {source : List Char} :
    ∀ character ∈ (source.rdropWhile accepts).getLast?,
      accepts character = false := by
  intro character last
  rw [List.rdropWhile, List.getLast?_reverse] at last
  exact head?_dropWhile character last

section Boundary

variable
    (taken : ∀ character ∈ front, accepts character = true)
    (stops : ∀ character ∈ rest.head?, accepts character = false)

include taken stops

/-- What is taken ends where the condition first fails. -/
theorem takeWhile_append_of_head? :
    (front ++ rest).takeWhile accepts = front := by
  have nothing : rest.takeWhile accepts = [] := by
    cases rest with
    | nil => rfl
    | cons first others =>
        rw [List.takeWhile_cons_of_neg]
        simp [stops first rfl]
  rw [List.takeWhile_append_of_pos taken, nothing, List.append_nil]

theorem dropWhile_append_of_head? :
    (front ++ rest).dropWhile accepts = rest := by
  rw [List.dropWhile_append_of_pos taken, dropWhile_of_head? stops]

end Boundary

/-! ## Stripping -/

/-- A text that neither begins nor ends with a blank. -/
structure IsFirm (source : List Char) : Prop where
  begins : ∀ character ∈ source.head?, isBlank character = false
  ends : ∀ character ∈ source.getLast?, isBlank character = false

theorem isFirm_of_forall
    {source : List Char}
    (solid : ∀ character ∈ source, isBlank character = false) :
    IsFirm source where
  begins character first := solid character (List.mem_of_mem_head? first)
  ends character last := solid character (List.mem_of_getLast? last)

theorem isFirm_strip (source : List Char) : IsFirm (strip source) where
  begins character first := by
    obtain ⟨dropped, front⟩ :=
      List.rdropWhile_prefix isBlank (l := source.dropWhile isBlank)
    have begins : character ∈ (source.dropWhile isBlank).head? := by
      rw [← front]
      exact List.mem_head?_append_of_mem_head? first
    exact head?_dropWhile character begins
  ends := getLast?_rdropWhile

/-- The blanks around a firm text are dropped, and nothing else. -/
theorem strip_append
    {before source after : List Char}
    (firm : IsFirm source)
    (blankBefore : ∀ character ∈ before, isBlank character = true)
    (blankAfter : ∀ character ∈ after, isBlank character = true) :
    strip (before ++ source ++ after) = source := by
  rw [strip, List.append_assoc, List.dropWhile_append_of_pos blankBefore]
  rcases source.eq_nil_or_concat with rfl | ⟨front, last, rfl⟩
  · rw [List.nil_append, List.dropWhile_eq_nil_iff.2 blankAfter]
    rfl
  · have begins :
        ∀ character ∈ (front.concat last ++ after).head?,
          isBlank character = false := by
      intro character first
      refine firm.begins character ?_
      simpa [List.head?_append] using first
    rw [dropWhile_of_head? begins, List.reverse_append,
      List.dropWhile_append_of_pos (by simpa using blankAfter),
      dropWhile_of_head? (by simpa using firm.ends), List.reverse_reverse]

theorem strip_of_isFirm
    {source : List Char}
    (firm : IsFirm source) :
    strip source = source := by
  have stripped :=
    strip_append firm (List.forall_mem_nil _) (List.forall_mem_nil _)
  rwa [List.nil_append, List.append_nil] at stripped

theorem strip_of_forall
    {source : List Char}
    (solid : ∀ character ∈ source, isBlank character = false) :
    strip source = source :=
  strip_of_isFirm (isFirm_of_forall solid)

/-- The blanks lie outside the visible characters of ASCII. -/
theorem isBlank_of_visible
    {character : Char}
    (low : 33 ≤ character.toNat)
    (high : character.toNat ≤ 126) :
    isBlank character = false := by
  simp only [isBlank, blankRuns, List.any_cons, List.any_nil,
    Bool.or_false, Bool.or_eq_false_iff, Bool.and_eq_false_iff,
    decide_eq_false_iff_not]
  omega

end Coinage.Text
