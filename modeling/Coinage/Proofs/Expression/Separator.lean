import Coinage.Proofs.Expression.Sequence

/-!
# Separators and runs

Blanks and commas are breaks.  A separator is a nonempty text of breaks with at
most one comma, so more breaks in front of the same text are a separator too,
until a second comma is reached.  What is dropped between two members is the
longest separator that stands there.

A run is a longest stretch of breaks in a text.  A text keeps its commas apart
if it neither begins nor ends with one and none of its runs has two.
-/

namespace Coinage.Expression

open Coinage.Text

/-! ## Separators -/

theorem isBreak_of_isBlank
    {character : Char}
    (blank : isBlank character = true) :
    isBreak character = true := by
  rw [isBreak, blank, Bool.true_or]

theorem isBreak_comma : isBreak ',' = true := by
  decide

theorem isBlank_of_isBreak
    {character : Char}
    (ends : isBreak character = true)
    (other : character ≠ ',') :
    isBlank character = true := by
  simpa [isBreak, other] using ends

theorem count_comma_of_blank
    {blanks : List Char}
    (blank : ∀ character ∈ blanks, isBlank character = true) :
    blanks.count ',' = 0 :=
  List.count_eq_zero_of_not_mem fun member =>
    absurd (blank ',' member) (by decide)

/-- A separator is known by its characters: they are breaks, at least one, with
at most one comma among them. -/
theorem isSeparator_iff
    {separator : List Char} :
    IsSeparator separator ↔
      separator ≠ [] ∧
        (∀ character ∈ separator, isBreak character = true) ∧
        separator.count ',' ≤ 1 := by
  constructor
  · rintro (⟨blankBefore, blankAfter⟩ | ⟨nonempty, blank⟩)
    · refine ⟨by simp, ?_, ?_⟩
      · intro character member
        rcases List.mem_append.1 member with before | later
        · exact isBreak_of_isBlank (blankBefore character before)
        · rcases List.mem_cons.1 later with rfl | after
          · exact isBreak_comma
          · exact isBreak_of_isBlank (blankAfter character after)
      · rw [List.count_append, List.count_cons_self,
          count_comma_of_blank blankBefore, count_comma_of_blank blankAfter]
    · refine ⟨nonempty,
        fun character member => isBreak_of_isBlank (blank character member), ?_⟩
      rw [count_comma_of_blank blank]
      exact Nat.zero_le 1
  · rintro ⟨nonempty, breaks, count⟩
    by_cases comma : ',' ∈ separator
    · obtain ⟨before, after, rfl⟩ := List.append_of_mem comma
      rw [List.count_append, List.count_cons_self] at count
      have noneBefore : ',' ∉ before :=
        List.count_eq_zero.1 (by omega)
      have noneAfter : ',' ∉ after :=
        List.count_eq_zero.1 (by omega)
      refine .comma ?_ ?_
      · intro character member
        exact isBlank_of_isBreak (breaks character (by simp [member]))
          fun same => noneBefore (same ▸ member)
      · intro character member
        exact isBlank_of_isBreak (breaks character (by simp [member]))
          fun same => noneAfter (same ▸ member)
    · exact .blanks nonempty fun character member =>
        isBlank_of_isBreak (breaks character member)
          fun same => comma (same ▸ member)

/-- A separator with a text behind it, in front of which no longer separator
stands. -/
structure IsLongest (separator following : List Char) : Prop where
  separates : IsSeparator separator
  longest :
    ∀ front,
      IsSeparator front →
      front <+: separator ++ following →
      front.length ≤ separator.length

/-- What makes a separator longest is the character behind it: no blank, and no
comma unless the separator already has one. -/
theorem isLongest_of_head?
    {separator following : List Char}
    (separates : IsSeparator separator)
    (solid : ∀ character ∈ following.head?, isBlank character = false)
    (second : ',' ∈ following.head? → ',' ∈ separator) :
    IsLongest separator following := by
  refine ⟨separates, fun front frontSeparates isFront => ?_⟩
  refine not_lt.1 fun longer => ?_
  obtain ⟨-, breaks, count⟩ := isSeparator_iff.1 frontSeparates
  cases following with
  | nil =>
      rw [List.append_nil] at isFront
      exact longer.not_ge isFront.length_le
  | cons first rest =>
      have extended : separator ++ [first] <+: front := by
        refine List.prefix_of_prefix_length_le ?_ isFront ?_
        · rw [List.prefix_append_right_inj]
          exact List.prefix_append [first] rest
        · rw [List.length_append]
          exact longer
      have comma : first = ',' := by
        by_contra other
        have ends := breaks first (extended.subset (by simp))
        have blank := isBlank_of_isBreak ends other
        rw [solid first rfl] at blank
        cases blank
      subst comma
      have two := (extended.sublist.count_le ',').trans count
      have one := List.count_pos_iff.2 (second rfl)
      rw [List.count_append, List.count_singleton_self] at two
      omega

/-- A break behind a longest separator is a second comma. -/
theorem IsLongest.two_le_count
    {separator rest : List Char}
    {first : Char}
    (longest : IsLongest separator (first :: rest))
    (ends : isBreak first = true) :
    2 ≤ (separator ++ [first]).count ',' := by
  obtain ⟨-, breaks, -⟩ := isSeparator_iff.1 longest.separates
  refine not_lt.1 fun few => ?_
  have separates : IsSeparator (separator ++ [first]) := by
    refine isSeparator_iff.2 ⟨by simp, ?_, Nat.le_of_lt_succ few⟩
    intro character member
    rcases List.mem_append.1 member with inside | last
    · exact breaks character inside
    · rw [List.mem_singleton.1 last]
      exact ends
  have isFront : separator ++ [first] <+: separator ++ first :: rest := by
    rw [List.prefix_append_right_inj]
    exact List.prefix_append [first] rest
  have bounded := longest.longest _ separates isFront
  rw [List.length_append] at bounded
  exact absurd bounded (by simp)

/-- Two longest separators in front of one text are the same. -/
theorem IsLongest.unique
    {separator following other otherFollowing : List Char}
    (longest : IsLongest separator following)
    (otherLongest : IsLongest other otherFollowing)
    (textEq : separator ++ following = other ++ otherFollowing) :
    separator = other ∧ following = otherFollowing := by
  refine List.append_inj textEq (le_antisymm ?_ ?_)
  · refine otherLongest.longest separator longest.separates ?_
    rw [← textEq]
    exact List.prefix_append _ _
  · refine longest.longest other otherLongest.separates ?_
    rw [textEq]
    exact List.prefix_append _ _

/-- What is dropped from a text that begins with a break is the longest
separator in front of it. -/
theorem exists_isLongest_dropSeparator
    {first : Char}
    (ends : isBreak first = true)
    (rest : List Char) :
    ∃ separator,
      first :: rest = separator ++ dropSeparator (first :: rest) ∧
        IsLongest separator (dropSeparator (first :: rest)) := by
  have blanksSplit :
      (first :: rest).takeWhile isBlank ++ (first :: rest).dropWhile isBlank =
        first :: rest :=
    List.takeWhile_append_dropWhile
  have blank :
      ∀ (source : List Char),
        ∀ character ∈ source.takeWhile isBlank, isBlank character = true :=
    fun _ _ => List.mem_takeWhile_imp
  have behind :
      ∀ character ∈ ((first :: rest).dropWhile isBlank).head?,
        isBlank character = false :=
    head?_dropWhile
  unfold dropSeparator
  split
  · rename_i others dropped
    refine ⟨_, ?_,
      isLongest_of_head? (.comma (blank (first :: rest)) (blank others))
        head?_dropWhile fun _ => by simp⟩
    rw [List.append_assoc, List.cons_append, List.takeWhile_append_dropWhile,
      ← dropped, blanksSplit]
  · rename_i other
    have noComma : ',' ∉ ((first :: rest).dropWhile isBlank).head? := by
      intro head
      exact other _ (List.eq_cons_of_mem_head? head)
    refine ⟨_, blanksSplit.symm,
      isLongest_of_head? (.blanks ?_ (blank _)) behind fun comma =>
        absurd comma noComma⟩
    intro none
    rw [none, List.nil_append] at blanksSplit
    rw [blanksSplit] at behind noComma
    have firstBlank :=
      isBlank_of_isBreak ends fun comma => noComma (comma ▸ rfl)
    rw [behind first rfl] at firstBlank
    cases firstBlank

/-! ## Runs -/

/-- A longest stretch of breaks, between what stands before and after it. -/
structure IsRun (before run after : List Char) : Prop where
  breaks : ∀ character ∈ run, isBreak character = true
  begins : ∀ character ∈ before.getLast?, isBreak character = false
  ends : ∀ character ∈ after.head?, isBreak character = false

/-- A text that neither begins nor ends with a comma, and has no two commas with
nothing but blanks between them. -/
structure CommasApart (source : List Char) : Prop where
  head_ne : source.head? ≠ some ','
  last_ne : source.getLast? ≠ some ','
  run_le :
    ∀ before run after,
      source = before ++ run ++ after →
      IsRun before run after →
      run.count ',' ≤ 1

/-- Every stretch of breaks belongs to a run, which has at least as many
commas. -/
theorem CommasApart.count_le
    {source stretch : List Char}
    (apart : CommasApart source)
    (breaks : ∀ character ∈ stretch, isBreak character = true)
    (inside : stretch <:+: source) :
    stretch.count ',' ≤ 1 := by
  obtain ⟨before, after, rfl⟩ := inside
  have run :
      IsRun (before.rdropWhile isBreak)
        (before.rtakeWhile isBreak ++ stretch ++ after.takeWhile isBreak)
        (after.dropWhile isBreak) := by
    refine ⟨?_, getLast?_rdropWhile, head?_dropWhile⟩
    simp only [List.forall_mem_append]
    exact ⟨⟨fun _ => List.mem_rtakeWhile_imp, breaks⟩,
      fun _ => List.mem_takeWhile_imp⟩
  have split :
      before ++ stretch ++ after =
        before.rdropWhile isBreak ++
            (before.rtakeWhile isBreak ++ stretch ++ after.takeWhile isBreak) ++
          after.dropWhile isBreak := by
    conv_lhs =>
      rw [← List.rdropWhile_append_rtakeWhile (p := isBreak) (l := before),
        ← List.takeWhile_append_dropWhile (p := isBreak) (l := after)]
    simp only [List.append_assoc]
  have bounded := apart.run_le _ _ _ split run
  rw [List.count_append, List.count_append] at bounded
  omega

end Coinage.Expression
