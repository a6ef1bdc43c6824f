import Coinage.Decimal.Reader
import Coinage.Fixed.Literal
import Coinage.Proofs.Text.Blank
import Coinage.Proofs.Text.Digit

/-!
# How decimal data are spelled

A datum is spelled by an optional sign and either a number or a word behind it.  A
number has digits on at least one side of an optional point and may end with a
power of ten; a word is one of those for infinities and for what is no number, in
capitals or small letters.  The grammar is stated here on its own, by the parts
that are put together.

The parts can be told apart by the characters that they begin with.  All of these
characters are plain, so that no part of a spelling is lost when blanks are
stripped, underscores dropped and digits rewritten.
-/

namespace Coinage.Decimal

open Coinage.Text
open Literal (signText)

/-! ## Texts that need no cleaning -/

/-- A character that reading takes as it is. -/
def IsPlain (character : Char) : Prop :=
  isBlank character = false ∧
    character ≠ '_' ∧
    toAsciiDigit character = character

/-- The visible characters of ASCII are plain, but for the underscore. -/
theorem IsPlain.of_visible
    {character : Char}
    (low : 33 ≤ character.toNat)
    (high : character.toNat ≤ 126)
    (kept : character ≠ '_') :
    IsPlain character :=
  ⟨isBlank_of_visible low high, kept, toAsciiDigit_of_le high⟩

theorem IsPlain.of_isDigit
    {character : Char}
    (digit : character.isDigit = true) :
    IsPlain character := by
  obtain ⟨low, high⟩ := toNat_of_isDigit digit
  refine .of_visible (by omega) (by omega) ?_
  rintro rfl
  exact absurd digit (by decide)

theorem IsPlain.of_isAlpha
    {character : Char}
    (letter : character.isAlpha = true) :
    IsPlain character := by
  obtain ⟨low, high⟩ := toNat_of_isAlpha letter
  refine .of_visible (by omega) (by omega) ?_
  rintro rfl
  exact absurd letter (by decide)

theorem plainText_of_forall
    {source : List Char}
    (plain : ∀ character ∈ source, IsPlain character) :
    plainText source = source := by
  have kept : source.filter (· ≠ '_') = source := by
    rw [List.filter_eq_self]
    intro character member
    simpa using (plain character member).2.1
  rw [plainText, strip_of_forall fun character member =>
    (plain character member).1, kept]
  exact (List.map_congr_left fun character member =>
    (plain character member).2.2).trans (List.map_id source)

/-! ## The grammar -/

/-- A power of ten as it may stand behind a number: a mark in either case, an
optional sign and at least one digit. -/
structure Power where
  mark : Char
  sign : Option Bool
  digits : List Char
  mark_eq : mark = 'e' ∨ mark = 'E'
  digits_ne_nil : digits ≠ []
  isDigit_digits : ∀ character ∈ digits, character.isDigit = true

namespace Power

/-- The text of a power of ten. -/
def text (power : Power) : List Char :=
  power.mark :: (signText power.sign ++ power.digits)

/-- The power itself. -/
def exponent (power : Power) : Int :=
  if power.sign = some true then -(natOfDigits power.digits : Int)
  else natOfDigits power.digits

end Power

/-- A number without its sign.  A point needs a digit on one of its sides only, and
the power of ten is optional. -/
structure Spelling where
  whole : List Char
  fraction : Option (List Char)
  power : Option Power
  isDigit_whole : ∀ character ∈ whole, character.isDigit = true
  isDigit_fraction :
    ∀ character ∈ fraction.getD [], character.isDigit = true
  whole_or_fraction : whole ≠ [] ∨ fraction.getD [] ≠ []

namespace Spelling

/-- The point and the digits behind it, or nothing. -/
def fractionText (spelling : Spelling) : List Char :=
  spelling.fraction.elim [] ('.' :: ·)

/-- The power of ten, or nothing. -/
def powerText (spelling : Spelling) : List Char :=
  spelling.power.elim [] Power.text

/-- The text of a number without its sign. -/
def text (spelling : Spelling) : List Char :=
  spelling.whole ++ (spelling.fractionText ++ spelling.powerText)

/-- The number under a sign. -/
def toNumeral (spelling : Spelling) (negative : Bool) : Numeral :=
  ⟨negative, natOfDigits (spelling.whole ++ spelling.fraction.getD []),
    spelling.power.elim 0 Power.exponent - (spelling.fraction.getD []).length⟩

end Spelling

/-- The words for an infinity. -/
def infinityWords : List (List Char) :=
  [['i', 'n', 'f'], ['i', 'n', 'f', 'i', 'n', 'i', 't', 'y']]

/-- The word in front of a payload. -/
def payloadWord (signaling : Bool) : List Char :=
  if signaling then ['s', 'n', 'a', 'n'] else ['n', 'a', 'n']

/-- What may stand behind the sign of a datum: a number, or one of the words in any
case, those for what is no number with the digits of a payload. -/
inductive SpellsUnsigned (negative : Bool) : List Char → Decimal → Prop where
  | number (spelling : Spelling) :
      SpellsUnsigned negative spelling.text
        (.finite (spelling.toNumeral negative))
  | infinity {word : List Char}
      (named : word.map Char.toLower ∈ infinityWords) :
      SpellsUnsigned negative word (.infinite negative)
  | nan {word payload : List Char} {signaling : Bool}
      (named : word.map Char.toLower = payloadWord signaling)
      (isDigit_payload : ∀ character ∈ payload, character.isDigit = true) :
      SpellsUnsigned negative (word ++ payload)
        (.nan negative signaling (natOfDigits payload))

/-- A text spells a datum by its grammar, without blanks, underscores and digits of
other scripts. -/
def Spells (source : List Char) (datum : Decimal) : Prop :=
  ∃ sign unsigned,
    source = signText sign ++ unsigned ∧
      SpellsUnsigned (sign == some true) unsigned datum

/-! ## How the parts begin -/

namespace Spelling

variable (spelling : Spelling)

/-- A power of ten begins with its mark. -/
theorem head?_powerText
    {character : Char}
    (first : character ∈ spelling.powerText.head?) :
    character = 'e' ∨ character = 'E' := by
  unfold powerText at first
  cases powerEq : spelling.power with
  | none =>
      rw [powerEq] at first
      cases first
  | some power =>
      rw [powerEq] at first
      obtain rfl := Option.some.inj first
      exact power.mark_eq

theorem isDigit_head?_powerText :
    ∀ character ∈ spelling.powerText.head?,
      character.isDigit = false := by
  intro character first
  rcases spelling.head?_powerText first with rfl | rfl
  · decide
  · decide

theorem isDigit_head?_rest :
    ∀ character ∈ (spelling.fractionText ++ spelling.powerText).head?,
      character.isDigit = false := by
  unfold fractionText
  cases spelling.fraction with
  | none => exact spelling.isDigit_head?_powerText
  | some fraction =>
      rintro character ⟨⟩
      decide

/-- A number begins with a digit or with its point. -/
theorem head?_text
    {character : Char}
    (first : character ∈ spelling.text.head?) :
    character.isDigit = true ∨ character = '.' := by
  cases wholeEq : spelling.whole with
  | cons digit rest =>
      rw [text, wholeEq] at first
      obtain rfl := Option.some.inj first
      refine .inl (spelling.isDigit_whole digit ?_)
      rw [wholeEq]
      exact List.mem_cons_self
  | nil =>
      cases fractionEq : spelling.fraction with
      | none =>
          have digits := spelling.whole_or_fraction
          rw [wholeEq, fractionEq] at digits
          exact absurd digits (by simp)
      | some fraction =>
          rw [text, fractionText, wholeEq, fractionEq] at first
          exact .inr (Option.some.inj first).symm

end Spelling

/-- Letters have a small form, and nothing else does. -/
theorem isAlpha_of_toLower
    {character : Char}
    (letter : character.toLower.isLower = true) :
    character.isAlpha = true := by
  unfold Char.toLower at letter
  change (character.isUpper || character.isLower) = true
  rw [Bool.or_eq_true]
  split at letter
  · rename_i upper
    exact .inl (decide_eq_true upper)
  · exact .inr letter

/-- A word: letters in any case, with at least one. -/
structure IsWord (word : List Char) : Prop where
  nonempty : word ≠ []
  isAlpha : ∀ character ∈ word, character.isAlpha = true

/-- A text that is a word in small letters is one. -/
theorem isWord_of_map
    {word : List Char}
    (nonempty : word.map Char.toLower ≠ [])
    (lower : (word.map Char.toLower).all Char.isLower = true) :
    IsWord word where
  nonempty empty := nonempty (List.map_eq_nil_iff.2 empty)
  isAlpha _ member :=
    isAlpha_of_toLower
      (List.all_eq_true.1 lower _ (List.mem_map_of_mem member))

theorem isWord_of_infinity
    {word : List Char}
    (named : word.map Char.toLower ∈ infinityWords) :
    IsWord word := by
  have listed :
      ∀ letters ∈ infinityWords,
        letters ≠ [] ∧ letters.all Char.isLower = true := by
    decide
  obtain ⟨nonempty, lower⟩ := listed _ named
  exact isWord_of_map nonempty lower

theorem isWord_of_payload
    {word : List Char}
    {signaling : Bool}
    (named : word.map Char.toLower = payloadWord signaling) :
    IsWord word := by
  have listed :
      ∀ flag,
        payloadWord flag ≠ [] ∧
          (payloadWord flag).all Char.isLower = true := by
    decide
  obtain ⟨nonempty, lower⟩ := listed signaling
  rw [← named] at nonempty lower
  exact isWord_of_map nonempty lower

theorem IsWord.exists_cons
    {word : List Char}
    (isWord : IsWord word)
    (payload : List Char) :
    ∃ first rest,
      word ++ payload = first :: rest ∧ first.isAlpha = true := by
  obtain ⟨first, rest, rfl⟩ := List.exists_cons_of_ne_nil isWord.nonempty
  exact ⟨first, rest ++ payload, rfl,
    isWord.isAlpha first List.mem_cons_self⟩

/-- A text that begins with no sign. -/
def IsBare (source : List Char) : Prop :=
  ∀ character ∈ source.head?, character ≠ '-' ∧ character ≠ '+'

theorem isBare_of_begins
    {source : List Char}
    (begins :
      ∀ character ∈ source.head?,
        character.isDigit = true ∨ character = '.' ∨
          character.isAlpha = true) :
    IsBare source := by
  intro character first
  constructor
  all_goals
    rintro rfl
    exact absurd (begins _ first) (by decide)

theorem isBare_of_isDigit
    {source : List Char}
    (digital : ∀ character ∈ source, character.isDigit = true) :
    IsBare source :=
  isBare_of_begins fun _ first =>
    .inl (digital _ (List.mem_of_mem_head? first))

theorem IsWord.isBare
    {word : List Char}
    (isWord : IsWord word)
    (payload : List Char) :
    IsBare (word ++ payload) := by
  obtain ⟨first, rest, textEq, letter⟩ := isWord.exists_cons payload
  rw [textEq]
  apply isBare_of_begins
  rintro character ⟨⟩
  exact .inr (.inr letter)

/-- Neither a number nor a word begins with a sign. -/
theorem SpellsUnsigned.isBare
    {negative : Bool}
    {source : List Char}
    {datum : Decimal}
    (spells : SpellsUnsigned negative source datum) :
    IsBare source := by
  cases spells with
  | number spelling =>
      exact isBare_of_begins fun _ first =>
        (spelling.head?_text first).imp_right .inl
  | infinity named =>
      have bare := (isWord_of_infinity named).isBare []
      rwa [List.append_nil] at bare
  | nan named digital =>
      exact (isWord_of_payload named).isBare _

/-! ## Spellings are plain -/

theorem isPlain_of_mem_signText
    {sign : Option Bool}
    {character : Char}
    (member : character ∈ signText sign) :
    IsPlain character := by
  rcases sign with - | - | -
  · cases member
  · obtain rfl := List.mem_singleton.1 member
    exact ⟨by decide, by decide, by decide⟩
  · obtain rfl := List.mem_singleton.1 member
    exact ⟨by decide, by decide, by decide⟩

theorem Power.isPlain_of_mem
    {power : Power}
    {character : Char}
    (member : character ∈ power.text) :
    IsPlain character := by
  rcases List.mem_cons.1 member with rfl | member
  · rcases power.mark_eq with mark | mark
    · rw [mark]
      exact .of_isAlpha (by decide)
    · rw [mark]
      exact .of_isAlpha (by decide)
  · rcases List.mem_append.1 member with sign | digit
    · exact isPlain_of_mem_signText sign
    · exact .of_isDigit (power.isDigit_digits character digit)

namespace Spelling

variable
    {spelling : Spelling}
    {character : Char}

theorem isPlain_of_mem_fractionText
    (member : character ∈ spelling.fractionText) :
    IsPlain character := by
  have digital := spelling.isDigit_fraction
  unfold fractionText at member
  cases fractionEq : spelling.fraction with
  | none =>
      rw [fractionEq] at member
      cases member
  | some fraction =>
      rw [fractionEq] at member digital
      rcases List.mem_cons.1 member with rfl | digit
      · exact ⟨by decide, by decide, by decide⟩
      · exact .of_isDigit (digital character digit)

theorem isPlain_of_mem_powerText
    (member : character ∈ spelling.powerText) :
    IsPlain character := by
  unfold powerText at member
  cases powerEq : spelling.power with
  | none =>
      rw [powerEq] at member
      cases member
  | some power =>
      rw [powerEq] at member
      exact power.isPlain_of_mem member

theorem isPlain_of_mem
    (member : character ∈ spelling.text) :
    IsPlain character := by
  rcases List.mem_append.1 member with whole | member
  · exact .of_isDigit (spelling.isDigit_whole character whole)
  · rcases List.mem_append.1 member with fraction | power
    · exact isPlain_of_mem_fractionText fraction
    · exact isPlain_of_mem_powerText power

end Spelling

theorem Spells.isPlain
    {source : List Char}
    {datum : Decimal}
    (spells : Spells source datum) :
    ∀ character ∈ source, IsPlain character := by
  intro character member
  obtain ⟨sign, unsigned, rfl, spells⟩ := spells
  rcases List.mem_append.1 member with minus | member
  · exact isPlain_of_mem_signText minus
  · cases spells with
    | number spelling => exact Spelling.isPlain_of_mem member
    | infinity named =>
        exact .of_isAlpha ((isWord_of_infinity named).isAlpha character member)
    | nan named digital =>
        rcases List.mem_append.1 member with letter | digit
        · exact .of_isAlpha
            ((isWord_of_payload named).isAlpha character letter)
        · exact .of_isDigit (digital character digit)

/-! ## Texts that are written -/

section Written

variable {negative : Bool}

/-- A minus or nothing, and a datum behind it. -/
theorem SpellsUnsigned.spells_minusText
    {unsigned : List Char}
    {datum : Decimal}
    (spells : SpellsUnsigned negative unsigned datum) :
    Spells (minusText negative ++ unsigned) datum := by
  cases negative with
  | true => exact ⟨some true, unsigned, rfl, spells⟩
  | false => exact ⟨none, unsigned, rfl, spells⟩

/-- Digits in front of a point, which stands there only for the digits behind it,
and a power of ten. -/
theorem spellsUnsigned_pointed
    {whole fraction : List Char}
    (nonempty : whole ≠ [])
    (isDigit_whole : ∀ character ∈ whole, character.isDigit = true)
    (isDigit_fraction : ∀ character ∈ fraction, character.isDigit = true)
    (power : Option Power) :
    SpellsUnsigned negative
      (whole ++
        ((if fraction = [] then [] else '.' :: fraction) ++
          power.elim [] Power.text))
      (.finite ⟨negative, natOfDigits (whole ++ fraction),
        power.elim 0 Power.exponent - fraction.length⟩) := by
  by_cases empty : fraction = []
  · rw [if_pos empty, empty]
    exact .number ⟨whole, none, power, isDigit_whole, List.forall_mem_nil _,
      .inl nonempty⟩
  · rw [if_neg empty]
    exact .number ⟨whole, some fraction, power, isDigit_whole,
      isDigit_fraction, .inl nonempty⟩

/-- The text of an integer spells that integer, with exponent zero. -/
theorem spells_integerDigits (number : Int) :
    Spells (integerDigits number) (ofInt number) := by
  have spells :
      SpellsUnsigned (decide (number < 0)) _ _ :=
    spellsUnsigned_pointed (digits_ne_nil number.natAbs)
      (fun _ member => isDigit_of_mem_digits member)
      (List.forall_mem_nil _) none
  simp only [Option.elim_none, if_true, List.append_nil, natOfDigits_digits]
    at spells
  exact spells.spells_minusText

end Written

end Coinage.Decimal
