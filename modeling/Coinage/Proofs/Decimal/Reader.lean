import Coinage.Proofs.Decimal.Spelling

/-!
# What is read as decimal data

A text denotes a datum exactly if it spells one within the range, once it is plain.
Reading takes a text apart from the front, and each part ends where the next
character cannot continue it: a sign stands in front of no other sign, digits end
at a point or at a mark, and no word begins like a number.  So the parts that are
found are those that were put together, and a text spells at most one datum.  What
is spelled is plain already, and it is read as it is.
-/

namespace Coinage.Decimal

open Coinage.Text
open Literal (signText)

/-! ## Signs -/

theorem readSign_signText
    (sign : Option Bool)
    {unsigned : List Char}
    (bare : IsBare unsigned) :
    readSign (signText sign ++ unsigned) = (sign == some true, unsigned) := by
  rcases sign with - | - | -
  · change readSign unsigned = _
    unfold readSign
    split
    · exact absurd rfl (bare '-' rfl).1
    · exact absurd rfl (bare '+' rfl).2
    · rfl
  · rfl
  · rfl

theorem exists_signText (source : List Char) :
    ∃ sign,
      source = signText sign ++ (readSign source).2 ∧
        (readSign source).1 = (sign == some true) := by
  unfold readSign
  split
  · exact ⟨some true, rfl, rfl⟩
  · exact ⟨some false, rfl, rfl⟩
  · exact ⟨none, rfl, rfl⟩

/-! ## Powers of ten -/

theorem readNat?_eq_some_iff
    {source : List Char}
    {number : Nat} :
    readNat? source = some number ↔
      source ≠ [] ∧
        (∀ character ∈ source, character.isDigit = true) ∧
        natOfDigits source = number := by
  rw [readNat?, ← List.all_eq_true]
  split_ifs with digital
  · rw [Option.some_inj]
    exact (and_iff_right digital.1).symm.trans
      (and_congr_right fun _ => (and_iff_right digital.2).symm)
  · refine iff_of_false nofun fun read => digital ⟨read.1, read.2.1⟩

/-- The power of ten behind a number is read exactly if it is one, or nothing. -/
theorem readPower?_eq_some_iff
    {source : List Char}
    {exponent : Int} :
    readPower? source = some exponent ↔
      ∃ power : Option Power,
        source = power.elim [] Power.text ∧
          exponent = power.elim 0 Power.exponent := by
  constructor
  · intro read
    unfold readPower? at read
    split at read
    · exact ⟨none, rfl, (Option.some.inj read).symm⟩
    · rename_i mark rest
      split_ifs at read with marked
      obtain ⟨sign, restEq, signEq⟩ := exists_signText rest
      dsimp only at read
      cases found : readNat? (readSign rest).2 with
      | none =>
          rw [found] at read
          cases read
      | some number =>
          obtain ⟨nonempty, digital, rfl⟩ := readNat?_eq_some_iff.1 found
          rw [found, signEq] at read
          refine ⟨some ⟨mark, sign, (readSign rest).2, marked, nonempty, digital⟩,
            congrArg (mark :: ·) restEq, ?_⟩
          rw [← Option.some.inj read]
          exact if_congr beq_iff_eq rfl rfl
  · rintro ⟨power, rfl, rfl⟩
    cases power with
    | none => rfl
    | some power =>
        have bare := isBare_of_isDigit power.isDigit_digits
        have read :=
          readNat?_eq_some_iff.2
            ⟨power.digits_ne_nil, power.isDigit_digits, rfl⟩
        change readPower? (power.mark :: _) = some power.exponent
        rw [readPower?, if_pos power.mark_eq, readSign_signText _ bare]
        dsimp only
        rw [read]
        exact congrArg some (if_congr beq_iff_eq rfl rfl)

/-! ## Numbers -/

namespace Spelling

variable (spelling : Spelling)

theorem spanDigits_text :
    spanDigits spelling.text =
      (spelling.whole, spelling.fractionText ++ spelling.powerText) :=
  Prod.ext
    (takeWhile_append_of_head? spelling.isDigit_whole
      spelling.isDigit_head?_rest)
    (dropWhile_append_of_head? spelling.isDigit_whole
      spelling.isDigit_head?_rest)

theorem readFraction_fractionText :
    readFraction (spelling.fractionText ++ spelling.powerText) =
      (spelling.fraction.getD [], spelling.powerText) := by
  have digital := spelling.isDigit_fraction
  unfold fractionText
  cases fractionEq : spelling.fraction with
  | none =>
      change readFraction spelling.powerText = _
      unfold readFraction
      split
      · rename_i rest powerEq
        have leads : '.' ∈ spelling.powerText.head? := by
          rw [powerEq]
          rfl
        exact absurd (spelling.head?_powerText leads) (by decide)
      · rfl
  | some fraction =>
      rw [fractionEq] at digital
      exact Prod.ext
        (takeWhile_append_of_head? digital spelling.isDigit_head?_powerText)
        (dropWhile_append_of_head? digital spelling.isDigit_head?_powerText)

end Spelling

/-- A point and digits are taken off the front of a text, or nothing is. -/
theorem exists_fraction (source : List Char) :
    ∃ fraction : Option (List Char),
      source = fraction.elim [] ('.' :: ·) ++ (readFraction source).2 ∧
        (readFraction source).1 = fraction.getD [] ∧
        ∀ character ∈ fraction.getD [], character.isDigit = true := by
  unfold readFraction
  split
  · rename_i rest
    refine ⟨some (rest.takeWhile Char.isDigit), ?_, rfl,
      fun _ member => List.mem_takeWhile_imp member⟩
    exact congrArg ('.' :: ·) List.takeWhile_append_dropWhile.symm
  · exact ⟨none, rfl, rfl, List.forall_mem_nil _⟩

/-- A number is read exactly if it is spelled. -/
theorem readUnsigned?_eq_some_iff
    {negative : Bool}
    {source : List Char}
    {number : Numeral} :
    readUnsigned? negative source = some number ↔
      ∃ spelling : Spelling,
        source = spelling.text ∧ number = spelling.toNumeral negative := by
  constructor
  · intro read
    simp only [readUnsigned?] at read
    split_ifs at read with empty
    obtain ⟨exponent, readPower, rfl⟩ := Option.map_eq_some_iff.1 read
    obtain ⟨fraction, afterWhole, fractionEq, isDigitFraction⟩ :=
      exists_fraction (spanDigits source).2
    obtain ⟨power, afterFraction, rfl⟩ := readPower?_eq_some_iff.1 readPower
    rw [fractionEq] at empty
    have isDigitWhole :
        ∀ character ∈ (spanDigits source).1, character.isDigit = true :=
      fun _ member => List.mem_takeWhile_imp member
    refine ⟨⟨(spanDigits source).1, fraction, power, isDigitWhole,
      isDigitFraction, not_and_or.1 empty⟩, ?_, ?_⟩
    · change
        source =
          (spanDigits source).1 ++
            (fraction.elim [] ('.' :: ·) ++ power.elim [] Power.text)
      rw [← afterFraction, ← afterWhole]
      exact List.takeWhile_append_dropWhile.symm
    · rw [fractionEq]
      rfl
  · rintro ⟨spelling, rfl, rfl⟩
    have readPower :
        readPower? spelling.powerText =
          some (spelling.power.elim 0 Power.exponent) :=
      readPower?_eq_some_iff.2 ⟨spelling.power, rfl, rfl⟩
    simp only [readUnsigned?, spelling.spanDigits_text,
      spelling.readFraction_fractionText, readPower, Option.map_some]
    exact if_neg (not_and_or.2 spelling.whole_or_fraction)

/-! ## Words -/

theorem toLower_of_isDigit
    {character : Char}
    (digit : character.isDigit = true) :
    character.toLower = character := by
  have plain :
      (asciiDigits.all fun listed => listed.toLower == listed) = true := by
    decide
  simpa using List.all_eq_true.1 plain character (mem_asciiDigits digit)

/-- No capital becomes a digit. -/
theorem isDigit_of_toLower
    {character : Char}
    (digit : character.toLower.isDigit = true) :
    character.isDigit = true := by
  unfold Char.toLower at digit
  split at digit
  · rename_i upper
    simp [Char.isDigit, UInt32.le_iff_toNat_le] at digit upper
    omega
  · exact digit

/-- The digits of a payload have no case. -/
theorem map_toLower_of_isDigit
    {source : List Char}
    (digital : ∀ character ∈ source, character.isDigit = true) :
    source.map Char.toLower = source :=
  (List.map_congr_left fun character member =>
    toLower_of_isDigit (digital character member)).trans (List.map_id source)

theorem readPayload?_eq_some_iff
    {source : List Char}
    {payload : Nat} :
    readPayload? source = some payload ↔
      (∀ character ∈ source, character.isDigit = true) ∧
        natOfDigits source = payload := by
  cases source with
  | nil =>
      rw [readPayload?, Option.some_inj]
      exact (and_iff_right (List.forall_mem_nil _)).symm
  | cons first rest =>
      rw [readPayload?, readNat?_eq_some_iff]
      · exact and_iff_right (List.cons_ne_nil first rest)
      · nofun

section Words

variable
    {negative signaling : Bool}
    {source word payload : List Char}
    {datum : Decimal}

/-- A word and the digits behind it are told apart by case alone. -/
theorem spellsUnsigned_of_payload
    {number : Nat}
    (lowered : source.map Char.toLower = payloadWord signaling ++ payload)
    (read : readPayload? payload = some number) :
    SpellsUnsigned negative source (.nan negative signaling number) := by
  obtain ⟨word, rest, rfl, wordEq, restEq⟩ := List.map_eq_append_iff.1 lowered
  obtain ⟨digital, rfl⟩ := readPayload?_eq_some_iff.1 read
  have isDigitRest : ∀ character ∈ rest, character.isDigit = true := by
    intro character member
    apply isDigit_of_toLower
    apply digital
    rw [← restEq]
    exact List.mem_map_of_mem member
  rw [map_toLower_of_isDigit isDigitRest] at restEq
  rw [← restEq]
  exact .nan wordEq isDigitRest

theorem spellsUnsigned_of_readWord?
    (read : readWord? negative source = some datum) :
    SpellsUnsigned negative source datum := by
  unfold readWord? at read
  split at read
  · rename_i named
    cases read
    exact .infinity (List.mem_pair.2 (.inl named))
  · rename_i named
    cases read
    exact .infinity (List.mem_pair.2 (.inr named))
  · rename_i lowered
    obtain ⟨number, readPayload, rfl⟩ := Option.map_eq_some_iff.1 read
    exact spellsUnsigned_of_payload lowered readPayload
  · rename_i lowered
    obtain ⟨number, readPayload, rfl⟩ := Option.map_eq_some_iff.1 read
    exact spellsUnsigned_of_payload lowered readPayload
  · cases read

theorem readWord?_of_infinity
    (named : word.map Char.toLower ∈ infinityWords) :
    readWord? negative word = some (.infinite negative) := by
  rcases List.mem_pair.1 named with short | long
  · rw [readWord?, short]
    rfl
  · rw [readWord?, long]
    rfl

theorem readWord?_of_nan
    (named : word.map Char.toLower = payloadWord signaling)
    (digital : ∀ character ∈ payload, character.isDigit = true) :
    readWord? negative (word ++ payload) =
      some (.nan negative signaling (natOfDigits payload)) := by
  have read :
      readPayload? payload = some (natOfDigits payload) :=
    readPayload?_eq_some_iff.2 ⟨digital, rfl⟩
  rw [readWord?, List.map_append, named, map_toLower_of_isDigit digital]
  cases signaling with
  | true =>
      change (readPayload? payload).map (Decimal.nan negative true) = _
      rw [read, Option.map_some]
  | false =>
      change (readPayload? payload).map (Decimal.nan negative false) = _
      rw [read, Option.map_some]

end Words

/-- A word does not begin like a number. -/
theorem IsWord.readUnsigned?_eq_none
    {word : List Char}
    (isWord : IsWord word)
    (payload : List Char)
    (negative : Bool) :
    readUnsigned? negative (word ++ payload) = none := by
  refine Option.eq_none_iff_forall_ne_some.2 fun number read => ?_
  obtain ⟨spelling, same, -⟩ := readUnsigned?_eq_some_iff.1 read
  obtain ⟨first, rest, textEq, letter⟩ := isWord.exists_cons payload
  have leads : first ∈ spelling.text.head? := by
    rw [← same, textEq]
    rfl
  obtain ⟨low, -⟩ := toNat_of_isAlpha letter
  rcases spelling.head?_text leads with digit | rfl
  · obtain ⟨-, high⟩ := toNat_of_isDigit digit
    omega
  · exact absurd low (by decide)

/-! ## Data -/

section Data

variable
    {negative : Bool}
    {source : List Char}
    {datum : Decimal}

/-- Behind a sign a datum is read exactly if it is spelled there. -/
theorem spellsUnsigned_iff :
    (match readUnsigned? negative source with
      | some number => some (Decimal.finite number)
      | none => readWord? negative source) = some datum ↔
      SpellsUnsigned negative source datum := by
  constructor
  · intro read
    split at read
    · rename_i number found
      obtain ⟨spelling, rfl, rfl⟩ := readUnsigned?_eq_some_iff.1 found
      cases read
      exact .number spelling
    · exact spellsUnsigned_of_readWord? read
  · intro spells
    cases spells with
    | number spelling =>
        rw [readUnsigned?_eq_some_iff.2 ⟨spelling, rfl, rfl⟩]
    | infinity named =>
        have none :=
          (isWord_of_infinity named).readUnsigned?_eq_none [] negative
        rw [List.append_nil] at none
        rw [none]
        exact readWord?_of_infinity named
    | nan named digital =>
        rw [(isWord_of_payload named).readUnsigned?_eq_none]
        exact readWord?_of_nan named digital

/-- A text denotes a datum of any exponent exactly if it spells it, once it is
plain. -/
theorem spelled?_eq_some_iff :
    spelled? source = some datum ↔ Spells (plainText source) datum := by
  rw [spelled?]
  constructor
  · intro read
    obtain ⟨sign, textEq, signEq⟩ := exists_signText (plainText source)
    refine ⟨sign, _, textEq, ?_⟩
    rw [← signEq]
    exact spellsUnsigned_iff.1 read
  · rintro ⟨sign, unsigned, textEq, spells⟩
    rw [textEq, readSign_signText sign spells.isBare]
    exact spellsUnsigned_iff.2 spells

/-- A text denotes a datum exactly if it spells one within the range. -/
theorem ofText?_eq_some_iff :
    ofText? source = some datum ↔
      Spells (plainText source) datum ∧ datum.isInRange = true := by
  rw [ofText?, Option.filter_eq_some_iff, spelled?_eq_some_iff]

/-- What is spelled is read as it is. -/
theorem Spells.spelled?_eq
    (spells : Spells source datum) :
    spelled? source = some datum := by
  rw [spelled?_eq_some_iff, plainText_of_forall spells.isPlain]
  exact spells

theorem Spells.ofText?_eq
    (spells : Spells source datum)
    (inRange : datum.isInRange = true) :
    ofText? source = some datum := by
  rw [ofText?, spells.spelled?_eq, Option.filter_some, if_pos inRange]

end Data

/-! ## Integers -/

/-- An integer is within the range, as long as it has no more digits than decimal
data may have. -/
theorem isInRange_ofInt
    {number : Int}
    (short : digitCount number.natAbs ≤ 1000000000000000000) :
    (ofInt number).isInRange = true := by
  have low : lowestExponent ≤ 0 := by decide
  have high :
      (0 : Int) + digitCount number.natAbs - 1 ≤ highestPower := by
    unfold highestPower
    omega
  change
    (decide (lowestExponent ≤ 0) &&
      if number.natAbs = 0 then decide ((0 : Int) ≤ highestPower)
      else
        decide ((0 : Int) + digitCount number.natAbs - 1 ≤
          highestPower)) =
      true
  rw [decide_eq_true low, Bool.true_and]
  split_ifs
  · decide
  · exact decide_eq_true high

end Coinage.Decimal
