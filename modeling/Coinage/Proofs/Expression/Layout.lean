import Coinage.Proofs.Expression.Separator

/-!
# The grammar of lists

A layout divides a text into members with separators between them.  It is
written if no member is empty.  It is split if members may be empty, but each
separator is the longest one that stands there; this is how any text is divided,
and there is only one such layout of a text.  Written layouts are split, so they
are determined by their texts too.

A list is read member by member.  If all members denote coins, none is empty and
the layout is a written one.  Otherwise the first member that denotes no coin is
named.
-/

namespace Coinage.Expression

open Coinage.Text

/-- Members with a separator between any two neighbours. -/
inductive Layout where
  | last (member : List Char)
  | more (member separator : List Char) (rest : Layout)
  deriving DecidableEq, Repr

namespace Layout

/-- The text that is laid out. -/
def text : Layout → List Char
  | last member => member
  | more member separator rest => member ++ separator ++ rest.text

/-- The members in their order. -/
def members : Layout → List (List Char)
  | last member => [member]
  | more member _ rest => member :: rest.members

/-- No member is empty. -/
inductive IsWritten : Layout → Prop where
  | last {member : List Char} :
      IsMember member →
      IsWritten (last member)
  | more {member separator : List Char} {rest : Layout} :
      IsMember member →
      IsSeparator separator →
      IsWritten rest →
      IsWritten (more member separator rest)

/-- Members may be empty, and every separator is the longest one there. -/
inductive IsSplit : Layout → Prop where
  | last {member : List Char} :
      (∀ character ∈ member, isBreak character = false) →
      IsSplit (last member)
  | more {member separator : List Char} {rest : Layout} :
      (∀ character ∈ member, isBreak character = false) →
      IsLongest separator rest.text →
      IsSplit rest →
      IsSplit (more member separator rest)

/-! ## How a text is split -/

/-- Two members in front of breaks are the same if what they stand in is. -/
theorem solid_append_inj
    {member rest other otherRest : List Char}
    (solid : ∀ character ∈ member, isBreak character = false)
    (otherSolid : ∀ character ∈ other, isBreak character = false)
    (ends : ∀ character ∈ rest.head?, isBreak character = true)
    (otherEnds : ∀ character ∈ otherRest.head?, isBreak character = true)
    (textEq : member ++ rest = other ++ otherRest) :
    member = other ∧ rest = otherRest := by
  obtain ⟨taken, dropped⟩ := solid_append solid ends
  obtain ⟨otherTaken, otherDropped⟩ := solid_append otherSolid otherEnds
  rw [textEq] at taken dropped
  exact ⟨taken.symm.trans otherTaken, dropped.symm.trans otherDropped⟩

section Split

variable {layout other : Layout}

/-- The text behind a member begins with a break. -/
theorem isBreak_head?_append
    {separator following : List Char}
    (separates : IsSeparator separator) :
    ∀ character ∈ (separator ++ following).head?,
      isBreak character = true := by
  obtain ⟨first, rest, rfl, ends⟩ := separates.exists_cons
  rintro character ⟨⟩
  exact ends

/-- A text without breaks has no separator in it. -/
theorem ne_append_separator
    {source member separator following : List Char}
    (solid : ∀ character ∈ source, isBreak character = false)
    (separates : IsSeparator separator) :
    source ≠ member ++ separator ++ following := by
  rintro rfl
  obtain ⟨first, rest, rfl, ends⟩ := separates.exists_cons
  have firstSolid := solid first (by simp)
  rw [ends] at firstSolid
  cases firstSolid

/-- Every text is split in one way only. -/
theorem IsSplit.unique
    (split : layout.IsSplit)
    (otherSplit : other.IsSplit)
    (textEq : layout.text = other.text) :
    layout = other := by
  induction split generalizing other with
  | @last member solid =>
      cases otherSplit with
      | last =>
          rw [text, text] at textEq
          rw [textEq]
      | more _ longest =>
          exact absurd textEq (ne_append_separator solid longest.separates)
  | @more member separator rest solid longest restSplit unique =>
      cases otherSplit with
      | last otherSolid =>
          exact absurd textEq.symm
            (ne_append_separator otherSolid longest.separates)
      | more otherSolid otherLongest otherRestSplit =>
          rw [text, text, List.append_assoc, List.append_assoc] at textEq
          obtain ⟨rfl, behindEq⟩ :=
            solid_append_inj solid otherSolid
              (isBreak_head?_append longest.separates)
              (isBreak_head?_append otherLongest.separates) textEq
          obtain ⟨rfl, restEq⟩ := longest.unique otherLongest behindEq
          rw [unique otherRestSplit restEq]

/-- The members of a text are those that it is split into. -/
theorem IsSplit.members_text
    (split : layout.IsSplit) :
    Expression.members layout.text = layout.members := by
  induction split with
  | last solid =>
      exact members_of_solid solid
  | @more member separator rest solid longest restSplit membersEq =>
      obtain ⟨first, others, rfl, ends⟩ := longest.separates.exists_cons
      obtain ⟨dropped, textEq, dropsLongest⟩ :=
        exists_isLongest_dropSeparator ends (others ++ rest.text)
      obtain ⟨-, restEq⟩ := longest.unique dropsLongest textEq
      rw [text, members, List.append_assoc, List.cons_append,
        members_append solid ends, ← restEq, membersEq]

/-- Every text is split in some way; the cases are those of splitting itself. -/
theorem exists_isSplit (source : List Char) :
    ∃ layout : Layout, layout.IsSplit ∧ layout.text = source := by
  induction source using Expression.members.induct with
  | case1 source none =>
      have solid : ∀ character ∈ source, isBreak character = false := by
        simpa using List.dropWhile_eq_nil_iff.1 none
      exact ⟨last source, .last solid, rfl⟩
  | case2 source first rest found split =>
      have solid :
          ∀ character ∈
              source.takeWhile fun character => !isBreak character,
            isBreak character = false := by
        intro character inside
        simpa using List.mem_takeWhile_imp inside
      have ends : isBreak first = true := by
        have stops :
            ∀ character ∈
                (source.dropWhile fun character => !isBreak character).head?,
              (!isBreak character) = false :=
          head?_dropWhile
        simpa [found] using stops
      obtain ⟨separator, separatorEq, longest⟩ :=
        exists_isLongest_dropSeparator ends rest
      obtain ⟨layout, restSplit, restEq⟩ := split
      rw [← restEq] at separatorEq longest
      refine ⟨more _ separator layout, .more solid longest restSplit, ?_⟩
      rw [text, List.append_assoc, ← separatorEq, ← found,
        List.takeWhile_append_dropWhile]

end Split

/-! ## Written layouts -/

section Written

variable {layout : Layout}

theorem isBreak_head?_of_isMember
    {member : List Char}
    (whole : IsMember member)
    (following : List Char) :
    ∀ character ∈ (member ++ following).head?,
      isBreak character = false := by
  obtain ⟨first, others, rfl⟩ := List.exists_cons_of_ne_nil whole.nonempty
  rintro character ⟨⟩
  exact whole.solid first List.mem_cons_self

/-- A written layout begins with a character of its first member. -/
theorem IsWritten.isBreak_head?
    (written : layout.IsWritten) :
    ∀ character ∈ layout.text.head?, isBreak character = false := by
  cases written with
  | last whole =>
      simpa [text] using isBreak_head?_of_isMember whole []
  | more whole =>
      rw [text, List.append_assoc]
      exact isBreak_head?_of_isMember whole _

theorem IsWritten.text_ne_nil
    (written : layout.IsWritten) :
    layout.text ≠ [] := by
  cases written with
  | last whole => exact whole.nonempty
  | more whole => simp [text, whole.nonempty]

/-- A written layout ends with a character of its last member. -/
theorem IsWritten.isBreak_getLast?
    (written : layout.IsWritten) :
    ∀ character ∈ layout.text.getLast?, isBreak character = false := by
  induction written with
  | last whole =>
      exact fun character last =>
        whole.solid character (List.mem_of_getLast? last)
  | more whole separates restWritten ends =>
      rwa [text, List.getLast?_append_of_ne_nil _ restWritten.text_ne_nil]

/-- Written separators are the longest ones, since members stand behind them. -/
theorem IsWritten.isSplit
    (written : layout.IsWritten) :
    layout.IsSplit := by
  induction written with
  | last whole =>
      exact .last whole.solid
  | more whole separates restWritten restSplit =>
      have solid :=
        fun character head =>
          isBreak_eq_false_iff.1 (restWritten.isBreak_head? character head)
      exact .more whole.solid
        (isLongest_of_head? separates
          (fun character head => (solid character head).1)
          fun comma => absurd rfl (solid ',' comma).2)
        restSplit

/-- A stretch of breaks in a written layout lies within one separator. -/
theorem IsWritten.count_le
    {stretch : List Char}
    (written : layout.IsWritten)
    (breaks : ∀ character ∈ stretch, isBreak character = true)
    (inside : stretch <:+: layout.text) :
    stretch.count ',' ≤ 1 := by
  have noComma :
      ∀ {member : List Char}, IsMember member → member.count ',' = 0 :=
    fun whole => List.count_eq_zero_of_not_mem fun comma =>
      absurd (whole.solid ',' comma) (by decide)
  induction written with
  | last whole =>
      have bounded := inside.sublist.count_le ','
      rw [text, noComma whole] at bounded
      omega
  | @more member separator rest whole separates restWritten within =>
      obtain ⟨-, -, few⟩ := isSeparator_iff.1 separates
      have front :
          ∀ stretch : List Char,
            stretch <:+: member ++ separator → stretch.count ',' ≤ 1 := by
        intro stretch inFront
        have bounded := inFront.sublist.count_le ','
        rw [List.count_append, noComma whole, Nat.zero_add] at bounded
        exact bounded.trans few
      rcases List.infix_append_iff.1 inside with
        inFront | inRest | ⟨before, after, rfl, inFront, inRest⟩
      · exact front stretch inFront
      · exact within inRest
      · -- What reaches into the rest would begin with a break there.
        cases after with
        | nil =>
            rw [List.append_nil]
            exact front before inFront.isInfix
        | cons first others =>
            obtain ⟨behind, restEq⟩ := inRest
            have head : first ∈ rest.text.head? := by
              rw [← restEq]
              rfl
            have solid := restWritten.isBreak_head? first head
            rw [breaks first (by simp)] at solid
            cases solid

/-- A split layout with no break at either end, and no two commas in any stretch
of breaks, is written. -/
theorem IsSplit.isWritten
    (split : layout.IsSplit)
    (nonempty : layout.text ≠ [])
    (begins : ∀ character ∈ layout.text.head?, isBreak character = false)
    (ends : ∀ character ∈ layout.text.getLast?, isBreak character = false)
    (few :
      ∀ stretch,
        stretch <:+: layout.text →
        (∀ character ∈ stretch, isBreak character = true) →
        stretch.count ',' ≤ 1) :
    layout.IsWritten := by
  induction split with
  | last solid =>
      exact .last ⟨nonempty, solid⟩
  | @more member separator rest solid longest restSplit written =>
      rw [text] at begins ends
      obtain ⟨separatorNonempty, breaks, -⟩ :=
        isSeparator_iff.1 longest.separates
      have memberNonempty : member ≠ [] := by
        rintro rfl
        obtain ⟨first, others, rfl, isEnd⟩ := longest.separates.exists_cons
        have firstSolid := begins first rfl
        rw [isEnd] at firstSolid
        cases firstSolid
      have restNonempty : rest.text ≠ [] := by
        intro none
        rw [none, List.append_nil,
          List.getLast?_append_of_ne_nil _ separatorNonempty] at ends
        have lastSolid :=
          ends _ (List.getLast?_eq_some_getLast separatorNonempty)
        rw [breaks _ (List.getLast_mem separatorNonempty)] at lastSolid
        cases lastSolid
      -- A break there would bring a second comma into one stretch.
      have restBegins :
          ∀ character ∈ rest.text.head?, isBreak character = false := by
        intro character head
        refine Bool.eq_false_iff.2 fun isEnd => ?_
        obtain ⟨others, restEq⟩ :
            ∃ others, rest.text = character :: others :=
          ⟨_, List.eq_cons_of_mem_head? head⟩
        have stretch :
            ∀ other ∈ separator ++ [character], isBreak other = true :=
          List.forall_mem_append.2
            ⟨breaks, List.forall_mem_singleton.2 isEnd⟩
        have inside :
            separator ++ [character] <:+:
              (Layout.more member separator rest).text :=
          ⟨member, others, by simp [text, restEq]⟩
        have one := few _ inside stretch
        rw [restEq] at longest
        have two := longest.two_le_count isEnd
        omega
      rw [List.getLast?_append_of_ne_nil _ restNonempty] at ends
      exact .more ⟨memberNonempty, solid⟩ longest.separates
        (written restNonempty restBegins ends fun stretch inside =>
          few stretch (inside.trans (List.suffix_append _ _).isInfix))

/-- Exactly the firm texts with their commas apart can be laid out in members
that are not empty. -/
theorem exists_isWritten_iff
    {source : List Char}
    (firm : IsFirm source)
    (nonempty : source ≠ []) :
    (∃ layout : Layout, layout.IsWritten ∧ layout.text = source) ↔
      CommasApart source := by
  constructor
  · rintro ⟨layout, written, rfl⟩
    refine ⟨?_, ?_, ?_⟩
    · intro comma
      exact absurd (written.isBreak_head? ',' comma) (by decide)
    · intro comma
      exact absurd (written.isBreak_getLast? ',' comma) (by decide)
    · intro before run after textEq isRun
      exact written.count_le isRun.breaks ⟨before, after, textEq.symm⟩
  · intro apart
    obtain ⟨layout, split, rfl⟩ := exists_isSplit source
    refine ⟨layout, split.isWritten nonempty ?_ ?_ ?_, rfl⟩
    · intro character head
      refine isBreak_eq_false_iff.2 ⟨firm.begins character head, ?_⟩
      rintro rfl
      exact apart.head_ne head
    · intro character last
      refine isBreak_eq_false_iff.2 ⟨firm.ends character last, ?_⟩
      rintro rfl
      exact apart.last_ne last
    · exact fun stretch inside breaks => apart.count_le breaks inside

end Written

end Layout

/-! ## Reading lists -/

/-- The first member of a list that denotes no coin. -/
structure FirstFault
    (rule : DenomRule)
    (members : List (List Char))
    (index : Nat)
    (member : List Char) :
    Prop where
  member_eq : members[index]? = some member
  refused :
    ∀ result, coin rule (.text (String.ofList member)) ≠ .ok result
  earlier :
    ∀ before piece,
      before < index →
      members[before]? = some piece →
      ∃ result, coin rule (.text (String.ofList piece)) = .ok result

/-- The failure of a list names a member by its index and its text, also in
words. -/
structure NamesMember
    (source : List Char)
    (index : Nat)
    (member : List Char)
    (failure : Failure) :
    Prop where
  cause_eq :
    failure =
      .expressionMember index (String.ofList member) (String.ofList source)
  family_eq : failure.family = .expression
  message_eq :
    failure.message =
      "Invalid coin #" ++ Failure.countText index ++ " ('" ++
        String.ofList member ++ "') in coins expression '" ++
        String.ofList source ++ "'"

section Reading

variable {rule : DenomRule}

/-- A list fails with its first fault. -/
theorem exists_firstFault
    {source : List Char}
    {start : Nat}
    {pieces : List (List Char)}
    {failure : Failure}
    (failed :
      coinsOfMembers rule (String.ofList source) start pieces =
        .error failure) :
    ∃ index member,
      FirstFault rule pieces index member ∧
        NamesMember source (start + index) member failure := by
  induction pieces generalizing start with
  | nil =>
      cases failed
  | cons piece others fault =>
      rw [coinsOfMembers] at failed
      split at failed
      · rename_i refused
        cases failed
        refine ⟨0, piece, ⟨rfl, ?_, ?_⟩, rfl, rfl, rfl⟩
        · intro result denoted
          cases refused.symm.trans denoted
        · intro before _ below
          cases below
      · rename_i result denoted
        rcases Failure.bind_eq_error_iff.1 failed with
          restFailed | ⟨rest, -, none⟩
        · obtain ⟨index, member, first, names⟩ := fault restFailed
          refine ⟨index + 1, member, ⟨?_, first.refused, ?_⟩, ?_⟩
          · rw [List.getElem?_cons_succ]
            exact first.member_eq
          · rintro (_ | before) piece below found
            · cases found
              exact ⟨result, denoted⟩
            · exact first.earlier before piece (by omega) found
          · rwa [Nat.add_right_comm] at names
        · cases none

/-- An empty member denotes no coin. -/
theorem ne_nil_of_coin
    {member : List Char}
    {result : DecimalCoin}
    (denoted : coin rule (.text (String.ofList member)) = .ok result) :
    member ≠ [] := by
  rintro rfl
  have read : ofText? (String.ofList []).toList = none := by decide
  rw [coin, coinOfText, read] at denoted
  cases denoted

/-- A split layout all of whose members denote coins is written. -/
theorem Layout.IsSplit.isWritten_of_denoted
    {layout : Layout}
    {results : List DecimalCoin}
    (split : layout.IsSplit)
    (denoted :
      List.Forall₂
        (fun member result =>
          coin rule (.text (String.ofList member)) = .ok result)
        layout.members results) :
    layout.IsWritten := by
  induction split generalizing results with
  | last solid =>
      cases denoted with
      | cons first => exact .last ⟨ne_nil_of_coin first, solid⟩
  | more solid longest restSplit written =>
      cases denoted with
      | cons first others =>
          exact .more ⟨ne_nil_of_coin first, solid⟩ longest.separates
            (written others)

/-- A text that is not blank is read by the members that it is split into. -/
theorem coins_of_isSplit
    {source : String}
    {layout : Layout}
    (split : layout.IsSplit)
    (textEq : layout.text = strip source.toList)
    (nonempty : strip source.toList ≠ []) :
    coins rule (.text source) =
      coinsOfMembers rule (String.ofList (strip source.toList)) 0
        layout.members := by
  rw [← split.members_text, textEq]
  exact if_neg nonempty

end Reading

/-! ## The grammar -/

/--
Reading a list accepts exactly its grammar.  A blank text is the empty list.
Any other text is read as a list of coins exactly if, between blanks, it can be
laid out in members that are not empty, and these denote the coins one by one.
Such a layout is determined by the text, and there is one exactly if the text
keeps its commas apart.  Every text is split in one way, in members that may be
empty; if it is not read, the failure, one of expressions, names the first of
them that denotes no coin, with its index.
-/
theorem coins_grammar
    (rule : DenomRule) :
    (∀ source : String,
      strip source.toList = [] → coins rule (.text source) = .ok []) ∧
    (∀ (source : String) (results : List DecimalCoin),
      strip source.toList ≠ [] →
      (coins rule (.text source) = .ok results ↔
        ∃ layout : Layout,
          layout.IsWritten ∧
            layout.text = strip source.toList ∧
            List.Forall₂
              (fun member result =>
                coin rule (.text (String.ofList member)) = .ok result)
              layout.members results)) ∧
    (∀ first second : Layout,
      first.IsWritten →
      second.IsWritten →
      first.text = second.text →
      first = second) ∧
    (∀ source : String,
      strip source.toList ≠ [] →
      ((∃ layout : Layout,
          layout.IsWritten ∧ layout.text = strip source.toList) ↔
        CommasApart (strip source.toList))) ∧
    (∀ text : List Char,
      ∃! layout : Layout, layout.IsSplit ∧ layout.text = text) ∧
    ∀ (source : String) (layout : Layout),
      layout.IsSplit →
      layout.text = strip source.toList →
      strip source.toList ≠ [] →
      (∀ results, coins rule (.text source) ≠ .ok results) →
      ∃ index member failure,
        coins rule (.text source) = .error failure ∧
          FirstFault rule layout.members index member ∧
          NamesMember (strip source.toList) index member failure := by
  refine ⟨?_, ?_, ?_, ?_, ?_, ?_⟩
  · intro source blank
    exact if_pos blank
  · intro source results nonempty
    constructor
    · intro read
      obtain ⟨layout, split, textEq⟩ :=
        Layout.exists_isSplit (strip source.toList)
      rw [coins_of_isSplit split textEq nonempty,
        coinsOfMembers_eq_ok_iff] at read
      exact ⟨layout, split.isWritten_of_denoted read, textEq, read⟩
    · rintro ⟨layout, written, textEq, denoted⟩
      rw [coins_of_isSplit written.isSplit textEq nonempty,
        coinsOfMembers_eq_ok_iff]
      exact denoted
  · exact fun first second firstWritten secondWritten =>
      firstWritten.isSplit.unique secondWritten.isSplit
  · exact fun source => Layout.exists_isWritten_iff (isFirm_strip _)
  · intro text
    obtain ⟨layout, split, textEq⟩ := Layout.exists_isSplit text
    refine ⟨layout, ⟨split, textEq⟩, ?_⟩
    rintro other ⟨otherSplit, otherEq⟩
    exact otherSplit.unique split (otherEq.trans textEq.symm)
  · intro source layout split textEq nonempty refused
    cases answer : coins rule (.text source) with
    | ok results => exact absurd answer (refused results)
    | error failure =>
        rw [coins_of_isSplit split textEq nonempty] at answer
        obtain ⟨index, member, first, names⟩ := exists_firstFault answer
        rw [Nat.zero_add] at names
        exact ⟨index, member, failure, rfl, first, names⟩

/-- Two commas between two coins. -/
def emptyBetween : Layout :=
  .more "1.5atom".toList [','] (.more [] [','] (.last "1.5atom".toList))

/-- Two coins with one comma between blanks are read; with two commas the empty
member between them is the first fault. -/
theorem coins_grammar_emptyBetween :
    coins .standard (.text "\t1.5atom ,\u20031.5atom") =
        .ok [threeHalves, threeHalves] ∧
      coins .standard (.text "1.5atom,,1.5atom") =
        .error (.expressionMember 1 "" "1.5atom,,1.5atom") := by
  obtain ⟨-, accepts, -, apart, -, refuses⟩ := coins_grammar .standard
  have plain := plainName_of_standard threeHalves.accepted
  have written : Literal.IsWritten ⟨none, ['1'], ['5']⟩ :=
    ⟨by decide, List.forall_mem_singleton.2 (by decide),
      List.forall_mem_singleton.2 (by decide)⟩
  have value :
      Literal.toFixed ⟨none, ['1'], ['5']⟩ = .ok threeHalves.amount := by
    decide +kernel
  have denoted : coin .standard (.text "1.5atom") = .ok threeHalves :=
    coinOfText_append written plain threeHalves.accepted value rfl
  have whole : IsMember "1.5atom".toList := isMember_append written plain
  constructor
  · have separates : IsSeparator ([' '] ++ ',' :: ['\u2003']) :=
      .comma (List.forall_mem_singleton.2 (by decide))
        (List.forall_mem_singleton.2 (by decide))
    refine (accepts _ _ (by decide)).2
      ⟨_, .more whole separates (.last whole), by decide, ?_⟩
    exact .cons denoted (.cons denoted .nil)
  · have comma : IsSeparator [','] :=
      isSeparator_iff.2
        ⟨by decide, List.forall_mem_singleton.2 isBreak_comma, by decide⟩
    have split : emptyBetween.IsSplit := by
      refine .more whole.solid (isLongest_of_head? comma ?_ (by simp))
        (.more (List.forall_mem_nil _) (isLongest_of_head? comma ?_ (by simp))
          (.last whole.solid))
      all_goals
        rintro _ ⟨⟩
        decide
    have run : IsRun "1.5atom".toList [',', ','] "1.5atom".toList :=
      ⟨List.forall_mem_cons.2
          ⟨isBreak_comma, List.forall_mem_singleton.2 isBreak_comma⟩,
        fun _ last => whole.solid _ (List.mem_of_getLast? last),
        fun _ head => whole.solid _ (List.mem_of_mem_head? head)⟩
    have refused :
        ∀ results,
          coins .standard (.text "1.5atom,,1.5atom") ≠ .ok results := by
      intro results read
      obtain ⟨layout, isWritten, textEq, -⟩ :=
        (accepts _ _ (by decide)).1 read
      have few :=
        ((apart _ (by decide)).1 ⟨layout, isWritten, textEq⟩).run_le
          _ _ _ (by decide) run
      exact absurd few (by decide)
    obtain ⟨index, member, failure, failed, fault, names⟩ :=
      refuses _ emptyBetween split (by decide) (by decide) refused
    rw [failed, names.cause_eq]
    match index, fault with
    | 0, fault =>
        cases fault.member_eq
        exact absurd denoted (fault.refused threeHalves)
    | 1, fault =>
        cases fault.member_eq
        exact congrArg Except.error (by decide)
    | _ + 2, fault =>
        obtain ⟨result, read⟩ := fault.earlier 1 [] (by omega) rfl
        exact absurd rfl (ne_nil_of_coin read)

end Coinage.Expression
