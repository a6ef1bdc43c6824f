import Coinage.Expression.Sequence
import Coinage.Proofs.Expression

/-!
# Printing and reading lists of coins

`Joined` says without an algorithm what a text of members with separators is.
Splitting such a text gives the members back, as long as none of them is empty or
contains a blank or a comma.  The texts of coins with plain names are such
members, so lists of coins survive printing and reading, whatever separators are
chosen; and every list that is read at all is one that can be printed.
-/

namespace Coinage.Expression

open Coinage.Text

/-! ## Texts of members -/

/-- What may stand between two members: one comma with any blanks around it, or
blanks alone, at least one. -/
inductive IsSeparator : List Char → Prop where
  | comma {before after : List Char} :
      (∀ character ∈ before, isBlank character = true) →
      (∀ character ∈ after, isBlank character = true) →
      IsSeparator (before ++ ',' :: after)
  | blanks {separator : List Char} :
      separator ≠ [] →
      (∀ character ∈ separator, isBlank character = true) →
      IsSeparator separator

/-- A text of members, with a separator between any two neighbours. -/
inductive Joined : List (List Char) → List Char → Prop where
  | none : Joined [] []
  | last (member : List Char) : Joined [member] member
  | more {member separator next text : List Char}
      {others : List (List Char)} :
      IsSeparator separator →
      Joined (next :: others) text →
      Joined (member :: next :: others) (member ++ separator ++ text)

/-- A text that no separator can divide: it is not empty, and has no blank and
no comma. -/
structure IsMember (member : List Char) : Prop where
  nonempty : member ≠ []
  solid : ∀ character ∈ member, isBreak character = false

theorem IsMember.isFirm
    {member : List Char}
    (whole : IsMember member) :
    IsFirm member :=
  isFirm_of_forall fun character inside =>
    (isBreak_eq_false_iff.1 (whole.solid character inside)).1

theorem joined_intercalate (members : List (List Char)) :
    Joined members ([','].intercalate members) := by
  induction members with
  | nil =>
      exact .none
  | cons member others joined =>
      cases others with
      | nil =>
          rw [List.intercalate_singleton]
          exact .last member
      | cons next others =>
          rw [List.intercalate_cons_cons]
          have comma : IsSeparator ([] ++ ',' :: []) :=
            .comma (by simp) (by simp)
          exact .more comma joined

/-! ## Splitting -/

section Splitting

variable
    {member separator text : List Char}
    {others : List (List Char)}

/-- A separator begins with the character that ends the member before it. -/
theorem IsSeparator.exists_cons
    (separates : IsSeparator separator) :
    ∃ first rest,
      separator = first :: rest ∧ isBreak first = true := by
  cases separates with
  | @comma before after blankBefore blankAfter =>
      cases before with
      | nil =>
          exact ⟨',', after, rfl, rfl⟩
      | cons first rest =>
          refine ⟨first, rest ++ ',' :: after, rfl, ?_⟩
          rw [isBreak, blankBefore first List.mem_cons_self, Bool.true_or]
  | blanks nonempty blank =>
      obtain ⟨first, rest, rfl⟩ := List.exists_cons_of_ne_nil nonempty
      refine ⟨first, rest, rfl, ?_⟩
      rw [isBreak, blank first List.mem_cons_self, Bool.true_or]

/-- A separator is dropped as a whole in front of a member. -/
theorem dropSeparator_append
    (separates : IsSeparator separator)
    (begins : ∀ character ∈ text.head?, isBreak character = false) :
    dropSeparator (separator ++ text) = text := by
  have solid : ∀ character ∈ text.head?, isBlank character = false :=
    fun character head => (isBreak_eq_false_iff.1 (begins character head)).1
  cases separates with
  | @comma before after blankBefore blankAfter =>
      have comma :
          ∀ character ∈ (',' :: (after ++ text)).head?,
            isBlank character = false := by
        rintro character ⟨⟩
        decide
      rw [dropSeparator, List.append_assoc, List.cons_append,
        dropWhile_append_of_head? blankBefore comma]
      exact dropWhile_append_of_head? blankAfter solid
  | blanks nonempty blank =>
      rw [dropSeparator, dropWhile_append_of_head? blank solid]
      split
      · exact absurd (begins ',' rfl) (by decide)
      · rfl

/-- A member is what is taken from a text up to the first blank or comma. -/
theorem solid_append
    {rest : List Char}
    (solid : ∀ character ∈ member, isBreak character = false)
    (ends : ∀ character ∈ rest.head?, isBreak character = true) :
    (member ++ rest).takeWhile (fun character => !isBreak character) =
        member ∧
      (member ++ rest).dropWhile (fun character => !isBreak character) =
        rest := by
  have taken :
      ∀ character ∈ member, (!isBreak character) = true := by
    intro character inside
    rw [solid character inside]
    rfl
  have stops :
      ∀ character ∈ rest.head?, (!isBreak character) = false := by
    intro character head
    rw [ends character head]
    rfl
  exact ⟨takeWhile_append_of_head? taken stops,
    dropWhile_append_of_head? taken stops⟩

theorem members_of_solid
    (solid : ∀ character ∈ text, isBreak character = false) :
    members text = [text] := by
  have ends :
      ∀ character ∈ ([] : List Char).head?, isBreak character = true := by
    simp
  obtain ⟨taken, dropped⟩ := solid_append solid ends
  rw [List.append_nil] at taken dropped
  rw [members]
  split
  · rw [taken]
  · rename_i found
    rw [dropped] at found
    cases found

/-- The first member ends at the first blank or comma. -/
theorem members_append
    {first : Char}
    {rest : List Char}
    (solid : ∀ character ∈ member, isBreak character = false)
    (ends : isBreak first = true) :
    members (member ++ first :: rest) =
      member :: members (dropSeparator (first :: rest)) := by
  have stops :
      ∀ character ∈ (first :: rest).head?, isBreak character = true := by
    rintro character ⟨⟩
    exact ends
  obtain ⟨taken, dropped⟩ := solid_append solid stops
  rw [members]
  split
  · rename_i found
    rw [dropped] at found
    cases found
  · rename_i found
    rw [dropped] at found
    cases found
    rw [taken]

/-- A text begins as its first member does. -/
theorem Joined.head?_eq
    (joined : Joined (member :: others) text)
    (nonempty : member ≠ []) :
    text.head? = member.head? := by
  cases joined with
  | last => rfl
  | more separates joined =>
      obtain ⟨first, rest, rfl⟩ := List.exists_cons_of_ne_nil nonempty
      rfl

/-- Joined members are the members of their text. -/
theorem members_of_joined
    (joined : Joined (member :: others) text)
    (whole : ∀ piece ∈ member :: others, IsMember piece) :
    members text = member :: others := by
  induction others generalizing member text with
  | nil =>
      cases joined with
      | last =>
          exact members_of_solid (whole member List.mem_cons_self).solid
  | cons next others split_text =>
      cases joined with
      | @more _ separator _ text _ separates joined =>
          have nextWhole : ∀ piece ∈ next :: others, IsMember piece :=
            fun piece inside => whole piece (List.mem_cons_of_mem _ inside)
          have begins :
              ∀ character ∈ text.head?, isBreak character = false := by
            intro character head
            have nextMember := nextWhole next List.mem_cons_self
            rw [joined.head?_eq nextMember.nonempty] at head
            exact nextMember.solid character (List.mem_of_mem_head? head)
          obtain ⟨first, rest, separatorEq, ends⟩ := separates.exists_cons
          have dropped := dropSeparator_append separates begins
          rw [separatorEq, List.cons_append] at dropped
          rw [separatorEq, List.append_assoc, List.cons_append,
            members_append (whole member List.mem_cons_self).solid ends,
            dropped, split_text joined nextWhole]

/-- Joined members leave no blank at either end of their text. -/
theorem Joined.isFirm
    {pieces : List (List Char)}
    (joined : Joined pieces text)
    (whole : ∀ piece ∈ pieces, IsMember piece) :
    IsFirm text := by
  induction joined with
  | none =>
      exact isFirm_of_forall (by simp)
  | last member =>
      exact (whole member List.mem_cons_self).isFirm
  | @more member separator next text others separates joined firm =>
      have nextWhole : ∀ piece ∈ next :: others, IsMember piece :=
        fun piece inside => whole piece (List.mem_cons_of_mem _ inside)
      have textFirm := firm nextWhole
      have memberWhole := whole member List.mem_cons_self
      constructor
      · intro character head
        refine memberWhole.isFirm.begins character ?_
        obtain ⟨first, rest, rfl⟩ :=
          List.exists_cons_of_ne_nil memberWhole.nonempty
        exact head
      · intro character last
        refine textFirm.ends character ?_
        have nonempty : text ≠ [] := by
          rintro rfl
          have headEq :=
            joined.head?_eq (nextWhole next List.mem_cons_self).nonempty
          exact (nextWhole next List.mem_cons_self).nonempty
            (List.head?_eq_none_iff.1 headEq.symm)
        rw [List.getLast?_append_of_ne_nil _ nonempty] at last
        exact last

end Splitting

/-! ## Reading lists -/

section Reading

variable
    {rule : DenomRule}
    {coins : List DecimalCoin}

/-- Members denote a list of coins exactly if each denotes its own coin. -/
theorem coinsOfMembers_eq_ok_iff
    {source : String}
    {index : Nat}
    {pieces : List (List Char)} :
    coinsOfMembers rule source index pieces = .ok coins ↔
      List.Forall₂
        (fun piece coin => coinOfText rule (String.ofList piece) = .ok coin)
        pieces coins := by
  induction pieces generalizing index coins with
  | nil =>
      constructor
      · rintro ⟨⟩
        exact .nil
      · rintro ⟨⟩
        rfl
  | cons piece others read =>
      rw [coinsOfMembers]
      constructor
      · intro answered
        split at answered
        · cases answered
        · rename_i coin denoted
          obtain ⟨rest, restAnswered, same⟩ :=
            Failure.bind_eq_ok_iff.1 answered
          cases same
          exact .cons denoted (read.1 restAnswered)
      · rintro (_ | ⟨denoted, rest⟩)
        rw [denoted]
        dsimp only
        rw [read.2 rest]
        rfl

/-- Joined members between blanks denote the coins of the members. -/
theorem coinsOfText_of_joined
    {before text after : List Char}
    {pieces : List (List Char)}
    (joined : Joined pieces text)
    (whole : ∀ piece ∈ pieces, IsMember piece)
    (blankBefore : ∀ character ∈ before, isBlank character = true)
    (blankAfter : ∀ character ∈ after, isBlank character = true)
    (denoted :
      List.Forall₂
        (fun piece coin => coinOfText rule (String.ofList piece) = .ok coin)
        pieces coins) :
    coinsOfText rule (String.ofList (before ++ text ++ after)) =
      .ok coins := by
  have stripped :
      strip (String.ofList (before ++ text ++ after)).toList = text := by
    rw [String.toList_ofList]
    exact strip_append (joined.isFirm whole) blankBefore blankAfter
  rw [coinsOfText, stripped]
  cases pieces with
  | nil =>
      cases joined
      cases denoted
      rfl
  | cons piece others =>
      have pieceWhole := whole piece List.mem_cons_self
      have nonempty : text ≠ [] := by
        rintro rfl
        have headEq := joined.head?_eq pieceWhole.nonempty
        exact pieceWhole.nonempty (List.head?_eq_none_iff.1 headEq.symm)
      rw [members_of_joined joined whole]
      exact (if_neg nonempty).trans (coinsOfMembers_eq_ok_iff.2 denoted)

/-- Each coin of a list that is read has a plain name and the rule that was
read by. -/
theorem plainName_of_coins
    {source : Value}
    (read : Expression.coins rule source = .ok coins) :
    ∀ coin ∈ coins, PlainName coin.denom.toList ∧ coin.rule = rule := by
  cases source with
  | text content =>
      change coinsOfText rule content = .ok coins at read
      rw [coinsOfText] at read
      split_ifs at read with empty
      · cases read
        simp
      · have each := coinsOfMembers_eq_ok_iff.1 read
        generalize members (strip content.toList) = pieces at each
        clear read
        induction each with
        | nil =>
            simp
        | cons denoted _ rest =>
            exact List.forall_mem_cons.2
              ⟨plainName_of_coinOfText denoted, rest⟩
  | integer | float | decimal | boolean | absent | nan => cases read

theorem family_of_coinsOfMembers_error
    {source : String}
    {index : Nat}
    {pieces : List (List Char)}
    {failure : Failure}
    (failed : coinsOfMembers rule source index pieces = .error failure) :
    failure.family = .expression := by
  induction pieces generalizing index with
  | nil =>
      cases failed
  | cons piece others family =>
      rw [coinsOfMembers] at failed
      split at failed
      · cases failed
        rfl
      · cases rest : coinsOfMembers rule source (index + 1) others with
        | error restFailure =>
            rw [rest, Failure.error_bind] at failed
            cases failed
            exact family rest
        | ok _ =>
            rw [rest, Failure.ok_bind] at failed
            cases failed

/-- Every failure to read a list of coins is one of expressions. -/
theorem family_of_coins_error
    {source : Value}
    {failure : Failure}
    (failed : Expression.coins rule source = .error failure) :
    failure.family = .expression := by
  cases source with
  | text content =>
      change coinsOfText rule content = .error failure at failed
      rw [coinsOfText] at failed
      split_ifs at failed
      exact family_of_coinsOfMembers_error failed
  | integer | float | decimal | boolean | absent | nan =>
      cases failed
      rfl

/-- A written amount and a plain name make a member. -/
theorem isMember_append
    {literal : Literal}
    {name : List Char}
    (written : literal.IsWritten)
    (plain : PlainName name) :
    IsMember (literal.text ++ name) := by
  constructor
  · intro empty
    exact plain.nonempty (List.append_eq_nil_iff.1 empty).2
  · intro character inside
    rcases List.mem_append.1 inside with amount | denom
    · exact isBreak_of_mem_text written amount
    · exact plain.isBreak_eq_false character denom

/-- The text of a coin with a plain name is a member. -/
theorem isMember_text
    {coin : DecimalCoin}
    (plain : PlainName coin.denom.toList) :
    IsMember coin.text.toList := by
  rw [coin.text_eq, String.toList_append, String.toList_ofList]
  exact isMember_append (Literal.isWritten_ofUnits _ _) plain

theorem isMember_text_whole
    {coin : Coin}
    (plain : PlainName coin.denom.toList) :
    IsMember coin.text.toList := by
  rw [coin.text_eq, String.toList_append, String.toList_ofList]
  exact isMember_append (Literal.isWritten_ofUnits _ _) plain

/-- A member alone denotes the list of its coin. -/
theorem coins_of_isMember
    {text : String}
    {coin : DecimalCoin}
    (whole : IsMember text.toList)
    (denoted : coinOfText rule text = .ok coin) :
    Expression.coins rule (.text text) = .ok [coin] := by
  have listed :
      List.Forall₂
        (fun piece other => coinOfText rule (String.ofList piece) = .ok other)
        [text.toList] [coin] := by
    refine .cons ?_ .nil
    rwa [String.ofList_toList]
  have read :=
    coinsOfText_of_joined (.last text.toList)
      (List.forall_mem_singleton.2 whole)
      (List.forall_mem_nil _) (List.forall_mem_nil _) listed
  rwa [List.nil_append, List.append_nil, String.ofList_toList] at read

/-- A coin that is read for another one: the name and the amount are the same,
and the rule is the one that was read by. -/
structure Rereads
    (rule : DenomRule)
    (coin reread : DecimalCoin) :
    Prop where
  denom_eq : reread.denom = coin.denom
  amount_eq : reread.amount = coin.amount
  rule_eq : reread.rule = rule

theorem Rereads.eq
    {coin reread : DecimalCoin}
    (same : Rereads rule coin reread)
    (ruleEq : coin.rule = rule) :
    reread = coin := by
  have scaledEq : reread.amount.scaled = coin.amount.scaled := by
    rw [same.amount_eq]
  exact DecimalCoin.eq_of_scaled (same.rule_eq.trans ruleEq.symm) same.denom_eq
    scaledEq

theorem exists_reread
    (plain :
      ∀ coin ∈ coins,
        PlainName coin.denom.toList ∧ rule.accepts coin.denom = true) :
    ∃ reread,
      List.Forall₂
          (fun coin other => coinOfText rule coin.text = .ok other)
          coins reread ∧
        List.Forall₂ (Rereads rule) coins reread := by
  induction coins with
  | nil =>
      exact ⟨[], .nil, .nil⟩
  | cons coin others reread =>
      obtain ⟨⟨name, accepted⟩, othersPlain⟩ := List.forall_mem_cons.1 plain
      obtain ⟨rest, denoted, same⟩ := reread othersPlain
      exact ⟨coin.underRule accepted :: rest,
        .cons (coinOfText_text name accepted) denoted,
        .cons ⟨rfl, rfl, rfl⟩ same⟩

/-- A text of coins is read as these coins, whatever separators are chosen. -/
theorem exists_rereads
    {before text after : List Char}
    (plain :
      ∀ coin ∈ coins,
        PlainName coin.denom.toList ∧ rule.accepts coin.denom = true)
    (joined : Joined (coins.map fun coin => coin.text.toList) text)
    (blankBefore : ∀ character ∈ before, isBlank character = true)
    (blankAfter : ∀ character ∈ after, isBlank character = true) :
    ∃ reread,
      Expression.coins rule
          (.text (String.ofList (before ++ text ++ after))) =
        .ok reread ∧
      List.Forall₂ (Rereads rule) coins reread := by
  have whole :
      ∀ piece ∈ coins.map fun coin => coin.text.toList, IsMember piece := by
    intro piece inside
    obtain ⟨coin, listed, rfl⟩ := List.mem_map.1 inside
    exact isMember_text (plain coin listed).1
  obtain ⟨reread, denoted, same⟩ := exists_reread plain
  refine ⟨reread, ?_, same⟩
  refine coinsOfText_of_joined joined whole blankBefore blankAfter ?_
  rw [List.forall₂_map_left_iff]
  simpa only [String.ofList_toList] using denoted

end Reading

/-! ## Printing and reading -/

/--
Printing and reading are inverse on lists of coins.  Names by the standard rule
are plain.  The texts of coins with plain names that the rule accepts, with any
separators between neighbours and any blanks around them all, are read as the
same names and amounts in the same order.  Conversely all coins that are read
from a text have plain names, and their texts with commas between them are read
as the same list.
-/
theorem coins_texts_inverse
    (rule : DenomRule) :
    (∀ name : String,
      DenomRule.standard.accepts name = true →
      PlainName name.toList) ∧
    (∀ (coins : List DecimalCoin) (before text after : List Char),
      (∀ coin ∈ coins,
        PlainName coin.denom.toList ∧ rule.accepts coin.denom = true) →
      Joined (coins.map fun coin => coin.text.toList) text →
      (∀ character ∈ before, isBlank character = true) →
      (∀ character ∈ after, isBlank character = true) →
      ∃ reread,
        Expression.coins rule
            (.text (String.ofList (before ++ text ++ after))) =
          .ok reread ∧
        List.Forall₂ (Rereads rule) coins reread) ∧
    ∀ (source : Value) (coins : List DecimalCoin),
      Expression.coins rule source = .ok coins →
      (∀ coin ∈ coins, PlainName coin.denom.toList) ∧
        Expression.coins rule
            (.text (",".intercalate (coins.map DecimalCoin.text))) =
          .ok coins := by
  refine ⟨fun name => plainName_of_standard,
    fun coins before text after => exists_rereads, ?_⟩
  intro source coins read
  have known := plainName_of_coins read
  refine ⟨fun coin listed => (known coin listed).1, ?_⟩
  have plain :
      ∀ coin ∈ coins,
        PlainName coin.denom.toList ∧ rule.accepts coin.denom = true := by
    intro coin listed
    obtain ⟨name, ruleEq⟩ := known coin listed
    refine ⟨name, ?_⟩
    rw [← ruleEq]
    exact coin.accepted
  have textEq :
      ",".intercalate (coins.map DecimalCoin.text) =
        String.ofList
          ([] ++ [','].intercalate (coins.map fun coin => coin.text.toList) ++
            []) := by
    rw [List.nil_append, List.append_nil, ← String.toList_inj,
      String.toList_intercalate, List.map_map]
    exact String.toList_ofList.symm
  obtain ⟨reread, rereads, same⟩ :=
    exists_rereads plain (joined_intercalate _)
      (List.forall_mem_nil _) (List.forall_mem_nil _)
  have each : List.Forall₂ Eq coins reread :=
    ((List.forall₂_and_left _ _).2
      ⟨fun coin listed => (known coin listed).2, same⟩).imp
        fun coin other both => (both.2.eq both.1).symm
  rw [List.forall₂_eq_eq_eq] at each
  rw [textEq, rereads, each]

/-- Three halves of an atom. -/
def threeHalves : DecimalCoin :=
  ⟨.standard, "atom", ⟨⟨false, 15 * 10 ^ 17⟩, by decide +kernel⟩,
    by decide, rfl⟩

/-- Two millionths of an atom. -/
def twoMicro : DecimalCoin :=
  ⟨.standard, "uatom", ⟨⟨false, 2 * 10 ^ 18⟩, by decide +kernel⟩,
    by decide, rfl⟩

/-- Two coins behind a line break, with a comma between blanks that are not of
ASCII, are read, and the coins that are read can be printed. -/
theorem coins_texts_inverse_twoAtoms :
    ∃ reread,
      Expression.coins .standard
          (.text
            "\n1.500000000000000000atom\u2003,\u30002.000000000000000000uatom") =
        .ok reread ∧
      List.Forall₂ (Rereads .standard) [threeHalves, twoMicro] reread ∧
      Expression.coins .standard
          (.text (",".intercalate (reread.map DecimalCoin.text))) =
        .ok reread := by
  obtain ⟨-, printed, read⟩ := coins_texts_inverse .standard
  have plain :
      ∀ coin ∈ [threeHalves, twoMicro],
        PlainName coin.denom.toList ∧
          DenomRule.standard.accepts coin.denom = true := by
    simp only [List.forall_mem_cons, List.not_mem_nil, false_imp_iff,
      implies_true, and_true]
    exact
      ⟨⟨plainName_of_standard threeHalves.accepted, threeHalves.accepted⟩,
        plainName_of_standard twoMicro.accepted, twoMicro.accepted⟩
  have joined :
      Joined ([threeHalves, twoMicro].map fun coin => coin.text.toList)
        (threeHalves.text.toList ++ (['\u2003'] ++ ',' :: ['\u3000']) ++
          twoMicro.text.toList) :=
    .more
      (.comma
        (List.forall_mem_singleton.2 (by decide))
        (List.forall_mem_singleton.2 (by decide)))
      (.last _)
  obtain ⟨reread, denoted, same⟩ :=
    printed _ ['\n'] _ [] plain joined
      (List.forall_mem_singleton.2 (by decide)) (List.forall_mem_nil _)
  have textEq :
      String.ofList
          (['\n'] ++
            (threeHalves.text.toList ++ (['\u2003'] ++ ',' :: ['\u3000']) ++
              twoMicro.text.toList) ++ []) =
        "\n1.500000000000000000atom\u2003,\u30002.000000000000000000uatom" := by
    decide
  rw [textEq] at denoted
  exact ⟨reread, denoted, same, (read _ _ denoted).2⟩

end Coinage.Expression
