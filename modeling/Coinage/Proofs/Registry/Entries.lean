import Coinage.Registry
import Mathlib.Tactic.SplitIfs

/-!
# Entries of a registry

Entering replaces what is known of a name or adds it at the end.  For a text the
answer to a lookup afterwards is plain, since a text is the same key only as
itself.  The name that is entered may be any value, even one that is not the
same key as itself.
-/

namespace Coinage

/-! ## Texts as keys -/

namespace Value

/-- A text equals itself alone. -/
theorem equals_text_iff
    {value : Value}
    {content : String} :
    value.equals (.text content) = true ↔ value = .text content := by
  unfold equals
  rw [exactNumber?_text]
  cases found : value.exactNumber? with
  | none => exact beq_iff_eq
  | some number =>
      refine iff_of_false nofun ?_
      rintro rfl
      cases found

theorem text_equals
    (value : Value)
    (content : String) :
    (Value.text content).equals value = value.equals (.text content) := by
  unfold equals
  rw [exactNumber?_text]
  cases value.exactNumber? with
  | none => exact BEq.comm
  | some number => rfl

theorem sameKey_text_iff
    {value : Value}
    {content : String} :
    value.sameKey (.text content) = true ↔ value = .text content := by
  have equal :
      value.sameKey (.text content) = value.equals (.text content) := by
    cases value with
    | text | integer | float | decimal | boolean | absent | nan => rfl
  rw [equal, equals_text_iff]

theorem text_sameKey_iff
    {value : Value}
    {content : String} :
    (Value.text content).sameKey value = true ↔ value = .text content := by
  have equal :
      (Value.text content).sameKey value =
        (Value.text content).equals value := by
    cases value with
    | text | integer | float | decimal | boolean | absent | nan => rfl
  rw [equal, text_equals, equals_text_iff]

end Value

/-! ## Entering into a list of entries -/

namespace Entry

theorem find?_cons_of_name_eq
    {first : Entry}
    {content : String}
    (rest : List Entry)
    (named : first.name = .text content) :
    (first :: rest).find?
        (fun other => other.name.sameKey (.text content)) =
      some first :=
  List.find?_cons_of_pos (Value.sameKey_text_iff.2 named)

theorem find?_cons_of_name_ne
    {first : Entry}
    {content : String}
    (rest : List Entry)
    (different : first.name ≠ .text content) :
    (first :: rest).find?
        (fun other => other.name.sameKey (.text content)) =
      rest.find? fun other => other.name.sameKey (.text content) :=
  List.find?_cons_of_neg
    (fun found => different (Value.sameKey_text_iff.1 found))

variable (entry : Entry)

@[simp]
theorem put_nil :
    entry.put [] = [entry] :=
  rfl

/-- The place where a name is entered has that name, or the same key. -/
theorem mem_put (entries : List Entry) :
    ∃ name,
      (name = entry.name ∨ name.sameKey entry.name = true) ∧
        { entry with name := name } ∈ entry.put entries := by
  induction entries with
  | nil =>
      exact ⟨entry.name, .inl rfl, List.mem_singleton_self _⟩
  | cons first rest entered =>
      rw [put]
      split_ifs with same
      · exact ⟨first.name, .inr same, List.mem_cons_self⟩
      · obtain ⟨name, named, member⟩ := entered
        exact ⟨name, named, List.mem_cons_of_mem _ member⟩

/-- A name that is the same key as itself is found where it was entered. -/
theorem find?_put_self
    (entries : List Entry)
    (reflexive : entry.name.sameKey entry.name = true) :
    ∃ name,
      (entry.put entries).find?
          (fun other => other.name.sameKey entry.name) =
        some { entry with name := name } := by
  induction entries with
  | nil =>
      exact ⟨entry.name, List.find?_cons_of_pos reflexive⟩
  | cons first rest found =>
      rw [put]
      split_ifs with same
      · exact ⟨first.name, List.find?_cons_of_pos same⟩
      · obtain ⟨name, found⟩ := found
        refine ⟨name, ?_⟩
        rw [← found]
        exact List.find?_cons_of_neg same

/-- Entering changes what is known of one text at most. -/
theorem find?_put
    (entries : List Entry)
    (content : String) :
    (entry.put entries).find?
        (fun other => other.name.sameKey (.text content)) =
      if entry.name = .text content then some entry
      else entries.find? fun other => other.name.sameKey (.text content) := by
  induction entries with
  | nil =>
      rw [put_nil, List.find?_singleton]
      simp only [Value.sameKey_text_iff, List.find?_nil]
  | cons first rest entered =>
      rw [put]
      split_ifs with same named named
      · -- The place that is replaced has this very text as its name.
        rw [named, Value.sameKey_text_iff] at same
        have whole : ({ entry with name := first.name } : Entry) = entry := by
          rw [same, ← named]
        rw [whole, find?_cons_of_name_eq rest named]
      · have other : first.name ≠ .text content := by
          intro firstEq
          rw [firstEq, Value.text_sameKey_iff] at same
          exact named same
        have renamed :
            ({ entry with name := first.name } : Entry).name ≠
              .text content :=
          other
        rw [find?_cons_of_name_ne rest renamed,
          find?_cons_of_name_ne rest other]
      · have other : first.name ≠ .text content := by
          intro firstEq
          rw [named, firstEq] at same
          exact same (Value.sameKey_text_iff.2 rfl)
        rw [find?_cons_of_name_ne _ other, entered, if_pos named]
      · rw [List.find?_cons, List.find?_cons, entered, if_neg named]

/-- A text that is entered changes what is known of itself alone, also among
keys that are no texts. -/
theorem find?_put_of_text
    {content : String}
    (named : entry.name = .text content)
    (entries : List Entry)
    (value : Value) :
    (entry.put entries).find? (fun other => other.name.sameKey value) =
      if value = .text content then some entry
      else entries.find? fun other => other.name.sameKey value := by
  by_cases same : value = .text content
  · rw [same, find?_put, if_pos named, if_pos rfl]
  rw [if_neg same]
  -- Neither the entry nor a place with its name is found under another key.
  have skipped :
      ∀ (other : Entry) (rest : List Entry),
        other.name = .text content →
          (other :: rest).find? (fun other => other.name.sameKey value) =
            rest.find? fun other => other.name.sameKey value := by
    intro other rest otherNamed
    refine List.find?_cons_of_neg fun found => ?_
    rw [otherNamed, Value.text_sameKey_iff] at found
    exact same found
  induction entries with
  | nil =>
      exact skipped entry [] named
  | cons first rest entered =>
      rw [put]
      split_ifs with replaced
      · rw [named, Value.sameKey_text_iff] at replaced
        rw [skipped first rest replaced]
        exact skipped { entry with name := first.name } rest replaced
      · rw [List.find?_cons, List.find?_cons, entered]

/-- A name is added at the end if it is new. -/
theorem map_name_put (entries : List Entry) :
    (entry.put entries).map Entry.name =
      if entries.any fun other => other.name.sameKey entry.name then
        entries.map Entry.name
      else entries.map Entry.name ++ [entry.name] := by
  induction entries with
  | nil =>
      rfl
  | cons first rest entered =>
      rw [put]
      cases same : first.name.sameKey entry.name with
      | true =>
          rw [if_pos rfl, List.any_cons, same, Bool.true_or, if_pos rfl]
          rfl
      | false =>
          rw [if_neg (by decide), List.any_cons, same, Bool.false_or,
            List.map_cons, List.map_cons, entered]
          split_ifs
          · rfl
          · rfl

/-- What is new to all entries is added at the end. -/
theorem put_of_find?_eq_none
    {entries : List Entry}
    (absent :
      entries.find? (fun other => other.name.sameKey entry.name) = none) :
    entry.put entries = entries ++ [entry] := by
  induction entries with
  | nil =>
      rfl
  | cons first rest entered =>
      rw [List.find?_eq_none] at absent
      rw [put, if_neg (absent first List.mem_cons_self),
        entered (List.find?_eq_none.2 fun other member =>
          absent other (List.mem_cons_of_mem _ member)),
        List.cons_append]

end Entry

/-! ## Entering into a registry -/

namespace Registry

variable {registry : Registry}

/-- What is known of a text afterwards. -/
theorem find?_enter
    (registry : Registry)
    (entry : Entry)
    (content : String) :
    (registry.enter entry).find? (.text content) =
      if entry.name = .text content then some entry
      else registry.find? (.text content) :=
  entry.find?_put registry.entries content

/-- What is known of any value after a text was entered. -/
theorem find?_enter_of_text
    {entry : Entry}
    {content : String}
    (named : entry.name = .text content)
    (value : Value) :
    (registry.enter entry).find? value =
      if value = .text content then some entry
      else registry.find? value :=
  entry.find?_put_of_text named registry.entries value

theorem enter_of_find?_eq_none
    {entry : Entry}
    (absent : registry.find? entry.name = none) :
    registry.enter entry =
      ⟨registry.rule, registry.entries ++ [entry]⟩ := by
  rw [enter, entry.put_of_find?_eq_none absent]

theorem find?_text_eq_none_iff
    {content : String} :
    registry.find? (.text content) = none ↔
      Value.text content ∉ registry.names := by
  rw [find?, List.find?_eq_none, names, List.mem_map]
  simp only [Value.sameKey_text_iff, not_exists, not_and]

/-- A text is added to the names if it is new. -/
theorem names_enter
    {entry : Entry}
    {content : String}
    (named : entry.name = .text content) :
    (registry.enter entry).names =
      if entry.name ∈ registry.names then registry.names
      else registry.names ++ [entry.name] := by
  have known :
      (registry.entries.any fun other =>
          other.name.sameKey entry.name) = true ↔
        entry.name ∈ registry.names := by
    rw [List.any_eq_true, names, List.mem_map, named]
    simp only [Value.sameKey_text_iff]
  rw [names, enter, Entry.map_name_put]
  by_cases member : entry.name ∈ registry.names
  · rw [if_pos (known.2 member), if_pos member, names]
  · rw [if_neg (fun any => member (known.1 any)), if_neg member, names]

/-! ## Lookups -/

/-- The unit size and the base of a text that has an entry. -/
theorem unit?_of_find?
    {content : String}
    {entry : Entry}
    (found : registry.find? (.text content) = some entry) :
    registry.unit? (.text content) =
      if registry.rule.accepts content then some entry.unit else none := by
  rw [unit?, DenomRule.admits_text, found, Option.map_some]

theorem unit?_of_find?_eq_none
    {content : String}
    (absent : registry.find? (.text content) = none) :
    registry.unit? (.text content) = none := by
  rw [unit?, absent, Option.map_none, ite_self]

/-- A link leads to a text unless that text is empty. -/
theorem base_of_find?
    {content link : String}
    {entry : Entry}
    (found : registry.find? (.text content) = some entry)
    (linked : entry.base? = some (.text link)) :
    registry.base (.text content) =
      if link = "" then .error (.unlinked content)
      else .ok (.text link) := by
  rw [base, if_pos (Value.isKey_text content), found, Option.bind_some,
    Entry.usableBase?, linked, Option.filter_some, Value.isVacant_text]
  by_cases empty : link = ""
  · subst empty
    rfl
  · rw [if_neg empty, if_pos (by simpa using empty)]

theorem base_of_find?_eq_none
    {content : String}
    (absent : registry.find? (.text content) = none) :
    registry.base (.text content) = .error (.unlinked content) := by
  rw [base, if_pos (Value.isKey_text content), absent]
  rfl

end Registry

end Coinage
