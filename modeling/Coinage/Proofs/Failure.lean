import Coinage.Failure
import Mathlib.Init

/-!
# Attempts one after the other

Every operation that can fail is a chain of attempts.  These lemmas open such a
chain: a success hands on its result, a failure ends the chain, and a chain
succeeds exactly if each of its attempts does.
-/

namespace Coinage.Failure

variable {Start Result : Type}

@[simp]
theorem ok_bind
    (result : Start)
    (next : Start → Except Failure Result) :
    (Except.ok result >>= next) = next result :=
  rfl

@[simp]
theorem error_bind
    (failure : Failure)
    (next : Start → Except Failure Result) :
    (Except.error failure >>= next) = .error failure :=
  rfl

theorem bind_eq_ok_iff
    {attempt : Except Failure Start}
    {next : Start → Except Failure Result}
    {result : Result} :
    (attempt >>= next) = .ok result ↔
      ∃ middle, attempt = .ok middle ∧ next middle = .ok result := by
  cases attempt with
  | ok middle => simp
  | error failure => simp

theorem bind_eq_error_iff
    {attempt : Except Failure Start}
    {next : Start → Except Failure Result}
    {failure : Failure} :
    (attempt >>= next) = .error failure ↔
      attempt = .error failure ∨
        ∃ middle, attempt = .ok middle ∧ next middle = .error failure := by
  cases attempt with
  | ok middle => simp
  | error failure => simp

/-- A result that is only wrapped is a result of the attempt. -/
theorem bind_pure_eq_ok_iff
    {attempt : Except Failure Start}
    {wrap : Start → Result}
    {result : Start}
    (injective : Function.Injective wrap) :
    (attempt >>= fun made => pure (wrap made)) = .ok (wrap result) ↔
      attempt = .ok result := by
  rw [bind_eq_ok_iff]
  constructor
  · rintro ⟨made, succeeded, wrapped⟩
    rw [succeeded, injective (Except.ok.inj wrapped)]
  · exact fun succeeded => ⟨result, succeeded, rfl⟩

/-- Each result of attempts in a row is the result of one of them. -/
theorem exists_of_mem_mapM
    {attempt : Start → Except Failure Result}
    {starts : List Start}
    {results : List Result}
    (succeeded : starts.mapM attempt = .ok results)
    {result : Result}
    (member : result ∈ results) :
    ∃ start ∈ starts, attempt start = .ok result := by
  induction starts generalizing results with
  | nil =>
      cases succeeded
      cases member
  | cons first rest exists_of_mem =>
      rw [List.mapM_cons] at succeeded
      obtain ⟨head, made, succeeded⟩ := bind_eq_ok_iff.1 succeeded
      obtain ⟨tail, others, succeeded⟩ := bind_eq_ok_iff.1 succeeded
      cases succeeded
      cases member with
      | head =>
          exact ⟨first, List.mem_cons_self, made⟩
      | tail _ later =>
          obtain ⟨start, among, found⟩ := exists_of_mem others later
          exact ⟨start, List.mem_cons_of_mem first among, found⟩

/-- Attempts in a row fail as the first of them does that fails. -/
theorem mapM_eq_error_iff
    {attempt : Start → Except Failure Result}
    {starts : List Start}
    {failure : Failure} :
    starts.mapM attempt = .error failure ↔
      ∃ earlier start later,
        starts = earlier ++ start :: later ∧
          (∀ other ∈ earlier, ∃ result, attempt other = .ok result) ∧
          attempt start = .error failure := by
  induction starts with
  | nil =>
      refine iff_of_false (fun failed => by cases failed) ?_
      rintro ⟨earlier, start, later, split, -⟩
      simp at split
  | cons first rest rest_iff =>
      rw [List.mapM_cons, bind_eq_error_iff]
      constructor
      · rintro (failed | ⟨result, made, failed⟩)
        · exact ⟨[], first, rest, rfl, by simp, failed⟩
        · have restFailed :=
            (bind_eq_error_iff.1 failed).resolve_right (by simp [pure, Except.pure])
          obtain ⟨earlier, start, later, rfl, others, failed⟩ :=
            rest_iff.1 restFailed
          refine ⟨first :: earlier, start, later, rfl, ?_, failed⟩
          exact List.forall_mem_cons.2 ⟨⟨result, made⟩, others⟩
      · rintro ⟨earlier, start, later, split, others, failed⟩
        cases earlier with
        | nil =>
            cases split
            exact .inl failed
        | cons _ earlier =>
            cases split
            obtain ⟨⟨result, made⟩, others⟩ := List.forall_mem_cons.1 others
            have restFailed :=
              rest_iff.2 ⟨earlier, start, later, rfl, others, failed⟩
            exact .inr ⟨result, made, bind_eq_error_iff.2 (.inl restFailed)⟩

end Coinage.Failure
