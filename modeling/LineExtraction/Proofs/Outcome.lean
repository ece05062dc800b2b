/-!
# Values that may be errors

What it takes for a computation that may fail to succeed, step by step and element by
element.
-/

namespace LineExtraction

theorem Except.bind_eq_ok_iff
    {ε α β : Type}
    {value : Except ε α}
    {next : α → Except ε β}
    {result : β} :
    (value >>= next) = .ok result ↔ ∃ found, value = .ok found ∧ next found = .ok result := by
  cases value with
  | error cause => exact ⟨nofun, nofun⟩
  | ok found => exact ⟨fun same => ⟨found, rfl, same⟩, by rintro ⟨_, ⟨⟩, same⟩; exact same⟩

theorem Except.bind_eq_error_iff
    {ε α β : Type}
    {value : Except ε α}
    {next : α → Except ε β}
    {cause : ε} :
    (value >>= next) = .error cause ↔
      value = .error cause ∨ ∃ found, value = .ok found ∧ next found = .error cause := by
  cases value with
  | error other =>
      constructor
      · intro failed
        exact .inl (congrArg Except.error (Except.error.inj failed))
      · rintro (same | ⟨found, same, -⟩)
        · exact congrArg Except.error (Except.error.inj same)
        · cases same
  | ok found =>
      constructor
      · exact fun failed => .inr ⟨found, rfl, failed⟩
      · rintro (same | ⟨other, same, failed⟩)
        · cases same
        · obtain rfl := Except.ok.inj same
          exact failed

theorem Except.mapError_eq_error_iff
    {ε δ α : Type}
    {change : ε → δ}
    {value : Except ε α}
    {cause : δ} :
    value.mapError change = .error cause ↔
      ∃ other, value = .error other ∧ change other = cause := by
  cases value with
  | error other =>
      constructor
      · exact fun failed => ⟨other, rfl, Except.error.inj failed⟩
      · rintro ⟨same, given, rfl⟩
        obtain rfl := Except.error.inj given
        rfl
  | ok found =>
      constructor
      · intro failed
        cases failed
      · rintro ⟨other, given, -⟩
        cases given

theorem Except.mapError_eq_ok_iff
    {ε δ α : Type}
    {change : ε → δ}
    {value : Except ε α}
    {result : α} :
    value.mapError change = .ok result ↔ value = .ok result := by
  cases value with
  | error cause =>
      constructor
      · intro same
        cases same
      · intro same
        cases same
  | ok found =>
      constructor
      · intro same
        cases same
        rfl
      · intro same
        cases same
        rfl

theorem Except.toOption_eq_some_iff
    {ε α : Type}
    {value : Except ε α}
    {result : α} :
    value.toOption = some result ↔ value = .ok result := by
  cases value with
  | error cause => exact ⟨nofun, nofun⟩
  | ok found =>
      constructor
      · rintro ⟨⟩
        rfl
      · rintro ⟨⟩
        rfl

/-- What a run of readings that all succeed makes of each element. -/
theorem Except.getElem?_of_mapM_eq_ok
    {ε α β : Type}
    {change : α → Except ε β}
    {given : List α}
    {results : List β}
    (changed : given.mapM change = .ok results) :
    results.length = given.length ∧
      ∀ (index : Nat) (element : α), given[index]? = some element →
        ∃ result, results[index]? = some result ∧ change element = .ok result := by
  induction given generalizing results with
  | nil =>
      rw [List.mapM_nil] at changed
      obtain rfl : [] = results := Except.ok.inj changed
      refine ⟨rfl, fun index element found => ?_⟩
      simp at found
  | cons element rest inductionHypothesis =>
      rw [List.mapM_cons] at changed
      obtain ⟨first, firstChanged, changed⟩ := Except.bind_eq_ok_iff.mp changed
      obtain ⟨others, othersChanged, changed⟩ := Except.bind_eq_ok_iff.mp changed
      obtain rfl : first :: others = results := Except.ok.inj changed
      obtain ⟨sameLength, pointwise⟩ := inductionHypothesis othersChanged
      refine ⟨congrArg (· + 1) sameLength, fun index other found => ?_⟩
      cases index with
      | zero =>
          obtain rfl : element = other := Option.some.inj found
          exact ⟨first, rfl, firstChanged⟩
      | succ index => exact pointwise index other found

/-- What is computed from a value that is no error. -/
theorem Except.exists_ok_of_decide
    {ε α : Type}
    {value : Except ε α}
    {holds : α → Bool}
    (computed : value.toOption.any holds = true) :
    ∃ found, value = .ok found ∧ holds found = true := by
  cases value with
  | error cause => exact absurd computed (by simp [Except.toOption])
  | ok found => exact ⟨found, rfl, by simpa [Except.toOption] using computed⟩

/-- The error of a computation that fails. -/
def Except.cause? {ε α : Type} : Except ε α → Option ε
  | .error cause => some cause
  | .ok _ => none

theorem Except.eq_error_of_cause?
    {ε α : Type}
    {value : Except ε α}
    {cause : ε}
    (fails : cause? value = some cause) :
    value = .error cause := by
  cases value with
  | error other => exact congrArg Except.error (Option.some.inj fails)
  | ok found => cases fails

theorem Except.cause?_eq_some_iff
    {ε α : Type}
    {value : Except ε α}
    {cause : ε} :
    cause? value = some cause ↔ value = .error cause :=
  ⟨eq_error_of_cause?, by rintro rfl; rfl⟩

theorem Except.cause?_eq_none_iff
    {ε α : Type}
    {value : Except ε α} :
    cause? value = none ↔ ∃ found, value = .ok found := by
  cases value with
  | error cause => exact ⟨nofun, nofun⟩
  | ok found => exact iff_of_true rfl ⟨found, rfl⟩

/-- A check passes where it has no error. -/
theorem Except.cause?_eq_none_iff_check
    {ε : Type}
    {check : Except ε Unit} :
    cause? check = none ↔ check = .ok () := by
  rw [cause?_eq_none_iff]
  exact ⟨fun ⟨_, passed⟩ => passed, fun passed => ⟨(), passed⟩⟩

end LineExtraction
