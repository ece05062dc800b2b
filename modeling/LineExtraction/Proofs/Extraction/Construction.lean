import LineExtraction.Compilation.Options
import LineExtraction.Proofs.Outcome

/-!
# What an extractor is built from

An extractor holds one unit for each definition, in order, and its discriminator holds
one compiled pattern for each of them.  Nothing is dropped, moved or added on the way
from the definitions to either of the two.
-/

namespace LineExtraction

/-! ## Values with log entries -/

@[simp] theorem Logged.value_bind
    {α β : Type}
    (logged : Logged α)
    (next : α → Logged β) :
    (logged >>= next).value = (next logged.value).value := rfl

@[simp] theorem Logged.value_pure
    {α : Type}
    (value : α) :
    (pure value : Logged α).value = value := rfl

@[simp] theorem Logged.value_silent
    {α : Type}
    (value : α) :
    (Logged.silent value).value = value := rfl

/-! ## The units -/

namespace Extractor

/-- Compiling definitions compiles each of them under its own number. -/
theorem getElem?_of_compileFrom
    {dialect : Dialect}
    {index : Nat}
    {definitions : List Definition}
    {compiled : List (String × ExtractionUnit)}
    (built : (compileFrom dialect index definitions).value = .ok compiled) :
    compiled.length = definitions.length ∧
      ∀ offset definition, definitions[offset]? = some definition →
        ∃ entry, compiled[offset]? = some entry ∧
          compileAt dialect (index + offset) definition = .ok entry := by
  induction definitions generalizing index compiled with
  | nil =>
      obtain rfl : [] = compiled := Except.ok.inj built
      refine ⟨rfl, fun offset definition found => ?_⟩
      simp at found
  | cons definition definitions inductionHypothesis =>
      rw [compileFrom] at built
      cases first : compileAt dialect index definition with
      | error cause =>
          rw [first] at built
          exact nomatch built
      | ok entry =>
          rw [first] at built
          cases others : (compileFrom dialect (index + 1) definitions).value with
          | error cause => simp [others, Except.map] at built
          | ok rest =>
              obtain rfl : entry :: rest = compiled := by simpa [others, Except.map] using built
              obtain ⟨sameLength, pointwise⟩ := inductionHypothesis others
              refine ⟨congrArg (· + 1) sameLength, fun offset other found => ?_⟩
              cases offset with
              | zero =>
                  obtain rfl : definition = other := Option.some.inj found
                  exact ⟨entry, rfl, first⟩
              | succ offset =>
                  have step := pointwise offset other found
                  rwa [Nat.add_right_comm, Nat.add_assoc] at step

/-- An extractor is put together from the compiled definitions. -/
theorem compiled_of_construct
    {dialect : Dialect}
    {builder : DiscriminatorBuilder}
    {definitions : List Definition}
    {extractor : Extractor}
    (built : (construct dialect builder definitions).value = .ok extractor) :
    ∃ compiled, (compileFrom dialect 0 definitions).value = .ok compiled ∧
      (builder (compiled.map (·.1))).value = .ok extractor.discriminator ∧
      extractor.units = compiled.map (·.2) := by
  rw [construct] at built
  split at built
  · exact nomatch built
  · cases found : (compileFrom dialect 0 definitions).value with
    | error cause => simp [found] at built
    | ok compiled =>
        simp only [Logged.value_bind, found, assemble] at built
        cases discriminated : (builder (compiled.map (·.1))).value with
        | error cause => simp [discriminated] at built
        | ok discriminator =>
            simp only [discriminated, Logged.value_bind, Logged.value_pure] at built
            obtain rfl := Except.ok.inj built
            exact ⟨compiled, rfl, discriminated, rfl⟩

end Extractor
end LineExtraction
