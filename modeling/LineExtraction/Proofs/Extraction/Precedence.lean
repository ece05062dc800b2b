import LineExtraction.Extraction.Extractor
import LineExtraction.Proofs.Extraction.Construction
import Mathlib.Data.List.Induction
import Mathlib.Data.List.Nodup

/-!
# What construction comes to

Construction goes through three phases.  The names are compared first, then the
definitions are compiled, then the discriminator is built; each phase is entered only
when nothing failed before.  `Construction` says which result belongs to a list of
definitions without following these phases step by step.

Definitions may be compiled in any order.  The order shows only in which of several
failing definitions is reported.
-/

namespace LineExtraction
namespace Extractor

/-! ## The results of construction -/

/-- A list holds what each definition of another is compiled to under its own index. -/
def CompiledTo
    (dialect : Dialect)
    (definitions : List Definition)
    (compiled : List (String × ExtractionUnit)) : Prop :=
  compiled.length = definitions.length ∧
    ∀ index definition, definitions[index]? = some definition →
      ∃ entry, compiled[index]? = some entry ∧ compileAt dialect index definition = .ok entry

/-- The results that a list of definitions can have.  In the first rule the names in
front of the repeated one are distinct, so no earlier definition repeats a name and no
other one in front has this name. -/
inductive Construction
    (dialect : Dialect)
    (builder : DiscriminatorBuilder)
    (definitions : List Definition) : Except ConstructionError Extractor → Prop
  | repeatedName
      {first again : Nat}
      {original repeated : Definition}
      (originalAt : definitions[first]? = some original)
      (repeatedAt : definitions[again]? = some repeated)
      (inFront : first < again)
      (sameName : original.name = repeated.name)
      (distinctInFront : ((definitions.take again).map (·.name)).Nodup) :
      Construction dialect builder definitions
        (.error (.duplicateDefinition repeated.name first repeated.location))
  | failingDefinition
      {index : Nat}
      {definition : Definition}
      {cause : ConstructionError}
      (distinct : (definitions.map (·.name)).Nodup)
      (definitionAt : definitions[index]? = some definition)
      (fails : compileAt dialect index definition = .error cause)
      (compiledInFront : ∀ earlier < index, ∀ other, definitions[earlier]? = some other →
        ∃ entry, compileAt dialect earlier other = .ok entry) :
      Construction dialect builder definitions (.error cause)
  | failingDiscriminator
      {compiled : List (String × ExtractionUnit)}
      {cause : String}
      (distinct : (definitions.map (·.name)).Nodup)
      (compiledTo : CompiledTo dialect definitions compiled)
      (fails : (builder (compiled.map (·.1))).value = .error cause) :
      Construction dialect builder definitions (.error (.discriminator cause))
  | ready
      {compiled : List (String × ExtractionUnit)}
      {discriminator : Discriminator}
      (distinct : (definitions.map (·.name)).Nodup)
      (compiledTo : CompiledTo dialect definitions compiled)
      (discriminated : (builder (compiled.map (·.1))).value = .ok discriminator) :
      Construction dialect builder definitions (.ok ⟨discriminator, compiled.map (·.2)⟩)

/-! ## Repeated names -/

theorem firstNamed?_eq_map_findIdx?
    (name : String)
    (index : Nat)
    (definitions : List Definition) :
    firstNamed? name index definitions =
      (definitions.findIdx? (·.name = name)).map (index + ·) := by
  induction definitions generalizing index with
  | nil => rfl
  | cons definition definitions inductionHypothesis =>
      rw [firstNamed?, List.findIdx?_cons]
      by_cases named : definition.name = name
      · simp [named]
      · rw [if_neg named, inductionHypothesis, decide_eq_false named, if_neg Bool.false_ne_true,
          Option.map_map]
        congr 1
        funext offset
        exact Nat.add_right_comm index 1 offset

/-- Where a name stands for the first time. -/
theorem exists_getElem?_of_firstNamed?
    {name : String}
    {first : Nat}
    {definitions : List Definition}
    (found : firstNamed? name 0 definitions = some first) :
    ∃ definition, definitions[first]? = some definition ∧ definition.name = name := by
  rw [firstNamed?_eq_map_findIdx?] at found
  obtain ⟨index, foundAt, shifted⟩ := Option.map_eq_some_iff.mp found
  obtain ⟨inside, named, -⟩ := List.findIdx?_eq_some_iff_getElem.mp foundAt
  rw [← shifted, Nat.zero_add]
  exact ⟨definitions[index], List.getElem?_eq_getElem inside, of_decide_eq_true named⟩

theorem firstNamed?_eq_none_iff
    {name : String}
    {definitions : List Definition} :
    firstNamed? name 0 definitions = none ↔ name ∉ definitions.map (·.name) := by
  rw [firstNamed?_eq_map_findIdx?, Option.map_eq_none_iff, List.findIdx?_eq_none_iff]
  simp

/-- A name that is fresh may stand behind distinct ones. -/
theorem nodup_names_concat
    {before : List Definition}
    {definition : Definition}
    (distinct : (before.map (·.name)).Nodup)
    (fresh : definition.name ∉ before.map (·.name)) :
    ((before ++ [definition]).map (·.name)).Nodup := by
  rw [List.map_append, List.map_singleton]
  exact List.nodup_append.mpr ⟨distinct, List.nodup_singleton _, fun name member other single =>
    fun same => fresh (List.mem_singleton.mp single ▸ same ▸ member)⟩

/-- What the comparison of names finds, once it has gone through `before`. -/
theorem checkNames_cases
    (before definitions : List Definition)
    (distinct : (before.map (·.name)).Nodup) :
    (checkNames before definitions = .ok () ∧ ((before ++ definitions).map (·.name)).Nodup) ∨
      ∃ first again original repeated,
        checkNames before definitions =
            .error (.duplicateDefinition repeated.name first repeated.location) ∧
          (before ++ definitions)[first]? = some original ∧
          (before ++ definitions)[again]? = some repeated ∧
          first < again ∧
          original.name = repeated.name ∧
          (((before ++ definitions).take again).map (·.name)).Nodup := by
  induction definitions generalizing before with
  | nil => exact .inl ⟨rfl, by rwa [List.append_nil]⟩
  | cons definition definitions inductionHypothesis =>
      rw [checkNames]
      cases found : firstNamed? definition.name 0 before with
      | some first =>
          obtain ⟨original, originalAt, named⟩ := exists_getElem?_of_firstNamed? found
          have inside : first < before.length := (List.getElem?_eq_some_iff.mp originalAt).1
          refine .inr ⟨first, before.length, original, definition, rfl, ?_, ?_, inside, named, ?_⟩
          · rwa [List.getElem?_append_left inside]
          · simp
          · rwa [List.take_left]
      | none =>
          have extended := nodup_names_concat distinct (firstNamed?_eq_none_iff.mp found)
          have step := inductionHypothesis _ extended
          rwa [List.append_assoc, List.singleton_append] at step

/-- Where names are distinct, a name has one place. -/
theorem index_eq_of_name_eq
    {definitions : List Definition}
    {bound first second : Nat}
    {definition other : Definition}
    (distinct : ((definitions.take bound).map (·.name)).Nodup)
    (firstAt : definitions[first]? = some definition)
    (secondAt : definitions[second]? = some other)
    (firstBelow : first < bound)
    (secondBelow : second < bound)
    (sameName : definition.name = other.name) :
    first = second := by
  have firstNamed : ((definitions.take bound).map (·.name))[first]? = some definition.name := by
    rw [List.getElem?_map, List.getElem?_take_of_lt firstBelow, firstAt, Option.map_some]
  have secondNamed : ((definitions.take bound).map (·.name))[second]? = some other.name := by
    rw [List.getElem?_map, List.getElem?_take_of_lt secondBelow, secondAt, Option.map_some]
  have inside := (List.getElem?_eq_some_iff.mp firstNamed).1
  rw [sameName, ← secondNamed] at firstNamed
  exact (List.getElem?_inj inside distinct).mp firstNamed

/-- Of two repetitions with distinct names in front neither stands behind the other. -/
theorem again_le_of_repetition
    {definitions : List Definition}
    {first again other : Nat}
    {original repeated : Definition}
    (originalAt : definitions[first]? = some original)
    (repeatedAt : definitions[again]? = some repeated)
    (inFront : first < again)
    (sameName : original.name = repeated.name)
    (distinctInFront : ((definitions.take other).map (·.name)).Nodup) :
    other ≤ again := by
  by_contra behind
  have samePlace := index_eq_of_name_eq distinctInFront originalAt repeatedAt
    (by omega) (by omega) sameName
  exact Nat.ne_of_lt inFront samePlace

/-! ## Compilation in the order of the list -/

/-- Compiling definitions in order fails with the error of the first that fails, or
compiles all of them. -/
theorem compileFrom_cases
    (dialect : Dialect)
    (index : Nat)
    (definitions : List Definition) :
    (∃ compiled, (compileFrom dialect index definitions).value = .ok compiled) ∨
      ∃ offset definition cause,
        (compileFrom dialect index definitions).value = .error cause ∧
          definitions[offset]? = some definition ∧
          compileAt dialect (index + offset) definition = .error cause ∧
          ∀ earlier < offset, ∀ other, definitions[earlier]? = some other →
            ∃ entry, compileAt dialect (index + earlier) other = .ok entry := by
  induction definitions generalizing index with
  | nil => exact .inl ⟨[], rfl⟩
  | cons definition definitions inductionHypothesis =>
      rw [compileFrom]
      cases first : compileAt dialect index definition with
      | error cause => exact .inr ⟨0, definition, cause, rfl, rfl, first,
          fun earlier less => absurd less (Nat.not_lt_zero earlier)⟩
      | ok entry =>
          obtain ⟨compiled, others⟩ | ⟨offset, failing, cause, others, failingAt, fails, inFront⟩ :=
            inductionHypothesis (index + 1)
          · exact .inl ⟨entry :: compiled, by simp [others, Except.map]⟩
          · refine .inr ⟨offset + 1, failing, cause, by simp [others, Except.map], failingAt, ?_, ?_⟩
            · rwa [Nat.add_right_comm, Nat.add_assoc] at fails
            · intro earlier before other found
              cases earlier with
              | zero => exact ⟨entry, Option.some.inj found ▸ first⟩
              | succ earlier =>
                  have compiles := inFront earlier (by omega) other found
                  rwa [Nat.add_right_comm, Nat.add_assoc] at compiles

theorem compiledTo_of_compileFrom
    {dialect : Dialect}
    {definitions : List Definition}
    {compiled : List (String × ExtractionUnit)}
    (built : (compileFrom dialect 0 definitions).value = .ok compiled) :
    CompiledTo dialect definitions compiled := by
  obtain ⟨sameLength, pointwise⟩ := getElem?_of_compileFrom built
  refine ⟨sameLength, fun index definition found => ?_⟩
  have step := pointwise index definition found
  rwa [Nat.zero_add] at step

/-- Definitions are compiled to one list only. -/
theorem CompiledTo.unique
    {dialect : Dialect}
    {definitions : List Definition}
    {compiled other : List (String × ExtractionUnit)}
    (compiledTo : CompiledTo dialect definitions compiled)
    (otherTo : CompiledTo dialect definitions other) :
    compiled = other := by
  apply List.ext_getElem?
  intro index
  cases found : definitions[index]? with
  | none =>
      have outside := List.getElem?_eq_none_iff.mp found
      rw [List.getElem?_eq_none (compiledTo.1 ▸ outside),
        List.getElem?_eq_none (otherTo.1 ▸ outside)]
  | some definition =>
      obtain ⟨entry, entryAt, compiles⟩ := compiledTo.2 index definition found
      obtain ⟨again, againAt, compilesAgain⟩ := otherTo.2 index definition found
      rw [entryAt, againAt, Except.ok.inj (compiles.symm.trans compilesAgain)]

/-- No definition of a compiled list fails. -/
theorem CompiledTo.ne_error
    {dialect : Dialect}
    {definitions : List Definition}
    {compiled : List (String × ExtractionUnit)}
    (compiledTo : CompiledTo dialect definitions compiled)
    {index : Nat}
    {definition : Definition}
    (found : definitions[index]? = some definition)
    (cause : ConstructionError) :
    compileAt dialect index definition ≠ .error cause := by
  intro fails
  obtain ⟨entry, -, compiles⟩ := compiledTo.2 index definition found
  exact nomatch fails.symm.trans compiles

/-! ## Construction in the order of the list -/

/-- What the last phase makes of compiled definitions. -/
theorem Construction.assemble
    {dialect : Dialect}
    {builder : DiscriminatorBuilder}
    {definitions : List Definition}
    {compiled : List (String × ExtractionUnit)}
    (distinct : (definitions.map (·.name)).Nodup)
    (compiledTo : CompiledTo dialect definitions compiled) :
    Construction dialect builder definitions (assemble dialect builder compiled).value := by
  rw [Extractor.assemble, Logged.value_bind]
  cases discriminated : (builder (compiled.map (·.1))).value with
  | error cause => exact .failingDiscriminator distinct compiledTo discriminated
  | ok discriminator => exact .ready distinct compiledTo discriminated

/-- Construction has one of its results. -/
theorem construction_construct
    (dialect : Dialect)
    (builder : DiscriminatorBuilder)
    (definitions : List Definition) :
    Construction dialect builder definitions (construct dialect builder definitions).value := by
  rw [construct]
  obtain ⟨accepted, distinct⟩ | ⟨first, again, original, repeated, refused, originalAt, repeatedAt,
    inFront, sameName, distinctInFront⟩ := checkNames_cases [] definitions List.nodup_nil
  · rw [accepted]
    obtain ⟨compiled, compiles⟩ | ⟨index, definition, cause, failed, found, fails, compiledInFront⟩ :=
      compileFrom_cases dialect 0 definitions
    · simp only [Logged.value_bind, compiles]
      exact .assemble distinct (compiledTo_of_compileFrom compiles)
    · simp only [Logged.value_bind, failed, Logged.value_pure]
      simp only [Nat.zero_add] at fails compiledInFront
      exact .failingDefinition distinct found fails compiledInFront
  · rw [refused]
    exact .repeatedName originalAt repeatedAt inFront sameName distinctInFront

/-- Distinct names rule a repetition out. -/
theorem not_nodup_of_repetition
    {definitions : List Definition}
    {first again : Nat}
    {original repeated : Definition}
    (originalAt : definitions[first]? = some original)
    (repeatedAt : definitions[again]? = some repeated)
    (inFront : first < again)
    (sameName : original.name = repeated.name) :
    ¬(definitions.map (·.name)).Nodup := by
  intro distinct
  have inside := (List.getElem?_eq_some_iff.mp repeatedAt).1
  rw [← List.take_length (l := definitions)] at distinct
  have beyond := again_le_of_repetition originalAt repeatedAt inFront sameName distinct
  omega

/-- A definition that fails does not stand in front of the first that does. -/
theorem le_of_compiledInFront
    {dialect : Dialect}
    {definitions : List Definition}
    {bound index : Nat}
    {definition : Definition}
    {cause : ConstructionError}
    (compiledInFront : ∀ earlier < bound, ∀ other, definitions[earlier]? = some other →
      ∃ entry, compileAt dialect earlier other = .ok entry)
    (found : definitions[index]? = some definition)
    (fails : compileAt dialect index definition = .error cause) :
    bound ≤ index := by
  by_contra before
  obtain ⟨entry, compiles⟩ := compiledInFront index (by omega) definition found
  exact nomatch fails.symm.trans compiles

/-- A list of definitions has one result. -/
theorem Construction.unique
    {dialect : Dialect}
    {builder : DiscriminatorBuilder}
    {definitions : List Definition}
    {result other : Except ConstructionError Extractor}
    (construction : Construction dialect builder definitions result)
    (otherConstruction : Construction dialect builder definitions other) :
    result = other := by
  cases construction with
  | repeatedName originalAt repeatedAt inFront sameName distinctInFront =>
      cases otherConstruction with
      | repeatedName originalAt' repeatedAt' inFront' sameName' distinctInFront' =>
          obtain rfl := Nat.le_antisymm
            (again_le_of_repetition originalAt' repeatedAt' inFront' sameName' distinctInFront)
            (again_le_of_repetition originalAt repeatedAt inFront sameName distinctInFront')
          obtain rfl := Option.some.inj (repeatedAt.symm.trans repeatedAt')
          rw [index_eq_of_name_eq distinctInFront originalAt originalAt' inFront inFront'
            (sameName.trans sameName'.symm)]
      | failingDefinition distinct | failingDiscriminator distinct | ready distinct =>
          exact absurd distinct (not_nodup_of_repetition originalAt repeatedAt inFront sameName)
  | failingDefinition distinct definitionAt fails compiledInFront =>
      cases otherConstruction with
      | repeatedName originalAt repeatedAt inFront sameName =>
          exact absurd distinct (not_nodup_of_repetition originalAt repeatedAt inFront sameName)
      | failingDefinition distinct' definitionAt' fails' compiledInFront' =>
          obtain rfl := Nat.le_antisymm
            (le_of_compiledInFront compiledInFront definitionAt' fails')
            (le_of_compiledInFront compiledInFront' definitionAt fails)
          obtain rfl := Option.some.inj (definitionAt.symm.trans definitionAt')
          rw [Except.error.inj (fails.symm.trans fails')]
      | failingDiscriminator distinct compiledTo | ready distinct compiledTo =>
          exact absurd fails (compiledTo.ne_error definitionAt _)
  | failingDiscriminator distinct compiledTo refused =>
      cases otherConstruction with
      | repeatedName originalAt repeatedAt inFront sameName =>
          exact absurd distinct (not_nodup_of_repetition originalAt repeatedAt inFront sameName)
      | failingDefinition distinct definitionAt fails =>
          exact absurd fails (compiledTo.ne_error definitionAt _)
      | failingDiscriminator distinct compiledTo' refused' =>
          obtain rfl := compiledTo.unique compiledTo'
          rw [Except.error.inj (refused.symm.trans refused')]
      | ready distinct compiledTo' discriminated =>
          obtain rfl := compiledTo.unique compiledTo'
          exact nomatch refused.symm.trans discriminated
  | ready distinct compiledTo discriminated =>
      cases otherConstruction with
      | repeatedName originalAt repeatedAt inFront sameName =>
          exact absurd distinct (not_nodup_of_repetition originalAt repeatedAt inFront sameName)
      | failingDefinition distinct definitionAt fails =>
          exact absurd fails (compiledTo.ne_error definitionAt _)
      | failingDiscriminator distinct compiledTo' refused =>
          obtain rfl := compiledTo.unique compiledTo'
          exact nomatch refused.symm.trans discriminated
      | ready distinct compiledTo' discriminated' =>
          obtain rfl := compiledTo.unique compiledTo'
          rw [Except.ok.inj (discriminated.symm.trans discriminated')]

/-! ## Compilation as a schedule says -/

/-- Compiling as a schedule says keeps the result of each definition of the schedule. -/
theorem lookup_of_compileIn
    {dialect : Dialect}
    {definitions : List Definition}
    {schedule : List Nat}
    {results : List (Nat × (String × ExtractionUnit))}
    (built : (compileIn dialect definitions schedule).value = .ok results)
    {index : Nat}
    (scheduled : index ∈ schedule)
    {definition : Definition}
    (found : definitions[index]? = some definition) :
    ∃ entry, results.lookup index = some entry ∧
      compileAt dialect index definition = .ok entry := by
  induction schedule generalizing results with
  | nil => exact nomatch scheduled
  | cons next schedule inductionHypothesis =>
      rw [compileIn] at built
      cases nextFound : definitions[next]? with
      | none =>
          rw [nextFound] at built
          have later : index ∈ schedule := by
            apply List.mem_of_ne_of_mem _ scheduled
            rintro rfl
            cases found.symm.trans nextFound
          exact inductionHypothesis built later
      | some nextDefinition =>
          simp only [nextFound] at built
          cases first : compileAt dialect next nextDefinition with
          | error cause =>
              rw [first] at built
              exact nomatch built
          | ok entry =>
              simp only [first] at built
              cases others : (compileIn dialect definitions schedule).value with
              | error cause => simp [others, Except.map] at built
              | ok rest =>
                  obtain rfl : (next, entry) :: rest = results := by
                    simpa [others, Except.map] using built
                  rw [List.lookup_cons]
                  cases same : index == next with
                  | true =>
                      obtain rfl := eq_of_beq same
                      obtain rfl := Option.some.inj (nextFound.symm.trans found)
                      exact ⟨entry, rfl, first⟩
                  | false =>
                      have later := List.mem_of_ne_of_mem (ne_of_beq_false same) scheduled
                      exact inductionHypothesis others later

/-- Compiling as a schedule says succeeds, or fails with the error of a definition of
the schedule. -/
theorem compileIn_cases
    (dialect : Dialect)
    (definitions : List Definition)
    (schedule : List Nat) :
    (∃ results, (compileIn dialect definitions schedule).value = .ok results) ∨
      ∃ index definition cause,
        (compileIn dialect definitions schedule).value = .error cause ∧
          definitions[index]? = some definition ∧
          compileAt dialect index definition = .error cause := by
  induction schedule with
  | nil => exact .inl ⟨[], rfl⟩
  | cons next schedule inductionHypothesis =>
      rw [compileIn]
      cases nextFound : definitions[next]? with
      | none => exact inductionHypothesis
      | some definition =>
          simp only
          cases first : compileAt dialect next definition with
          | error cause => exact .inr ⟨next, definition, cause, rfl, nextFound, first⟩
          | ok entry =>
              obtain ⟨results, others⟩ | ⟨index, failing, cause, others, failingAt, fails⟩ :=
                inductionHypothesis
              · exact .inl ⟨(next, entry) :: results, by simp [others, Except.map]⟩
              · exact .inr ⟨index, failing, cause, by simp [others, Except.map], failingAt, fails⟩

/-- Results that are found one by one stand in order. -/
theorem inOrder_eq
    {α : Type}
    {results : List (Nat × α)}
    (ordered : List α)
    (found : ∀ index element, ordered[index]? = some element →
      results.lookup index = some element) :
    inOrder ordered.length results = ordered := by
  induction ordered using List.reverseRecOn with
  | nil => rfl
  | append_singleton front last inductionHypothesis =>
      have lastFound : results.lookup front.length = some last := found _ _ (by simp)
      have frontFound := inductionHypothesis fun index element elementAt =>
        found index element (by
          rwa [List.getElem?_append_left (List.getElem?_eq_some_iff.mp elementAt).1])
      rw [inOrder] at frontFound ⊢
      rw [List.length_append, List.length_singleton, List.range_succ, List.filterMap_append,
        frontFound]
      simp [lastFound]

/-- A schedule of all definitions leads to the list that compilation in order leads
to. -/
theorem inOrder_of_compileIn
    {dialect : Dialect}
    {definitions : List Definition}
    {schedule : List Nat}
    {results : List (Nat × (String × ExtractionUnit))}
    (complete : schedule.Perm (List.range definitions.length))
    (built : (compileIn dialect definitions schedule).value = .ok results) :
    CompiledTo dialect definitions (inOrder definitions.length results) := by
  have scheduled (index : Nat) (definition : Definition)
      (found : definitions[index]? = some definition) :=
    lookup_of_compileIn built (complete.mem_iff.mpr
      (List.mem_range.mpr (List.getElem?_eq_some_iff.mp found).1)) found
  obtain ⟨compiled, compiles⟩ | ⟨index, definition, cause, -, found, fails, -⟩ :=
    compileFrom_cases dialect 0 definitions
  · have compiledTo := compiledTo_of_compileFrom compiles
    have sameList : inOrder compiled.length results = compiled := by
      apply inOrder_eq
      intro index entry entryAt
      have inside := (List.getElem?_eq_some_iff.mp entryAt).1
      have found := List.getElem?_eq_getElem (compiledTo.1 ▸ inside)
      obtain ⟨other, otherAt, compilesTo⟩ := compiledTo.2 index _ found
      obtain ⟨kept, keptAt, compilesAgain⟩ := scheduled index _ found
      rw [keptAt, Except.ok.inj (compilesAgain.symm.trans compilesTo), ← otherAt, entryAt]
    rwa [← compiledTo.1, sameList]
  · obtain ⟨entry, -, compiles⟩ := scheduled index definition found
    rw [Nat.zero_add] at fails
    exact nomatch fails.symm.trans compiles

/-! ## Labels -/

end Extractor

namespace Dialect

/-- A dialect labels its units when each carries the index, the name and the field names
of its definition and the pattern that it was made of. -/
def Labels (dialect : Dialect) : Prop :=
  ∀ index pattern definition unit, dialect.finish index pattern definition = .ok unit →
    unit.index = index ∧ unit.name = definition.name ∧ unit.pattern = pattern ∧
      unit.fields = definition.fieldNames

theorem labels_of_unitOf
    {index : Nat}
    {pattern : String}
    {definition : Definition}
    {names : List (Option String)}
    {attempt : List Nat → Line → Attempt}
    {unit : ExtractionUnit}
    (made : unitOf index pattern definition names attempt = .ok unit) :
    unit.index = index ∧ unit.name = definition.name ∧ unit.pattern = pattern ∧
      unit.fields = definition.fieldNames := by
  unfold unitOf at made
  dsimp only at made
  split at made
  · cases made
  · cases made
    exact ⟨rfl, rfl, rfl, rfl⟩

end Dialect

/-- The dialects of both engines label their units. -/
theorem Options.labels_dialect (options : Options) : options.dialect.Labels := by
  intro index pattern definition unit finished
  unfold Options.dialect at finished
  split at finished
  · obtain ⟨regex, -, made⟩ := Except.bind_eq_ok_iff.mp finished
    exact Dialect.labels_of_unitOf made
  · obtain ⟨regex, -, made⟩ := Except.bind_eq_ok_iff.mp finished
    exact Dialect.labels_of_unitOf made

namespace Extractor

/-- An extractor is aligned with its definitions when the unit of each carries what it
says about itself and the pattern it was compiled to, and the discriminator was built
from the patterns of all of them in their order. -/
def Aligned
    (dialect : Dialect)
    (builder : DiscriminatorBuilder)
    (definitions : List Definition)
    (extractor : Extractor) : Prop :=
  extractor.units.length = definitions.length ∧
    ∃ patterns : List String, patterns.length = definitions.length ∧
      (builder patterns).value = .ok extractor.discriminator ∧
      ∀ (index : Nat) (definition : Definition), definitions[index]? = some definition →
        ∃ compiled unit, definition.compile dialect = .ok compiled ∧
          patterns[index]? = some compiled.discriminator ∧
          extractor.units[index]? = some unit ∧
          unit.index = index ∧ unit.name = definition.name ∧
          unit.fields = definition.fieldNames ∧ unit.pattern = compiled.extraction

theorem aligned_of_compiledTo
    {dialect : Dialect}
    {builder : DiscriminatorBuilder}
    {definitions : List Definition}
    {compiled : List (String × ExtractionUnit)}
    {discriminator : Discriminator}
    (labels : dialect.Labels)
    (compiledTo : CompiledTo dialect definitions compiled)
    (discriminated : (builder (compiled.map (·.1))).value = .ok discriminator) :
    Aligned dialect builder definitions ⟨discriminator, compiled.map (·.2)⟩ := by
  refine ⟨by rw [List.length_map, compiledTo.1], compiled.map (·.1),
    by rw [List.length_map, compiledTo.1], discriminated, ?_⟩
  intro index definition found
  obtain ⟨entry, entryAt, compiles⟩ := compiledTo.2 index definition found
  obtain ⟨pieces, written, finishes⟩ := Except.bind_eq_ok_iff.mp compiles
  obtain ⟨unit, finished, paired⟩ := Except.bind_eq_ok_iff.mp finishes
  obtain rfl := Except.ok.inj paired
  obtain ⟨sameIndex, sameName, samePattern, sameFields⟩ := labels index _ definition unit finished
  exact ⟨pieces, unit, written, by rw [List.getElem?_map, entryAt]; rfl,
    by rw [List.getElem?_map, entryAt]; rfl, sameIndex, sameName, sameFields, samePattern⟩

/-- What construction as a schedule of all definitions says comes to: the result of
construction in order, or else the error of some definition where construction in order
fails as well. -/
theorem constructIn_cases
    (dialect : Dialect)
    (builder : DiscriminatorBuilder)
    {definitions : List Definition}
    {schedule : List Nat}
    (complete : schedule.Perm (List.range definitions.length)) :
    (constructIn dialect builder definitions schedule).value =
        (construct dialect builder definitions).value ∨
      ∃ index definition cause other,
        definitions[index]? = some definition ∧
          compileAt dialect index definition = .error cause ∧
          (constructIn dialect builder definitions schedule).value = .error cause ∧
          (construct dialect builder definitions).value = .error other := by
  cases compared : checkNames [] definitions with
  | error cause => exact .inl (by rw [constructIn, construct, compared])
  | ok accepted =>
      obtain ⟨results, built⟩ | ⟨index, definition, cause, built, found, fails⟩ :=
        compileIn_cases dialect definitions schedule
      · have compiledTo := inOrder_of_compileIn complete built
        obtain ⟨compiled, compiles⟩ | ⟨offset, failing, cause, -, found, fails, -⟩ :=
          compileFrom_cases dialect 0 definitions
        · have sameList := compiledTo.unique (compiledTo_of_compileFrom compiles)
          refine .inl ?_
          simp only [constructIn, construct, compared, Logged.value_bind, built, compiles, sameList]
        · rw [Nat.zero_add] at fails
          exact absurd fails (compiledTo.ne_error found cause)
      · obtain ⟨compiled, compiles⟩ | ⟨offset, failing, other, failed, -⟩ :=
          compileFrom_cases dialect 0 definitions
        · exact absurd fails ((compiledTo_of_compileFrom compiles).ne_error found cause)
        · refine .inr ⟨index, definition, cause, other, found, fails, ?_, ?_⟩
          · simp only [constructIn, compared, Logged.value_bind, built, Logged.value_pure]
          · simp only [construct, compared, Logged.value_bind, failed, Logged.value_pure]

/-- Construction in order has exactly the results that the four rules give, and an
extractor is aligned with its definitions if the dialect labels its units, as both
engines' do.  Construction as any schedule of all definitions says leads to the same
extractor or to none where construction in order does, and to an error that this has too
or that some definition has. -/
theorem construct_eq_iff_and_constructIn
    (dialect : Dialect)
    (builder : DiscriminatorBuilder)
    (definitions : List Definition) :
    (∀ result, (construct dialect builder definitions).value = result ↔
        Construction dialect builder definitions result) ∧
      (∀ extractor, (construct dialect builder definitions).value = .ok extractor →
        dialect.Labels → Aligned dialect builder definitions extractor) ∧
      (∀ options : Options, options.dialect.Labels) ∧
      ∀ schedule, schedule.Perm (List.range definitions.length) →
        (∀ extractor, (constructIn dialect builder definitions schedule).value = .ok extractor ↔
          (construct dialect builder definitions).value = .ok extractor) ∧
        ∀ cause, (constructIn dialect builder definitions schedule).value = .error cause →
          (construct dialect builder definitions).value = .error cause ∨
            ∃ index definition, definitions[index]? = some definition ∧
              compileAt dialect index definition = .error cause := by
  have construction := construction_construct dialect builder definitions
  refine ⟨fun result => ⟨fun same => same ▸ construction, construction.unique⟩, ?_,
    Options.labels_dialect, fun schedule complete => ⟨fun extractor => ?_, fun cause failed => ?_⟩⟩
  · intro extractor built labels
    rw [built] at construction
    cases construction with
    | ready distinct compiledTo discriminated =>
        exact aligned_of_compiledTo labels compiledTo discriminated
  · obtain same | ⟨index, definition, cause, other, -, -, failedIn, failed⟩ :=
      constructIn_cases dialect builder complete
    · rw [same]
    · rw [failedIn, failed]
      exact ⟨nofun, nofun⟩
  · obtain same | ⟨index, definition, cause, other, found, fails, failedIn, -⟩ :=
      constructIn_cases dialect builder complete
    · exact .inl (same ▸ failed)
    · rw [Except.error.inj (failedIn.symm.trans failed)] at fails
      exact .inr ⟨index, definition, found, fails⟩

/-- Two definitions without patterns. -/
def greetings : List Definition :=
  [⟨"hello", [.text "hi" .unknown], .unknown⟩, ⟨"bye", [.text "so long" .unknown], .unknown⟩]

/-- Two definitions that fail for different reasons. -/
def halves : List Definition :=
  [⟨"open", [.pattern "(" .unknown], .unknown⟩, ⟨"close", [.pattern ")" .unknown], .unknown⟩]

theorem construct_eq_iff_and_constructIn_backwards :
    (∃ extractor,
      (construct Options.default.dialect Options.default.discriminatorBuilder greetings).value =
          .ok extractor ∧
        Options.default.dialect.Labels ∧ [1, 0].Perm (List.range greetings.length) ∧
        Aligned Options.default.dialect Options.default.discriminatorBuilder greetings extractor ∧
        (constructIn Options.default.dialect Options.default.discriminatorBuilder greetings
          [1, 0]).value = .ok extractor) ∧
      ∃ cause,
        (constructIn Options.default.dialect Options.default.discriminatorBuilder halves
            [1, 0]).value = .error cause ∧
          ((construct Options.default.dialect Options.default.discriminatorBuilder halves).value =
              .error cause ∨
            ∃ index definition, halves[index]? = some definition ∧
              compileAt Options.default.dialect index definition = .error cause) := by
  obtain ⟨-, aligned, labels, schedules⟩ := construct_eq_iff_and_constructIn
    Options.default.dialect Options.default.discriminatorBuilder greetings
  obtain ⟨extractor, built, -⟩ :
      ∃ extractor, (construct Options.default.dialect Options.default.discriminatorBuilder
        greetings).value = .ok extractor ∧ true :=
    Except.exists_ok_of_decide (by decide +kernel)
  have backwards : [1, 0].Perm (List.range greetings.length) := by decide
  have failed : (Except.cause? (constructIn Options.default.dialect
      Options.default.discriminatorBuilder halves [1, 0]).value).isSome := by decide +kernel
  obtain ⟨cause, failed⟩ := Option.isSome_iff_exists.mp failed
  refine ⟨⟨extractor, built, labels Options.default, backwards,
    aligned extractor built (labels Options.default),
    ((schedules [1, 0] backwards).1 extractor).mpr built⟩, cause, Except.eq_error_of_cause? failed,
    ?_⟩
  obtain ⟨-, -, -, schedulesOfHalves⟩ := construct_eq_iff_and_constructIn
    Options.default.dialect Options.default.discriminatorBuilder halves
  exact (schedulesOfHalves [1, 0] (by decide)).2 cause (Except.eq_error_of_cause? failed)

end Extractor
end LineExtraction
