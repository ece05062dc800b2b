import LineExtraction.Proofs.Extraction.Appending

/-!
# Any candidates

A discriminator may report whatever numbers it likes: in any order, more than once, and
numbers that no unit has.  Extraction passes over the numbers without a unit.  Strict
extraction then speaks about the first number that has one and about nothing else;
permissive extraction goes on until a unit extracts the line.  So the two differ only
where the unit that strict extraction asks refuses the line, and there permissive
extraction is the same question about the candidates behind it.
-/

namespace LineExtraction
namespace Extractor

variable {units : List ExtractionUnit} {mode : ExtractionMode} {input : String} {line : Line}

/-! ## Candidates without a unit -/

/-- Nothing is decided at a candidate without a unit. -/
theorem decisionAt?_of_unknown
    {number : Nat}
    (unknown : units.length ≤ number) :
    decisionAt? units mode input line number = none := by
  rw [decisionAt?, List.getElem?_eq_none unknown, Option.bind_none]

/-- The candidates that have a unit. -/
def known (units : List ExtractionUnit) (candidates : List Nat) : List Nat :=
  candidates.filter (· < units.length)

/-- Extraction passes over the candidates that have no unit. -/
theorem value_extractFrom_known
    (candidates : List Nat) :
    (extractFrom units mode input line (known units candidates)).value =
      (extractFrom units mode input line candidates).value := by
  rw [value_extractFrom, value_extractFrom]
  congr 1
  induction candidates with
  | nil => rfl
  | cons number candidates inductionHypothesis =>
      rw [known, List.filter_cons, List.findSome?_cons]
      split
      · rw [List.findSome?_cons, ← inductionHypothesis, known]
      · next unknown =>
          rw [decisionAt?_of_unknown (by simpa using unknown), ← inductionHypothesis, known]

/-! ## The first candidate with a unit -/

/-- The first candidate that has a unit, with its unit and the candidates behind it. -/
structure Leads (units : List ExtractionUnit) (candidates : List Nat) (number : Nat)
    (unit : ExtractionUnit) (behind : List Nat) : Prop where
  split : ∃ before, candidates = before ++ number :: behind ∧ ∀ other ∈ before, units.length ≤ other
  found : units[number]? = some unit

/-- Either no candidate has a unit, or one of those that have comes first. -/
theorem unknown_or_exists_leads
    (candidates : List Nat) :
    (∀ number ∈ candidates, units.length ≤ number) ∨
      ∃ number unit behind, Leads units candidates number unit behind := by
  induction candidates with
  | nil => exact .inl nofun
  | cons first rest inductionHypothesis =>
      rcases Nat.lt_or_ge first units.length with inside | unknown
      · exact .inr ⟨first, units[first], rest, ⟨[], rfl, nofun⟩, List.getElem?_eq_getElem inside⟩
      · rcases inductionHypothesis with others | ⟨number, unit, behind, ⟨before, rfl, none⟩, found⟩
        · exact .inl (List.forall_mem_cons.mpr ⟨unknown, others⟩)
        · exact .inr ⟨number, unit, behind,
            ⟨first :: before, rfl, List.forall_mem_cons.mpr ⟨unknown, none⟩⟩, found⟩

/-- When no candidate has a unit, extraction knows nothing of the line. -/
theorem value_extractFrom_of_unknown
    {candidates : List Nat}
    (unknown : ∀ number ∈ candidates, units.length ≤ number) :
    (extractFrom units mode input line candidates).value = .ok none := by
  rw [value_extractFrom, List.findSome?_eq_none_iff.mpr fun number member =>
    decisionAt?_of_unknown (unknown number member), Option.getD_none]

namespace Leads

variable {candidates behind : List Nat} {number : Nat} {unit : ExtractionUnit}
variable (leads : Leads units candidates number unit behind)
include leads

/-- Extraction starts with the first candidate that has a unit. -/
theorem value_extractFrom :
    (extractFrom units mode input line candidates).value =
      (extractFrom units mode input line (number :: behind)).value := by
  obtain ⟨before, rfl, unknown⟩ := leads.split
  rw [Extractor.value_extractFrom, Extractor.value_extractFrom, List.findSome?_append,
    List.findSome?_eq_none_iff.mpr fun other member => decisionAt?_of_unknown (unknown other member),
    Option.none_or]

/-- A line that the first unit extracts is settled in both modes. -/
theorem value_of_extract
    {record : Record}
    (extracts : unit.extract line = some record) :
    (extractFrom units mode input line candidates).value = .ok (some record) := by
  rw [leads.value_extractFrom, extractFrom, leads.found]
  dsimp only
  rw [Logged.value_bind, unit.extractLogged_value, extracts]
  rfl

/-- A line that the first unit refuses is reported by strict extraction. -/
theorem strict_of_refuses
    (refuses : unit.extract line = none) :
    (extractFrom units .strict input line candidates).value =
      .error (Disagreement.ofUnit input number unit) := by
  rw [leads.value_extractFrom, extractFrom, leads.found]
  dsimp only
  rw [Logged.value_bind, unit.extractLogged_value, refuses]
  rfl

/-- A line that the first unit refuses is left by permissive extraction to the candidates
behind it. -/
theorem permissive_of_refuses
    (refuses : unit.extract line = none) :
    (extractFrom units .permissive input line candidates).value =
      (extractFrom units .permissive input line behind).value := by
  rw [leads.value_extractFrom, extractFrom, leads.found]
  dsimp only
  rw [Logged.value_bind, unit.extractLogged_value, refuses]

end Leads

/-! ## Strict extraction -/

theorem strict_eq_none_iff
    (candidates : List Nat) :
    (extractFrom units .strict input line candidates).value = .ok none ↔
      ∀ number ∈ candidates, units.length ≤ number := by
  refine ⟨fun nothing => ?_, value_extractFrom_of_unknown⟩
  rcases unknown_or_exists_leads candidates with unknown | ⟨number, unit, behind, leads⟩
  · exact unknown
  · cases extracted : unit.extract line with
    | some record => cases (leads.value_of_extract extracted).symm.trans nothing
    | none => cases (leads.strict_of_refuses extracted).symm.trans nothing

theorem strict_eq_some_iff
    (candidates : List Nat)
    (record : Record) :
    (extractFrom units .strict input line candidates).value = .ok (some record) ↔
      ∃ number unit behind, Leads units candidates number unit behind ∧
        unit.extract line = some record := by
  constructor
  · intro settled
    rcases unknown_or_exists_leads candidates with unknown | ⟨number, unit, behind, leads⟩
    · cases (value_extractFrom_of_unknown unknown).symm.trans settled
    · refine ⟨number, unit, behind, leads, ?_⟩
      cases extracted : unit.extract line with
      | some other => exact Except.ok.inj ((leads.value_of_extract extracted).symm.trans settled)
      | none => cases (leads.strict_of_refuses extracted).symm.trans settled
  · rintro ⟨number, unit, behind, leads, extracts⟩
    exact leads.value_of_extract extracts

theorem strict_eq_error_iff
    (candidates : List Nat)
    (report : Disagreement) :
    (extractFrom units .strict input line candidates).value = .error report ↔
      ∃ number unit behind, Leads units candidates number unit behind ∧
        unit.extract line = none ∧ report = Disagreement.ofUnit input number unit := by
  constructor
  · intro reported
    rcases unknown_or_exists_leads candidates with unknown | ⟨number, unit, behind, leads⟩
    · cases (value_extractFrom_of_unknown unknown).symm.trans reported
    · cases extracted : unit.extract line with
      | some record => cases (leads.value_of_extract extracted).symm.trans reported
      | none =>
          exact ⟨number, unit, behind, leads, extracted,
            (Except.error.inj ((leads.strict_of_refuses extracted).symm.trans reported)).symm⟩
  · rintro ⟨number, unit, behind, leads, refuses, rfl⟩
    exact leads.strict_of_refuses refuses

/-! ## Permissive extraction -/

/-- Permissive extraction gives the record of the first candidate whose unit extracts the
line. -/
theorem permissive_eq_some_iff
    (candidates : List Nat)
    (record : Record) :
    candidates.findSome? (recordAt? units line) = some record ↔
      ∃ before number behind, candidates = before ++ number :: behind ∧
        (∀ other ∈ before, recordAt? units line other = none) ∧
        ∃ unit, units[number]? = some unit ∧ unit.extract line = some record := by
  rw [List.findSome?_eq_some_iff]
  simp only [recordAt?, Option.bind_eq_some_iff]
  constructor
  · rintro ⟨before, number, behind, rfl, made, refused⟩
    exact ⟨before, number, behind, rfl, refused, made⟩
  · rintro ⟨before, number, behind, rfl, refused, made⟩
    exact ⟨before, number, behind, rfl, made, refused⟩

/-! ## Extraction -/

/-- The extractor whose discriminator reports the given candidates for every line. -/
def offering (extractor : Extractor) (candidates : List Nat) : Extractor :=
  { extractor with discriminator := ⟨extractor.discriminator.size, fun _ => candidates⟩ }

/-- Extraction with any discriminator whatever.  Candidates without a unit are passed over.
Permissive extraction never fails and gives the record of the first candidate whose unit
extracts the line.  Strict extraction knows nothing of the line when no candidate has a
unit; else it gives the record of the first candidate that has one, or reports that
candidate when its unit refuses the line.  What strict extraction gives, permissive
extraction gives too, and where strict extraction reports a candidate, permissive
extraction gives what it gives for the candidates behind that one. -/
theorem extract_dispatch
    (extractor : Extractor)
    (input : String) :
    let line := Line.ofString input
    let candidates := extractor.discriminator.candidates line
    let units := extractor.units
    (∀ mode, extractor.extract mode input =
        (extractor.offering (known units candidates)).extract mode input) ∧
      extractor.extract .permissive input = .ok (extractor.extractPermissive input) ∧
      (∀ record, extractor.extractPermissive input = some record ↔
        ∃ before number behind, candidates = before ++ number :: behind ∧
          (∀ other ∈ before, recordAt? units line other = none) ∧
          ∃ unit, units[number]? = some unit ∧ unit.extract line = some record) ∧
      (extractor.extractPermissive input = none ↔
        ∀ number ∈ candidates, recordAt? units line number = none) ∧
      (extractor.extract .strict input = .ok none ↔
        ∀ number ∈ candidates, units.length ≤ number) ∧
      (∀ record, extractor.extract .strict input = .ok (some record) ↔
        ∃ number unit behind, Leads units candidates number unit behind ∧
          unit.extract line = some record) ∧
      (∀ report, extractor.extract .strict input = .error report ↔
        ∃ number unit behind, Leads units candidates number unit behind ∧
          unit.extract line = none ∧ report = ⟨input, number, unit.name, unit.pattern⟩) ∧
      (∀ found, extractor.extract .strict input = .ok found →
        extractor.extractPermissive input = found) ∧
      ∀ report, extractor.extract .strict input = .error report →
        ∃ unit behind, Leads units candidates report.index unit behind ∧
          extractor.extractPermissive input =
            (extractor.offering behind).extractPermissive input := by
  intro line candidates units
  have permissive : extractor.extract .permissive input =
      .ok (extractor.extractPermissive input) := by
    rw [extractPermissive_eq]
    exact extractFrom_permissive input candidates
  refine ⟨fun mode => (value_extractFrom_known candidates).symm, permissive, fun record => ?_, ?_,
    strict_eq_none_iff candidates, strict_eq_some_iff candidates,
    strict_eq_error_iff candidates, fun found settled => ?_, fun report reported => ?_⟩
  · rw [extractPermissive_eq]
    exact permissive_eq_some_iff candidates record
  · rw [extractPermissive_eq]
    exact List.findSome?_eq_none_iff
  · apply Except.ok.inj
    rw [← permissive]
    cases found with
    | none => exact value_extractFrom_of_unknown ((strict_eq_none_iff candidates).mp settled)
    | some record =>
        obtain ⟨number, unit, behind, leads, extracts⟩ :=
          (strict_eq_some_iff candidates record).mp settled
        exact leads.value_of_extract extracts
  · obtain ⟨number, unit, behind, leads, refuses, rfl⟩ :=
      (strict_eq_error_iff candidates report).mp reported
    refine ⟨unit, behind, leads, ?_⟩
    rw [extractPermissive, extractPermissive]
    have passedOn : extractor.extract .permissive input =
        (extractor.offering behind).extract .permissive input :=
      leads.permissive_of_refuses refuses
    rw [passedOn]

/-- An extractor of two units, one for every line and one for none, whose discriminator
reports a number without a unit and one unit twice. -/
def straying : Extractor :=
  ⟨⟨2, fun _ => [7, 1, 1, 0]⟩,
    [⟨0, "every", ".*", [], fun _ => .spans []⟩, ⟨1, "never", "[a&&b]", [], fun _ => .noMatch⟩]⟩

theorem extract_dispatch_straying :
    straying.extract .strict "hi" = .error ⟨"hi", 1, "never", "[a&&b]"⟩ ∧
      straying.extractPermissive "hi" = some ⟨0, "every", []⟩ ∧
      ∃ unit behind, Leads straying.units [7, 1, 1, 0] 1 unit behind ∧
        straying.extractPermissive "hi" = (straying.offering behind).extractPermissive "hi" := by
  have reported : straying.extract .strict "hi" = .error ⟨"hi", 1, "never", "[a&&b]"⟩ := rfl
  obtain ⟨-, -, -, -, -, -, -, -, passedOn⟩ := extract_dispatch straying "hi"
  exact ⟨reported, rfl, passedOn _ reported⟩

end Extractor
end LineExtraction
