import LineExtraction.Proofs.CommandLine.Accounting

/-!
# Runs that fail

A run fails where the definitions cannot be loaded or compiled, or where one of its inputs
cannot be read, whichever of them it is.  By then it has written no record and no error about a
line: nothing is extracted before everything is read.
-/

namespace LineExtraction
namespace CommandLine

open Files (FileError)

/-! ## Inputs -/

/-- Inputs are refused because of the first of them that cannot be read. -/
theorem readInputs_eq_error_iff
    {surroundings : Surroundings Id}
    {paths : List String}
    {error : RunError} :
    readInputs surroundings paths = .error error ↔
      ∃ front path back cause,
        paths = front ++ path :: back ∧
        (∀ other ∈ front, ∃ text, surroundings.readFile other = .ok text) ∧
        surroundings.readFile path = .error cause ∧
        error = .input path cause := by
  induction paths with
  | nil =>
      constructor
      · intro failed
        cases failed
      · rintro ⟨front, path, back, cause, split, -⟩
        simp at split
  | cons path paths inductionHypothesis =>
      have step : readInputs surroundings (path :: paths) =
          match surroundings.readFile path with
          | .error error => .error (.input path error)
          | .ok text =>
            match readInputs surroundings paths with
            | .error error => .error error
            | .ok inputs => .ok (⟨path, linesOf text⟩ :: inputs) := rfl
      rw [step]
      cases found : surroundings.readFile path with
      | error cause =>
          constructor
          · rintro ⟨⟩
            exact ⟨[], path, paths, cause, rfl, List.forall_mem_nil _, found, rfl⟩
          · rintro ⟨front, other, back, reason, split, earlier, refused, rfl⟩
            cases front with
            | nil =>
                obtain ⟨rfl, rfl⟩ := List.cons.inj split
                rw [found] at refused
                obtain rfl := Except.error.inj refused
                rfl
            | cons first front =>
                obtain ⟨rfl, -⟩ := List.cons.inj split
                obtain ⟨text, readable⟩ := earlier path List.mem_cons_self
                rw [found] at readable
                cases readable
      | ok text =>
          have rest : (match readInputs surroundings paths with
              | .error error => Except.error error
              | .ok inputs => .ok (Input.mk path (linesOf text) :: inputs)) = .error error ↔
                readInputs surroundings paths = .error error := by
            cases readInputs surroundings paths with
            | error cause =>
                constructor <;>
                  · rintro ⟨⟩
                    rfl
            | ok inputs =>
                constructor <;>
                  · intro failed
                    cases failed
          refine rest.trans (inductionHypothesis.trans ?_)
          constructor
          · rintro ⟨front, other, back, cause, rfl, earlier, refused, rfl⟩
            refine ⟨path :: front, other, back, cause, rfl, ?_, refused, rfl⟩
            exact List.forall_mem_cons.mpr ⟨⟨text, found⟩, earlier⟩
          · rintro ⟨front, other, back, cause, split, earlier, refused, rfl⟩
            cases front with
            | nil =>
                obtain ⟨rfl, -⟩ := List.cons.inj split
                rw [found] at refused
                cases refused
            | cons first front =>
                obtain ⟨rfl, rfl⟩ := List.cons.inj split
                exact ⟨front, other, back, cause, rfl,
                  fun name member => earlier name (List.mem_cons_of_mem _ member), refused, rfl⟩

namespace Arguments

variable (arguments : Arguments)

/-- What is compiled of a definition file. -/
def built (file : DefinitionFile) : Logged (Except ConstructionError Extractor) :=
  (arguments.override file.options).build file.definitions

/-- What a run has to say until it reads its inputs.  It depends on the text of the definition
file alone. -/
def preparation (definitions : Except FileError String) : List LogEntry :=
  match definitions with
  | .error _ => []
  | .ok text =>
    match DefinitionFile.ofText arguments.definitions text with
    | .error _ => []
    | .ok file => (arguments.built file).entries

/-- What makes a run fail. -/
inductive Fails (surroundings : Surroundings Id) : RunError → Prop
  | definitions
      {cause : LoadError}
      (unloaded :
        DefinitionFile.load surroundings.readFile arguments.definitions = .error cause) :
      Fails surroundings (.definitions cause)
  | construction
      {file : DefinitionFile}
      {cause : ConstructionError}
      (loaded : DefinitionFile.load surroundings.readFile arguments.definitions = .ok file)
      (refused : (arguments.built file).value = .error cause) :
      Fails surroundings (.construction arguments.definitions cause)
  | input
      {file : DefinitionFile}
      {extractor : Extractor}
      {front back : List String}
      {path : String}
      {cause : FileError}
      (loaded : DefinitionFile.load surroundings.readFile arguments.definitions = .ok file)
      (compiled : (arguments.built file).value = .ok extractor)
      (unlisted : arguments.list = false)
      (named : arguments.inputs = front ++ path :: back)
      (earlier : ∀ other ∈ front, ∃ text, surroundings.readFile other = .ok text)
      (unreadable : surroundings.readFile path = .error cause) :
      Fails surroundings (.input path cause)
  | standardInput
      {file : DefinitionFile}
      {extractor : Extractor}
      {cause : FileError}
      (loaded : DefinitionFile.load surroundings.readFile arguments.definitions = .ok file)
      (compiled : (arguments.built file).value = .ok extractor)
      (unlisted : arguments.list = false)
      (unnamed : arguments.inputs = [])
      (unreadable : surroundings.readInput = .error cause) :
      Fails surroundings (.standardInput cause)

/-- A run reads its inputs if the definitions are compiled and are not to be listed. -/
theorem readInputs_eq_error_iff
    {surroundings : Surroundings Id}
    {error : RunError} :
    arguments.readInputs surroundings = .error error ↔
      (arguments.inputs = [] ∧
        ∃ cause, surroundings.readInput = .error cause ∧ error = .standardInput cause) ∨
      ∃ front path back cause,
        arguments.inputs = front ++ path :: back ∧
        (∀ other ∈ front, ∃ text, surroundings.readFile other = .ok text) ∧
        surroundings.readFile path = .error cause ∧
        error = .input path cause := by
  rw [Arguments.readInputs, ← CommandLine.readInputs_eq_error_iff]
  cases named : arguments.inputs with
  | nil =>
      dsimp only [Id.run, pure, bind]
      have nothing : CommandLine.readInputs surroundings [] ≠ .error error := by
        intro failed
        cases failed
      cases found : surroundings.readInput with
      | error cause =>
          constructor
          · rintro ⟨⟩
            exact .inl ⟨rfl, cause, rfl, rfl⟩
          · rintro (⟨-, reason, ⟨⟩, rfl⟩ | refused)
            · rfl
            · exact absurd refused nothing
      | ok text =>
          constructor
          · intro failed
            cases failed
          · rintro (⟨-, reason, failed, -⟩ | refused)
            · cases failed
            · exact absurd refused nothing
  | cons path paths =>
      constructor
      · exact .inr
      · rintro (⟨unnamed, -⟩ | refused)
        · cases unnamed
        · exact refused

section

variable {surroundings : Surroundings Id}

theorem preparation_of_load
    {file : DefinitionFile}
    (loaded : DefinitionFile.load surroundings.readFile arguments.definitions = .ok file) :
    arguments.preparation (surroundings.readFile arguments.definitions) =
      (arguments.built file).entries := by
  change (match surroundings.readFile arguments.definitions with
    | .error error => Except.error (LoadError.unreadable arguments.definitions error)
    | .ok text => DefinitionFile.ofText arguments.definitions text) = _ at loaded
  cases found : surroundings.readFile arguments.definitions with
  | error cause =>
      rw [found] at loaded
      cases loaded
  | ok text =>
      rw [found] at loaded
      replace loaded : DefinitionFile.ofText arguments.definitions text = .ok file := loaded
      rw [preparation, loaded]

theorem preparation_of_load_error
    {cause : LoadError}
    (unloaded : DefinitionFile.load surroundings.readFile arguments.definitions = .error cause) :
    arguments.preparation (surroundings.readFile arguments.definitions) = [] := by
  change (match surroundings.readFile arguments.definitions with
    | .error error => Except.error (LoadError.unreadable arguments.definitions error)
    | .ok text => DefinitionFile.ofText arguments.definitions text) = _ at unloaded
  cases found : surroundings.readFile arguments.definitions with
  | error cause => rfl
  | ok text =>
      rw [found] at unloaded
      replace unloaded : DefinitionFile.ofText arguments.definitions text = .error cause :=
        unloaded
      rw [preparation, unloaded]

/-- What a run does, stage by stage: each stage is reached only if those in front of it
succeed. -/
theorem run_eq_match :
    arguments.run surroundings =
      match DefinitionFile.load surroundings.readFile arguments.definitions with
      | .error cause => ⟨"", "", .error (.definitions cause)⟩
      | .ok file =>
        let shown := shownLog arguments.debug (arguments.built file).entries
        match (arguments.built file).value with
        | .error cause => ⟨"", shown, .error (.construction arguments.definitions cause)⟩
        | .ok extractor =>
          if arguments.list then
            ⟨String.join (extractor.units.map listing), shown, .ok 0⟩
          else
            match arguments.readInputs surroundings with
            | .error cause => ⟨"", shown, .error cause⟩
            | .ok inputs => outcomeOf shown (inputs.map (arguments.report extractor)) := by
  rfl

/-- A run that fails has written nothing but the log of its preparation. -/
theorem run_eq_of_fails
    {error : RunError}
    (fails : arguments.Fails surroundings error) :
    arguments.run surroundings =
      ⟨"",
        shownLog arguments.debug
          (arguments.preparation (surroundings.readFile arguments.definitions)),
        .error error⟩ := by
  rw [run_eq_match]
  cases fails with
  | definitions unloaded =>
      rw [unloaded, preparation_of_load_error arguments unloaded]
      rfl
  | construction loaded refused =>
      rw [loaded, preparation_of_load arguments loaded]
      dsimp only
      rw [refused]
  | input loaded compiled unlisted named earlier unreadable =>
      have refused : arguments.readInputs surroundings = .error _ :=
        arguments.readInputs_eq_error_iff.mpr
          (.inr ⟨_, _, _, _, named, earlier, unreadable, rfl⟩)
      rw [loaded, preparation_of_load arguments loaded]
      dsimp only
      rw [compiled, unlisted]
      dsimp only
      rw [refused]
      rfl
  | standardInput loaded compiled unlisted unnamed unreadable =>
      have refused : arguments.readInputs surroundings = .error _ :=
        arguments.readInputs_eq_error_iff.mpr (.inl ⟨unnamed, _, unreadable, rfl⟩)
      rw [loaded, preparation_of_load arguments loaded]
      dsimp only
      rw [compiled, unlisted]
      dsimp only
      rw [refused]
      rfl

/-- A run fails for a reason. -/
theorem fails_of_run
    {error : RunError}
    (failed : (arguments.run surroundings).result = .error error) :
    arguments.Fails surroundings error := by
  rw [run_eq_match] at failed
  cases loaded : DefinitionFile.load surroundings.readFile arguments.definitions with
  | error cause =>
      rw [loaded] at failed
      obtain rfl := Except.error.inj failed
      exact .definitions loaded
  | ok file =>
      rw [loaded] at failed
      dsimp only at failed
      cases compiled : (arguments.built file).value with
      | error cause =>
          rw [compiled] at failed
          obtain rfl := Except.error.inj failed
          exact .construction loaded compiled
      | ok extractor =>
          rw [compiled] at failed
          dsimp only at failed
          split at failed
          · cases failed
          · next unlisted =>
              replace unlisted := Bool.eq_false_iff.mpr unlisted
              cases read : arguments.readInputs surroundings with
              | ok inputs =>
                  rw [read] at failed
                  cases failed
              | error cause =>
                  rw [read] at failed
                  obtain rfl := Except.error.inj failed
                  obtain ⟨unnamed, reason, unreadable, rfl⟩ |
                      ⟨front, path, back, reason, named, earlier, unreadable, rfl⟩ :=
                    arguments.readInputs_eq_error_iff.mp read
                  · exact .standardInput loaded compiled unlisted unnamed unreadable
                  · exact .input loaded compiled unlisted named earlier unreadable

/-- No input is read after all if one of them cannot be. -/
theorem exists_readInputs_eq_error
    {path : String}
    {cause : FileError}
    (named : path ∈ arguments.inputs)
    (unreadable : surroundings.readFile path = .error cause) :
    ∃ error, arguments.readInputs surroundings = .error error := by
  cases read : arguments.readInputs surroundings with
  | error error => exact ⟨error, rfl⟩
  | ok inputs =>
      have reads := reads_of_readInputs read
      rw [Reads, if_neg (List.ne_nil_of_mem named)] at reads
      have readable : List.Forall₂
          (fun path (_ : Input) => (∃ text, surroundings.readFile path = .ok text) ∧ True)
          arguments.inputs inputs :=
        reads.imp fun _ _ both => ⟨both.imp fun _ => And.left, trivial⟩
      obtain ⟨text, found⟩ := ((List.forall₂_and_left _ _).mp readable).1 path named
      rw [unreadable] at found
      cases found

/-- An input that cannot be read makes a run fail, wherever it stands. -/
theorem exists_run_eq_error
    {path : String}
    {cause : FileError}
    (unlisted : arguments.list = false)
    (named : path ∈ arguments.inputs)
    (unreadable : surroundings.readFile path = .error cause) :
    ∃ error, (arguments.run surroundings).result = .error error := by
  obtain ⟨error, refused⟩ := arguments.exists_readInputs_eq_error named unreadable
  rw [run_eq_match, unlisted, refused]
  split
  · exact ⟨_, rfl⟩
  · dsimp only
    split
    · exact ⟨_, rfl⟩
    · exact ⟨_, rfl⟩

end

/-- A run that fails prints nothing.  It fails just if the definitions cannot be loaded or
compiled, or an input cannot be read, wherever it stands among the others.  All that it has
written then is the log of its preparation, which knows the definition file and no input. -/
theorem run_fails_silently
    (surroundings : Surroundings Id) :
    (∀ error,
      (arguments.run surroundings).result = .error error ↔
        arguments.Fails surroundings error) ∧
    (∀ error,
      arguments.Fails surroundings error →
        arguments.run surroundings =
          ⟨"",
            shownLog arguments.debug
              (arguments.preparation (surroundings.readFile arguments.definitions)),
            .error error⟩) ∧
    (arguments.list = false →
      ∀ path ∈ arguments.inputs, ∀ cause,
        surroundings.readFile path = .error cause →
          ∃ error, arguments.Fails surroundings error) := by
  have written {error : RunError} (fails : arguments.Fails surroundings error) :=
    arguments.run_eq_of_fails fails
  refine ⟨fun error => ⟨arguments.fails_of_run, fun fails => ?_⟩, fun error => written, ?_⟩
  · rw [written fails]
  · intro unlisted path named cause unreadable
    obtain ⟨error, failed⟩ := arguments.exists_run_eq_error unlisted named unreadable
    exact ⟨error, arguments.fails_of_run failed⟩

end Arguments
end CommandLine
end LineExtraction
