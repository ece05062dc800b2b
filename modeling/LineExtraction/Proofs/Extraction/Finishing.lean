import LineExtraction.Proofs.Compilation.Groups
import LineExtraction.Proofs.Extraction.Groups
import LineExtraction.Proofs.Extraction.Isolation

/-!
# When composed patterns compile

Every pattern of a definition is checked on its own before the pieces are put together.
The whole can then only fail where it is more than its parts: it may nest too deep or grow
too big, and group names of different patterns may collide.  Collisions are looked for by a
scan of the text, which sees all of them only if it sees all names.
-/

namespace LineExtraction

open Linear Piece
open Pattern (wrapChars)

/-! ## Names that the scan sees -/

namespace Definition

theorem groupNameFault?_eq_none_iff
    {seen : List String}
    {name : String} :
    groupNameFault? seen name = none ↔ ¬ Dialect.isReservedName name ∧ name ∉ seen := by
  rw [groupNameFault?]
  split
  · next reserved => exact iff_of_false nofun fun both => both.1 reserved
  · next free =>
      split
      · next known => exact iff_of_false nofun fun both => both.2 known
      · next fresh => exact iff_of_true rfl ⟨free, fresh⟩

/-- Whether names can stand behind others: none of them is reserved, and none stands twice. -/
structure Admits (seen names : List String) : Prop where
  /-- No name is reserved. -/
  free : ∀ name ∈ names, ¬ Dialect.isReservedName name
  /-- No name stands before. -/
  fresh : ∀ name ∈ names, name ∉ seen
  /-- No name stands twice. -/
  distinct : names.Nodup

theorem admits_of_firstGroupNameFault
    {seen names after : List String}
    (found : firstGroupNameFault seen names = .ok after) :
    Admits seen names ∧ ∀ name, name ∈ after ↔ name ∈ names ∨ name ∈ seen := by
  induction names generalizing seen with
  | nil =>
      obtain rfl := Except.ok.inj found
      exact ⟨⟨List.forall_mem_nil _, List.forall_mem_nil _, List.nodup_nil⟩, fun name => by simp⟩
  | cons name names inductionHypothesis =>
      rw [firstGroupNameFault] at found
      split at found
      · cases found
      · next noFault =>
          obtain ⟨free, fresh⟩ := groupNameFault?_eq_none_iff.mp noFault
          obtain ⟨others, listed⟩ := inductionHypothesis found
          refine ⟨⟨List.forall_mem_cons.mpr ⟨free, others.free⟩, List.forall_mem_cons.mpr ⟨fresh, ?_⟩,
            List.nodup_cons.mpr ⟨fun again => others.fresh name again List.mem_cons_self,
              others.distinct⟩⟩, fun other => ?_⟩
          · exact fun other member known =>
              others.fresh other member (List.mem_cons_of_mem _ known)
          · rw [listed, List.mem_cons, List.mem_cons]
            exact or_left_comm.trans or_assoc.symm

/-- Definitions pass the check if the names that the scan sees in all patterns together are
new and not reserved. -/
theorem admits_of_checkPatterns
    {definition : String}
    {seen : List String}
    {patterns : List (String × Location)}
    (checked : checkPatterns definition seen patterns = .ok ()) :
    Admits seen (patterns.flatMap fun source => Pattern.groupNames source.1) := by
  induction patterns generalizing seen with
  | nil => exact ⟨List.forall_mem_nil _, List.forall_mem_nil _, List.nodup_nil⟩
  | cons source patterns inductionHypothesis =>
      rw [checkPatterns] at checked
      split at checked
      · cases checked
      · next after found =>
          obtain ⟨first, listed⟩ := admits_of_firstGroupNameFault found
          have others := inductionHypothesis checked
          rw [List.flatMap_cons]
          refine ⟨List.forall_mem_append.mpr ⟨first.free, others.free⟩,
            List.forall_mem_append.mpr ⟨first.fresh, fun name member known => ?_⟩,
            List.nodup_append.mpr ⟨first.distinct, others.distinct, ?_⟩⟩
          · exact others.fresh name member ((listed name).mpr (.inr known))
          · rintro name inFirst _ inOthers rfl
            exact others.fresh name inOthers ((listed name).mpr (.inl inFirst))

theorem admits_of_compile
    {dialect : Dialect}
    {definition : Definition}
    {result : CompiledPieces}
    (compiled : definition.compile dialect = .ok result) :
    Admits [] (definition.patterns.flatMap fun source => Pattern.groupNames source.1) := by
  obtain ⟨_, -, compiled⟩ := Except.bind_eq_ok_iff.mp compiled
  obtain ⟨_, checked, -⟩ := Except.bind_eq_ok_iff.mp compiled
  exact admits_of_checkPatterns checked

end Definition

/-! ## Names that the parser sees -/

/-- The group names of a pattern as the parser sees them in its wrapping. -/
def Linear.namesIn (source : String) : List (List Char) :=
  (ParseState.behind (wrapChars source.toList)).names

/-- Whether the scan for group names sees every name that the parser sees. -/
def Linear.Scanned (source : String) : Prop :=
  ∀ name ∈ namesIn source, String.ofList name ∈ Pattern.groupNames source

namespace Piece

/-- Whether a name is that of an expression among `count`. -/
def IsExpressionName (ordinal count : Nat) (name : List Char) : Prop :=
  ∃ number, ordinal ≤ number ∧ number < ordinal + count ∧ name = expressionName number

theorem nodup_namesIn
    {source : String}
    {whole : Ast}
    (wrapped : parse (wrapChars source.toList) = .ok whole) :
    (namesIn source).Nodup := by
  obtain ⟨last, read, -⟩ := parse_eq_ok_iff.mp wrapped
  obtain ⟨rest, reads, -⟩ := readTokens_eq_ok_iff.mp read
  rw [namesIn, ParseState.behind_eq read]
  exact (ParseState.numbered_start.reads reads).1.apart

/-- What the names of pieces are made of: names that the scan sees, and names of
expressions, none of them twice. -/
structure NamesApart (scanned : List String) (ordinal count : Nat) (names : List (List Char)) :
    Prop where
  /-- No name stands twice. -/
  distinct : names.Nodup
  /-- Every name is of one of the two kinds. -/
  origin : ∀ name ∈ names,
    String.ofList name ∈ scanned ∨ IsExpressionName ordinal count name

mutual

theorem namesApart_passage
    (backend : Backend)
    (ordinal before : Nat)
    (piece : Piece)
    (alone : StandAlone (.extraction backend) piece.patterns)
    (scanned : ∀ source ∈ piece.patterns, Scanned source.1)
    (admits : Definition.Admits [] (piece.patterns.flatMap fun source =>
      Pattern.groupNames source.1)) :
    NamesApart (piece.patterns.flatMap fun source => Pattern.groupNames source.1) ordinal
      piece.expressions.length (piece.passage (.extraction backend) ordinal before).names := by
  cases piece with
  | text content location => exact ⟨List.nodup_nil, List.forall_mem_nil _⟩
  | pattern source location =>
      obtain ⟨-, whole, wrapped⟩ := alone (source, location) List.mem_cons_self
      refine ⟨nodup_namesIn wrapped, fun name member => .inl ?_⟩
      simpa [patterns] using scanned (source, location) List.mem_cons_self name member
  | expression label inner location =>
      have inside := namesApart_passageOf backend (ordinal + 1) (1 + before) inner alone scanned admits
      have opened : expressionName ordinal ∉
          (passageOf (.extraction backend) (ordinal + 1) (1 + before) inner).names := by
        intro member
        rcases inside.origin _ member with isScanned | ⟨number, above, -, same⟩
        · exact admits.free _ isScanned (Dialect.isReservedName_expressionName ordinal)
        · rw [expressionName_injective same] at above
          omega
      constructor
      · refine List.nodup_append.mpr ⟨inside.distinct, List.nodup_cons.mpr ⟨List.not_mem_nil, .nil⟩, ?_⟩
        rintro name inInner _ isOpened rfl
        rw [List.mem_singleton.mp isOpened] at inInner
        exact opened inInner
      · intro name member
        simp only [expressions, List.length_cons]
        rcases List.mem_append.mp member with inInner | isOpened
        · rcases inside.origin name inInner with isScanned | ⟨number, above, below, rfl⟩
          · exact .inl isScanned
          · exact .inr ⟨number, by omega, by omega, rfl⟩
        · exact .inr ⟨ordinal, Nat.le_refl _, by omega, List.mem_singleton.mp isOpened⟩

/-- If the scan sees all names and lets them pass, no two groups of the pieces share a name. -/
theorem namesApart_passageOf
    (backend : Backend)
    (ordinal before : Nat)
    (pieces : List Piece)
    (alone : StandAlone (.extraction backend) (patternsOf pieces))
    (scanned : ∀ source ∈ patternsOf pieces, Scanned source.1)
    (admits : Definition.Admits [] ((patternsOf pieces).flatMap fun source =>
      Pattern.groupNames source.1)) :
    NamesApart ((patternsOf pieces).flatMap fun source => Pattern.groupNames source.1) ordinal
      (expressionsOf pieces).length
      (passageOf (.extraction backend) ordinal before pieces).names := by
  cases pieces with
  | nil => exact ⟨List.nodup_nil, List.forall_mem_nil _⟩
  | cons piece pieces =>
      rw [patternsOf, List.flatMap_append] at admits ⊢
      obtain ⟨firstDistinct, othersDistinct, apart⟩ := List.nodup_append.mp admits.distinct
      have first := namesApart_passage backend ordinal before piece
        (fun source member => alone source (List.mem_append_left _ member))
        (fun source member => scanned source (List.mem_append_left _ member))
        ⟨fun name member => admits.free name (List.mem_append_left _ member), fun _ _ => List.not_mem_nil,
          firstDistinct⟩
      have others := namesApart_passageOf backend (ordinal + piece.expressions.length)
        ((piece.passage (.extraction backend) ordinal before).captures + before) pieces
        (fun source member => alone source (List.mem_append_right _ member))
        (fun source member => scanned source (List.mem_append_right _ member))
        ⟨fun name member => admits.free name (List.mem_append_right _ member), fun _ _ => List.not_mem_nil,
          othersDistinct⟩
      simp only [expressionsOf, List.length_append]
      constructor
      · refine List.nodup_append.mpr ⟨others.distinct, first.distinct, ?_⟩
        rintro name inOthers _ inFirst rfl
        rcases first.origin name inFirst with firstScanned | ⟨number, above, below, rfl⟩
        · rcases others.origin name inOthers with othersScanned | ⟨number, -, -, rfl⟩
          · exact apart _ firstScanned _ othersScanned rfl
          · exact admits.free _ (List.mem_append_left _ firstScanned)
              (Dialect.isReservedName_expressionName number)
        · rcases others.origin _ inOthers with othersScanned | ⟨other, otherAbove, -, same⟩
          · exact admits.free _ (List.mem_append_right _ othersScanned)
              (Dialect.isReservedName_expressionName number)
          · have := expressionName_injective same
            omega
      · intro name member
        rcases List.mem_append.mp member with inOthers | inFirst
        · rcases others.origin name inOthers with isScanned | ⟨number, above, below, rfl⟩
          · exact .inl (List.mem_append_right _ isScanned)
          · exact .inr ⟨number, by omega, by omega, rfl⟩
        · rcases first.origin name inFirst with isScanned | ⟨number, above, below, rfl⟩
          · exact .inl (List.mem_append_left _ isScanned)
          · exact .inr ⟨number, by omega, by omega, rfl⟩

end

end Piece

/-! ## Groups that are found by name -/

/-- A group of a tree is found under its name, if no two groups of the tree share a number. -/
theorem Linear.Tree.getElem?_groupNames
    {tree : Tree}
    {index : Nat}
    {name : List Char}
    (distinct : ∀ first ∈ tree.captures, ∀ second ∈ tree.captures, first.1 = second.1 →
      first = second)
    (member : (index, some name) ∈ tree.captures) :
    tree.groupNames[index]? = some (some (String.ofList name)) := by
  have bound : ∀ (captures : List Capture) (last : Nat),
      last ≤ captures.foldl (fun last capture => Nat.max last capture.1) last ∧
        ∀ capture ∈ captures,
          capture.1 ≤ captures.foldl (fun last capture => Nat.max last capture.1) last := by
    intro captures
    induction captures with
    | nil => exact fun last => ⟨Nat.le_refl _, List.forall_mem_nil _⟩
    | cons first captures inductionHypothesis =>
        intro last
        obtain ⟨grows, each⟩ := inductionHypothesis (Nat.max last first.1)
        refine ⟨Nat.le_trans (Nat.le_max_left _ _) grows, List.forall_mem_cons.mpr ⟨?_, each⟩⟩
        exact Nat.le_trans (Nat.le_max_right _ _) grows
  have inside := (bound tree.captures 0).2 _ member
  have found : tree.captures.find? (·.1 = index) = some (index, some name) := by
    obtain ⟨first, firstFound⟩ : ∃ first, tree.captures.find? (·.1 = index) = some first :=
      Option.isSome_iff_exists.mp (List.find?_isSome.mpr ⟨_, member, decide_eq_true rfl⟩)
    have same : first.1 = index := by simpa using List.find?_some firstFound
    rw [firstFound, distinct first (List.mem_of_find?_eq_some firstFound) _ member same]
  rw [groupNames, List.getElem?_map, List.getElem?_range (Nat.lt_succ_of_le inside)]
  simp [found]

section

variable {sizeLimit number : Nat} {pattern : String} {definition : Definition}

end

section

variable {sizeLimit : Nat} {definition : Definition} {compiled : CompiledPieces}

/-- The extraction pattern of a definition is written piece by piece. -/
theorem spelledAll_of_compile
    (compiles : definition.compile (Dialect.linear sizeLimit) = .ok compiled) :
    compiled.extraction.toList = spelledAll (.extraction .linear) 0 definition.pieces :=
  (Definition.compiles_of_compile
    (Options.dialect_writes ⟨.linear, some sizeLimit, none, none, false⟩) compiles).extraction

/-- Patterns with parses of their own stand alone in a definition that compiles. -/
theorem standAlone_of_compile
    (compiles : definition.compile (Dialect.linear sizeLimit) = .ok compiled)
    (parses : ∀ source ∈ definition.patterns, Parses source.1) :
    StandAlone (.extraction .linear) definition.patterns :=
  fun source member => ⟨parses source member, parse_wrapChars_of_compile compiles source member⟩

/-- The wrapped patterns of a definition that compiles have trees. -/
theorem lowers_of_compile
    (compiles : definition.compile (Dialect.linear sizeLimit) = .ok compiled) :
    Lowers (.extraction .linear) definition.patterns := by
  intro source member
  have writes := Options.dialect_writes ⟨.linear, some sizeLimit, none, none, false⟩
  obtain ⟨extraction, found⟩ :=
    (Definition.compiles_of_compile writes compiles).fragments source member
  obtain ⟨regex, regexFound, -⟩ := Except.bind_eq_ok_iff.mp found
  obtain ⟨tree, treeFound, -⟩ := Dialect.treeOf_of_compileLinear regexFound
  exact ⟨tree, treeFound⟩

end

end LineExtraction
