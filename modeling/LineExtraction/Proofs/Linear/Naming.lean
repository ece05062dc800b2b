import LineExtraction.Linear.Regex
import LineExtraction.Proofs.Linear.Embedding
import LineExtraction.Proofs.Linear.NormalForm

/-!
# The names of groups

The parser numbers capturing groups as they open, so no two of them share a number, and a
group keeps the name that it opens under.  Lowering can lose groups, such as those under a
repetition that never runs, but it neither makes nor renames any.
-/

namespace LineExtraction
namespace Linear

/-- A capturing group: its number and its name. -/
abbrev Capture := Nat × Option (List Char)

/-! ## Groups of parsed patterns -/

namespace Ast

/-- The capturing groups of a parsed pattern. -/
def captures : Ast → List Capture
  | repetition _ body => body.captures
  | group (.capture index name) body => (index, name) :: body.captures
  | group (.plain _) body => body.captures
  | concat first rest => first.captures ++ rest.captures
  | alternation first rest => first.captures ++ rest.captures
  | _ => []

theorem captures_ofParts
    (parts : List Ast) :
    (ofParts parts).captures = parts.flatMap captures := by
  induction parts with
  | nil => rfl
  | cons part parts inductionHypothesis =>
      cases parts with
      | nil => simp [ofParts]
      | cons next parts =>
          rw [show ofParts (part :: next :: parts) = .concat part (ofParts (next :: parts)) from rfl,
            captures, inductionHypothesis, ← List.flatMap_cons]

theorem captures_ofBranches
    (branches : List Ast) :
    (ofBranches branches).captures = branches.flatMap captures := by
  induction branches with
  | nil => rfl
  | cons branch branches inductionHypothesis =>
      cases branches with
      | nil => simp [ofBranches]
      | cons next branches =>
          rw [show ofBranches (branch :: next :: branches) =
              .alternation branch (ofBranches (next :: branches)) from rfl,
            captures, inductionHypothesis, ← List.flatMap_cons]

end Ast

/-- Shifting a pattern moves the numbers of its groups. -/
theorem Ast.captures_shift
    (offset : Nat)
    (ast : Ast) :
    (ast.shift offset).captures =
      ast.captures.map fun capture => (capture.1 + offset, capture.2) := by
  induction ast with
  | group kind body inductionHypothesis =>
      cases kind <;> simp [shift, captures, inductionHypothesis]
  | _ => simp_all [shift, captures]

/-- A pattern that no shift changes has no capturing groups. -/
theorem Ast.captures_eq_nil_of_shift
    {ast : Ast}
    (same : ast.shift 1 = ast) :
    ast.captures = [] := by
  have moved := captures_shift 1 ast
  rw [same] at moved
  cases found : ast.captures with
  | nil => rfl
  | cons capture others =>
      rw [found, List.map_cons] at moved
      have number : capture.1 = capture.1 + 1 :=
        congrArg Prod.fst (List.cons.inj moved).1
      omega

/-- Whether a capturing group stands on a level. -/
def Level.Holds (level : Level) (capture : Capture) : Prop :=
  (∃ branch ∈ level.branches, capture ∈ branch.captures) ∨
    ∃ part ∈ level.parts, capture ∈ part.captures

theorem Level.mem_captures_toAst_iff
    (level : Level)
    (capture : Capture) :
    capture ∈ level.toAst.captures ↔ level.Holds capture := by
  rw [toAst, Ast.captures_ofBranches, List.mem_flatMap]
  simp only [List.mem_reverse, List.mem_cons, Holds]
  constructor
  · rintro ⟨branch, rfl | finished, member⟩
    · rw [Ast.captures_ofParts, List.mem_flatMap] at member
      obtain ⟨part, listed, inside⟩ := member
      exact .inr ⟨part, List.mem_reverse.mp listed, inside⟩
    · exact .inl ⟨branch, finished, member⟩
  · rintro (⟨branch, finished, member⟩ | ⟨part, listed, inside⟩)
    · exact ⟨branch, .inr finished, member⟩
    · refine ⟨_, .inl rfl, ?_⟩
      rw [Ast.captures_ofParts, List.mem_flatMap]
      exact ⟨part, List.mem_reverse.mpr listed, inside⟩

theorem Level.holds_push_iff
    (level : Level)
    (part : Ast)
    (capture : Capture) :
    (level.push part).Holds capture ↔ capture ∈ part.captures ∨ level.Holds capture := by
  simp only [Holds, push, List.mem_cons, or_and_right, exists_or, exists_eq_left]
  exact or_left_comm

theorem Level.holds_nextBranch_iff
    (level : Level)
    (capture : Capture) :
    level.nextBranch.Holds capture ↔ level.Holds capture := by
  simp only [Holds, nextBranch, List.mem_cons, or_and_right, exists_or, exists_eq_left,
    Ast.captures_ofParts, List.mem_flatMap, List.mem_reverse, List.not_mem_nil, false_and,
    exists_false, or_false]
  exact or_comm

/-- Whether a group that is still open captures under a number and a name. -/
def OpenGroup.Holds (group : OpenGroup) (capture : Capture) : Prop :=
  group.kind = .capture capture.1 capture.2 ∨ group.outer.Holds capture

/-- Whether the parser has met a capturing group. -/
def ParseState.Holds (state : ParseState) (capture : Capture) : Prop :=
  state.level.Holds capture ∨ ∃ group ∈ state.groups, group.Holds capture

theorem ParseState.holds_openGroup_iff
    (state : ParseState)
    (kind : GroupKind)
    (verbose : Bool)
    (capture : Capture) :
    (state.openGroup kind verbose).Holds capture ↔
      kind = .capture capture.1 capture.2 ∨ state.Holds capture := by
  simp [Holds, openGroup, Level.start, Level.Holds, OpenGroup.Holds, or_assoc]

/-- The group that closes goes on as a part of the level around it. -/
theorem mem_captures_group_iff
    (kind : GroupKind)
    (body : Ast)
    (capture : Capture) :
    capture ∈ (Ast.group kind body).captures ↔
      kind = .capture capture.1 capture.2 ∨ capture ∈ body.captures := by
  obtain ⟨number, name⟩ := capture
  cases kind with
  | capture index given => simp [Ast.captures, eq_comm]
  | plain items => simp [Ast.captures]

/-! ## Groups that the parser meets -/

/-- What a token does to the groups that the parser has met: it leaves them as they are,
or it opens one under the next number and a new name, if it has one. -/
theorem ParseState.holds_take
    {state next : ParseState}
    {lexeme : Lexeme}
    (bare : lexeme.Bare)
    (taken : state.take lexeme = .ok next) :
    (next.captures = state.captures ∧ next.names = state.names ∧
        ∀ capture, next.Holds capture ↔ state.Holds capture) ∨
      ∃ name, next.captures = state.captures + 1 ∧ next.names = name.toList ++ state.names ∧
        (∀ given ∈ name, given ∉ state.names) ∧
        ∀ capture, next.Holds capture ↔
          capture = (state.captures + 1, name) ∨ state.Holds capture := by
  have opens : ∀ name capture, (state.openCapture name).Holds capture ↔
      capture = (state.captures + 1, name) ∨ state.Holds capture := by
    rintro name ⟨number, given⟩
    have opened := holds_openGroup_iff state (.capture (state.captures + 1) name) state.verbose
      (number, given)
    rw [GroupKind.capture.injEq] at opened
    rw [Prod.mk.injEq, @eq_comm _ number, @eq_comm _ given]
    exact opened
  cases lexeme with
  | opens header =>
      cases header with
      | unnamed =>
          obtain rfl := Except.ok.inj taken
          exact .inr ⟨none, rfl, rfl, fun _ missing => (Option.not_mem_none _ missing).elim, opens none⟩
      | named name =>
          simp only [ParseState.take, enter] at taken
          split at taken
          · cases taken
          · next fresh =>
              obtain rfl := Except.ok.inj taken
              refine .inr ⟨some name, rfl, rfl, fun given same => ?_, opens (some name)⟩
              rwa [← Option.some.inj same]
      | plain flags =>
          obtain rfl := Except.ok.inj taken
          refine .inl ⟨rfl, rfl, fun capture => ?_⟩
          rw [holds_openGroup_iff]
          simp
      | directive flags =>
          obtain rfl := Except.ok.inj taken
          refine .inl ⟨rfl, rfl, fun capture => ?_⟩
          simp [Holds, push, Level.holds_push_iff, Ast.captures]
  | closes =>
      obtain ⟨verbose, level, groups, captures, names⟩ := state
      cases groups with
      | nil => cases taken
      | cons group groups =>
          obtain rfl := Except.ok.inj taken
          refine .inl ⟨rfl, rfl, fun capture => ?_⟩
          simp only [Holds, Level.holds_push_iff, mem_captures_group_iff,
            Level.mem_captures_toAst_iff, List.mem_cons, or_and_right, exists_or, exists_eq_left,
            OpenGroup.Holds]
          grind
  | branches =>
      obtain rfl := Except.ok.inj taken
      refine .inl ⟨rfl, rfl, fun capture => ?_⟩
      simp only [Holds, Level.holds_nextBranch_iff]
  | part part =>
      obtain rfl := Except.ok.inj taken
      refine .inl ⟨rfl, rfl, fun capture => ?_⟩
      simp [Holds, push, Level.holds_push_iff, Ast.captures_eq_nil_of_shift (bare 1)]
  | repeats count =>
      simp only [ParseState.take] at taken
      split at taken
      · obtain rfl := Except.ok.inj taken
        obtain ⟨verbose, ⟨branches, parts⟩, groups, captures, names⟩ := state
        cases parts with
        | nil => exact .inl ⟨rfl, rfl, fun _ => Iff.rfl⟩
        | cons part parts =>
            refine .inl ⟨rfl, rfl, fun capture => ?_⟩
            simp [Holds, quantify, Level.Holds, Ast.captures]
      · cases taken

/-- Whether the groups that the parser has met are numbered as they opened. -/
structure ParseState.Numbered (state : ParseState) : Prop where
  /-- No number is beyond the last one given. -/
  below : ∀ capture, state.Holds capture → capture.1 ≤ state.captures
  /-- Numbers are given from one on. -/
  positive : ∀ capture, state.Holds capture → 0 < capture.1
  /-- No two groups share a number. -/
  distinct : ∀ first second, state.Holds first → state.Holds second → first.1 = second.1 →
    first = second
  /-- The names of all groups are known. -/
  named : ∀ capture, state.Holds capture → ∀ name ∈ capture.2, name ∈ state.names
  /-- No name is given twice. -/
  apart : state.names.Nodup

theorem ParseState.Numbered.take
    {state next : ParseState}
    {lexeme : Lexeme}
    (numbered : state.Numbered)
    (bare : lexeme.Bare)
    (taken : state.take lexeme = .ok next) :
    next.Numbered := by
  obtain ⟨captures, names, holds⟩ | ⟨name, captures, names, fresh, holds⟩ := holds_take bare taken
  · constructor
    · intro capture held
      rw [captures]
      exact numbered.below capture ((holds capture).mp held)
    · exact fun capture held => numbered.positive capture ((holds capture).mp held)
    · exact fun first second firstHeld secondHeld =>
        numbered.distinct first second ((holds first).mp firstHeld) ((holds second).mp secondHeld)
    · intro capture held
      rw [names]
      exact numbered.named capture ((holds capture).mp held)
    · exact names ▸ numbered.apart
  · constructor
    · intro capture held
      rw [captures]
      rcases (holds capture).mp held with rfl | before
      · exact Nat.le_refl _
      · exact Nat.le_succ_of_le (numbered.below capture before)
    · intro capture held
      rcases (holds capture).mp held with rfl | before
      · exact Nat.succ_pos _
      · exact numbered.positive capture before
    · intro first second firstHeld secondHeld same
      rcases (holds first).mp firstHeld with rfl | firstBefore
      · rcases (holds second).mp secondHeld with rfl | secondBefore
        · rfl
        · have := numbered.below second secondBefore
          dsimp only at same
          omega
      · rcases (holds second).mp secondHeld with rfl | secondBefore
        · have := numbered.below first firstBefore
          dsimp only at same
          omega
        · exact numbered.distinct first second firstBefore secondBefore same
    · intro capture held given isName
      rw [names]
      rcases (holds capture).mp held with rfl | before
      · exact List.mem_append_left _ (Option.mem_toList.mpr isName)
      · exact List.mem_append_right _ (numbered.named capture before given isName)
    · rw [names]
      cases name with
      | none => exact numbered.apart
      | some given => exact List.nodup_cons.mpr ⟨fresh given rfl, numbered.apart⟩

/-- A run of the parser keeps the numbering and every group that it has met. -/
theorem ParseState.Numbered.reads
    {state last : ParseState}
    {text rest : List Char}
    (numbered : state.Numbered)
    (reads : Reads state text last rest) :
    last.Numbered ∧ ∀ capture, state.Holds capture → last.Holds capture := by
  induction reads with
  | refl => exact ⟨numbered, fun _ held => held⟩
  | token skipped read taken others inductionHypothesis =>
      have bare := bare_readLexeme read
      obtain ⟨lastNumbered, keeps⟩ := inductionHypothesis (numbered.take bare taken)
      refine ⟨lastNumbered, fun capture held => keeps capture ?_⟩
      obtain ⟨-, -, holds⟩ | ⟨name, -, -, -, holds⟩ := holds_take bare taken
      · exact (holds capture).mpr held
      · exact (holds capture).mpr (.inr held)

theorem ParseState.numbered_start : ParseState.start.Numbered := by
  have none : ∀ capture, ¬ ParseState.start.Holds capture := by
    intro capture held
    simp [Holds, start, Level.start, Level.Holds] at held
  exact ⟨fun capture held => absurd held (none capture),
    fun capture held => absurd held (none capture),
    fun first _ held => absurd held (none first),
    fun capture held => absurd held (none capture), List.nodup_nil⟩

/-- Every group that the parser meets on the way is a group of the parsed pattern, and
the only one with its number. -/
theorem captures_of_parse
    {text rest : List Char}
    {ast : Ast}
    {state : ParseState}
    (found : parse text = .ok ast)
    (reads : Reads .start text state rest) :
    (∀ capture, state.Holds capture → capture ∈ ast.captures) ∧
      ∀ first ∈ ast.captures, ∀ second ∈ ast.captures, first.1 = second.1 → first = second := by
  obtain ⟨last, read, closed, rfl, -⟩ := parse_eq_ok_iff.mp found
  obtain ⟨end', others, -⟩ := readTokens_eq_ok_iff.mp (reads.readTokens_eq_ok.mp read)
  obtain ⟨numbered, -⟩ := ParseState.numbered_start.reads reads
  obtain ⟨lastNumbered, keeps⟩ := numbered.reads others
  have held : ∀ capture, last.Holds capture ↔ capture ∈ last.level.toAst.captures := by
    intro capture
    rw [Level.mem_captures_toAst_iff, ParseState.Holds, closed]
    simp
  refine ⟨fun capture isHeld => (held capture).mp (keeps capture isHeld), ?_⟩
  intro first firstMember second secondMember
  exact lastNumbered.distinct first second ((held first).mpr firstMember)
    ((held second).mpr secondMember)

/-! ## Groups of trees -/

namespace Tree

theorem captures_parts
    (tree : Tree) :
    tree.parts.flatMap captures = tree.captures := by
  induction tree with
  | empty => rfl
  | concat first rest _ restHypothesis =>
      rw [parts, List.flatMap_cons, restHypothesis, captures]
  | _ => exact List.append_nil _

theorem captures_branches
    (tree : Tree) :
    tree.branches.flatMap captures = tree.captures := by
  induction tree with
  | alternation first rest _ restHypothesis =>
      rw [branches, List.flatMap_cons, restHypothesis, captures]
  | _ => exact List.append_nil _

theorem captures_chain
    (given : List Tree) :
    (chain given).captures = given.flatMap captures := by
  induction given with
  | nil => rfl
  | cons part rest inductionHypothesis =>
      cases rest with
      | nil => exact (List.append_nil _).symm
      | cons next rest =>
          rw [List.flatMap_cons, ← inductionHypothesis]
          rfl

theorem captures_choice
    (given : List Tree) :
    (choice given).captures = given.flatMap captures := by
  induction given with
  | nil => rfl
  | cons branch rest inductionHypothesis =>
      cases rest with
      | nil => exact (List.append_nil _).symm
      | cons next rest =>
          rw [List.flatMap_cons, ← inductionHypothesis]
          rfl

theorem captures_joinLiterals
    (given : List Tree) :
    (joinLiterals given).flatMap captures = given.flatMap captures := by
  induction given with
  | nil => rfl
  | cons part rest inductionHypothesis =>
      cases part with
      | literal chars =>
          rw [List.flatMap_cons, ← inductionHypothesis, joinLiterals]
          split
          · next more joined same => rw [same]; rfl
          · rfl
      | _ => simp only [joinLiterals, List.flatMap_cons, inductionHypothesis]

/-- A sequence in normal form has the groups of its parts. -/
theorem captures_ofParts
    (given : List Tree) :
    (ofParts given).captures = given.flatMap captures := by
  rw [ofParts, captures_chain, captures_joinLiterals, List.flatMap_assoc]
  simp only [captures_parts]

theorem captures_ofSet
    (members : Unicode.CodePointSet) :
    (ofSet members).captures = [] := by
  rw [ofSet]
  split <;> rfl

/-- A choice in normal form has no groups but those of its branches. -/
theorem captures_ofBranchesWithin_subset
    (fuel : Nat)
    (given : List Tree) :
    (ofBranchesWithin fuel given).captures ⊆ given.flatMap captures := by
  induction fuel generalizing given with
  | zero =>
      rw [ofBranchesWithin, captures_choice]
      exact List.Subset.refl _
  | succ fuel inductionHypothesis =>
      have flat : (given.flatMap branches).flatMap captures = given.flatMap captures := by
        rw [List.flatMap_assoc]
        simp only [captures_branches]
      have asChoice : (choice (given.flatMap branches)).captures ⊆ given.flatMap captures := by
        rw [captures_choice, flat]
        exact List.Subset.refl _
      rw [ofBranchesWithin]
      dsimp only
      split
      · exact List.nil_subset _
      · next branch only =>
          rw [only, List.flatMap_cons] at flat
          rw [← flat]
          exact List.subset_append_left _ _
      · split
        · rw [captures_ofSet]
          exact List.nil_subset _
        · split
          · next first others read =>
              split
              · exact asChoice
              · have same := forall_of_mapM_eq_some read
                have inside : ∀ parts ∈ first :: others, ∀ part ∈ parts,
                    part.captures ⊆ given.flatMap captures := by
                  intro parts listed part member capture captured
                  have inFlat : some parts ∈ (given.flatMap branches).map sequence? :=
                    same ▸ List.mem_map.mpr ⟨parts, listed, rfl⟩
                  obtain ⟨tree, treeListed, treeRead⟩ := List.mem_map.mp inFlat
                  rw [parts_of_sequence? treeRead] at member
                  rw [← flat]
                  refine List.mem_flatMap.mpr ⟨tree, treeListed, ?_⟩
                  rw [← captures_parts]
                  exact List.mem_flatMap.mpr ⟨part, member, captured⟩
                intro capture captured
                rw [captures_ofParts, List.flatMap_append] at captured
                rcases List.mem_append.mp captured with inFront | inRest
                · obtain ⟨part, taken, partCaptured⟩ := List.mem_flatMap.mp inFront
                  exact inside first List.mem_cons_self part (List.mem_of_mem_take taken)
                    partCaptured
                · obtain ⟨last, isLast, lastCaptured⟩ := List.mem_flatMap.mp inRest
                  obtain rfl := List.mem_singleton.mp isLast
                  obtain ⟨rest, restListed, restCaptured⟩ :=
                    List.mem_flatMap.mp (inductionHypothesis _ lastCaptured)
                  obtain ⟨parts, listed, rfl⟩ := List.mem_map.mp restListed
                  rw [captures_ofParts] at restCaptured
                  obtain ⟨part, dropped, partCaptured⟩ := List.mem_flatMap.mp restCaptured
                  exact inside parts listed part (List.mem_of_mem_drop dropped) partCaptured
          · exact asChoice

theorem captures_ofBranches_subset
    (given : List Tree) :
    (ofBranches given).captures ⊆ given.flatMap captures :=
  captures_ofBranchesWithin_subset _ given

theorem captures_repeated_subset
    (min : Nat)
    (max : Option Nat)
    (greedy : Bool)
    (body : Tree) :
    (repeated min max greedy body).captures ⊆ body.captures := by
  rw [repeated]
  split
  split
  · exact List.nil_subset _
  · split <;> exact List.Subset.refl _

end Tree

/-! ## Lowering keeps names -/

/-- Whether a lowered part has no groups but those of a pattern. -/
structure Lowered.Within (lowered : Lowered) (ast : Ast) : Prop where
  /-- The branches have no others. -/
  branches : lowered.branches.flatMap Tree.captures ⊆ ast.captures
  /-- The parts have no others. -/
  parts : lowered.parts.flatMap Tree.captures ⊆ ast.captures

theorem Lowered.within_single
    {tree : Tree}
    {flags : Flags}
    {ast : Ast}
    (inside : tree.captures ⊆ ast.captures) :
    (single tree flags).Within ast := by
  have only : [tree].flatMap Tree.captures ⊆ ast.captures := by
    rwa [List.flatMap_cons, List.flatMap_nil, List.append_nil]
  exact ⟨only, only⟩

theorem Lowered.Within.tree
    {lowered : Lowered}
    {ast : Ast}
    (within : lowered.Within ast) :
    lowered.tree.captures ⊆ ast.captures :=
  List.Subset.trans (Tree.captures_ofBranches_subset _) within.branches

theorem within_single_ofSet
    {flags : Flags}
    {members : Except SyntaxError Unicode.CodePointSet}
    {ast : Ast}
    {lowered : Lowered}
    (found : (do return Lowered.single (.ofSet (← members)) flags) = Except.ok lowered) :
    lowered.Within ast := by
  obtain ⟨set, -, made⟩ := Except.bind_eq_ok_iff.mp found
  obtain rfl := Except.ok.inj made
  refine Lowered.within_single ?_
  rw [Tree.captures_ofSet]
  exact nofun

/-- Lowering makes no groups. -/
theorem within_lower
    {flags : Flags}
    {ast : Ast}
    {lowered : Lowered}
    (found : lower flags ast = .ok lowered) :
    lowered.Within ast := by
  induction ast generalizing flags lowered with
  | empty =>
      obtain rfl := Except.ok.inj found
      exact Lowered.within_single nofun
  | flags items =>
      obtain rfl := Except.ok.inj found
      exact Lowered.within_single nofun
  | literal literal =>
      obtain ⟨char, -, made⟩ := Except.bind_eq_ok_iff.mp found
      obtain rfl := Except.ok.inj made
      refine Lowered.within_single ?_
      rw [literalTree]
      split
      · rw [Tree.captures_ofSet]
        exact nofun
      · exact nofun
  | dot => exact within_single_ofSet found
  | assertion kind =>
      obtain rfl := Except.ok.inj found
      exact Lowered.within_single nofun
  | perl negated kind => exact within_single_ofSet found
  | unicode negated query => exact within_single_ofSet found
  | bracketed negated body =>
      obtain ⟨members, -, found⟩ := Except.bind_eq_ok_iff.mp found
      exact within_single_ofSet found
  | repetition count body inductionHypothesis =>
      obtain ⟨inner, innerFound, made⟩ := Except.bind_eq_ok_iff.mp found
      obtain rfl := Except.ok.inj made
      exact Lowered.within_single (List.Subset.trans (Tree.captures_repeated_subset _ _ _ _)
        (inductionHypothesis innerFound).tree)
  | group kind body inductionHypothesis =>
      cases kind with
      | capture index name =>
          obtain ⟨inner, innerFound, made⟩ := Except.bind_eq_ok_iff.mp found
          obtain rfl := Except.ok.inj made
          exact Lowered.within_single (List.cons_subset_cons _ (inductionHypothesis innerFound).tree)
      | plain items =>
          obtain ⟨inner, innerFound, made⟩ := Except.bind_eq_ok_iff.mp found
          obtain rfl := Except.ok.inj made
          exact Lowered.within_single (inductionHypothesis innerFound).tree
  | concat first rest firstHypothesis restHypothesis =>
      obtain ⟨front, frontFound, found⟩ := Except.bind_eq_ok_iff.mp found
      obtain ⟨back, backFound, made⟩ := Except.bind_eq_ok_iff.mp found
      obtain rfl := Except.ok.inj made
      have inside : (front.parts ++ back.parts).flatMap Tree.captures ⊆
          (Ast.concat first rest).captures := by
        rw [List.flatMap_append]
        exact List.append_subset.mpr
          ⟨List.Subset.trans (firstHypothesis frontFound).parts (List.subset_append_left _ _),
            List.Subset.trans (restHypothesis backFound).parts (List.subset_append_right _ _)⟩
      refine ⟨?_, inside⟩
      rw [List.flatMap_cons, List.flatMap_nil, List.append_nil, Tree.captures_ofParts]
      exact inside
  | alternation first rest firstHypothesis restHypothesis =>
      obtain ⟨front, frontFound, found⟩ := Except.bind_eq_ok_iff.mp found
      obtain ⟨back, backFound, made⟩ := Except.bind_eq_ok_iff.mp found
      obtain rfl := Except.ok.inj made
      have inside : (front.tree :: back.branches).flatMap Tree.captures ⊆
          (Ast.alternation first rest).captures := by
        rw [List.flatMap_cons]
        exact List.append_subset.mpr
          ⟨List.Subset.trans (firstHypothesis frontFound).tree (List.subset_append_left _ _),
            List.Subset.trans (restHypothesis backFound).branches (List.subset_append_right _ _)⟩
      refine ⟨inside, ?_⟩
      rw [List.flatMap_cons, List.flatMap_nil, List.append_nil]
      exact List.Subset.trans (Tree.captures_ofBranches_subset _) inside

/-- The name that a compiled pattern keeps for a number is a name that a group of the
pattern has with this number. -/
theorem mem_captures_of_groupNames
    {tree : Tree}
    {group : Nat}
    {name : String}
    (found : tree.groupNames[group]? = some (some name)) :
    (group, some name.toList) ∈ tree.captures := by
  rw [Tree.groupNames, List.getElem?_map] at found
  obtain ⟨number, inRange, named⟩ := Option.map_eq_some_iff.mp found
  obtain ⟨inside, same⟩ := List.getElem?_eq_some_iff.mp inRange
  rw [List.getElem_range] at same
  subst same
  obtain ⟨chars, charsFound, rfl⟩ := Option.map_eq_some_iff.mp named
  obtain ⟨⟨index, given⟩, captured, rfl⟩ := Option.bind_eq_some_iff.mp charsFound
  have same := List.find?_some captured
  obtain rfl : index = group := by simpa using same
  rw [String.toList_ofList]
  exact List.mem_of_find?_eq_some captured

end Linear
end LineExtraction
