import LineExtraction.Proofs.Backtracking.PrintedTrees
import LineExtraction.Proofs.Extraction.Dispatch

/-!
# Patterns that the linear engine runs

A phrase that both dialects know and that asks for no word is never hard.  The linear engine
runs what is printed of it, and does so as if it had been given the phrase.
-/

namespace LineExtraction

open Linear (Tree)
open Pattern (Leaf Phrase GroupSign Alternatives Mode Spells)

/-! ## Numbers of groups -/

namespace Backtracking.Ast

theorem captures_ofParts
    (parts : List Ast) :
    (ofParts parts).captures = capturesOf parts := by
  match parts with
  | [] => rfl
  | [part] => exact (List.append_nil _).symm
  | first :: second :: rest => rfl

theorem captures_ofBranches
    (branches : List Ast) :
    (ofBranches branches).captures = capturesOf branches := by
  match branches with
  | [] => rfl
  | [branch] => exact (List.append_nil _).symm
  | first :: second :: rest => rfl

theorem capturesOf_eq_flatMap
    (parts : List Ast) :
    capturesOf parts = parts.flatMap captures := by
  induction parts with
  | nil => rfl
  | cons part parts inductionHypothesis => rw [capturesOf, inductionHypothesis, List.flatMap_cons]

end Backtracking.Ast

namespace Pattern

open Backtracking (Ast)

/-- The groups between bars in order. -/
def Alternatives.captures (asts : Alternatives Ast) : List Nat :=
  asts.branches.flatMap Ast.capturesOf

theorem Alternatives.captures_backtracking
    (asts : Alternatives Ast) :
    asts.backtracking.captures = asts.captures := by
  rw [backtracking, Ast.captures_ofBranches, Ast.capturesOf_eq_flatMap, List.flatMap_map, captures]
  exact congrArg (asts.branches.flatMap ·) (funext Ast.captures_ofParts)

theorem Alternatives.captures_push
    (part : Ast)
    (asts : Alternatives Ast) :
    (asts.push part).captures = part.captures ++ asts.captures := by
  rw [push]
  split
  · next empty =>
      cases part with
      | empty => rfl
      | _ => cases empty
  · simp [captures, branches, cons, Ast.capturesOf]

theorem Quantifier.captures_of_turned?
    {quantifier : Option Quantifier}
    {part whole : Ast}
    (turned : turned? quantifier part = some whole) :
    whole.captures = part.captures := by
  cases quantifier with
  | none => rw [Option.some.inj turned]
  | some quantifier =>
      obtain ⟨-, turned⟩ := Option.ite_none_right_eq_some.mp turned
      obtain rfl := Option.some.inj turned
      rw [turns]
      split <;> rfl

/-- Groups are numbered in order. -/
theorem Phrase.captures_of_backtracking?
    {phrase : Phrase}
    {mode : Mode}
    {numbers : List (List Char × Nat)}
    {before : Nat}
    {asts : Alternatives Ast}
    (read : phrase.backtracking? mode numbers before = some asts) :
    asts.captures = List.range' (before + 1) phrase.captures := by
  induction phrase generalizing mode numbers before asts with
  | done =>
      obtain rfl := Option.some.inj read
      rfl
  | leaf atom quantifier rest inductionHypothesis =>
      obtain ⟨part, is, whole, turned, others, remaining, rfl⟩ := backtracking?_leaf_iff.mp read
      have none : part.captures = [] := by
        cases atom with
        | reference keyed name =>
            obtain ⟨group, -, rfl⟩ := Option.map_eq_some_iff.mp is
            rfl
        | _ =>
            obtain rfl := Option.some.inj is
            rfl
      rw [Alternatives.captures_push, Quantifier.captures_of_turned? turned, none, List.nil_append,
        inductionHypothesis remaining, captures]
  | group sign body quantifier rest bodyHypothesis restHypothesis =>
      obtain ⟨inner, inside, whole, turned, others, remaining, rfl⟩ :=
        backtracking?_group_iff.mp read
      have enclosed : (sign.enclosed before inner.backtracking).captures =
          List.range' (before + 1) (sign.captures + body.captures) := by
        have inside := bodyHypothesis inside
        rw [← Alternatives.captures_backtracking] at inside
        cases sign with
        | capture =>
            simpa [GroupSign.enclosed, Ast.captures, GroupSign.captures, Nat.add_comm 1,
              List.range'_succ] using inside
        | named long name =>
            simpa [GroupSign.enclosed, Ast.captures, GroupSign.captures, Nat.add_comm 1,
              List.range'_succ] using inside
        | _ => simpa [GroupSign.enclosed, Ast.captures, GroupSign.captures] using inside
      have next : before + sign.captures + body.captures + 1 =
          before + 1 + (sign.captures + body.captures) := by
        omega
      rw [Alternatives.captures_push, Quantifier.captures_of_turned? turned, enclosed,
        restHypothesis remaining, captures, next, List.range'_append_1]
  | bar rest inductionHypothesis =>
      obtain ⟨others, remaining, rfl⟩ := backtracking?_bar_iff.mp read
      exact (show others.bar.captures = others.captures from rfl).trans
        (inductionHypothesis remaining)

end Pattern

/-! ## Printed phrases -/

namespace Backtracking.Ast

/-- The groups of the pattern are numbered in order from `before` on. -/
def IsNumbered (before : Nat) (ast : Ast) : Prop :=
  ast.captures = List.range' (before + 1) ast.captures.length

/-- The groups of the patterns are numbered in order from `before` on. -/
def AreNumbered (before : Nat) (parts : List Ast) : Prop :=
  capturesOf parts = List.range' (before + 1) (capturesOf parts).length

theorem areNumbered_cons
    {before : Nat}
    {part : Ast}
    {parts : List Ast}
    (numbered : AreNumbered before (part :: parts)) :
    part.IsNumbered before ∧ AreNumbered (before + part.captures.length) parts := by
  rw [AreNumbered, capturesOf, List.length_append, ← List.range'_append_1] at numbered
  obtain ⟨here, later⟩ := List.append_inj numbered List.length_range'.symm
  refine ⟨here, ?_⟩
  rwa [AreNumbered, Nat.add_right_comm]

theorem isNumbered_capture
    {before index : Nat}
    {body : Ast}
    (numbered : (capture index body).IsNumbered before) :
    index = before + 1 ∧ body.IsNumbered (before + 1) := by
  rw [IsNumbered, captures, List.length_cons, List.range'_succ] at numbered
  exact List.cons.inj numbered

end Backtracking.Ast

namespace Pattern.Alternatives

/-- Before the first bar the trees start with those of `front`, and otherwise they are those
of others. -/
structure Leads (trees : Alternatives Tree) (front : List Tree) (others : Alternatives Tree) :
    Prop where
  later : trees.later = others.later
  here : Tree.spread trees.here = Tree.spread (front ++ others.here)

namespace Leads

variable {trees middle others : Alternatives Tree} {front back : List Tree}

theorem cons
    (tree : Tree)
    (others : Alternatives Tree) :
    (others.cons tree).Leads [tree] others :=
  ⟨rfl, rfl⟩

theorem trans
    (first : trees.Leads front middle)
    (second : middle.Leads back others) :
    trees.Leads (front ++ back) others := by
  refine ⟨first.later.trans second.later, first.here.trans ?_⟩
  rw [List.append_assoc, Tree.spread_append, second.here, ← Tree.spread_append]

theorem sequence
    (leads : trees.Leads front others)
    (canonical : ∀ tree ∈ front, tree.Canonical) :
    trees.Leads [.ofParts front] others := by
  refine ⟨leads.later, leads.here.trans ?_⟩
  rw [Tree.spread_append, Tree.spread_append, Tree.spread_ofParts canonical]

/-- Where nothing follows, the first branch is the sequence of what it starts with. -/
theorem ofParts_here
    (leads : trees.Leads front others)
    (ends : others.here = []) :
    Tree.ofParts trees.here = Tree.ofParts front := by
  have same := leads.here
  rw [ends, List.append_nil] at same
  exact Tree.ofParts_congr same

theorem tree
    (leads : trees.Leads front .nothing)
    (canonical : ∀ tree ∈ front, tree.Canonical) :
    trees.tree = .ofParts front := by
  rw [Alternatives.tree, branches, leads.later, List.map_cons, leads.ofParts_here rfl]
  exact (Tree.canonical_ofParts canonical).ofBranches_singleton

theorem tree_singleton
    {tree : Tree}
    (leads : trees.Leads [tree] .nothing)
    (canonical : tree.Canonical) :
    trees.tree = tree := by
  rw [leads.tree (List.forall_mem_singleton.mpr canonical), canonical.ofParts_singleton]

end Leads

end Pattern.Alternatives

namespace Backtracking.Ast

open Pattern (hereditary_canonical)

variable {classOf : List Char → Leaf}

/-- A marked atom has the tree that the atom has under the flag of the mark. -/
theorem trees_marked
    {sign : GroupSign}
    (flag : sign = .fold ∨ sign = .dotAll)
    {isMarked : Bool}
    {atom : Leaf}
    {quantifier : Option Pattern.Quantifier}
    {rest : Phrase}
    {before : Nat}
    {trees : Alternatives Tree}
    (found : (Phrase.marked sign isMarked atom quantifier rest).trees .start before = some trees) :
    ∃ tree, atom.tree? (if isMarked then sign.mode .start else .start) = some tree ∧
      ∃ whole, Pattern.Quantifier.repeated? quantifier tree = some whole ∧
        ∃ others, rest.trees .start before = some others ∧ trees.Leads [whole] others := by
  cases isMarked with
  | false =>
      obtain ⟨tree, known, whole, repeated, others, remaining, rfl⟩ := Phrase.trees_leaf_iff.mp found
      exact ⟨tree, known, whole, repeated, others, remaining, .cons whole others⟩
  | true =>
      obtain ⟨inner, inside, whole, repeated, others, remaining, rfl⟩ :=
        Phrase.trees_group_iff.mp found
      have plain : sign.isLook = false ∧ sign.captures = 0 ∧
          ∀ tree, sign.tree before tree = tree := by
        obtain rfl | rfl := flag <;> exact ⟨rfl, rfl, fun _ => rfl⟩
      rw [plain.1, if_neg Bool.false_ne_true] at inside
      obtain ⟨tree, known, _, same, _, nothing, rfl⟩ := Phrase.trees_leaf_iff.mp inside
      obtain rfl := Option.some.inj same
      obtain rfl := Option.some.inj nothing
      have alone : (Alternatives.nothing.cons tree).tree = tree := by
        exact (Alternatives.Leads.cons tree .nothing).tree_singleton (hereditary_canonical.atom known)
      rw [plain.2.2, alone] at repeated
      rw [plain.2.1] at remaining
      exact ⟨tree, known, whole, repeated, others, remaining, .cons whole others⟩

/-- A group that neither captures nor sets a flag has the tree of its body. -/
theorem trees_grouped
    {body : Phrase}
    {quantifier : Option Pattern.Quantifier}
    {rest : Phrase}
    {before : Nat}
    {trees : Alternatives Tree}
    (found : (Phrase.group .plain body quantifier rest).trees .start before = some trees) :
    ∃ inner, body.trees .start before = some inner ∧
      ∃ whole, Pattern.Quantifier.repeated? quantifier inner.tree = some whole ∧
        ∃ others, rest.trees .start (before + body.captures) = some others ∧
          trees.Leads [whole] others := by
  obtain ⟨inner, inside, whole, repeated, others, remaining, rfl⟩ :=
    Phrase.trees_group_iff.mp found
  exact ⟨inner, inside, whole, repeated, others, remaining, .cons whole others⟩

theorem tree?_anchor
    (kind : Pattern.Anchor)
    (mode : Mode) :
    (Leaf.anchor kind).tree? mode = some (.look (Linear.lookOf mode.linear kind.assertion)) := by
  have canonical : (Tree.look (Linear.lookOf mode.linear kind.assertion)).Canonical :=
    Tree.canonical_of_isPart rfl rfl trivial
  exact congrArg some canonical.ofBranches_singleton

/-- Where nothing stands beside it, a pattern that is no choice is written as a branch. -/
theorem phrase_loose
    {ast : Ast}
    (apart : ∀ branches, ast ≠ choice branches)
    (rest : Phrase) :
    ast.phrase classOf .loose none rest = ast.phrase classOf .branch none rest := by
  cases ast with
  | choice branches => exact absurd rfl (apart branches)
  | _ => rfl

/-- What a written quantifier makes of a tree. -/
theorem eq_of_repeated?_ofCounts
    {min : Nat}
    {max : Option Nat}
    {greedy : Bool}
    {tree whole : Tree}
    (repeated : Pattern.Quantifier.repeated? (some (.ofCounts min max greedy)) tree = some whole) :
    whole = .repeated min max greedy tree := by
  obtain ⟨count, counted, rfl⟩ := Option.map_eq_some_iff.mp repeated
  obtain ⟨bounds, known, rfl⟩ := Option.map_eq_some_iff.mp counted
  obtain rfl := Pattern.Counts.bounds?_ofBounds known
  exact congrArg (Tree.repeated min max · tree) (Bool.not_not greedy)

mutual

/-- The phrase that is printed of a pattern starts with the tree of the pattern. -/
theorem trees_phrase
    (ast : Ast)
    (plain : ast.IsPlain classOf)
    {binding : Binding}
    (bound : binding ≠ .loose)
    {quantifier : Option Pattern.Quantifier}
    (bears : Bears binding ast quantifier)
    {rest : Phrase}
    {before : Nat}
    (numbered : ast.IsNumbered before)
    {trees : Alternatives Tree}
    (found : (ast.phrase classOf binding quantifier rest).trees .start before = some trees) :
    ∃ whole, Pattern.Quantifier.repeated? quantifier (ast.tree classOf) = some whole ∧
      ∃ others, rest.trees .start (before + ast.captures.length) = some others ∧
        trees.Leads [whole] others := by
  cases ast with
  | empty =>
      obtain rfl := eq_none_of_bears bears nofun
      exact ⟨_, rfl, trees, found, rfl, rfl⟩
  | any newline =>
      obtain ⟨tree, known, more⟩ := trees_marked (.inr rfl) found
      have same : (any newline).tree classOf = tree := by
        rw [Ast.tree]
        cases newline <;> exact congrArg (Option.getD · Tree.empty) known
      rwa [same]
  | literal char fold =>
      obtain ⟨tree, known, more⟩ := trees_marked (.inl rfl) found
      have same : (literal char fold).tree classOf = tree := by
        rw [Leaf.tree?_char, Pattern.Spelling.char_quoted] at known
        cases fold <;> exact Option.some.inj known
      rwa [same]
  | assertion look =>
      obtain rfl := eq_none_of_bears bears nofun
      obtain ⟨tree, known, whole, repeated, others, remaining, rfl⟩ := Phrase.trees_leaf_iff.mp found
      have same : (assertion look).tree classOf = tree := by
        rw [tree?_anchor] at known
        obtain rfl | rfl := plain <;> exact Option.some.inj known
      rw [same]
      exact ⟨whole, repeated, others, remaining, .cons whole others⟩
  | charClass text fold =>
      obtain ⟨tree, known, more⟩ := trees_marked (.inl rfl) found
      have same : (charClass text fold).tree classOf = tree := by
        rw [Ast.tree]
        cases fold <;> exact congrArg (Option.getD · Tree.empty) known
      rwa [same]
  | sequence parts =>
      rw [phrase] at found
      split at found
      · obtain ⟨inner, inside, whole, repeated, others, remaining, leads⟩ := trees_grouped found
        obtain ⟨_, ⟨⟩, innerLeads⟩ := trees_partsPhrase parts plain numbered inside
        rw [innerLeads.tree (canonical_treesOf parts)] at repeated
        rw [captures_partsPhrase parts plain .done] at remaining
        exact ⟨whole, repeated, others, remaining, leads⟩
      · next apart =>
          obtain rfl := eq_none_of_bears bears fun same => apart (.inr same.1)
          obtain ⟨others, remaining, leads⟩ := trees_partsPhrase parts plain numbered found
          exact ⟨_, rfl, others, remaining, leads.sequence (canonical_treesOf parts)⟩
  | choice branches =>
      rw [phrase, if_neg bound] at found
      obtain ⟨inner, inside, whole, repeated, others, remaining, leads⟩ := trees_grouped found
      rw [captures_branchesPhrase branches plain.2 .done] at remaining
      rw [Alternatives.tree, trees_branchesPhrase branches plain.1 plain.2 numbered inside]
        at repeated
      exact ⟨whole, repeated, others, remaining, leads⟩
  | capture index body =>
      obtain ⟨rfl, inner⟩ := isNumbered_capture numbered
      obtain ⟨insides, inside, whole, repeated, others, remaining, rfl⟩ :=
        Phrase.trees_group_iff.mp found
      have plain : body.IsPlain classOf := plain
      have inside : (body.phrase classOf .loose none .done).trees .start (before + 1) =
          some insides :=
        inside
      rw [captures_phrase body plain .loose none .done] at remaining
      have same : insides.tree = body.tree classOf := by
        cases body with
        | choice branches =>
            exact congrArg Tree.ofBranches
              (trees_branchesPhrase branches plain.1 plain.2 inner inside)
        | _ =>
            rw [phrase_loose (by nofun)] at inside
            obtain ⟨_, ⟨⟩, _, ⟨⟩, leads⟩ := trees_phrase _ plain (by nofun) (by nofun) inner inside
            exact leads.tree_singleton (canonical_tree _)
      have counted : before + (capture (before + 1) body).captures.length =
          before + 1 + (body.captures.length + 0) := by
        rw [captures, List.length_cons]
        omega
      rw [same] at repeated
      rw [counted]
      exact ⟨whole, repeated, others, remaining, .cons whole others⟩
  | repetition min max greedy body =>
      rw [phrase] at found
      split at found
      · obtain ⟨inner, inside, whole, repeated, others, remaining, leads⟩ := trees_grouped found
        obtain ⟨own, turned, _, ⟨⟩, innerLeads⟩ :=
          trees_phrase body plain.2.2 (by nofun) (fun _ => ⟨rfl, plain.2.1⟩) numbered inside
        have same : inner.tree = (repetition min max greedy body).tree classOf := by
          obtain rfl := eq_of_repeated?_ofCounts turned
          exact innerLeads.tree_singleton (canonical_tree (repetition min max greedy body))
        rw [captures_phrase body plain.2.2 .quantified _ .done] at remaining
        exact ⟨whole, same ▸ repeated, others, remaining, leads⟩
      · next apart =>
          obtain rfl := eq_none_of_bears bears fun same => apart same.1
          obtain ⟨own, turned, others, remaining, leads⟩ :=
            trees_phrase body plain.2.2 (by nofun) (fun _ => ⟨rfl, plain.2.1⟩) numbered found
          obtain rfl := eq_of_repeated?_ofCounts turned
          exact ⟨_, rfl, others, remaining, leads⟩
  | _ => cases plain

theorem trees_partsPhrase
    (parts : List Ast)
    (plain : ArePlain classOf parts)
    {rest : Phrase}
    {before : Nat}
    (numbered : AreNumbered before parts)
    {trees : Alternatives Tree}
    (found : (partsPhrase classOf rest parts).trees .start before = some trees) :
    ∃ others, rest.trees .start (before + (capturesOf parts).length) = some others ∧
      trees.Leads (treesOf classOf parts) others := by
  cases parts with
  | nil => exact ⟨trees, found, rfl, rfl⟩
  | cons part parts =>
      obtain ⟨here, later⟩ := areNumbered_cons numbered
      have found : (part.phrase classOf .part none _).trees .start before = some trees := found
      obtain ⟨_, ⟨⟩, middle, behind, first⟩ :=
        trees_phrase part plain.1 (by nofun) (by nofun) here found
      obtain ⟨others, remaining, second⟩ := trees_partsPhrase parts plain.2 later behind
      rw [capturesOf, List.length_append, ← Nat.add_assoc]
      exact ⟨others, remaining, first.trans second⟩

theorem trees_branchesPhrase
    (branches : List Ast)
    (several : branches ≠ [])
    (plain : ArePlain classOf branches)
    {before : Nat}
    (numbered : AreNumbered before branches)
    {trees : Alternatives Tree}
    (found : (branchesPhrase classOf .done branches).trees .start before = some trees) :
    trees.branches.map Tree.ofParts = treesOf classOf branches := by
  match branches with
  | [] => exact absurd rfl several
  | [branch] =>
      have found : (branch.phrase classOf .branch none .done).trees .start before = some trees :=
        found
      obtain ⟨_, ⟨⟩, _, ⟨⟩, leads⟩ :=
        trees_phrase branch plain.1 (by nofun) (by nofun) (areNumbered_cons numbered).1 found
      rw [Alternatives.branches, leads.later, List.map_cons, leads.ofParts_here rfl,
        (canonical_tree branch).ofParts_singleton]
      rfl
  | branch :: other :: branches =>
      obtain ⟨here, later⟩ := areNumbered_cons numbered
      rw [branchesPhrase] at found
      · obtain ⟨_, ⟨⟩, _, behind, leads⟩ :=
          trees_phrase branch plain.1 (by nofun) (by nofun) here found
        obtain ⟨others, remaining, rfl⟩ := Phrase.trees_bar_iff.mp behind
        have rest := trees_branchesPhrase (other :: branches) nofun plain.2 later remaining
        rw [Alternatives.branches, leads.later, List.map_cons, leads.ofParts_here rfl,
          (canonical_tree branch).ofParts_singleton, treesOf, ← rest]
        rfl
      · nofun

end

/-- The phrase that is printed of a whole pattern has the tree of the pattern. -/
theorem tree?_phrase
    {ast : Ast}
    (plain : ast.IsPlain classOf)
    (numbered : ast.IsNumbered 0)
    {tree : Tree}
    (found : (ast.phrase classOf .loose none .done).tree? = some tree) :
    tree = ast.tree classOf := by
  obtain ⟨trees, known, rfl⟩ := Option.map_eq_some_iff.mp found
  by_cases chooses : ∃ branches, ast = choice branches
  · obtain ⟨branches, rfl⟩ := chooses
    exact congrArg Tree.ofBranches (trees_branchesPhrase branches plain.1 plain.2 numbered known)
  · rw [phrase_loose fun branches same => chooses ⟨branches, same⟩] at known
    obtain ⟨_, ⟨⟩, _, ⟨⟩, leads⟩ := trees_phrase ast plain (by nofun) (by nofun) numbered known
    exact leads.tree_singleton (canonical_tree ast)

end Backtracking.Ast

/-! ## Compiled phrases -/

/-- What is printed of a phrase runs as the phrase itself does in the linear dialect: it never
gives up, and it finds the same. -/
theorem Backtracking.Regex.search_of_compile
    {phrase : Phrase}
    (valid : phrase.isValid)
    (common : phrase.isCommon)
    (edgeless : phrase.isEdgeless)
    {tree : Tree}
    (known : phrase.tree? = some tree)
    {pattern : String}
    (text : pattern.toList = phrase.text)
    {limit : Nat}
    {regex : Regex}
    (compiled : compile limit pattern = .ok regex)
    (line : Line) :
    regex.search line = .ok ((Linear.Regex.ofTree tree).search line) := by
  obtain ⟨classOf, spells⟩ := Pattern.exists_spells
  obtain ⟨trees, treesKnown, rfl⟩ := Option.map_eq_some_iff.mp known
  obtain ⟨parsed, parses, compiled⟩ := Except.bind_eq_ok_iff.mp compiled
  have parses := Except.mapError_eq_ok_iff.mp parses
  rw [text] at parses
  obtain ⟨asts, read, rfl⟩ := parse_phrase valid parses
  have stand := Phrase.stand_of_backtracking? spells valid common edgeless treesKnown read
  have plain := stand.isPlain_backtracking
  have numbered : asts.backtracking.IsNumbered 0 := by
    rw [Ast.IsNumbered, asts.captures_backtracking, Phrase.captures_of_backtracking? read,
      List.length_range']
  have soft := Ast.isHard_of_isPlain asts.backtracking plain
  rw [if_neg Bool.false_ne_true] at compiled
  dsimp only at compiled
  rw [soft, if_neg Bool.false_ne_true] at compiled
  obtain ⟨linear, linearCompiled, made⟩ := Except.bind_eq_ok_iff.mp compiled
  obtain rfl := Except.ok.inj made
  obtain ⟨whole, wholeFound, rfl⟩ :=
    Linear.Regex.treeOf_of_compile (Except.mapError_eq_ok_iff.mp linearCompiled)
  have printed : (String.ofList (asts.backtracking.toText .loose)).toList =
      (asts.backtracking.phrase classOf .loose none .done).text := by
    rw [String.toList_ofList, Ast.text_phrase asts.backtracking plain .loose none nofun .done]
    simp [Pattern.Quantifier.textOf, Phrase.text]
  obtain ⟨-, nameless, namelessKnown, rfl⟩ := Phrase.tree_of_treeOf
    (Ast.isValid_phrase plain .loose rfl) (Ast.isCommon_phrase plain .loose rfl)
    (Ast.namedBy_of_arePrinted (Ast.arePrinted_phrase plain .loose rfl) 0) printed wholeFound
  obtain rfl := Ast.tree?_phrase plain numbered namelessKnown
  show Except.ok _ = _
  rw [Linear.search_ofTree_named, stand.tree_backtracking]

end LineExtraction
