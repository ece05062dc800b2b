import LineExtraction.Proofs.Backtracking.Printing

/-!
# Trees of printed patterns

A phrase that both dialects know has one tree in the linear dialect, whether it is read there
as it stands or as what the backtracking dialect prints of it.
-/

namespace LineExtraction

/-! ## Characters without case -/

namespace Unicode

/-- Whether a code point is beyond ASCII or one of an ASCII letter. -/
def mayFold (codePoint : Nat) : Bool :=
  0x80 ≤ codePoint ∨ (0x41 ≤ codePoint ∧ codePoint ≤ 0x5A) ∨ (0x61 ≤ codePoint ∧ codePoint ≤ 0x7A)

theorem all_mayFold_classes : CaseTable.classes.all fun codePoints => codePoints.all mayFold := by
  decide +kernel

theorem mayFold_of_mem_all
    {entry : CaseVariants}
    (listed : entry ∈ CaseVariants.all) :
    mayFold entry.codePoint := by
  obtain ⟨codePoints, known, member⟩ := List.mem_flatMap.mp (List.mem_mergeSort.mp listed)
  obtain ⟨codePoint, inside, rfl⟩ := List.mem_map.mp member
  exact List.all_eq_true.mp (List.all_eq_true.mp all_mayFold_classes codePoints known) codePoint
    inside

/-- A code point has no variants that stands in no class. -/
theorem CaseVariants.within_eq_nil
    {entries : List CaseVariants}
    {codePoint : Nat}
    (apart : ∀ entry ∈ entries, entry.codePoint ≠ codePoint) :
    within entries [⟨codePoint, codePoint⟩] = [] := by
  induction entries with
  | nil => rw [within]
  | cons entry entries inductionHypothesis =>
      obtain ⟨here, later⟩ := List.forall_mem_cons.mp apart
      rw [within]
      split
      · exact inductionHypothesis later
      · next above =>
          rw [if_neg]
          · rw [within]
            intro same
            cases same
          · exact fun below => here (Nat.le_antisymm below (Nat.le_of_not_lt above))

/-- Folding leaves a character that has no case as it is. -/
theorem CodePointSet.foldCase_singleton
    {char : Char}
    (caseless : ¬ mayFold char.toNat) :
    (singleton char).foldCase = singleton char := by
  have alone : CaseVariants.within CaseVariants.all (singleton char).ranges = [] :=
    CaseVariants.within_eq_nil fun entry listed same =>
      caseless (same ▸ mayFold_of_mem_all listed)
  rw [foldCase, alone]
  simp [ofRanges, union, singleton, join, joinInto]

end Unicode

/-! ## Atoms -/

namespace Pattern

open Linear (Tree treeOf?)

namespace Leaf

/-- Classes with one text are read as one part. -/
theorem part?_eq_of_text
    {left right : Leaf}
    (leftClass : left.isClass)
    (leftValid : left.isValid)
    (rightClass : right.isClass)
    (rightValid : right.isValid)
    (same : left.text = right.text) :
    left.part? = right.part? := by
  have apart {kind : NamedClass} {set : Bracket} : kind.text ≠ set.text := by
    cases kind <;> nofun
  cases left with
  | named kind =>
      cases right with
      | named other =>
          obtain ⟨tail, text⟩ : ∃ tail, kind.text = '\\' :: tail := by
            cases kind <;> exact ⟨_, rfl⟩
          obtain ⟨_, first⟩ := Linear.yields_readEscape_named leftValid text []
          have second := Linear.yields_readEscape_named rightValid (same.symm.trans text) []
          have equal : kind.primitive = other.primitive := (second.unique first).1
          exact congrArg (fun primitive : Linear.Primitive => some primitive.toAst) equal
      | bracket set => exact absurd same apart
      | _ => cases rightClass
  | bracket set =>
      cases right with
      | named kind => exact absurd same.symm apart
      | bracket other =>
          have body : set.body = other.body := (List.cons.inj same).2
          rw [part?, part?, body]
      | _ => cases rightClass
  | _ => cases leftClass

theorem tree?_of_isClass
    {atom : Leaf}
    (isClass : atom.isClass)
    (mode : Mode) :
    atom.tree? mode = atom.part?.bind (treeOf? mode.linear) := by
  cases atom with
  | named kind => rfl
  | bracket set => rfl
  | _ => cases isClass

/-- A class keeps its tree when it is spelled with few escapes. -/
theorem tree?_respell
    {set : Bracket}
    (valid : set.isValid)
    {mode : Mode}
    {tree : Tree}
    (found : (bracket set).tree? mode = some tree) :
    (bracket set.respell).tree? mode = some tree := by
  have body : set.respell.body = set.bodyAs true := (List.cons.inj set.text_respell).2
  obtain ⟨part, is, found⟩ := Option.bind_eq_some_iff.mp found
  obtain ⟨read, alone, rfl⟩ := Option.map_eq_some_iff.mp is
  obtain ⟨⟨negated, members⟩, ending, shorter⟩ := read
  have yields : Yields (Linear.readBracketClass false (set.bodyAs false ++ [])) (negated, members)
      ending := by
    rw [List.append_nil]
    exact ⟨shorter, Except.toOption_eq_some_iff.mp alone⟩
  obtain ⟨others, same, again⟩ : ∃ others, members.dropBytes = others.dropBytes ∧
      Yields (Linear.readBracketClass false (set.bodyAs true ++ [])) (negated, others) [] :=
    (Linear.readBracketClass_respelled valid yields).2
  rw [List.append_nil, ← body] at again
  have written : (bracket set.respell).part? = some (.bracketed negated others) := by
    obtain ⟨_, again⟩ := again
    rw [part?, again]
    rfl
  have unicode : mode.linear.unicode := rfl
  have equal := Linear.ClassSet.members_dropBytes unicode members
  rw [same, Linear.ClassSet.members_dropBytes unicode] at equal
  rw [tree?_of_isClass rfl, written, ← found]
  show treeOf? _ _ = _
  rw [treeOf?, treeOf?, Linear.lower, Linear.lower, equal]

theorem tree?_char
    (mode : Mode)
    (spelling : Spelling) :
    (char spelling).tree? mode = some (Linear.literalTree mode.linear spelling.char) := by
  have made : Linear.lower mode.linear (.literal spelling.literal) =
      .ok (.single (Linear.literalTree mode.linear spelling.char) mode.linear) := rfl
  have found := Linear.treeOf?_of_lower made
  rw [← eq_of_treeOf?_of_single found made]
  exact found

theorem tree?_dot
    (mode : Mode) :
    dot.tree? mode = dot.tree? ⟨false, mode.dotAll⟩ := by
  obtain ⟨fold, dotAll⟩ := mode
  cases dotAll <;> rfl

end Leaf
end Pattern

/-- The members of a class depend on two flags. -/
theorem Linear.ClassSet.members_congr
    {flags others : Flags}
    (fold : flags.caseInsensitive = others.caseInsensitive)
    (unicode : flags.unicode = others.unicode)
    (set : ClassSet) :
    set.members flags = set.members others := by
  have folded : foldedBy flags = foldedBy others := by
    funext set
    rw [foldedBy, foldedBy, fold, unicode]
  have negated : negatedBy flags = negatedBy others := by
    funext isNegated set
    rw [negatedBy, negatedBy, unicode]
  have member : memberChar flags = memberChar others := by
    funext literal
    rw [memberChar, memberChar, literalChar, literalChar, unicode]
  induction set with
  | empty => rfl
  | literal char => rw [members, members, member]
  | range first last => rw [members, members, member]
  | ascii isNegated kind => rw [members, members, folded, negated]
  | perl isNegated kind => rw [members, members, perlSet, perlSet, negated, unicode]
  | unicode isNegated query => rw [members, members, unicodeSet, unicodeSet, negated, folded, unicode]
  | bracketed isNegated body bodyHypothesis =>
      rw [members, members, bodyHypothesis, folded, negated]
  | union first rest firstHypothesis restHypothesis =>
      rw [members, members, firstHypothesis, restHypothesis]
  | operation operator left right leftHypothesis rightHypothesis =>
      rw [members, members, leftHypothesis, rightHypothesis, folded]

/-- The tree of a class depends on the folding of case alone. -/
theorem Pattern.Leaf.tree?_eq_of_fold
    {atom : Leaf}
    (isClass : atom.isClass)
    (mode : Mode) :
    atom.tree? mode = atom.tree? ⟨mode.fold, false⟩ := by
  have single {members others : Except Linear.SyntaxError Unicode.CodePointSet}
      (same : members = others) (flags : Linear.Flags) :
      ((do return Linear.Lowered.single (.ofSet (← members)) mode.linear).toOption.map
          Linear.Lowered.tree) =
        (do return Linear.Lowered.single (.ofSet (← others)) flags).toOption.map
          Linear.Lowered.tree := by
    subst same
    cases members <;> rfl
  rw [tree?_of_isClass isClass, tree?_of_isClass isClass]
  cases atom with
  | named kind =>
      obtain ⟨negated, perl, same⟩ | ⟨negated, query, same⟩ := Linear.exists_primitive kind
      · show Linear.treeOf? _ kind.primitive.toAst = Linear.treeOf? _ kind.primitive.toAst
        rw [same]
        exact single rfl _
      · show Linear.treeOf? _ kind.primitive.toAst = Linear.treeOf? _ kind.primitive.toAst
        rw [same]
        exact single rfl _
  | bracket set =>
      cases is : (bracket set).part? with
      | none => rfl
      | some part =>
          obtain ⟨read, -, rfl⟩ := Option.map_eq_some_iff.mp is
          have fold : mode.linear.caseInsensitive = (Mode.linear ⟨mode.fold, false⟩).caseInsensitive :=
            rfl
          have members := Linear.ClassSet.members_congr fold rfl read.value.2
          show Linear.treeOf? _ _ = Linear.treeOf? _ _
          rw [Linear.treeOf?, Linear.treeOf?, Linear.lower, Linear.lower, members]
          cases read.value.2.members (Mode.linear ⟨mode.fold, false⟩) with
          | error fault => rfl
          | ok set =>
              exact single (rfl : Linear.negatedBy mode.linear read.value.1
                (Linear.foldedBy mode.linear set) = _) _
  | _ => cases isClass

/-! ## Trees of patterns -/

namespace Backtracking.Ast

open Linear (Tree)
open Pattern (Leaf Mode hereditary_canonical)

section

variable (classOf : List Char → Leaf)

mutual

/-- The tree of a pattern that is printed as a phrase, where the class with a text is given. -/
def tree : Ast → Tree
  | any newline => (Leaf.dot.tree? ⟨false, newline⟩).getD .empty
  | literal char fold => Linear.literalTree (Mode.linear ⟨fold, false⟩) char
  | assertion look => .look look
  | charClass text fold => ((classOf text).tree? ⟨fold, false⟩).getD .empty
  | sequence parts => .ofParts (treesOf parts)
  | choice branches => .ofBranches (treesOf branches)
  | capture index body => .capture index none body.tree
  | repetition min max greedy body => .repeated min max greedy body.tree
  | _ => .empty

/-- The trees of the patterns. -/
def treesOf : List Ast → List Tree
  | [] => []
  | part :: parts => part.tree :: treesOf parts

end

end

variable {classOf : List Char → Leaf}

theorem treesOf_eq_map
    (parts : List Ast) :
    treesOf classOf parts = parts.map (tree classOf) := by
  induction parts with
  | nil => rfl
  | cons part parts inductionHypothesis => rw [treesOf, inductionHypothesis, List.map_cons]

mutual

theorem canonical_tree
    (ast : Ast) :
    (ast.tree classOf).Canonical := by
  have atom (mode : Mode) (atom : Leaf) : ((atom.tree? mode).getD .empty).Canonical := by
    cases found : atom.tree? mode with
    | none => exact Tree.canonical_empty
    | some tree => exact hereditary_canonical.atom found
  cases ast with
  | any newline => exact atom ⟨false, newline⟩ .dot
  | literal char fold =>
      have found := Leaf.tree?_char ⟨fold, false⟩ (.plain char)
      exact hereditary_canonical.atom found
  | assertion look => exact Tree.canonical_of_isPart rfl rfl trivial
  | charClass text fold => exact atom ⟨fold, false⟩ (classOf text)
  | sequence parts => exact Tree.canonical_ofParts (canonical_treesOf parts)
  | choice branches => exact Tree.canonical_ofBranches (canonical_treesOf branches)
  | capture index body => exact Tree.canonical_of_isPart rfl rfl trivial
  | repetition min max greedy body => exact Tree.canonical_repeated (canonical_tree body) _ _ _
  | _ => exact Tree.canonical_empty

theorem canonical_treesOf
    (parts : List Ast) :
    ∀ tree ∈ treesOf classOf parts, tree.Canonical := by
  cases parts with
  | nil => exact nofun
  | cons part parts =>
      exact List.forall_mem_cons.mpr ⟨canonical_tree part, canonical_treesOf parts⟩

end

theorem tree_ofParts
    (parts : List Ast) :
    (ofParts parts).tree classOf = .ofParts (parts.map (tree classOf)) := by
  match parts with
  | [] => rfl
  | [part] => exact (canonical_tree part).ofParts_singleton.symm
  | first :: second :: rest =>
      show Tree.ofParts (treesOf classOf _) = _
      rw [treesOf_eq_map]

theorem tree_ofBranches
    (branches : List Ast) :
    (ofBranches branches).tree classOf = .ofBranches (branches.map (tree classOf)) := by
  match branches with
  | [] => rfl
  | [branch] => exact (canonical_tree branch).ofBranches_singleton.symm
  | first :: second :: rest =>
      show Tree.ofBranches (treesOf classOf _) = _
      rw [treesOf_eq_map]

end Backtracking.Ast

/-! ## Quantifiers -/

namespace Pattern

theorem Counts.value_of_countOf
    {digits : List Char}
    {count : Nat}
    (found : (Linear.countOf digits).toOption = some count) :
    decimalValue digits = count ∧ count < Backtracking.maximalNumber := by
  have found := Except.toOption_eq_some_iff.mp found
  rw [Linear.countOf] at found
  split at found
  · cases found
  · split at found
    · cases found
    · next small =>
        obtain rfl := Except.ok.inj found
        exact ⟨rfl, Nat.lt_of_le_of_lt (Nat.le_of_not_lt small) (by decide)⟩

/-- Both dialects read counts alike that the linear one can read. -/
theorem Counts.limits_of_bounds?
    {counts : Counts}
    {bounds : Nat × Option Nat}
    (found : counts.bounds? = some bounds) :
    counts.limits = bounds ∧ bounds.1 ≤ Backtracking.maximalNumber ∧
      ∀ bound ∈ bounds.2, bound ≤ Backtracking.maximalNumber := by
  have bound {count : Nat} (small : count < Backtracking.maximalNumber) :
      Backtracking.boundOf count = some count :=
    if_neg (Nat.ne_of_lt small)
  have all {count : Nat} (small : count < Backtracking.maximalNumber) :
      ∀ bound ∈ some count, bound ≤ Backtracking.maximalNumber := by
    rintro _ ⟨⟩
    exact Nat.le_of_lt small
  cases counts with
  | exactly digits =>
      obtain ⟨count, read, made⟩ := Option.bind_eq_some_iff.mp found
      obtain rfl := Option.some.inj made
      obtain ⟨value, small⟩ := value_of_countOf read
      refine ⟨?_, Nat.le_of_lt small, all small⟩
      rw [limits, value, bound small]
  | atLeast digits =>
      obtain ⟨count, read, made⟩ := Option.bind_eq_some_iff.mp found
      obtain rfl := Option.some.inj made
      obtain ⟨value, small⟩ := value_of_countOf read
      refine ⟨?_, Nat.le_of_lt small, nofun⟩
      rw [limits, value]
  | between least greatest =>
      obtain ⟨min, minRead, made⟩ := Option.bind_eq_some_iff.mp found
      obtain ⟨max, maxRead, made⟩ := Option.bind_eq_some_iff.mp made
      obtain ⟨minValue, minSmall⟩ := value_of_countOf minRead
      obtain ⟨maxValue, maxSmall⟩ := value_of_countOf maxRead
      split at made
      · cases made
      · obtain rfl := Option.some.inj made
        refine ⟨?_, Nat.le_of_lt minSmall, all maxSmall⟩
        rw [limits, minValue, maxValue, bound maxSmall]
  | optional =>
      obtain rfl := Option.some.inj found
      exact ⟨rfl, by decide, all (by decide)⟩
  | star =>
      obtain rfl := Option.some.inj found
      exact ⟨rfl, by decide, nofun⟩
  | plus =>
      obtain rfl := Option.some.inj found
      exact ⟨rfl, by decide, nofun⟩

/-- Counts that were written are read back. -/
theorem Counts.bounds?_ofBounds
    {min : Nat}
    {max : Option Nat}
    {bounds : Nat × Option Nat}
    (found : (ofBounds min max).bounds? = some bounds) :
    bounds = (min, max) := by
  have back {given count : Nat}
      (read : (Linear.countOf (Nat.repr given).toList).toOption = some count) : count = given := by
    rw [← (value_of_countOf read).1]
    exact decimalValue_toString given
  unfold ofBounds at found
  split at found
  case h_4 =>
    obtain ⟨count, read, made⟩ := Option.bind_eq_some_iff.mp found
    rw [← Option.some.inj made, back read]
  case h_5 =>
    split at found
    · next same =>
        obtain ⟨count, read, made⟩ := Option.bind_eq_some_iff.mp found
        rw [← Option.some.inj made, back read, same]
    · obtain ⟨low, lowRead, made⟩ := Option.bind_eq_some_iff.mp found
      obtain ⟨high, highRead, made⟩ := Option.bind_eq_some_iff.mp made
      split at made
      · cases made
      · rw [← Option.some.inj made, back lowRead, back highRead]
  all_goals exact (Option.some.inj found).symm

end Pattern

/-! ## Reading -/

namespace Pattern

open Linear (Tree)
open Backtracking (Ast)

/-- Whether the atom asks whether a word starts or ends. -/
def Leaf.isWordEdge : Leaf → Bool
  | anchor .wordBoundary => true
  | anchor .notWordBoundary => true
  | anchor .wordStart => true
  | anchor .wordEnd => true
  | _ => false

/-- Whether the phrase asks nowhere whether a word starts or ends. -/
def Phrase.isEdgeless : Phrase → Bool :=
  allOf (fun atom _ => ¬ atom.isWordEdge) (fun _ _ => true)

theorem not_mayFold_of_isEscapable
    {char : Char}
    (escapable : Linear.isEscapable char) :
    ¬ Unicode.mayFold char.toNat := by
  obtain special | ⟨ascii, other, -⟩ := of_decide_eq_true escapable
  · have checked : ['\\', '.', '+', '*', '?', '(', ')', '|', '[', ']', '\x7b', '\x7d', '^', '$',
        '#', '&', '-', '~'].all fun char => ¬ Unicode.mayFold char.toNat := by
      decide
    exact of_decide_eq_true (List.all_eq_true.mp checked char (of_decide_eq_true special))
  · have checked : ∀ code < 0x80, Unicode.mayFold code → (Char.ofNat code).isAlphanum := by
      decide
    intro folds
    have alphanum := checked char.toNat ascii folds
    rw [Char.ofNat_toNat] at alphanum
    exact other alphanum

theorem not_mayFold_of_controlNamed?
    {letter char : Char}
    (named : Linear.controlNamed? letter = some char) :
    ¬ Unicode.mayFold char.toNat := by
  unfold Linear.controlNamed? at named
  split at named
  case h_7 => cases named
  all_goals
    obtain rfl := Option.some.inj named
    decide

/-- A character that does not fold by its spelling has no case. -/
theorem Spelling.not_mayFold
    {special : List Char}
    {spelling : Spelling}
    (valid : spelling.isValid special)
    (rigid : spelling.folds = false) :
    ¬ Unicode.mayFold spelling.char.toNat := by
  cases spelling with
  | escaped char => exact not_mayFold_of_isEscapable valid
  | control letter =>
      obtain ⟨char, named⟩ := Option.isSome_iff_exists.mp valid
      rw [Spelling.char, named]
      exact not_mayFold_of_controlNamed? named
  | _ => cases rigid

theorem literalTree_of_not_mayFold
    {char : Char}
    (caseless : ¬ Unicode.mayFold char.toNat)
    (mode : Mode) :
    Linear.literalTree mode.linear char = .literal [char] := by
  obtain ⟨fold, dotAll⟩ := mode
  cases fold with
  | false => rfl
  | true =>
      show Tree.ofSet (Unicode.CodePointSet.foldCase _) = _
      rw [Unicode.CodePointSet.foldCase_singleton caseless, Tree.ofSet]
      have only : (Unicode.CodePointSet.singleton char).onlyMember? = some char := by
        refine (if_pos rfl).trans (congrArg some ?_)
        exact Char.ofNat_toNat char
      rw [only]

end Pattern

namespace Pattern

open Linear (Tree treeOf?)
open Backtracking (Ast)

/-- The classes that are chosen for texts have them. -/
def Spells (classOf : List Char → Leaf) : Prop :=
  ∀ ⦃atom : Leaf⦄, atom.isClass → atom.isValid →
    (classOf atom.text).isClass ∧ (classOf atom.text).isValid ∧
      (classOf atom.text).text = atom.text

theorem exists_spells : ∃ classOf, Spells classOf := by
  let written (text : List Char) (atom : Leaf) : Prop :=
    atom.isClass ∧ atom.isValid ∧ atom.text = text
  have every (text : List Char) :
      ∃ chosen, (∃ atom, written text atom) → written text chosen := by
    by_cases known : ∃ atom, written text atom
    · obtain ⟨atom, is⟩ := known
      exact ⟨atom, fun _ => is⟩
    · exact ⟨.dot, fun found => absurd found known⟩
  obtain ⟨classOf, chosen⟩ := Classical.skolem.mp every
  exact ⟨classOf, fun atom isClass valid => chosen atom.text ⟨atom, isClass, valid, rfl⟩⟩

section

variable {classOf : List Char → Leaf} {mode : Mode} {tree : Tree} {part : Ast}

/-- A class that is kept as text has the tree of the class. -/
theorem Leaf.tree_charClass
    (spells : Spells classOf)
    (atom : Leaf)
    (isClass : atom.isClass)
    (valid : atom.isValid)
    (found : atom.tree? mode = some tree) :
    (Ast.charClass atom.text mode.fold).tree classOf = tree ∧
      (Ast.charClass atom.text mode.fold).IsPlain classOf := by
  obtain ⟨chosenClass, chosenValid, same⟩ := spells isClass valid
  refine ⟨?_, chosenClass, chosenValid, same⟩
  rw [Ast.tree, tree?_of_isClass chosenClass,
    part?_eq_of_text chosenClass chosenValid isClass valid same, ← tree?_of_isClass isClass,
    ← tree?_eq_of_fold isClass mode, found]
  rfl

/-- What the backtracking dialect reads an atom as has the tree of the atom. -/
theorem Leaf.tree_of_backtracking?
    (spells : Spells classOf)
    {atom : Leaf}
    (valid : atom.isValid)
    (bare : ¬ atom.isReference)
    (inner : ¬ atom.isWordEdge)
    (found : atom.tree? mode = some tree)
    {numbers : List (List Char × Nat)}
    (read : atom.backtracking? mode numbers = some part) :
    part.tree classOf = tree ∧ part.IsPlain classOf := by
  cases atom with
  | char spelling =>
      obtain rfl := Option.some.inj read
      obtain rfl := Option.some.inj ((tree?_char mode spelling).symm.trans found)
      refine ⟨?_, trivial⟩
      show Linear.literalTree _ _ = _
      cases folds : spelling.folds with
      | true =>
          rw [Bool.and_true]
          rfl
      | false =>
          have caseless := spelling.not_mayFold valid folds
          rw [literalTree_of_not_mayFold caseless, literalTree_of_not_mayFold caseless]
  | dot =>
      obtain rfl := Option.some.inj read
      refine ⟨?_, trivial⟩
      rw [Ast.tree, ← tree?_dot, found]
      rfl
  | named kind =>
      obtain rfl := Option.some.inj read
      exact tree_charClass spells (.named kind) rfl valid found
  | bracket set =>
      obtain rfl := Option.some.inj read
      rw [← Bracket.text_respell]
      exact tree_charClass spells (.bracket set.respell) rfl (Bracket.isValid_respell valid)
        (tree?_respell valid found)
  | anchor kind =>
      obtain rfl := Option.some.inj read
      have found : treeOf? mode.linear (.assertion kind.assertion) = some tree := found
      obtain rfl := eq_of_treeOf?_of_single found rfl
      cases kind with
      | startLine => exact ⟨rfl, .inl rfl⟩
      | endLine => exact ⟨rfl, .inr rfl⟩
      | startText => exact ⟨rfl, .inl rfl⟩
      | endText => exact ⟨rfl, .inr rfl⟩
      | wordBoundary => exact absurd rfl inner
      | notWordBoundary => exact absurd rfl inner
      | wordStart => exact absurd rfl inner
      | wordEnd => exact absurd rfl inner
  | reference keyed name => exact absurd rfl bare

/-- Repeating gives the tree of what the backtracking dialect repeats. -/
theorem Quantifier.tree_of_turned?
    {quantifier : Option Quantifier}
    (greedy : quantifier.all fun quantifier => ¬ quantifier.possessive)
    (plain : part.IsPlain classOf)
    {whole : Ast}
    (turned : turned? quantifier part = some whole)
    {repeated : Tree}
    (found : repeated? quantifier (part.tree classOf) = some repeated) :
    whole.tree classOf = repeated ∧ whole.IsPlain classOf := by
  cases quantifier with
  | none =>
      obtain rfl := Option.some.inj turned
      exact ⟨Option.some.inj found, plain⟩
  | some quantifier =>
      obtain ⟨repeatable, turned⟩ := Option.ite_none_right_eq_some.mp turned
      obtain rfl := Option.some.inj turned
      obtain ⟨count, counted, rfl⟩ := Option.map_eq_some_iff.mp found
      obtain ⟨bounds, known, rfl⟩ := Option.map_eq_some_iff.mp counted
      obtain ⟨same, fits⟩ := Counts.limits_of_bounds? known
      have gives : quantifier.possessive = false := by simpa using greedy
      rw [Quantifier.turns, gives, same]
      exact ⟨rfl, fits, repeatable, plain⟩

end

end Pattern

/-! ### Sequences and choices -/

namespace Linear.Tree

theorem spread_cons_congr
    {left right : List Tree}
    (same : spread left = spread right)
    (tree : Tree) :
    spread (tree :: left) = spread (tree :: right) := by
  rw [← List.singleton_append, spread_append, same, ← spread_append]
  rfl

end Linear.Tree

namespace Backtracking.Ast

open Pattern (Leaf)

variable {classOf : List Char → Leaf}

theorem arePlain_iff
    {parts : List Ast} :
    ArePlain classOf parts ↔ ∀ part ∈ parts, part.IsPlain classOf := by
  induction parts with
  | nil => exact iff_of_true trivial nofun
  | cons part parts inductionHypothesis =>
      rw [ArePlain, inductionHypothesis, List.forall_mem_cons]

theorem isPlain_ofParts
    {parts : List Ast}
    (plain : ∀ part ∈ parts, part.IsPlain classOf) :
    (ofParts parts).IsPlain classOf := by
  match parts with
  | [] => trivial
  | [part] => exact plain part List.mem_cons_self
  | first :: second :: rest => exact arePlain_iff.mpr plain

theorem isPlain_ofBranches
    {branches : List Ast}
    (some : branches ≠ [])
    (plain : ∀ branch ∈ branches, branch.IsPlain classOf) :
    (ofBranches branches).IsPlain classOf := by
  match branches with
  | [] => exact absurd rfl some
  | [branch] => exact plain branch List.mem_cons_self
  | first :: second :: rest => exact ⟨some, arePlain_iff.mpr plain⟩

end Backtracking.Ast

namespace Pattern

open Linear (Tree)
open Backtracking (Ast)

section

variable {classOf : List Char → Leaf}

variable (classOf) in
/-- The patterns are printed as phrases, and between the bars they are the sequences that the
trees are. -/
structure Alternatives.Stand (asts : Alternatives Ast) (trees : Alternatives Tree) : Prop where
  plain : asts.All (Ast.IsPlain classOf)
  same : asts.branches.map (fun branch => Tree.spread (branch.map (Ast.tree classOf))) =
    trees.branches.map Tree.spread

namespace Alternatives.Stand

variable {asts : Alternatives Ast} {trees : Alternatives Tree}

theorem nothing : Stand classOf .nothing .nothing := ⟨all_nothing, rfl⟩

theorem push
    (stand : Stand classOf asts trees)
    {part : Ast}
    (plain : part.IsPlain classOf) :
    Stand classOf (asts.push part) (trees.cons (part.tree classOf)) := by
  obtain ⟨here, later⟩ := List.cons.inj stand.same
  rw [Alternatives.push]
  split
  · next empty =>
      cases part with
      | empty => exact ⟨stand.plain, stand.same⟩
      | _ => cases empty
  · refine ⟨all_cons_iff.mpr ⟨plain, stand.plain⟩, List.cons_eq_cons.mpr ⟨?_, later⟩⟩
    exact Tree.spread_cons_congr here _

theorem bar
    (stand : Stand classOf asts trees) :
    Stand classOf asts.bar trees.bar :=
  ⟨all_bar_iff.mpr stand.plain, congrArg (_ :: ·) stand.same⟩

theorem isPlain_backtracking
    (stand : Stand classOf asts trees) :
    asts.backtracking.IsPlain classOf := by
  refine Ast.isPlain_ofBranches nofun fun branch member => ?_
  obtain ⟨parts, listed, rfl⟩ := List.mem_map.mp member
  exact Ast.isPlain_ofParts (stand.plain parts listed)

theorem tree_backtracking
    (stand : Stand classOf asts trees) :
    asts.backtracking.tree classOf = trees.tree := by
  have chained := congrArg (List.map Tree.chain) stand.same
  rw [List.map_map, List.map_map] at chained
  rw [backtracking, Ast.tree_ofBranches, List.map_map, Alternatives.tree,
    show trees.branches.map Tree.ofParts = _ from chained.symm]
  congr 2
  funext branch
  exact Ast.tree_ofParts branch

end Alternatives.Stand

/-- What the backtracking dialect reads a phrase as is printed, and it has the trees that the
phrase has in the linear dialect. -/
theorem Phrase.stand_of_backtracking?
    (spells : Spells classOf)
    {phrase : Phrase}
    (valid : phrase.isValid)
    (common : phrase.isCommon)
    (edgeless : phrase.isEdgeless)
    {mode : Mode}
    {numbers : List (List Char × Nat)}
    {before : Nat}
    {trees : Alternatives Tree}
    (found : phrase.trees mode before = some trees)
    {asts : Alternatives Ast}
    (read : phrase.backtracking? mode numbers before = some asts) :
    asts.Stand classOf trees := by
  induction phrase generalizing mode numbers before trees asts with
  | done =>
      obtain rfl := Option.some.inj found
      obtain rfl := Option.some.inj read
      exact .nothing
  | leaf atom quantifier rest inductionHypothesis =>
      obtain ⟨own, others⟩ := allOf_leaf_iff.mp valid
      obtain ⟨ownCommon, othersCommon⟩ := allOf_leaf_iff.mp common
      obtain ⟨inner, othersInner⟩ := allOf_leaf_iff.mp edgeless
      obtain ⟨bare, greedy⟩ := of_decide_eq_true ownCommon
      obtain ⟨single, known, tree, repeated, remaining, behind, rfl⟩ := trees_leaf_iff.mp found
      obtain ⟨part, is, whole, turned, parts, follow, rfl⟩ := backtracking?_leaf_iff.mp read
      obtain ⟨rfl, plain⟩ := Leaf.tree_of_backtracking? spells (of_decide_eq_true own).1 bare
        (of_decide_eq_true inner) known is
      obtain ⟨rfl, wholePlain⟩ := Quantifier.tree_of_turned? greedy plain turned repeated
      exact (inductionHypothesis others othersCommon othersInner behind follow).push wholePlain
  | group sign body quantifier rest bodyHypothesis restHypothesis =>
      obtain ⟨own, inside, others⟩ := allOf_group_iff.mp valid
      obtain ⟨ownCommon, insideCommon, othersCommon⟩ := allOf_group_iff.mp common
      obtain ⟨-, insideInner, othersInner⟩ := allOf_group_iff.mp edgeless
      obtain ⟨signCommon, greedy⟩ := of_decide_eq_true ownCommon
      obtain ⟨inner, insides, tree, repeated, remaining, behind, rfl⟩ := trees_group_iff.mp found
      obtain ⟨innerParts, insideParts, whole, turned, parts, follow, rfl⟩ :=
        backtracking?_group_iff.mp read
      have seen : ¬ sign.isLook := by
        cases sign with
        | look behind negative => cases signCommon
        | _ => nofun
      rw [if_neg seen] at insides
      have stand := bodyHypothesis inside insideCommon insideInner insides insideParts
      have enclosed : (sign.enclosed before innerParts.backtracking).tree classOf =
            sign.tree before inner.tree ∧
          (sign.enclosed before innerParts.backtracking).IsPlain classOf := by
        have plain := stand.isPlain_backtracking
        have same := stand.tree_backtracking
        cases sign with
        | capture => exact ⟨congrArg (Tree.capture (before + 1) none) same, plain⟩
        | named long name => exact ⟨congrArg (Tree.capture (before + 1) none) same, plain⟩
        | atomic => cases signCommon
        | look behind negative => cases signCommon
        | _ => exact ⟨same, plain⟩
      rw [← enclosed.1] at repeated
      obtain ⟨rfl, wholePlain⟩ := Quantifier.tree_of_turned? greedy enclosed.2 turned repeated
      exact (restHypothesis others othersCommon othersInner behind follow).push wholePlain
  | bar rest inductionHypothesis =>
      obtain ⟨remaining, behind, rfl⟩ := trees_bar_iff.mp found
      obtain ⟨parts, follow, rfl⟩ := backtracking?_bar_iff.mp read
      exact (inductionHypothesis valid common edgeless behind follow).bar

end

end Pattern

end LineExtraction
