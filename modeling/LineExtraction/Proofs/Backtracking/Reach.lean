import LineExtraction.Proofs.Backtracking.Delegating
import LineExtraction.Proofs.Pattern.Meaning

/-!
# Where backtracking patterns may match

A pattern of the backtracking dialect may match at least where it matches when it looks nowhere
around, commits to no choice and takes any text for what a group matched.  That reach of a
pattern is a relation between positions.  What is printed of a pattern that is not hard matches
nowhere else.
-/

namespace LineExtraction
namespace Backtracking

open Linear (Tree Turns)
open Pattern (Leaf Phrase Mode)

namespace Ast

variable (line : Line)

mutual

/-- Whether a match of the pattern may lead from `start` to `stop`.  Patterns that no phrase is
read as have no reach. -/
def Reaches : Ast → (start stop : Nat) → Prop
  | empty, start, stop => start = stop
  | any newline, start, stop => Leaf.dot.Matches line ⟨false, newline⟩ start stop
  | literal char fold, start, stop =>
    (Linear.literalTree (Mode.linear ⟨fold, false⟩) char).Matches line start stop
  | assertion look, start, stop => (Tree.look look).Matches line start stop
  | charClass text fold, start, stop =>
    ∃ atom : Leaf, (atom.isClass ∧ atom.isValid ∧ atom.text = text) ∧
      atom.Matches line ⟨fold, false⟩ start stop
  | sequence parts, start, stop => ReachThrough parts start stop
  | choice branches, start, stop => SomeReaches branches start stop
  | capture _ body, start, stop => body.Reaches start stop
  | lookAround _ _, start, stop => start = stop
  | atomic body, start, stop => body.Reaches start stop
  | repetition min max _ body, start, stop =>
    ∃ count, (min ≤ count ∨ max = some count) ∧ (∀ bound ∈ max, count ≤ bound) ∧
      Turns body.Reaches count start stop
  | backreference _, start, stop => start ≤ stop ∧ stop ≤ line.length
  | _, _, _ => False

/-- Whether matches of the parts, one after the other, may lead from `start` to `stop`. -/
def ReachThrough : List Ast → (start stop : Nat) → Prop
  | [], start, stop => start = stop
  | part :: parts, start, stop =>
    ∃ middle, part.Reaches start middle ∧ ReachThrough parts middle stop

/-- Whether a match of some branch may lead from `start` to `stop`. -/
def SomeReaches : List Ast → (start stop : Nat) → Prop
  | [], _, _ => False
  | branch :: branches, start, stop =>
    branch.Reaches start stop ∨ SomeReaches branches start stop

end

variable {line} {start stop : Nat}

theorem reachThrough_append_iff
    (front back : List Ast) :
    ReachThrough line (front ++ back) start stop ↔
      ∃ middle, ReachThrough line front start middle ∧ ReachThrough line back middle stop := by
  induction front generalizing start with
  | nil => simp [ReachThrough]
  | cons part front inductionHypothesis =>
      simp only [List.cons_append, ReachThrough, inductionHypothesis]
      constructor
      · rintro ⟨middle, own, last, others, behind⟩
        exact ⟨last, ⟨middle, own, others⟩, behind⟩
      · rintro ⟨last, ⟨middle, own, others⟩, behind⟩
        exact ⟨middle, own, last, others, behind⟩

theorem reachThrough_singleton_iff
    (part : Ast) :
    ReachThrough line [part] start stop ↔ part.Reaches line start stop := by
  simp [ReachThrough]

theorem someReaches_iff
    (branches : List Ast) :
    SomeReaches line branches start stop ↔ ∃ branch ∈ branches, branch.Reaches line start stop := by
  induction branches with
  | nil => simp [SomeReaches]
  | cons branch branches inductionHypothesis =>
      rw [SomeReaches, inductionHypothesis]
      simp

theorem reaches_ofParts_iff
    (parts : List Ast) :
    (ofParts parts).Reaches line start stop ↔ ReachThrough line parts start stop := by
  match parts with
  | [] => exact Iff.rfl
  | [part] => exact (reachThrough_singleton_iff part).symm
  | first :: second :: rest => exact Iff.rfl

theorem reaches_ofBranches_iff
    (branches : List Ast) :
    (ofBranches branches).Reaches line start stop ↔ SomeReaches line branches start stop := by
  match branches with
  | [] => exact Iff.rfl
  | [branch] => exact (or_iff_left id).symm
  | first :: second :: rest => exact Iff.rfl

/-! ## Literals -/

theorem reaches_literal
    {char : Char}
    (found : line.after? start = some char) :
    (literal char false).Reaches line start (start + 1) :=
  ⟨decide_eq_true ⟨found, rfl⟩, rfl⟩

mutual

/-- A pattern that is nothing but literals matches their characters. -/
theorem reaches_of_literalText?
    (ast : Ast)
    {start : Nat}
    {chars : List Char}
    (literal : ast.literalText? = some chars)
    (starts : line.startsWithAt start chars) :
    ast.Reaches line start (start + chars.length) := by
  cases ast with
  | literal char fold =>
      cases fold with
      | true => cases literal
      | false =>
          obtain rfl := Option.some.inj literal
          exact reaches_literal (of_decide_eq_true starts).1
  | sequence parts => exact reachThrough_of_literalTextOf? parts literal starts
  | _ => cases literal

theorem reachThrough_of_literalTextOf?
    (parts : List Ast)
    {start : Nat}
    {chars : List Char}
    (literal : literalTextOf? parts = some chars)
    (starts : line.startsWithAt start chars) :
    ReachThrough line parts start (start + chars.length) := by
  cases parts with
  | nil =>
      obtain rfl := Option.some.inj literal
      rfl
  | cons part parts =>
      obtain ⟨front, own, literal⟩ := Option.bind_eq_some_iff.mp literal
      obtain ⟨back, others, literal⟩ := Option.bind_eq_some_iff.mp literal
      obtain rfl := Option.some.inj literal
      obtain ⟨here, behind⟩ := (Linear.startsWithAt_append start front back).mp starts
      rw [List.length_append, ← Nat.add_assoc]
      exact ⟨_, reaches_of_literalText? part own here,
        reachThrough_of_literalTextOf? parts others behind⟩

end

end Ast

/-! ## What is printed -/

section

variable {line : Line}

/-- In front of the first bar the phrase matches no more than `turn` and then the rest, and
behind it no more than the rest. -/
structure Starts (line : Line) (phrase : Phrase) (turn : Nat → Nat → Prop) (rest : Phrase) :
    Prop where
  here : ∀ start stop, phrase.MatchesHere line .start start stop →
    ∃ middle, turn start middle ∧ rest.MatchesHere line .start middle stop
  later : ∀ start stop, phrase.MatchesLater line .start start stop →
    rest.MatchesLater line .start start stop

namespace Starts

theorem mono
    {phrase rest : Phrase}
    {turn other : Nat → Nat → Prop}
    (starts : Starts line phrase turn rest)
    (implies : ∀ start stop, turn start stop → other start stop) :
    Starts line phrase other rest where
  here start stop matched := by
    obtain ⟨middle, own, behind⟩ := starts.here start stop matched
    exact ⟨middle, implies _ _ own, behind⟩
  later := starts.later

theorem trans
    {phrase middle rest : Phrase}
    {turn other : Nat → Nat → Prop}
    (first : Starts line phrase turn middle)
    (second : Starts line middle other rest) :
    Starts line phrase (fun start stop => ∃ place, turn start place ∧ other place stop) rest where
  here start stop matched := by
    obtain ⟨place, own, behind⟩ := first.here start stop matched
    obtain ⟨end', others, behind⟩ := second.here place stop behind
    exact ⟨end', ⟨place, own, others⟩, behind⟩
  later start stop matched := second.later start stop (first.later start stop matched)

/-- A phrase in front of nothing matches no more than it starts with. -/
theorem alone
    {phrase : Phrase}
    {turn : Nat → Nat → Prop}
    (starts : Starts line phrase turn .done)
    {start stop : Nat}
    (matched : phrase.Matches line .start start stop) :
    turn start stop := by
  obtain here | later := matched
  · obtain ⟨_, own, rfl⟩ := starts.here start stop here
    exact own
  · exact (starts.later start stop later).elim

/-- A group that looks nowhere around and sets no flag starts with what its body matches. -/
theorem grouped
    {sign : Pattern.GroupSign}
    (plain : sign = .plain ∨ sign = .capture)
    {body : Phrase}
    {turn : Nat → Nat → Prop}
    (inner : ∀ start stop, body.Matches line .start start stop → turn start stop)
    (quantifier : Option Pattern.Quantifier)
    (rest : Phrase) :
    Starts line (.group sign body quantifier rest) (Pattern.Quantifier.Repeats turn quantifier)
      rest where
  here start stop := by
    rintro ⟨middle, own, behind⟩
    refine ⟨middle, own.mono fun start stop matched => ?_, behind⟩
    obtain rfl | rfl := plain <;> exact inner start stop matched
  later _ _ := id

/-- A marked atom starts with what the atom matches under the flag of the mark. -/
theorem marked
    {sign : Pattern.GroupSign}
    (flag : sign = .fold ∨ sign = .dotAll)
    (isMarked : Bool)
    (atom : Leaf)
    (quantifier : Option Pattern.Quantifier)
    (rest : Phrase) :
    Starts line (.marked sign isMarked atom quantifier rest)
      (Pattern.Quantifier.Repeats
        (atom.Matches line (if isMarked then sign.mode .start else .start)) quantifier) rest := by
  cases isMarked with
  | false => exact ⟨fun start stop => id, fun start stop => id⟩
  | true =>
      refine ⟨fun start stop => ?_, fun start stop => id⟩
      rintro ⟨middle, own, behind⟩
      refine ⟨middle, own.mono fun start stop matched => ?_, behind⟩
      have seen : sign.isLook = false := by
        obtain rfl | rfl := flag <;> rfl
      rw [Pattern.GroupSign.Encloses, seen, if_neg Bool.false_ne_true] at matched
      obtain ⟨_, own, rfl⟩ | none := matched
      · exact own
      · exact none.elim

end Starts

end

namespace Ast

variable {line : Line} {classOf : List Char → Leaf}

mutual

/-- The phrase that is printed of a pattern starts with what the pattern may match. -/
theorem starts_phrase
    (ast : Ast)
    (plain : ast.IsPlain classOf)
    {binding : Binding}
    (bound : binding ≠ .loose)
    {quantifier : Option Pattern.Quantifier}
    (bears : Bears binding ast quantifier)
    (rest : Phrase) :
    Starts line (ast.phrase classOf binding quantifier rest)
      (Pattern.Quantifier.Repeats (ast.Reaches line) quantifier) rest := by
  cases ast with
  | empty =>
      obtain rfl := eq_none_of_bears bears nofun
      exact ⟨fun start stop matched => ⟨start, rfl, matched⟩, fun start stop => id⟩
  | any newline =>
      refine (Starts.marked (.inr rfl) newline .dot quantifier rest).mono
        fun start stop repeats => repeats.mono fun start stop matched => ?_
      cases newline <;> exact matched
  | literal char fold =>
      refine (Starts.marked (.inl rfl) fold _ quantifier rest).mono
        fun start stop repeats => repeats.mono fun start stop matched => ?_
      rw [Leaf.matches_iff (Leaf.tree?_char _ _), Pattern.Spelling.char_quoted] at matched
      cases fold <;> exact matched
  | assertion look =>
      obtain rfl := eq_none_of_bears bears nofun
      refine ⟨fun start stop => ?_, fun start stop => id⟩
      rintro ⟨middle, own, behind⟩
      refine ⟨middle, ?_, behind⟩
      have own : (Leaf.anchor _).Matches line .start start middle := own
      rw [Leaf.matches_iff (tree?_anchor _ _)] at own
      obtain rfl | rfl := plain <;> exact own
  | charClass text fold =>
      refine (Starts.marked (.inl rfl) fold (classOf text) quantifier rest).mono
        fun start stop repeats => repeats.mono fun start stop matched => ?_
      refine ⟨classOf text, plain, ?_⟩
      cases fold <;> exact matched
  | sequence parts =>
      rw [phrase]
      split
      · exact .grouped (.inl rfl) (fun start stop => (starts_partsPhrase parts plain .done).alone)
          quantifier rest
      · next apart =>
          obtain rfl := eq_none_of_bears bears fun same => apart (.inr same.1)
          exact starts_partsPhrase parts plain rest
  | choice branches =>
      rw [phrase, if_neg bound]
      exact .grouped (.inl rfl)
        (fun start stop => someReaches_of_branchesPhrase branches plain.1 plain.2) quantifier rest
  | capture index body =>
      have plain : body.IsPlain classOf := plain
      refine .grouped (.inr rfl) (fun start stop matched => ?_) quantifier rest
      cases body with
      | choice branches => exact someReaches_of_branchesPhrase branches plain.1 plain.2 matched
      | _ =>
          rw [phrase_loose (by nofun)] at matched
          exact (starts_phrase _ plain (by nofun) (by nofun) .done).alone matched
  | repetition min max greedy body =>
      have inner (rest : Phrase) : Starts line
          (body.phrase classOf .quantified (some (.ofCounts min max greedy)) rest)
          (Pattern.Quantifier.Repeats (body.Reaches line) (some (.ofCounts min max greedy))) rest :=
        starts_phrase body plain.2.2 (by nofun) (fun _ => ⟨rfl, plain.2.1⟩) rest
      have turns (start stop : Nat)
          (repeats : Pattern.Quantifier.Repeats (body.Reaches line) (some (.ofCounts min max greedy))
            start stop) :
          (repetition min max greedy body).Reaches line start stop := by
        obtain ⟨bounds, known, count, least, most, turns⟩ := repeats
        obtain rfl := Pattern.Counts.bounds?_ofBounds known
        exact ⟨count, .inl least, most, turns⟩
      rw [phrase]
      split
      · exact .grouped (.inl rfl)
          (fun start stop matched => turns start stop ((inner .done).alone matched)) quantifier rest
      · next apart =>
          obtain rfl := eq_none_of_bears bears fun same => apart same.1
          exact (inner rest).mono turns
  | _ => cases plain

theorem starts_partsPhrase
    (parts : List Ast)
    (plain : ArePlain classOf parts)
    (rest : Phrase) :
    Starts line (partsPhrase classOf rest parts) (ReachThrough line parts) rest := by
  cases parts with
  | nil => exact ⟨fun start stop matched => ⟨start, rfl, matched⟩, fun start stop => id⟩
  | cons part parts =>
      have first : Starts line (partsPhrase classOf rest (part :: parts)) (part.Reaches line)
          (partsPhrase classOf rest parts) :=
        starts_phrase part plain.1 (by nofun) (by nofun) (partsPhrase classOf rest parts)
      exact first.trans (starts_partsPhrase parts plain.2 rest)

theorem someReaches_of_branchesPhrase
    (branches : List Ast)
    (several : branches ≠ [])
    (plain : ArePlain classOf branches)
    {start stop : Nat}
    (matched : (branchesPhrase classOf .done branches).Matches line .start start stop) :
    SomeReaches line branches start stop := by
  match branches with
  | [] => exact absurd rfl several
  | [branch] =>
      have only : Starts line (branch.phrase classOf .branch none .done) (branch.Reaches line)
          .done :=
        starts_phrase branch plain.1 (by nofun) (by nofun) .done
      exact .inl (only.alone matched)
  | branch :: other :: branches =>
      have first : Starts line
          (branch.phrase classOf .branch none
            (.bar (branchesPhrase classOf .done (other :: branches))))
          (branch.Reaches line) (.bar (branchesPhrase classOf .done (other :: branches))) :=
        starts_phrase branch plain.1 (by nofun) (by nofun) _
      rw [branchesPhrase] at matched
      · obtain here | later := matched
        · obtain ⟨_, own, rfl⟩ := first.here start stop here
          exact .inl own
        · exact .inr (someReaches_of_branchesPhrase (other :: branches) (by nofun) plain.2
            (first.later start stop later))
      · nofun

end

/-- What is printed of a whole pattern matches no more than the pattern may match. -/
theorem reaches_of_loose
    {ast : Ast}
    (plain : ast.IsPlain classOf)
    {start stop : Nat}
    (matched : (ast.phrase classOf .loose none .done).Matches line .start start stop) :
    ast.Reaches line start stop := by
  -- A pattern is written alone as it is written in a group.
  have captured : Starts line (.group .capture (ast.phrase classOf .loose none .done) none .done)
      ((capture 0 ast).Reaches line) .done :=
    starts_phrase (capture 0 ast) plain (show Binding.branch ≠ .loose by nofun) (by nofun) .done
  exact captured.alone (.inl ⟨stop, matched, rfl⟩)

end Ast
end Backtracking

/-! ## What the linear engine is given -/

/-- The linear engine runs the tree of a phrase without names when it is given the text of the
phrase. -/
theorem Linear.Regex.exists_trees_of_compile
    {phrase : Pattern.Phrase}
    (valid : phrase.isValid)
    (common : phrase.isCommon)
    (unnamed : phrase.NamedBy (fun _ => none) 0)
    {pattern : String}
    (text : pattern.toList = phrase.text)
    {limit : Nat}
    {regex : Regex}
    (compiled : compile limit pattern = .ok regex) :
    ∃ trees, phrase.trees .start 0 = some trees ∧ regex = .ofTree trees.tree := by
  obtain ⟨whole, found, rfl⟩ := treeOf_of_compile compiled
  obtain ⟨-, tree, known, rfl⟩ := Pattern.Phrase.tree_of_treeOf valid common unnamed text found
  obtain ⟨trees, treesKnown, rfl⟩ := Option.map_eq_some_iff.mp known
  have nameless : trees.tree.Nameless :=
    Pattern.hereditary_nameless.tree (Pattern.hereditary_nameless.all_trees treesKnown)
  exact ⟨trees, treesKnown, congrArg Regex.ofTree nameless⟩

namespace Backtracking.Ast

open Linear (Tree)
open Pattern (Leaf Phrase)

variable {classOf : List Char → Leaf}

variable (classOf) in
/-- The phrase of parts that are written one after the other as branches are. -/
def flatPhrase (parts : List Ast) : Phrase :=
  parts.foldr (fun part rest => part.phrase classOf .branch none rest) .done

theorem text_flatPhrase
    {parts : List Ast}
    (plain : ArePlain classOf parts) :
    (flatPhrase classOf parts).text = parts.flatMap (toText .branch) := by
  induction parts with
  | nil => rfl
  | cons part parts inductionHypothesis =>
      rw [flatPhrase, List.foldr_cons, text_phrase part plain.1 .branch none nofun, List.flatMap_cons,
        ← inductionHypothesis plain.2]
      rfl

theorem starts_flatPhrase
    {line : Line}
    {parts : List Ast}
    (plain : ArePlain classOf parts) :
    Starts line (flatPhrase classOf parts) (ReachThrough line parts) .done := by
  induction parts with
  | nil => exact ⟨fun start stop matched => ⟨start, rfl, matched⟩, fun start stop => id⟩
  | cons part parts inductionHypothesis =>
      have first : Starts line (flatPhrase classOf (part :: parts)) (part.Reaches line)
          (flatPhrase classOf parts) :=
        starts_phrase part plain.1 (by nofun) (by nofun) _
      exact first.trans (inductionHypothesis plain.2)

/-- What the linear engine is given for parts matches no more than the parts may match. -/
theorem reachThrough_of_compile
    {parts : List Ast}
    (plain : ArePlain classOf parts)
    {limit : Nat}
    {regex : Linear.Regex}
    (compiled : Linear.Regex.compile limit (.ofList (parts.flatMap (toText .branch))) = .ok regex) :
    ∃ tree, regex = .ofTree tree ∧ ∀ line start stop, tree.Matches line start stop →
      ReachThrough line parts start stop := by
  have printed : (flatPhrase classOf parts).isValid ∧ (flatPhrase classOf parts).isCommon ∧
      arePrinted (flatPhrase classOf parts) := by
    have plain := arePlain_iff.mp plain
    clear compiled
    induction parts with
    | nil => exact ⟨rfl, rfl, rfl⟩
    | cons part parts inductionHypothesis =>
        obtain ⟨own, others⟩ := List.forall_mem_cons.mp plain
        obtain ⟨valid, common, printed⟩ := inductionHypothesis (arePlain_iff.mpr others) others
        exact ⟨isValid_phrase own .branch valid, isCommon_phrase own .branch common,
          arePrinted_phrase own .branch printed⟩
  obtain ⟨trees, known, rfl⟩ := Linear.Regex.exists_trees_of_compile printed.1 printed.2.1
    (namedBy_of_arePrinted printed.2.2 0)
    (String.toList_ofList.trans (text_flatPhrase plain).symm) compiled
  exact ⟨_, rfl, fun line start stop matched =>
    (starts_flatPhrase plain).alone ((Phrase.matches_iff known start stop).mpr matched)⟩

/-- What the linear engine is given for a whole pattern matches no more than the pattern may
match. -/
theorem reaches_of_compile
    {ast : Ast}
    (plain : ast.IsPlain classOf)
    {limit : Nat}
    {regex : Linear.Regex}
    (compiled : Linear.Regex.compile limit (.ofList (ast.toText .loose)) = .ok regex) :
    ∃ tree, regex = .ofTree tree ∧ ∀ line start stop, tree.Matches line start stop →
      ast.Reaches line start stop := by
  have text : (String.ofList (ast.toText .loose)).toList =
      (ast.phrase classOf .loose none .done).text := by
    rw [String.toList_ofList, text_phrase ast plain .loose none nofun .done]
    simp [Pattern.Quantifier.textOf, Phrase.text]
  obtain ⟨trees, known, rfl⟩ := Linear.Regex.exists_trees_of_compile (isValid_phrase plain .loose rfl)
    (isCommon_phrase plain .loose rfl)
    (namedBy_of_arePrinted (arePrinted_phrase plain .loose rfl) 0) text compiled
  exact ⟨_, rfl, fun line start stop matched =>
    reaches_of_loose plain ((Phrase.matches_iff known start stop).mpr matched)⟩

/-! ## What phrases are read as -/

section

variable (classOf : List Char → Leaf) (groups : Nat)

mutual

/-- Whether the pattern is one that a phrase is read as: its classes are given, its counts can be
read, what repeats is repeatable, and it refers to groups that there are. -/
def IsRead : Ast → Prop
  | empty => True
  | any _ => True
  | literal _ _ => True
  | assertion look => isHardLook look ∨ look = .startText ∨ look = .endText
  | charClass text _ =>
    (classOf text).isClass ∧ (classOf text).isValid ∧ (classOf text).text = text
  | sequence parts => AreRead parts
  | choice branches => branches ≠ [] ∧ AreRead branches
  | capture _ body => IsRead body
  | lookAround _ body => IsRead body
  | atomic body => IsRead body
  | repetition min max _ body =>
    (min ≤ maximalNumber ∧ ∀ bound ∈ max, bound ≤ maximalNumber) ∧ body.isRepeatable ∧
      IsRead body
  | backreference group => group < groups
  | _ => False

/-- Whether every pattern of the list is one that a phrase is read as. -/
def AreRead : List Ast → Prop
  | [] => True
  | part :: parts => IsRead part ∧ AreRead parts

end

end

variable {groups : Nat}

theorem areRead_iff
    {parts : List Ast} :
    AreRead classOf groups parts ↔ ∀ part ∈ parts, part.IsRead classOf groups := by
  induction parts with
  | nil => exact iff_of_true trivial nofun
  | cons part parts inductionHypothesis =>
      rw [AreRead, inductionHypothesis, List.forall_mem_cons]

theorem isRead_ofParts
    {parts : List Ast}
    (read : ∀ part ∈ parts, part.IsRead classOf groups) :
    (ofParts parts).IsRead classOf groups := by
  match parts with
  | [] => trivial
  | [part] => exact read part List.mem_cons_self
  | first :: second :: rest => exact areRead_iff.mpr read

theorem isRead_ofBranches
    {branches : List Ast}
    (some : branches ≠ [])
    (read : ∀ branch ∈ branches, branch.IsRead classOf groups) :
    (ofBranches branches).IsRead classOf groups := by
  match branches with
  | [] => exact absurd rfl some
  | [branch] => exact read branch List.mem_cons_self
  | first :: second :: rest => exact ⟨some, areRead_iff.mpr read⟩

mutual

/-- What a phrase is read as is printed as a phrase unless it is hard. -/
theorem isPlain_of_isRead
    (ast : Ast)
    (read : ast.IsRead classOf groups)
    (soft : ast.isHard = false) :
    ast.IsPlain classOf := by
  cases ast with
  | empty => trivial
  | any newline => trivial
  | literal char fold => trivial
  | assertion look => exact read.resolve_left (Bool.eq_false_iff.mp soft)
  | charClass text fold => exact read
  | sequence parts => exact arePlain_of_areRead parts read soft
  | choice branches => exact ⟨read.1, arePlain_of_areRead branches read.2 soft⟩
  | capture index body => exact isPlain_of_isRead body read soft
  | repetition min max greedy body =>
      exact ⟨read.1, read.2.1, isPlain_of_isRead body read.2.2 soft⟩
  | _ => cases soft

theorem arePlain_of_areRead
    (parts : List Ast)
    (read : AreRead classOf groups parts)
    (soft : anyHard parts = false) :
    ArePlain classOf parts := by
  cases parts with
  | nil => trivial
  | cons part parts =>
      obtain ⟨own, others⟩ := not_or.mp (of_decide_eq_false soft)
      exact ⟨isPlain_of_isRead part read.1 (Bool.eq_false_iff.mpr own),
        arePlain_of_areRead parts read.2 (Bool.eq_false_iff.mpr others)⟩

end

end Backtracking.Ast

namespace Pattern

open Backtracking (Ast maximalNumber)

/-- Counts that can be read fit a machine word. -/
theorem Counts.limits_le
    {counts : Counts}
    (valid : counts.isValid) :
    counts.limits.1 ≤ maximalNumber ∧ ∀ bound ∈ counts.limits.2, bound ≤ maximalNumber := by
  have fits {digits : List Char} (numeral : isNumeral digits) :
      decimalValue digits ≤ maximalNumber :=
    (of_decide_eq_true numeral).2.2
  have bounded {digits : List Char} (numeral : isNumeral digits) :
      ∀ bound ∈ Backtracking.boundOf (decimalValue digits), bound ≤ maximalNumber := by
    intro bound isBound
    rw [Backtracking.boundOf] at isBound
    split at isBound
    · cases isBound
    · obtain rfl := Option.some.inj isBound
      exact fits numeral
  cases counts with
  | optional => exact ⟨by decide, by rintro bound ⟨⟩; decide⟩
  | star => exact ⟨by decide, nofun⟩
  | plus => exact ⟨by decide, nofun⟩
  | exactly digits => exact ⟨fits valid, bounded valid⟩
  | atLeast digits => exact ⟨fits valid, nofun⟩
  | between least greatest =>
      obtain ⟨leastValid, greatestValid⟩ := of_decide_eq_true valid
      exact ⟨fits leastValid, bounded greatestValid⟩

section

variable {classOf : List Char → Leaf} {groups : Nat} {mode : Mode} {part : Ast}

theorem Leaf.isRead_of_backtracking?
    (spells : Spells classOf)
    {atom : Leaf}
    (valid : atom.isValid)
    {numbers : List (List Char × Nat)}
    (below : ∀ entry ∈ numbers, entry.2 < groups)
    (read : atom.backtracking? mode numbers = some part) :
    part.IsRead classOf groups := by
  cases atom with
  | named kind =>
      obtain rfl := Option.some.inj read
      exact spells (show (named kind).isClass from rfl) valid
  | bracket set =>
      obtain rfl := Option.some.inj read
      rw [← Bracket.text_respell]
      exact spells (show (bracket set.respell).isClass from rfl) (Bracket.isValid_respell valid)
  | anchor kind =>
      obtain rfl := Option.some.inj read
      cases kind with
      | startLine => exact .inr (.inl rfl)
      | endLine => exact .inr (.inr rfl)
      | startText => exact .inr (.inl rfl)
      | endText => exact .inr (.inr rfl)
      | _ => exact .inl rfl
  | reference keyed name =>
      obtain ⟨group, found, rfl⟩ := Option.map_eq_some_iff.mp read
      obtain ⟨front, back, split, -⟩ := List.lookup_eq_some_iff.mp found
      exact below (name, group) (split ▸ List.mem_append_right _ List.mem_cons_self)
  | _ =>
      obtain rfl := Option.some.inj read
      trivial

theorem Quantifier.isRead_of_turned?
    {quantifier : Option Quantifier}
    (valid : quantifier.all (·.counts.isValid))
    (inner : part.IsRead classOf groups)
    {whole : Ast}
    (turned : turned? quantifier part = some whole) :
    whole.IsRead classOf groups := by
  cases quantifier with
  | none =>
      obtain rfl := Option.some.inj turned
      exact inner
  | some quantifier =>
      obtain ⟨repeatable, turned⟩ := Option.ite_none_right_eq_some.mp turned
      obtain rfl := Option.some.inj turned
      have repetition := And.intro (Counts.limits_le valid) (And.intro repeatable inner)
      rw [turns]
      split <;> exact repetition

theorem Alternatives.all_push
    {holds : Ast → Prop}
    {asts : Alternatives Ast}
    (own : holds part)
    (others : asts.All holds) :
    (asts.push part).All holds := by
  rw [push]
  split
  · exact others
  · exact all_cons_iff.mpr ⟨own, others⟩

theorem Alternatives.isRead_backtracking
    {asts : Alternatives Ast}
    (read : asts.All (Ast.IsRead classOf groups)) :
    asts.backtracking.IsRead classOf groups := by
  refine Ast.isRead_ofBranches nofun fun branch member => ?_
  obtain ⟨parts, listed, rfl⟩ := List.mem_map.mp member
  exact Ast.isRead_ofParts (read parts listed)

/-- What the backtracking dialect reads a phrase as, where groups are numbered below a bound. -/
theorem Phrase.isRead_of_backtracking?
    (spells : Spells classOf)
    {phrase : Phrase}
    (valid : phrase.isValid)
    {numbers : List (List Char × Nat)}
    (below : ∀ entry ∈ numbers, entry.2 < groups)
    {before : Nat}
    (room : before + phrase.captures < groups)
    {asts : Alternatives Ast}
    (read : phrase.backtracking? mode numbers before = some asts) :
    asts.All (Ast.IsRead classOf groups) := by
  induction phrase generalizing mode numbers before asts with
  | done =>
      obtain rfl := Option.some.inj read
      exact Alternatives.all_nothing
  | leaf atom quantifier rest inductionHypothesis =>
      obtain ⟨own, othersValid⟩ := allOf_leaf_iff.mp valid
      obtain ⟨atomValid, counted, -⟩ := of_decide_eq_true own
      obtain ⟨part, is, whole, turned, others, remaining, rfl⟩ := backtracking?_leaf_iff.mp read
      exact Alternatives.all_push
        (Quantifier.isRead_of_turned? counted (Leaf.isRead_of_backtracking? spells atomValid below is)
          turned)
        (inductionHypothesis othersValid below room remaining)
  | group sign body quantifier rest bodyHypothesis restHypothesis =>
      obtain ⟨own, bodyValid, othersValid⟩ := allOf_group_iff.mp valid
      obtain ⟨-, counted⟩ := of_decide_eq_true own
      obtain ⟨inner, inside, whole, turned, others, remaining, rfl⟩ :=
        backtracking?_group_iff.mp read
      rw [captures] at room
      have signBelow : ∀ entry ∈ sign.numbered before ++ numbers, entry.2 < groups := by
        intro entry member
        obtain own | member := List.mem_append.mp member
        · have := GroupSign.numbered_le own
          omega
        · exact below entry member
      have bodyBelow : ∀ entry ∈ body.numbered (before + sign.captures) ++
          (sign.numbered before ++ numbers), entry.2 < groups := by
        intro entry member
        obtain inside | member := List.mem_append.mp member
        · have := Phrase.numbered_le body _ entry inside
          omega
        · exact signBelow entry member
      have innerRead := Alternatives.isRead_backtracking
        (bodyHypothesis bodyValid signBelow (by omega) inside)
      have enclosed : (sign.enclosed before inner.backtracking).IsRead classOf groups := by
        cases sign <;> exact innerRead
      exact Alternatives.all_push (Quantifier.isRead_of_turned? counted enclosed turned)
        (restHypothesis othersValid bodyBelow (by omega) remaining)
  | bar rest inductionHypothesis =>
      obtain ⟨others, remaining, rfl⟩ := backtracking?_bar_iff.mp read
      exact Alternatives.all_bar_iff.mpr (inductionHypothesis valid below room remaining)

end

end Pattern
end LineExtraction
