import LineExtraction.Compilation.Dialect
import LineExtraction.Proofs.Backtracking.Fragments
import LineExtraction.Proofs.Extraction.Phrasing

/-!
# Relaxing widens

What the backtracking dialect matches with a pattern, the linear dialect matches with the
relaxed pattern: a look-around becomes the empty text, a reference any text, and a choice that
is committed to becomes a choice.
-/

namespace LineExtraction

/-! ## The reach of phrases -/

namespace Pattern

open Linear (Tree Turns)
open Backtracking (Ast)
open Backtracking.Ast (ReachThrough)

variable {line : Line} {mode : Mode} {start stop : Nat}

theorem Alternatives.reachThrough_push_iff
    {part : Ast}
    {asts : Alternatives Ast} :
    ReachThrough line (asts.push part).here start stop ↔
      ∃ middle, part.Reaches line start middle ∧ ReachThrough line asts.here middle stop := by
  rw [push]
  split
  · next empty =>
      cases part with
      | empty =>
          constructor
          · exact fun through => ⟨start, rfl, through⟩
          · rintro ⟨_, rfl, through⟩
            exact through
      | _ => cases empty
  · exact Iff.rfl

theorem Alternatives.later_push
    (part : Ast)
    (asts : Alternatives Ast) :
    (asts.push part).later = asts.later := by
  rw [push]
  split <;> rfl

theorem Alternatives.reaches_backtracking_iff
    {asts : Alternatives Ast} :
    asts.backtracking.Reaches line start stop ↔
      ReachThrough line asts.here start stop ∨
        ∃ parts ∈ asts.later, ReachThrough line parts start stop := by
  rw [backtracking, Ast.reaches_ofBranches_iff, Ast.someReaches_iff]
  simp [branches, Ast.reaches_ofParts_iff]

/-- Classes with one text match in the same places. -/
theorem Leaf.tree?_eq_of_text
    {left right : Leaf}
    (leftClass : left.isClass ∧ left.isValid)
    (rightClass : right.isClass ∧ right.isValid)
    (same : left.text = right.text)
    (mode : Mode) :
    left.tree? ⟨mode.fold, false⟩ = right.tree? mode := by
  rw [tree?_eq_of_fold rightClass.1 mode, tree?_of_isClass leftClass.1,
    tree?_of_isClass rightClass.1,
    part?_eq_of_text leftClass.1 leftClass.2 rightClass.1 rightClass.2 same]

/-- What an atom is read as reaches no further than the atom matches in the linear dialect. -/
theorem Leaf.matches_of_reaches
    {atom : Leaf}
    (valid : atom.isValid)
    (bare : ¬ atom.isReference)
    {tree : Tree}
    (found : atom.tree? mode = some tree)
    {numbers : List (List Char × Nat)}
    {part : Ast}
    (read : atom.backtracking? mode numbers = some part)
    (reaches : part.Reaches line start stop) :
    atom.Matches line mode start stop := by
  cases atom with
  | char spelling =>
      obtain rfl := Option.some.inj read
      refine (matches_iff (tree?_char mode spelling) start stop).mpr ?_
      have reaches : (Linear.literalTree (Mode.linear ⟨mode.fold && spelling.folds, false⟩)
        spelling.char).Matches line start stop := reaches
      cases folds : spelling.folds with
      | true =>
          rw [folds, Bool.and_true] at reaches
          exact reaches
      | false =>
          have caseless := spelling.not_mayFold valid folds
          rw [literalTree_of_not_mayFold caseless] at reaches ⊢
          exact reaches
  | dot =>
      obtain rfl := Option.some.inj read
      have reaches : dot.Matches line ⟨false, mode.dotAll⟩ start stop := reaches
      rw [matches_dot_iff] at reaches ⊢
      exact reaches
  | named kind =>
      obtain rfl := Option.some.inj read
      obtain ⟨other, ⟨isClass, otherValid, same⟩, tree, known, matched⟩ := reaches
      rw [tree?_eq_of_text ⟨isClass, otherValid⟩ ⟨rfl, valid⟩ same] at known
      exact ⟨tree, known, matched⟩
  | bracket set =>
      obtain rfl := Option.some.inj read
      obtain ⟨other, ⟨isClass, otherValid, same⟩, again, known, matched⟩ := reaches
      rw [← Bracket.text_respell] at same
      rw [tree?_eq_of_text ⟨isClass, otherValid⟩
        (show (bracket set.respell).isClass ∧ _ from ⟨rfl, Bracket.isValid_respell valid⟩) same,
        tree?_respell valid found] at known
      obtain rfl := Option.some.inj known
      exact ⟨tree, found, matched⟩
  | anchor kind =>
      obtain rfl := Option.some.inj read
      refine (matches_iff (Ast.tree?_anchor kind mode) start stop).mpr ?_
      cases kind <;> exact reaches
  | reference keyed name => exact absurd rfl bare

/-- Repeating reaches no further than the quantifier lets the linear dialect repeat. -/
theorem Quantifier.repeats_of_reaches
    {quantifier : Option Quantifier}
    {tree repeated : Tree}
    (found : repeated? (quantifier.map relaxed) tree = some repeated)
    {part whole : Ast}
    (turned : turned? quantifier part = some whole)
    {turn : Nat → Nat → Prop}
    (turns : ∀ start stop, part.Reaches line start stop → turn start stop)
    (reaches : whole.Reaches line start stop) :
    Repeats turn (quantifier.map relaxed) start stop := by
  cases quantifier with
  | none =>
      obtain rfl := Option.some.inj turned
      exact turns start stop reaches
  | some quantifier =>
      obtain ⟨-, turned⟩ := Option.ite_none_right_eq_some.mp turned
      obtain rfl := Option.some.inj turned
      obtain ⟨count, counted, -⟩ := Option.map_eq_some_iff.mp found
      have ordered := ordered_count? counted
      obtain ⟨bounds, known, rfl⟩ := Option.map_eq_some_iff.mp counted
      obtain ⟨same, -⟩ := Counts.limits_of_bounds? known
      have same : quantifier.counts.limits = bounds := same
      obtain ⟨count, enough, most, passes⟩ : ∃ count,
          (bounds.1 ≤ count ∨ bounds.2 = some count) ∧ (∀ bound ∈ bounds.2, count ≤ bound) ∧
            Turns (part.Reaches line) count start stop := by
        rw [Quantifier.turns, same] at reaches
        split at reaches <;> exact reaches
      exact ⟨bounds, known, count, enough.elim id (ordered count), most, passes.map id turns⟩

/-- What stands for a reference matches wherever a reference reaches. -/
theorem GroupSign.encloses_anything
    (mode : Mode)
    {group : Nat}
    (reaches : (Ast.backreference group).Reaches line start stop) :
    dotAll.Encloses (Phrase.anything.Matches line (dotAll.mode mode)) start stop :=
  Phrase.matches_anything rfl reaches.1 reaches.2

/-- Between bars, what a phrase is read as reaches no further than the relaxed phrase matches in
the linear dialect. -/
theorem Phrase.matches_relaxed_of_reach
    {phrase : Phrase}
    (valid : phrase.isValid)
    {before : Nat}
    {trees : Alternatives Tree}
    (found : phrase.relaxed.trees mode before = some trees)
    {numbers : List (List Char × Nat)}
    {given : Nat}
    {asts : Alternatives Ast}
    (read : phrase.backtracking? mode numbers given = some asts) :
    (∀ start stop, ReachThrough line asts.here start stop →
        phrase.relaxed.MatchesHere line mode start stop) ∧
      ∀ start stop, (∃ parts ∈ asts.later, ReachThrough line parts start stop) →
        phrase.relaxed.MatchesLater line mode start stop := by
  induction phrase generalizing mode before trees numbers given asts with
  | done =>
      obtain rfl := Option.some.inj read
      refine ⟨fun start stop => id, ?_⟩
      rintro start stop ⟨parts, ⟨⟩, -⟩
  | leaf atom quantifier rest restHypothesis =>
      obtain ⟨own, othersValid⟩ := allOf_leaf_iff.mp valid
      obtain ⟨atomValid, -⟩ := of_decide_eq_true own
      obtain ⟨part, is, whole, turned, others, remaining, rfl⟩ := backtracking?_leaf_iff.mp read
      rw [relaxed] at found ⊢
      split at found
      · next reference =>
          obtain ⟨inner, -, repeated, applied, behind, behindFound, -⟩ := trees_group_iff.mp found
          obtain ⟨here, later⟩ := restHypothesis othersValid behindFound remaining
          rw [if_pos reference, Alternatives.later_push]
          refine ⟨fun start stop through => ?_, later⟩
          obtain ⟨middle, reaches, through⟩ := Alternatives.reachThrough_push_iff.mp through
          refine ⟨middle, Quantifier.repeats_of_reaches applied turned
            (fun start stop reaches => ?_) reaches, here middle stop through⟩
          cases atom with
          | reference keyed name =>
              obtain ⟨group, -, rfl⟩ := Option.map_eq_some_iff.mp is
              exact GroupSign.encloses_anything mode reaches
          | _ => cases reference
      · next bare =>
          obtain ⟨tree, known, repeated, applied, behind, behindFound, -⟩ := trees_leaf_iff.mp found
          obtain ⟨here, later⟩ := restHypothesis othersValid behindFound remaining
          rw [if_neg bare, Alternatives.later_push]
          refine ⟨fun start stop through => ?_, later⟩
          obtain ⟨middle, reaches, through⟩ := Alternatives.reachThrough_push_iff.mp through
          exact ⟨middle, Quantifier.repeats_of_reaches applied turned
            (fun start stop => Leaf.matches_of_reaches atomValid bare known is) reaches,
            here middle stop through⟩
  | group sign body quantifier rest bodyHypothesis restHypothesis =>
      obtain ⟨-, bodyValid, othersValid⟩ := allOf_group_iff.mp valid
      obtain ⟨innerAsts, inside, whole, turned, others, remaining, rfl⟩ :=
        backtracking?_group_iff.mp read
      rw [relaxed] at found ⊢
      obtain ⟨inner, innerFound, repeated, applied, behind, behindFound, -⟩ :=
        trees_group_iff.mp found
      obtain ⟨here, later⟩ := restHypothesis othersValid behindFound remaining
      rw [Alternatives.later_push]
      refine ⟨fun start stop through => ?_, later⟩
      obtain ⟨middle, reaches, through⟩ := Alternatives.reachThrough_push_iff.mp through
      refine ⟨middle, Quantifier.repeats_of_reaches applied turned (fun start stop reaches => ?_)
        reaches, here middle stop through⟩
      have inside : ¬ sign.isLook → ∀ start stop, innerAsts.backtracking.Reaches line start stop →
          body.relaxed.Matches line (sign.relaxed.mode mode) start stop := by
        intro stays start stop reaches
        have same : sign.relaxed.mode mode = sign.mode mode := by
          cases sign <;> rfl
        have notLook : ¬ sign.relaxed.isLook := by
          cases sign <;> exact Bool.false_ne_true
        rw [if_neg notLook, if_neg stays, same] at innerFound
        obtain ⟨innerHere, innerLater⟩ := bodyHypothesis bodyValid innerFound inside
        rw [same]
        exact (Alternatives.reaches_backtracking_iff.mp reaches).imp (innerHere start stop)
          (innerLater start stop)
      cases sign with
      | look behind negative => exact .inl reaches
      | _ => exact inside Bool.false_ne_true start stop reaches
  | bar rest restHypothesis =>
      obtain ⟨others, remaining, rfl⟩ := backtracking?_bar_iff.mp read
      rw [relaxed] at found ⊢
      obtain ⟨behind, behindFound, -⟩ := trees_bar_iff.mp found
      obtain ⟨here, later⟩ := restHypothesis valid behindFound remaining
      refine ⟨fun start stop => id, ?_⟩
      rintro start stop ⟨parts, member, through⟩
      obtain rfl | member := List.mem_cons.mp member
      · exact .inl (here start stop through)
      · exact .inr (later start stop ⟨parts, member, through⟩)

/-- What is relaxed names no group. -/
theorem Phrase.namedBy_relaxed
    (names : Nat → Option (List Char))
    (phrase : Phrase)
    (before : Nat) :
    phrase.relaxed.NamedBy names before := by
  induction phrase generalizing before with
  | done => trivial
  | leaf atom quantifier rest inductionHypothesis =>
      rw [relaxed]
      split
      · exact ⟨trivial, trivial, inductionHypothesis _⟩
      · exact inductionHypothesis before
  | group sign body quantifier rest bodyHypothesis restHypothesis =>
      refine ⟨?_, ?_, restHypothesis _⟩
      · cases sign <;> trivial
      · split
        · trivial
        · exact bodyHypothesis _
  | bar rest inductionHypothesis => exact inductionHypothesis before

end Pattern

/-! ## Compiled phrases -/

open Pattern (Phrase)

/-- Where a phrase finds a match, what it is read as reaches from one position to another. -/
theorem Backtracking.Regex.exists_reaches_of_search
    {phrase : Phrase}
    (valid : phrase.isValid)
    {pattern : String}
    (text : pattern.toList = phrase.text)
    {limit : Nat}
    {regex : Regex}
    (compiled : compile limit pattern = .ok regex)
    {line : Line}
    {slots : Linear.Slots}
    (found : regex.search line = .ok (some slots)) :
    ∃ asts, phrase.backtracking? .start [] 0 = some asts ∧
      ∃ start ≤ line.length, ∃ stop, asts.backtracking.Reaches line start stop := by
  obtain ⟨classOf, spells⟩ := Pattern.exists_spells
  obtain ⟨parsed, parses, compiled⟩ := Except.bind_eq_ok_iff.mp compiled
  have parses := Except.mapError_eq_ok_iff.mp parses
  rw [text] at parses
  obtain ⟨asts, read, rfl⟩ := parse_phrase valid parses
  refine ⟨asts, read, ?_⟩
  have isRead : asts.backtracking.IsRead classOf (phrase.captures + 1) :=
    Pattern.Alternatives.isRead_backtracking (Phrase.isRead_of_backtracking? spells valid
      (fun _ member => absurd member List.not_mem_nil) (by omega) read)
  have captures : asts.backtracking.captures = List.range' 1 phrase.captures := by
    rw [asts.captures_backtracking, Phrase.captures_of_backtracking? read]
  rw [if_neg Bool.false_ne_true] at compiled
  dsimp only at compiled
  split at compiled
  · obtain ⟨program, programCompiled, made⟩ := Except.bind_eq_ok_iff.mp compiled
    obtain rfl := Except.ok.inj made
    have inOrder : InOrder (phrase.captures + 1) (0 :: asts.backtracking.captures) := by
      have all : 0 :: List.range' 1 phrase.captures = List.range' 0 (phrase.captures + 1) := rfl
      rw [captures, all]
      refine ⟨List.pairwise_lt_range', fun group member => ?_⟩
      obtain ⟨-, below⟩ := List.mem_range'_1.mp member
      omega
    exact Backtracking.exists_reaches_of_search isRead inOrder programCompiled found
  · next soft =>
      obtain ⟨linear, linearCompiled, made⟩ := Except.bind_eq_ok_iff.mp compiled
      obtain rfl := Except.ok.inj made
      obtain ⟨tree, rfl, sound⟩ := Ast.reaches_of_compile
        (Ast.isPlain_of_isRead _ isRead (Bool.not_eq_true _ ▸ soft))
        (Except.mapError_eq_ok_iff.mp linearCompiled)
      have isMatch : (Linear.Regex.ofTree tree).isMatch line :=
        Option.isSome_iff_exists.mpr ⟨slots, Except.ok.inj found⟩
      obtain ⟨start, inside, stop, matched⟩ :=
        (Linear.Regex.isMatch_ofTree_iff tree line).mp isMatch
      exact ⟨start, inside, stop, sound line start stop matched⟩

/-- Every line that a pattern of the backtracking dialect matches as a whole, the relaxed pattern
matches as a whole in the linear dialect: for every phrase, whatever it looks around for, commits
to and refers to. -/
theorem Pattern.Phrase.isMatch_relax_of_search
    {phrase : Phrase}
    (valid : phrase.isValid)
    {pattern : String}
    (text : pattern.toList = phrase.text)
    {backtrackLimit sizeLimit : Nat}
    {original : Backtracking.Regex}
    {wide : Linear.Regex}
    (compiled : Backtracking.Regex.compile backtrackLimit (Dialect.anchored pattern) = .ok original)
    (wideCompiled :
      Linear.Regex.compile sizeLimit (Dialect.anchored (Pattern.relax pattern)) = .ok wide)
    {line : Line}
    {slots : Linear.Slots}
    (found : original.search line = .ok (some slots)) :
    wide.isMatch line := by
  have anchoredText : (Dialect.anchored pattern).toList = phrase.anchored.text := by
    rw [Dialect.toList_anchored, text_anchored, text]
  have relaxedText : (Pattern.relax pattern).toList =
      (group .plain phrase.relaxed none .done).text := by
    rw [Pattern.relax, String.toList_ofList, text, relaxChars_phrase valid,
      wrapChars_phrase (isValid_relaxed valid)]
  have wideText : (Dialect.anchored (Pattern.relax pattern)).toList =
      (group .plain phrase.relaxed none .done).anchored.text := by
    rw [Dialect.toList_anchored, text_anchored, relaxedText]
  have relaxedValid := isValid_relaxed valid
  have relaxedCommon := isCommon_relaxed phrase
  obtain ⟨asts, read, start, inside, stop, reaches⟩ :=
    Backtracking.Regex.exists_reaches_of_search (isValid_anchored valid) anchoredText compiled found
  obtain ⟨trees, known, rfl⟩ := Linear.Regex.exists_trees_of_compile
    (isValid_anchored (allOf_group_iff.mpr ⟨rfl, relaxedValid, rfl⟩))
    (isCommon_anchored (allOf_group_iff.mpr ⟨rfl, relaxedCommon, rfl⟩))
    (namedBy_relaxed _ (group .plain phrase none .done).anchored 0) wideText wideCompiled
  -- The group around the relaxed phrase changes neither its trees nor where it matches.
  obtain ⟨narrow, narrowKnown⟩ :
      ∃ narrow, phrase.anchored.relaxed.trees .start 0 = some narrow := by
    obtain ⟨tree, isStart, whole, once, others, behind, -⟩ := trees_leaf_iff.mp known
    obtain ⟨outer, wrapped, -, -, last, isEnd, -⟩ := trees_group_iff.mp behind
    have wrapped : (group .plain phrase.relaxed none .done).trees .start 0 = some outer := wrapped
    obtain ⟨inner, body, -⟩ := trees_group_iff.mp wrapped
    exact ⟨_, trees_leaf_iff.mpr ⟨tree, isStart, whole, once, _,
      trees_group_iff.mpr ⟨inner, body, _, rfl, last, isEnd, rfl⟩, rfl⟩⟩
  obtain ⟨here, later⟩ := matches_relaxed_of_reach (isValid_anchored valid) narrowKnown read
  have matched :
      (group .plain phrase.relaxed none .done).anchored.Matches line .start start stop := by
    obtain through | behind := Pattern.Alternatives.reaches_backtracking_iff.mp reaches
    · obtain ⟨first, isStart, last, own, isEnd⟩ := here start stop through
      exact .inl ⟨first, isStart, last, .inl ⟨last, own, rfl⟩, isEnd⟩
    · exact (later start stop behind).elim
  exact (Linear.Regex.isMatch_ofTree_iff _ line).mpr
    ⟨start, inside, stop, (matches_iff known start stop).mp matched⟩

/-- A word that is committed to, looked back at and looked for once more. -/
def Pattern.Phrase.repeatedWord : Phrase :=
  let letter (char : Char) : Leaf := .char (.plain char)
  .group (.named false ['w'])
    (.group .atomic
      (.leaf (letter 'a') none
        (.leaf (letter 'b') none (.bar (.leaf (letter 'a') none .done)))) none
      (.leaf (letter 'b') (some ⟨.optional, false, true⟩) .done)) none
    (.group (.look true true) (.leaf (letter '-') none .done) none
      (.leaf (letter '-') none
        (.group (.look false false) (.leaf (.reference true ['w']) none .done) none
          (.group .plain
            (.leaf (letter 'a') none
              (.leaf (letter 'b') none (.bar (.leaf (letter 'b') none .done))))
            (some ⟨.plus, false, false⟩) .done))))

theorem Pattern.Phrase.isMatch_relax_of_search_repeatedWord :
    repeatedWord.isValid ∧
      "(?<w>(?>ab|a)b?+)(?<!-)-(?=\\k<w>)(?:ab|b)+".toList = repeatedWord.text ∧
      ∃ original wide slots,
        Backtracking.Regex.compile Backtracking.defaultBacktrackLimit
          (Dialect.anchored "(?<w>(?>ab|a)b?+)(?<!-)-(?=\\k<w>)(?:ab|b)+") = .ok original ∧
        Linear.Regex.compile Linear.defaultSizeLimit
          (Dialect.anchored (Pattern.relax "(?<w>(?>ab|a)b?+)(?<!-)-(?=\\k<w>)(?:ab|b)+")) =
            .ok wide ∧
        original.search (Line.ofString "abb-abbab") = .ok (some slots) ∧
        wide.isMatch (Line.ofString "abb-abbab") := by
  have valid : repeatedWord.isValid := by decide
  have text : "(?<w>(?>ab|a)b?+)(?<!-)-(?=\\k<w>)(?:ab|b)+".toList = repeatedWord.text := by decide
  obtain ⟨original, compiled, searched⟩ :
      ∃ original, Backtracking.Regex.compile Backtracking.defaultBacktrackLimit
          (Dialect.anchored "(?<w>(?>ab|a)b?+)(?<!-)-(?=\\k<w>)(?:ab|b)+") = .ok original ∧
        ((original.search (Line.ofString "abb-abbab")).toOption.any Option.isSome) :=
    Except.exists_ok_of_decide (by decide +kernel)
  obtain ⟨wide, wideCompiled, -⟩ :
      ∃ wide, Linear.Regex.compile Linear.defaultSizeLimit
          (Dialect.anchored (Pattern.relax "(?<w>(?>ab|a)b?+)(?<!-)-(?=\\k<w>)(?:ab|b)+")) =
            .ok wide ∧ true :=
    Except.exists_ok_of_decide (by decide +kernel)
  obtain ⟨result, found, some⟩ := Except.exists_ok_of_decide searched
  obtain ⟨slots, rfl⟩ := Option.isSome_iff_exists.mp some
  exact ⟨valid, text, original, wide, slots, compiled, wideCompiled, found,
    isMatch_relax_of_search valid text compiled wideCompiled found⟩

end LineExtraction
