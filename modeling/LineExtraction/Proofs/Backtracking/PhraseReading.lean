import LineExtraction.Proofs.Backtracking.Reading
import LineExtraction.Proofs.Backtracking.Reader.BracketClass
import LineExtraction.Proofs.Linear.PhraseTrees

/-!
# Reading phrases in the backtracking dialect

The parser reads a phrase part by part.  What it makes of the phrase depends only on the flags
in force, on the groups in front of it and on their names.
-/

namespace LineExtraction

/-! ## Parts -/

/-- The flags in the backtracking dialect. -/
def Pattern.Mode.backtracking (mode : Pattern.Mode) : Backtracking.Flags :=
  ⟨mode.fold, false, mode.dotAll, false, false⟩

/-- The assertion in the backtracking dialect. -/
def Pattern.Anchor.look : Pattern.Anchor → Linear.Look
  | startLine => .startText
  | endLine => .endText
  | startText => .startText
  | endText => .endText
  | wordBoundary => .wordBoundary false
  | notWordBoundary => .notWordBoundary false
  | wordStart => .wordStart false
  | wordEnd => .wordEnd false

/-- What the backtracking dialect reads an atom as, where some groups have numbers. -/
def Pattern.Leaf.backtracking? (mode : Pattern.Mode) (numbers : List (List Char × Nat)) :
    Pattern.Leaf → Option Backtracking.Ast
  | char spelling => some (.literal spelling.char (mode.fold && spelling.folds))
  | dot => some (.any mode.dotAll)
  | named kind => some (.charClass kind.text mode.fold)
  | bracket set => some (.charClass set.respelled mode.fold)
  | anchor kind => some (.assertion kind.look)
  | reference _ name => (numbers.lookup name).map .backreference

/-- A pattern with its quantifier. -/
def Pattern.Quantifier.turns (quantifier : Pattern.Quantifier) (body : Backtracking.Ast) :
    Backtracking.Ast :=
  let node := Backtracking.Ast.repetition quantifier.counts.limits.1 quantifier.counts.limits.2
    (!quantifier.lazy) body
  if quantifier.possessive then .atomic node else node

/-- A pattern with a quantifier that it may have, if there is one. -/
def Pattern.Quantifier.turned? :
    Option Pattern.Quantifier → Backtracking.Ast → Option Backtracking.Ast
  | none, body => some body
  | some quantifier, body => if body.isRepeatable then some (quantifier.turns body) else none

namespace Pattern.GroupSign

open Backtracking (Ast)

/-- What the backtracking dialect reads a group as, given how many groups before it capture. -/
def enclosed (before : Nat) (body : Ast) : GroupSign → Ast
  | capture => .capture (before + 1) body
  | named _ _ => .capture (before + 1) body
  | atomic => .atomic body
  | look behind negative => .lookAround ⟨behind, negative⟩ body
  | _ => body

/-- The number of the group under its name, if it has one. -/
def numbered (before : Nat) : GroupSign → List (List Char × Nat)
  | named _ name => [(name, before + 1)]
  | _ => []

end Pattern.GroupSign

namespace Pattern

open Backtracking (Ast)

/-- The numbers of the named groups of a phrase, last first. -/
def Phrase.numbered (before : Nat) : Phrase → List (List Char × Nat)
  | done => []
  | leaf _ _ rest => rest.numbered before
  | group sign body _ rest =>
    rest.numbered (before + sign.captures + body.captures) ++
      (body.numbered (before + sign.captures) ++ sign.numbered before)
  | bar rest => rest.numbered before

/-- One part in front of the others, unless it is empty. -/
def Alternatives.push (part : Ast) (rest : Alternatives Ast) : Alternatives Ast :=
  if part.isEmpty then rest else rest.cons part

/-- The pattern of what stands between bars. -/
def Alternatives.backtracking (alternatives : Alternatives Ast) : Ast :=
  .ofBranches (alternatives.branches.map Ast.ofParts)

/-- What the backtracking dialect reads a phrase as. -/
def Phrase.backtracking? (mode : Mode) (numbers : List (List Char × Nat)) (before : Nat) :
    Phrase → Option (Alternatives Ast)
  | done => some .nothing
  | leaf atom quantifier rest => do
    let whole ← Quantifier.turned? quantifier (← atom.backtracking? mode numbers)
    return (← rest.backtracking? mode numbers before).push whole
  | group sign body quantifier rest => do
    let inner ← body.backtracking? (sign.mode mode) (sign.numbered before ++ numbers)
      (before + sign.captures)
    let whole ← Quantifier.turned? quantifier (sign.enclosed before inner.backtracking)
    return (← rest.backtracking? mode
      (body.numbered (before + sign.captures) ++ (sign.numbered before ++ numbers))
      (before + sign.captures + body.captures)).push whole
  | bar rest => do
    return (← rest.backtracking? mode numbers before).bar

theorem GroupSign.numbered_le
    {sign : GroupSign}
    {before : Nat}
    {entry : List Char × Nat}
    (member : entry ∈ sign.numbered before) :
    entry.2 ≤ before + sign.captures := by
  cases sign with
  | named long name =>
      obtain rfl := List.mem_singleton.mp member
      exact Nat.le_refl _
  | _ => cases member

/-- Named groups have numbers that were given. -/
theorem Phrase.numbered_le
    (phrase : Phrase)
    (before : Nat) :
    ∀ entry ∈ phrase.numbered before, entry.2 ≤ before + phrase.captures := by
  induction phrase generalizing before with
  | done => exact nofun
  | leaf atom quantifier rest inductionHypothesis => exact inductionHypothesis before
  | group sign body quantifier rest bodyHypothesis restHypothesis =>
      intro entry member
      have sum : before + (Phrase.group sign body quantifier rest).captures =
          before + sign.captures + body.captures + rest.captures := by
        rw [Phrase.captures]
        omega
      rw [sum]
      obtain later | member := List.mem_append.mp member
      · exact restHypothesis _ entry later
      · obtain inside | own := List.mem_append.mp member
        · have := bodyHypothesis _ entry inside
          omega
        · have := GroupSign.numbered_le own
          omega
  | bar rest inductionHypothesis => exact inductionHypothesis before

section

variable
  {mode : Mode} {numbers : List (List Char × Nat)} {before : Nat} {atom : Leaf} {sign : GroupSign}
  {quantifier : Option Quantifier} {body rest : Phrase} {alternatives : Alternatives Ast}

theorem Phrase.backtracking?_leaf_iff :
    (leaf atom quantifier rest).backtracking? mode numbers before = some alternatives ↔
      ∃ part, atom.backtracking? mode numbers = some part ∧
        ∃ whole, Quantifier.turned? quantifier part = some whole ∧
          ∃ others, rest.backtracking? mode numbers before = some others ∧
            others.push whole = alternatives := by
  simp [Phrase.backtracking?, Option.bind_eq_some_iff]

theorem Phrase.backtracking?_group_iff :
    (group sign body quantifier rest).backtracking? mode numbers before = some alternatives ↔
      ∃ inner, body.backtracking? (sign.mode mode) (sign.numbered before ++ numbers)
          (before + sign.captures) = some inner ∧
        ∃ whole, Quantifier.turned? quantifier (sign.enclosed before inner.backtracking) =
            some whole ∧
          ∃ others, rest.backtracking? mode
              (body.numbered (before + sign.captures) ++ (sign.numbered before ++ numbers))
              (before + sign.captures + body.captures) = some others ∧
            others.push whole = alternatives := by
  simp [Phrase.backtracking?, Option.bind_eq_some_iff]

theorem Phrase.backtracking?_bar_iff :
    (bar rest).backtracking? mode numbers before = some alternatives ↔
      ∃ others, rest.backtracking? mode numbers before = some others ∧
        others.bar = alternatives := by
  simp [Phrase.backtracking?, Option.bind_eq_some_iff]

end

end Pattern

namespace Backtracking

open Pattern (Leaf GroupSign Phrase Alternatives Mode isClear isClear_cons isGroupName)

/-! ## Levels -/

namespace Level

/-- The level behind parts of the current branch, none of which is empty. -/
def read (level : Level) (parts : List Ast) : Level :=
  ⟨level.branches, parts.reverse ++ level.parts⟩

/-- The level behind parts with bars between them. -/
def extend (level : Level) (alternatives : Alternatives Ast) : Level :=
  alternatives.later.foldl (fun level parts => level.nextBranch.read parts)
    (level.read alternatives.here)

@[simp] theorem extend_nothing
    (level : Level) :
    level.extend .nothing = level := rfl

@[simp] theorem extend_push
    (level : Level)
    (part : Ast)
    (rest : Alternatives Ast) :
    level.extend (rest.push part) = (level.push part).extend rest := by
  by_cases empty : part.isEmpty
  · simp [Alternatives.push, push, empty]
  · simp [Alternatives.push, push, empty, extend, Alternatives.cons, read]

@[simp] theorem extend_bar
    (level : Level)
    (rest : Alternatives Ast) :
    level.extend rest.bar = level.nextBranch.extend rest := rfl

theorem toAst_extend
    (level : Level)
    (alternatives : Alternatives Ast) :
    (level.extend alternatives).toAst =
      .ofBranches (level.branches.reverse ++
        (Ast.ofParts (level.parts.reverse ++ alternatives.here) ::
          alternatives.later.map Ast.ofParts)) := by
  obtain ⟨here, later⟩ := alternatives
  induction later generalizing level here with
  | nil => simp [extend, read, toAst, branch]
  | cons next later inductionHypothesis =>
      have step : level.extend ⟨here, next :: later⟩ =
          ((level.read here).nextBranch).extend ⟨next, later⟩ := rfl
      rw [step, inductionHypothesis]
      simp [nextBranch, read, branch]

/-- What is read of alternatives on a level of their own. -/
theorem toAst_extend_start
    (alternatives : Alternatives Ast) :
    (start.extend alternatives).toAst = alternatives.backtracking := by
  rw [toAst_extend]
  rfl

end Level

/-! ## References -/

section

variable {name : List Char}

theorem exists_of_isGroupName
    (valid : isGroupName name) :
    ∃ first rest, name = first :: rest ∧ Linear.isNameChar true first ∧
      ∀ char ∈ name, isNameChar char := by
  cases name with
  | nil => cases valid
  | cons first rest =>
      obtain ⟨linear, here, later⟩ := of_decide_eq_true valid
      refine ⟨first, rest, rfl, linear, List.forall_mem_cons.mpr ⟨here, fun char member => ?_⟩⟩
      exact (of_decide_eq_true (List.all_eq_true.mp later char member)).2

/-- What names a group is no number. -/
theorem numberOf?_of_isGroupName
    (valid : isGroupName name)
    (maximal : Nat) :
    numberOf? maximal name = none := by
  obtain ⟨first, rest, rfl, linear, -⟩ := exists_of_isGroupName valid
  refine if_neg fun ⟨_, decimal, _⟩ => ?_
  have digit := List.all_eq_true.mp decimal first List.mem_cons_self
  have checked : ['0', '1', '2', '3', '4', '5', '6', '7', '8', '9'].all fun char =>
      char.toNat < 128 ∧ char ≠ '_' ∧ ¬ char.isAlpha := by
    decide
  obtain ⟨ascii, underscore, letter⟩ :=
    of_decide_eq_true (List.all_eq_true.mp checked first (mem_digits_of_isDigit digit))
  obtain same | alpha | ⟨front, -⟩ := (Linear.isNameChar_iff_of_ascii ascii true).mp linear
  · exact underscore same
  · exact letter alpha
  · cases front

theorem group?_of_isGroupName
    (valid : isGroupName name)
    (scope : Scope) :
    scope.group? name = scope.names.lookup name := by
  have unsigned : ∀ digits, name ≠ '-' :: digits := by
    rintro digits rfl
    obtain ⟨first, rest, -, -, all⟩ := exists_of_isGroupName valid
    have isName := all '-' List.mem_cons_self
    rw [isNameChar_iff_of_ascii (by decide)] at isName
    exact absurd isName (by decide)
  rw [Scope.group?]
  · rw [numberOf?_of_isGroupName valid]
    cases scope.names.lookup name <;> rfl
  · exact unsigned

theorem readNamedReference_eq
    (valid : isGroupName name)
    (scope : Scope)
    (relative : Bool)
    {close : Char}
    (closes : close ∈ ['>', ')'])
    (more : List Char) :
    ∃ shorter, readNamedReference scope relative close (name ++ close :: more) =
      match scope.names.lookup name with
      | some group => .ok ⟨group, more, shorter⟩
      | none => .error (.referenceNameUnknown name) := by
  have stops : ¬ isNameChar close := by
    simp only [List.mem_cons, List.not_mem_nil, or_false] at closes
    rcases closes with rfl | rfl <;> rw [isNameChar_iff_of_ascii (by decide)] <;> decide
  obtain ⟨first, rest, same, -, all⟩ := exists_of_isGroupName valid
  obtain ⟨shorter, read⟩ := readName_name (same ▸ List.cons_ne_nil first rest) all relative stops more
  refine ⟨shorter, ?_⟩
  rw [readNamedReference, read]
  show (match scope.group? name with | some group => _ | none => _) = _
  rw [group?_of_isGroupName valid scope]
  cases scope.names.lookup name <;> rfl

end

theorem refer_of_le
    {state : ParseState}
    {group : Nat}
    (known : group ≤ state.scope.captures) :
    state.refer group false = state := by
  simp [ParseState.refer, Nat.not_lt.mpr known]

/-! ## Atoms -/

theorem yields_readToken_plain
    {char : Char}
    (plain : char ∉ Pattern.outsideSpecial)
    (state : ParseState)
    (more : List Char) :
    Yields (readToken state char more) (.atom state (.literal char state.flags.fold)) more := by
  have apart : ∀ other ∈ ['(', ')', '|', '*', '+', '?', '[', '\\', '.', '^', '$'], char ≠ other := by
    rintro other member rfl
    exact plain (List.Subset.trans (by decide) (List.Subset.refl _) member)
  refine ⟨Nat.le_refl _, ?_⟩
  unfold readToken
  split
  all_goals first | rfl | exact absurd rfl (apart _ (by decide))

theorem yields_readToken_escape
    {state : ParseState}
    {text more : List Char}
    {ast : Ast}
    (bare : ∀ group, ast ≠ .backreference group)
    (read : Yields (readEscape state.scope state.flags.fold false text) (.of ast) more) :
    Yields (readToken state '\\' text) (.atom state ast) more := by
  obtain ⟨shorter, read⟩ := read
  refine ⟨shorter, ?_⟩
  rw [readToken, read]
  cases ast with
  | backreference group => exact absurd rfl (bare group)
  | _ => rfl

/-- What an atom that refers to no group is read as. -/
theorem yields_readToken_leaf
    {state : ParseState}
    {mode : Mode}
    (flags : state.flags = mode.backtracking)
    {atom : Leaf}
    (valid : atom.isValid)
    {first : Char}
    {tail : List Char}
    (text : atom.text = first :: tail)
    {more : List Char}
    (clear : atom.isAnchor → isClear more)
    {ast : Ast}
    (bare : atom.isReference = false)
    (known : atom.backtracking? mode state.scope.names = some ast) :
    Yields (readToken state first (tail ++ more)) (.atom state ast) more := by
  have fold : state.flags.fold = mode.fold := congrArg Flags.fold flags
  have multi : state.flags.multiLine = false := congrArg Flags.multiLine flags
  have dotAll : state.flags.dotMatchesNewLine = mode.dotAll :=
    congrArg Flags.dotMatchesNewLine flags
  cases atom with
  | char spelling =>
      obtain rfl := Option.some.inj known
      have spelled : spelling.isValid Pattern.outsideSpecial := valid
      have escaped (backslash : first = '\\') :
          Yields (readToken state first (tail ++ more))
            (.atom state (.literal spelling.char (mode.fold && spelling.folds))) more := by
        subst backslash
        rw [← fold]
        exact yields_readToken_escape nofun
          (yields_readEscape_spelling spelled text (by decide) state.scope state.flags.fold false more)
      cases spelling with
      | plain char =>
          obtain ⟨rfl, rfl⟩ := List.cons.inj text
          rw [show (mode.fold && (Pattern.Spelling.plain char).folds) = mode.fold from
            Bool.and_true _, ← fold]
          exact yields_readToken_plain (of_decide_eq_true spelled) state more
      | _ => exact escaped (List.cons.inj text).1.symm
  | dot =>
      obtain rfl := Option.some.inj known
      obtain ⟨rfl, rfl⟩ := List.cons.inj text
      exact ⟨Nat.le_refl _, by rw [← dotAll]; rfl⟩
  | named kind =>
      obtain rfl := Option.some.inj known
      obtain rfl : '\\' = first := by
        cases kind <;> exact (List.cons.inj text).1
      rw [← fold]
      exact yields_readToken_escape nofun
        (yields_readEscape_named valid text state.scope state.flags.fold false more)
  | bracket set =>
      obtain rfl := Option.some.inj known
      obtain ⟨rfl, rfl⟩ := List.cons.inj text
      rw [← fold]
      exact (yields_readBracketClass valid state.scope state.flags.fold more).map _
  | anchor kind =>
      obtain rfl := Option.some.inj known
      have behind := clear rfl
      have boundary {letter : Char} {look : Linear.Look} (digit : ¬ letter.isDigit)
          (key : letter ≠ 'k') (assertion : assertionOf? letter = some (.assertion look)) :
          Yields (readToken state '\\' (letter :: more)) (.atom state (.assertion look)) more := by
        have bare : isBracedBoundary letter more = false := by
          refine decide_eq_false fun both => ?_
          cases more with
          | nil => cases both.2
          | cons next rest =>
              obtain rfl : next = '\x7b' := Option.some.inj both.2
              cases behind
        refine yields_readToken_escape nofun ⟨Nat.le_succ _, ?_⟩
        rw [readEscape, if_neg digit, if_neg fun both => key both.2,
          if_neg fun both => Bool.false_ne_true (bare ▸ both.2), if_neg Bool.false_ne_true, assertion]
      cases kind with
      | startLine =>
          obtain ⟨rfl, rfl⟩ := List.cons.inj text
          refine ⟨Nat.le_refl _, ?_⟩
          rw [readToken, multi]
          rfl
      | endLine =>
          obtain ⟨rfl, rfl⟩ := List.cons.inj text
          refine ⟨Nat.le_refl _, ?_⟩
          rw [readToken, multi]
          rfl
      | _ =>
          obtain ⟨rfl, rfl⟩ := List.cons.inj text
          exact boundary (by decide) (by decide) rfl
  | reference keyed name => cases bare

/-- What a reference is read as, if it is read. -/
theorem readToken_reference
    {state : ParseState}
    (mode : Mode)
    (plain : state.flags.verbose = false)
    (below : ∀ entry ∈ state.scope.names, entry.2 ≤ state.scope.captures)
    {keyed : Bool}
    {name : List Char}
    (valid : isGroupName name)
    {first : Char}
    {tail : List Char}
    (text : (Leaf.reference keyed name).text = first :: tail)
    {more : List Char}
    {progress : Progress}
    {rest : List Char}
    (found : Yields (readToken state first (tail ++ more)) progress rest) :
    ∃ ast, (Leaf.reference keyed name).backtracking? mode state.scope.names = some ast ∧
      progress = .atom state ast ∧ rest = more := by
  have known {group : Nat} (lookup : state.scope.names.lookup name = some group) :
      state.refer group false = state := by
    obtain ⟨front, back, split, -⟩ := List.lookup_eq_some_iff.mp lookup
    exact refer_of_le (below (name, group) (split ▸ List.mem_append_right _ List.mem_cons_self))
  cases keyed with
  | true =>
      obtain ⟨rfl, rfl⟩ := List.cons.inj text
      rw [show ('k' :: '<' :: name).append ['>'] ++ more = 'k' :: '<' :: (name ++ '>' :: more) by
        simp] at found
      obtain ⟨shorter, read⟩ := readNamedReference_eq valid state.scope true
        (show '>' ∈ ['>', ')'] by decide) more
      have escape : readEscape state.scope state.flags.fold false
          ('k' :: '<' :: (name ++ '>' :: more)) = (do
            let group ← readKeyReference state.scope ('<' :: (name ++ '>' :: more))
            return (group.map fun group => .of (.backreference group)).weaken (Read.took_one _)) := by
        rw [readEscape, if_neg (by decide), if_pos ⟨Bool.false_ne_true, rfl⟩]
      rw [readToken, escape, readKeyReference, read] at found
      cases lookup : state.scope.names.lookup name with
      | some group =>
          rw [lookup] at found
          obtain ⟨rfl, rfl⟩ := yields_ok_iff.mp found
          exact ⟨_, congrArg (Option.map _) lookup, congrArg (Progress.atom · _) (known lookup), rfl⟩
      | none =>
          rw [lookup] at found
          obtain ⟨_, found⟩ := found
          cases found
  | false =>
      obtain ⟨rfl, rfl⟩ := List.cons.inj text
      rw [show ('?' :: 'P' :: '=' :: name).append [')'] ++ more =
        '?' :: 'P' :: '=' :: (name ++ ')' :: more) by simp] at found
      obtain ⟨shorter, read⟩ := readNamedReference_eq valid state.scope false
        (show ')' ∈ ['>', ')'] by decide) more
      have header : readGroupHeader state.scope state.flags
          ('?' :: 'P' :: '=' :: (name ++ ')' :: more)) = (do
            let group ← readNamedReference state.scope false ')' (name ++ ')' :: more)
            return (group.map .reference).weaken (Read.took_three _)) := by
        have inner : readHeader state.scope state.flags ('?' :: 'P' :: '=' :: (name ++ ')' :: more)) =
            (do
              let group ← readNamedReference state.scope false ')' (name ++ ')' :: more)
              return (group.map .reference).weaken (Read.took_three _)) := rfl
        rw [readGroupHeader, plain, skipIgnored_of_not_comment (by rintro rest ⟨⟩)]
        show (readHeader _ _ _ >>= _) = _
        rw [inner]
        cases readNamedReference state.scope false ')' (name ++ ')' :: more) <;> rfl
      rw [readToken, header, read] at found
      split at found
      · obtain ⟨_, found⟩ := found
        cases found
      · cases lookup : state.scope.names.lookup name with
        | some group =>
            rw [lookup] at found
            obtain ⟨rfl, rfl⟩ := yields_ok_iff.mp found
            exact ⟨_, congrArg (Option.map _) lookup, congrArg (Progress.atom · _) (known lookup), rfl⟩
        | none =>
            rw [lookup] at found
            obtain ⟨_, found⟩ := found
            cases found

/-! ## Quantifiers -/

/-- What stands behind an atom is its quantifier. -/
theorem readBehind_atom
    {state : ParseState}
    {mode : Mode}
    (flags : state.flags = mode.backtracking)
    {atom : Ast}
    {quantifier : Option Pattern.Quantifier}
    (valid : quantifier.all (·.counts.isValid))
    {more : List Char}
    (clear : isClear more)
    {next : ParseState}
    {rest : List Char}
    (found : Yields (readBehind (.atom state atom) (Pattern.Quantifier.textOf quantifier ++ more)) next rest) :
    ∃ whole, Pattern.Quantifier.turned? quantifier atom = some whole ∧ next = state.push whole ∧
      rest = more := by
  have plain : state.flags.verbose = false := congrArg Flags.verbose flags
  have swap : state.flags.swapGreed = false := congrArg Flags.swapGreed flags
  cases quantifier with
  | none =>
      obtain ⟨rfl, rfl⟩ := (Yields.eq_iff ⟨_, readBehind_of_isClear plain clear atom⟩).mp found
      exact ⟨atom, rfl, rfl, rfl⟩
  | some quantifier =>
      rw [readBehind, plain, swap] at found
      by_cases repeatable : atom.isRepeatable
      · rw [repeatable] at found
        obtain ⟨rfl, rfl⟩ := ((yields_readQuantifier valid clear).map
          (state.quantify atom)).eq_iff.mp found
        exact ⟨quantifier.turns atom, if_pos repeatable, rfl, rfl⟩
      · rw [Bool.not_eq_true] at repeatable
        rw [repeatable] at found
        obtain ⟨_, found⟩ := found
        obtain ⟨read, accepted, -⟩ := Except.bind_eq_ok_iff.mp found
        cases (readQuantifier_eq_error valid more).symm.trans accepted

/-! ## Groups -/

namespace ParseState

/-- The state behind the opening of a group. -/
def opened (state : ParseState) : GroupSign → ParseState
  | .capture => state.openCapture none
  | .named _ name => state.openCapture (some name)
  | .plain => state.openGroup (.plain state.flags)
  | .fold =>
    { state.openGroup (.plain state.flags) with flags := { state.flags with fold := true } }
  | .dotAll =>
    { state.openGroup (.plain state.flags) with
      flags := { state.flags with dotMatchesNewLine := true } }
  | .atomic => state.openGroup .atomic
  | .look behind negative => state.openGroup (.lookAround ⟨behind, negative⟩)

/-- The state behind a phrase. -/
def past (state : ParseState) (phrase : Phrase) (alternatives : Alternatives Ast) : ParseState :=
  { state with
    level := state.level.extend alternatives
    scope := { state.scope with
      captures := state.scope.captures + phrase.captures
      names := phrase.numbered state.scope.captures ++ state.scope.names } }

/-- The state behind a group. -/
def closed (state : ParseState) (sign : GroupSign) (body : Phrase) : ParseState :=
  { state with
    scope := { state.scope with
      captures := state.scope.captures + sign.captures + body.captures
      names := body.numbered (state.scope.captures + sign.captures) ++
        (sign.numbered state.scope.captures ++ state.scope.names) } }

theorem endLevel_of_not_numbered
    {state : ParseState}
    (named : state.numbered = false) :
    state.endLevel = .ok state.level.toAst := by
  rw [endLevel, named]
  simp

end ParseState

theorem yields_readHeader_unnamed
    {text : List Char}
    (clear : isClear text)
    (scope : Scope)
    (flags : Flags) :
    Yields (readHeader scope flags text) .unnamed text := by
  refine ⟨Nat.le_refl _, ?_⟩
  unfold readHeader
  split
  all_goals first | rfl | cases clear

/-- The opening of a group is read as its header. -/
theorem yields_readHeader_sign
    {state : ParseState}
    {mode : Mode}
    (flags : state.flags = mode.backtracking)
    {sign : GroupSign}
    (valid : sign.isValid)
    {tail more : List Char}
    (text : sign.text = '(' :: tail)
    (clear : isClear more) :
    ∃ header, Yields (readHeader state.scope state.flags (tail ++ more)) header more ∧
      state.enter header more = .ok (.between (state.opened sign)) := by
  have plain : state.flags.verbose = false := congrArg Flags.verbose flags
  have flagged {letter : Char} {flags : Flags} (set : state.flags.set? letter true = some flags)
      (verbose : flags.verbose = false) (other : letter ∉ ['?', '*', '+', '\x7b', '('])
      (header : ∀ rest, readHeader state.scope state.flags ('?' :: letter :: rest) = do
        return (← readFlags (letter :: rest) state.flags false (letter :: rest)).weaken
          (Read.took_one _)) :
      Yields (readHeader state.scope state.flags ('?' :: letter :: ':' :: more)) (.plain flags) more := by
    rw [header]
    exact (yields_readFlags_cons plain set (isClear_cons other _)
      (yields_readFlags_colon _ verbose more)).weaken _
  cases sign with
  | capture =>
      obtain rfl := (List.cons.inj text).2
      exact ⟨.unnamed, yields_readHeader_unnamed clear _ _, rfl⟩
  | named long name =>
      obtain ⟨first, rest, same, -, all⟩ := exists_of_isGroupName valid
      have stops : ¬ isNameChar '>' := by
        rw [isNameChar_iff_of_ascii (by decide)]
        decide
      have read : Yields (readName false '>' (name ++ '>' :: more)) name more :=
        readName_name (same ▸ List.cons_ne_nil first rest) all false stops more
      refine ⟨.named name, ?_, rfl⟩
      cases long with
      | true =>
          obtain rfl := (List.cons.inj text).2
          rw [show ('?' :: 'P' :: '<' :: name).append ['>'] ++ more =
            '?' :: 'P' :: '<' :: (name ++ '>' :: more) by simp]
          exact read.mapWeaken _ _
      | false =>
          obtain rfl := (List.cons.inj text).2
          have apart (other : Char) (listed : other ∈ ['=', '!']) : first ≠ other := by
            rintro rfl
            have isName := all first (same ▸ List.mem_cons_self)
            simp only [List.mem_cons, List.not_mem_nil, or_false] at listed
            rcases listed with rfl | rfl <;> rw [isNameChar_iff_of_ascii (by decide)] at isName <;>
              exact absurd isName (by decide)
          subst same
          rw [show ('?' :: '<' :: first :: rest).append ['>'] ++ more =
            '?' :: '<' :: (first :: rest ++ '>' :: more) by simp, List.cons_append, readHeader]
          · exact read.mapWeaken _ _
          · exact fun _ same => apart '=' (by decide) (List.cons.inj same).1
          · exact fun _ same => apart '!' (by decide) (List.cons.inj same).1
  | plain =>
      obtain rfl := (List.cons.inj text).2
      exact ⟨.plain state.flags, (yields_readFlags_colon _ plain more).weaken _, rfl⟩
  | fold =>
      obtain rfl := (List.cons.inj text).2
      exact ⟨.plain _, flagged rfl plain (by decide) fun rest => rfl, rfl⟩
  | dotAll =>
      obtain rfl := (List.cons.inj text).2
      exact ⟨.plain _, flagged rfl plain (by decide) fun rest => rfl, rfl⟩
  | atomic =>
      obtain rfl := (List.cons.inj text).2
      exact ⟨.atomic, ⟨_, rfl⟩, rfl⟩
  | look behind negative =>
      cases behind <;> cases negative
      all_goals
        obtain rfl := (List.cons.inj text).2
        exact ⟨.lookAround _, ⟨_, rfl⟩, rfl⟩

/-- Behind the opening of a group the group is open. -/
theorem readTokens_sign
    {state last : ParseState}
    {mode : Mode}
    (flags : state.flags = mode.backtracking)
    {sign : GroupSign}
    (valid : sign.isValid)
    {more : List Char}
    (clear : isClear more)
    (found : readTokens state (sign.text ++ more) = .ok last) :
    readTokens (state.opened sign) more = .ok last := by
  have plain : state.flags.verbose = false := congrArg Flags.verbose flags
  obtain ⟨tail, text⟩ := Linear.GroupSign.text_eq sign
  obtain ⟨header, read, entered⟩ := yields_readHeader_sign flags valid text clear
  have opens : isClear (sign.text ++ more) := sign.isClear_text_append clear
  rw [text, List.cons_append] at found opens
  have apart (rest : List Char) : tail ++ more ≠ '?' :: '#' :: rest := by
    intro same
    rw [same] at opens
    cases opens
  have visible (rest : List Char) : tail ++ more ≠ '(' :: '?' :: '#' :: rest := by
    intro same
    cases sign with
    | capture =>
        obtain rfl := (List.cons.inj text).2
        rw [List.nil_append] at same
        rw [same] at clear
        cases clear
    | named long name => cases long <;> obtain rfl := (List.cons.inj text).2 <;> cases same
    | look behind negative =>
        cases behind <;> cases negative <;> obtain rfl := (List.cons.inj text).2 <;> cases same
    | _ =>
        obtain rfl := (List.cons.inj text).2
        cases same
  by_cases shallow : state.groups.length + 1 < nestLimit
  · exact (reads_header plain shallow apart visible read entered).readTokens_eq_ok.mp found
  · have skipped : skipIgnored state.flags.verbose ('(' :: (tail ++ more)) = .ok _ :=
      plain ▸ skipIgnored_of_isClear opens
    obtain ⟨token, read, -⟩ := (readTokens_eq_ok_iff_of_token skipped rfl).mp found
    rw [readToken, if_pos (Nat.not_lt.mp shallow)] at read
    cases read

/-- Behind a group that is closed the parser stands where it stood before it. -/
theorem readToken_close
    {state : ParseState}
    (named : state.numbered = false)
    (sign : GroupSign)
    (body : Phrase)
    (alternatives : Alternatives Ast)
    (more : List Char) :
    Yields (readToken ((state.opened sign).past body alternatives) ')' more)
      (.atom (state.closed sign body)
        (sign.enclosed state.scope.captures alternatives.backtracking)) more := by
  have whole : (Level.start.extend alternatives).toAst = alternatives.backtracking :=
    Level.toAst_extend_start alternatives
  have ended : ((state.opened sign).past body alternatives).endLevel =
      .ok alternatives.backtracking := by
    rw [← whole]
    cases sign <;> exact ParseState.endLevel_of_not_numbered named
  refine ⟨Nat.le_refl _, ?_⟩
  rw [readToken, ParseState.leave, ended]
  cases sign <;> rfl

/-! ## Phrases -/

/-- Behind an atom the parser reads its quantifier and goes on. -/
theorem readTokens_atom
    {state next last : ParseState}
    {mode : Mode}
    (plain : state.flags.verbose = false)
    (flags : next.flags = mode.backtracking)
    {first : Char}
    {text more : List Char}
    {atom : Ast}
    {quantifier : Option Pattern.Quantifier}
    (opens : isClear (first :: text))
    (read : ∀ {progress rest}, Yields (readToken state first text) progress rest →
      progress = .atom next atom ∧ rest = Pattern.Quantifier.textOf quantifier ++ more)
    (valid : quantifier.all (·.counts.isValid))
    (clear : isClear more)
    (found : readTokens state (first :: text) = .ok last) :
    ∃ whole, Pattern.Quantifier.turned? quantifier atom = some whole ∧
      readTokens (next.push whole) more = .ok last := by
  obtain ⟨⟨progress, rest, shorter⟩, token, ⟨value, end', endShorter⟩, repeated, others⟩ :=
    (readTokens_eq_ok_iff_of_token (plain ▸ skipIgnored_of_isClear opens) rfl).mp found
  obtain ⟨rfl, rfl⟩ := read ⟨shorter, token⟩
  obtain ⟨whole, turned, rfl, rfl⟩ := readBehind_atom flags valid clear ⟨endShorter, repeated⟩
  exact ⟨whole, turned, others⟩

/-- An atom is read as a part. -/
theorem readTokens_leaf
    {state last : ParseState}
    {mode : Mode}
    (flags : state.flags = mode.backtracking)
    (below : ∀ entry ∈ state.scope.names, entry.2 ≤ state.scope.captures)
    {atom : Leaf}
    (valid : atom.isValid)
    {quantifier : Option Pattern.Quantifier}
    (counted : quantifier.all (·.counts.isValid))
    (alone : quantifier.isNone ∨ ¬ atom.isAnchor)
    {more : List Char}
    (clear : isClear more)
    (found : readTokens state (atom.text ++ (Pattern.Quantifier.textOf quantifier ++ more)) =
      .ok last) :
    ∃ part, atom.backtracking? mode state.scope.names = some part ∧
      ∃ whole, Pattern.Quantifier.turned? quantifier part = some whole ∧
        readTokens (state.push whole) more = .ok last := by
  have plain : state.flags.verbose = false := congrArg Flags.verbose flags
  have opens := Leaf.isClear_text_append valid (Pattern.Quantifier.textOf quantifier ++ more)
  obtain ⟨first, tail, text⟩ := Linear.exists_text_leaf atom
  rw [text, List.cons_append] at found opens
  have behind : atom.isAnchor → isClear (Pattern.Quantifier.textOf quantifier ++ more) := by
    intro anchor
    obtain none | other := alone
    · rw [Option.isNone_iff_eq_none.mp none]
      exact clear
    · exact absurd anchor other
  have known {part : Ast} (is : atom.backtracking? mode state.scope.names = some part)
      (read : ∀ {progress rest}, Yields (readToken state first (tail ++
          (Pattern.Quantifier.textOf quantifier ++ more))) progress rest →
        progress = .atom state part ∧ rest = Pattern.Quantifier.textOf quantifier ++ more) :
      ∃ part, atom.backtracking? mode state.scope.names = some part ∧
        ∃ whole, Pattern.Quantifier.turned? quantifier part = some whole ∧
          readTokens (state.push whole) more = .ok last :=
    ⟨part, is, readTokens_atom plain flags opens read counted clear found⟩
  cases refers : atom.isReference with
  | false =>
      obtain ⟨part, is⟩ : ∃ part, atom.backtracking? mode state.scope.names = some part := by
        cases atom with
        | reference keyed name => cases refers
        | _ => exact ⟨_, rfl⟩
      exact known is fun yields =>
        (yields_readToken_leaf flags valid text behind refers is).eq_iff.mp yields
  | true =>
      cases atom with
      | reference keyed name =>
          obtain ⟨⟨progress, rest, shorter⟩, token, -⟩ :=
            (readTokens_eq_ok_iff_of_token (plain ▸ skipIgnored_of_isClear opens) rfl).mp found
          obtain ⟨part, is, rfl, rfl⟩ :=
            readToken_reference mode plain below valid text ⟨shorter, token⟩
          refine known is fun yields => ?_
          obtain ⟨other, isOther, same, left⟩ :=
            readToken_reference mode plain below valid text yields
          obtain rfl := Option.some.inj (is.symm.trans isOther)
          exact ⟨same, left⟩
      | _ => cases refers

/-- What the parser reads a phrase as depends on nothing around it but the flags, the groups
in front of it and their names. -/
theorem readTokens_phrase
    {phrase : Phrase}
    (valid : phrase.isValid)
    {state last : ParseState}
    {mode : Mode}
    (flags : state.flags = mode.backtracking)
    (named : state.numbered = false)
    (below : ∀ entry ∈ state.scope.names, entry.2 ≤ state.scope.captures)
    {more : List Char}
    (clear : isClear more)
    (found : readTokens state (phrase.text ++ more) = .ok last) :
    ∃ alternatives,
      phrase.backtracking? mode state.scope.names state.scope.captures = some alternatives ∧
        readTokens (state.past phrase alternatives) more = .ok last := by
  induction phrase generalizing state mode more with
  | done => exact ⟨.nothing, rfl, found⟩
  | leaf atom quantifier rest inductionHypothesis =>
      obtain ⟨here, restValid⟩ := Phrase.allOf_leaf_iff.mp valid
      obtain ⟨atomValid, counted, alone⟩ := of_decide_eq_true here
      have behind := Phrase.isClear_text_append restValid clear
      rw [Phrase.text, List.append_assoc, List.append_assoc] at found
      obtain ⟨part, is, whole, turned, found⟩ :=
        readTokens_leaf flags below atomValid counted alone behind found
      obtain ⟨others, remaining, found⟩ := inductionHypothesis restValid
        (show (state.push whole).flags = mode.backtracking from flags) named below clear found
      refine ⟨others.push whole,
        Phrase.backtracking?_leaf_iff.mpr ⟨part, is, whole, turned, others, remaining, rfl⟩, ?_⟩
      rw [ParseState.past, Level.extend_push]
      exact found
  | group sign body quantifier rest bodyHypothesis restHypothesis =>
      obtain ⟨here, bodyValid, restValid⟩ := Phrase.allOf_group_iff.mp valid
      obtain ⟨signValid, counted⟩ := of_decide_eq_true here
      have behind := Phrase.isClear_text_append restValid clear
      have text : (Phrase.group sign body quantifier rest).text ++ more = sign.text ++ (body.text ++
          ')' :: (Pattern.Quantifier.textOf quantifier ++ (rest.text ++ more))) := by
        simp [Phrase.text]
      have closes : isClear (')' :: (Pattern.Quantifier.textOf quantifier ++ (rest.text ++ more))) :=
        isClear_cons (by decide) _
      have scope : (state.opened sign).scope = { state.scope with
          captures := state.scope.captures + sign.captures
          names := sign.numbered state.scope.captures ++ state.scope.names } := by
        cases sign <;> rfl
      have inFlags : (state.opened sign).flags = (sign.mode mode).backtracking := by
        cases sign with
        | fold => exact congrArg (fun flags : Flags => { flags with fold := true }) flags
        | dotAll =>
            exact congrArg (fun flags : Flags => { flags with dotMatchesNewLine := true }) flags
        | _ => exact flags
      have inNamed : (state.opened sign).numbered = false := by
        cases sign <;> exact named
      have inBelow : ∀ entry ∈ (state.opened sign).scope.names,
          entry.2 ≤ (state.opened sign).scope.captures := by
        rw [scope]
        intro entry member
        obtain own | member := List.mem_append.mp member
        · exact GroupSign.numbered_le own
        · exact Nat.le_add_right_of_le (below entry member)
      rw [text] at found
      have found := readTokens_sign flags signValid (Phrase.isClear_text_append bodyValid closes) found
      obtain ⟨inner, insides, found⟩ := bodyHypothesis bodyValid inFlags inNamed inBelow closes found
      rw [scope] at insides
      have plain : ((state.opened sign).past body inner).flags.verbose = false :=
        congrArg Flags.verbose inFlags
      obtain ⟨whole, turned, found⟩ := readTokens_atom plain
        (show (state.closed sign body).flags = mode.backtracking from flags) closes (fun yields => (readToken_close named sign body inner _).eq_iff.mp yields) counted behind
        found
      have outBelow : ∀ entry ∈ (state.closed sign body).scope.names,
          entry.2 ≤ (state.closed sign body).scope.captures := by
        intro entry member
        obtain inside | member := List.mem_append.mp member
        · exact Phrase.numbered_le body _ entry inside
        · obtain own | member := List.mem_append.mp member
          · exact Nat.le_add_right_of_le (GroupSign.numbered_le own)
          · exact Nat.le_add_right_of_le (Nat.le_add_right_of_le (below entry member))
      obtain ⟨others, remaining, found⟩ := restHypothesis restValid
        (show ((state.closed sign body).push whole).flags = mode.backtracking from flags) named
        outBelow clear found
      refine ⟨others.push whole, Phrase.backtracking?_group_iff.mpr
        ⟨inner, insides, whole, turned, others, remaining, rfl⟩, ?_⟩
      rw [← found]
      simp [ParseState.past, ParseState.push, ParseState.closed, Phrase.captures, Phrase.numbered,
        Nat.add_assoc]
  | bar rest inductionHypothesis =>
      have plain : state.flags.verbose = false := congrArg Flags.verbose flags
      have opens : isClear ('|' :: (rest.text ++ more)) := isClear_cons (by decide) _
      let next : ParseState := { state with level := state.level.nextBranch }
      have reads : Reads state ('|' :: (rest.text ++ more)) next (rest.text ++ more) :=
        .token (plain ▸ skipIgnored_of_isClear opens) rfl rfl rfl (.refl _ _)
      obtain ⟨others, remaining, found⟩ := inductionHypothesis valid
        (show next.flags = mode.backtracking from flags) named below clear
        (reads.readTokens_eq_ok.mp found)
      exact ⟨others.bar, Phrase.backtracking?_bar_iff.mpr ⟨others, remaining, rfl⟩, found⟩

/-- What a phrase is parsed as. -/
theorem parse_phrase
    {phrase : Phrase}
    (valid : phrase.isValid)
    {parsed : Parsed}
    (found : parse phrase.text = .ok parsed) :
    ∃ alternatives, phrase.backtracking? .start [] 0 = some alternatives ∧
      parsed = ⟨alternatives.backtracking, phrase.captures, phrase.numbered 0, false⟩ := by
  obtain ⟨last, found, finished⟩ := Except.bind_eq_ok_iff.mp found
  rw [← List.append_nil phrase.text] at found
  obtain ⟨alternatives, read, found⟩ := readTokens_phrase valid
    (show (ParseState.start _).flags = Mode.start.backtracking from rfl) rfl (fun _ member => absurd member List.not_mem_nil) rfl found
  refine ⟨alternatives, read, ?_⟩
  rw [readTokens] at found
  obtain rfl := Except.ok.inj found
  obtain ⟨ast, ended, made⟩ := Except.bind_eq_ok_iff.mp finished
  obtain rfl := Except.ok.inj made
  have whole : (Level.start.extend alternatives).toAst = alternatives.backtracking :=
    Level.toAst_extend_start alternatives
  rw [ParseState.finish, ParseState.endLevel_of_not_numbered rfl] at ended
  obtain rfl := Except.ok.inj ended
  rw [← whole]
  simp [ParseState.past, ParseState.start]

end Backtracking
end LineExtraction
