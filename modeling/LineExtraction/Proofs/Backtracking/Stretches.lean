import LineExtraction.Proofs.Backtracking.Naming
import LineExtraction.Proofs.Backtracking.Trimming

/-!
# The references of a pattern

The parser reads a pattern stretch by stretch: tokens, and what stands between them.  A reference to
a group is a token of its own, by digits or by a name, and a name that no group has counts as a
number.  Every back-reference of the parsed pattern is one of these, in order; none gets lost, and
none is made up.
-/

namespace LineExtraction
namespace Backtracking

/-! ## The stretches of a pattern -/

/-- A stretch of a pattern: a token, with the state that the parser reads it in and what it makes
of it, or what stands between two tokens, ignored text and quantifiers. -/
inductive Stretch where
  | between (text rest : List Char)
  | token (state : ParseState) (first : Char) (text : List Char) (progress : Progress)
      (rest : List Char)

/-- The stretches that the parser reads from a state on. -/
def stretchesFrom (state : ParseState) (text : List Char) : List Stretch :=
  match skipIgnored state.flags.verbose text with
  | .error _ => []
  | .ok blank =>
    .between text blank.rest ::
      match left : blank.rest with
      | [] => []
      | first :: rest =>
        match readToken state first rest with
        | .error _ => []
        | .ok token =>
          .token state first rest token.value token.rest ::
            match readBehind token.value token.rest with
            | .error _ => []
            | .ok behind =>
              have : behind.rest.length < text.length :=
                Nat.lt_of_le_of_lt (Nat.le_trans behind.shorter token.shorter)
                  (blank.length_lt left)
              .between token.rest behind.rest :: stretchesFrom behind.value behind.rest
termination_by text.length

/-- The stretches of a pattern. -/
def stretches (pattern : List Char) : List Stretch :=
  stretchesFrom (.start (Line.byteLength pattern)) pattern

theorem stretchesFrom_end
    {state : ParseState}
    {text : List Char}
    {blank : Read Unit text}
    (skipped : skipIgnored state.flags.verbose text = .ok blank)
    (ended : blank.rest = []) :
    stretchesFrom state text = [.between text []] := by
  rw [stretchesFrom, skipped]
  dsimp only
  split
  · rw [ended]
  · next left => cases ended.symm.trans left

theorem stretchesFrom_token
    {state : ParseState}
    {text rest : List Char}
    {first : Char}
    {blank : Read Unit text}
    {token : Read Progress rest}
    {behind : Read ParseState token.rest}
    (skipped : skipIgnored state.flags.verbose text = .ok blank)
    (left : blank.rest = first :: rest)
    (read : readToken state first rest = .ok token)
    (repeated : readBehind token.value token.rest = .ok behind) :
    stretchesFrom state text =
      .between text (first :: rest) :: .token state first rest token.value token.rest ::
        .between token.rest behind.rest :: stretchesFrom behind.value behind.rest := by
  rw [stretchesFrom, skipped]
  dsimp only
  split
  · next ended => cases ended.symm.trans left
  next same =>
    obtain ⟨rfl, rfl⟩ := List.cons.inj (same.symm.trans left)
    simp only [read, repeated, left]

/-! ## References -/

/-- The text that a reader takes off the front of a text. -/
def taken (text rest : List Char) : List Char :=
  text.take (text.length - rest.length)

theorem taken_eq
    {text front rest : List Char}
    (whole : text = front ++ rest) :
    taken text rest = front := by
  rw [taken, whole, List.length_append, Nat.add_sub_cancel, List.take_left]

theorem taken_append
    {text rest : List Char}
    (inside : rest <:+ text) :
    taken text rest ++ rest = text := by
  obtain ⟨front, whole⟩ := inside
  rw [taken_eq whole.symm, whole]

/-- Whether no group has the name that has been read, so that it counts as a number. -/
def Scope.isUnknown (scope : Scope) {text : List Char}
    (name : Except SyntaxError (Read (List Char) text)) : Bool :=
  match name with
  | .ok name => (scope.names.lookup name.value).isNone
  | .error _ => false

/-- Whether an escape refers to a group by number: by digits, or by a name that no group has. -/
def Scope.countsEscape (scope : Scope) (text : List Char) : Bool :=
  match text with
  | 'k' :: '\'' :: target => scope.isUnknown (readName true '\'' target)
  | 'k' :: '<' :: target => scope.isUnknown (readName true '>' target)
  | letter :: _ => letter.isDigit
  | [] => false

/-- Whether a header refers to a group by a name that no group has. -/
def Scope.countsHeader (scope : Scope) (text : List Char) : Bool :=
  match text with
  | '?' :: 'P' :: '=' :: target => scope.isUnknown (readName false ')' target)
  | _ => false

/-- Whether a token refers to a group by number. -/
def ParseState.counts (state : ParseState) (first : Char) (text : List Char) : Bool :=
  if first = '\\' then state.scope.countsEscape text
  else if first = '(' then
    match skipIgnored state.flags.verbose text with
    | .ok blank => state.scope.countsHeader blank.rest
    | .error _ => false
  else false

/-- A reference to a group: its group, whether it is by number, and how it is written. -/
structure Reference where
  group : Nat
  numbered : Bool
  source : List Char
deriving DecidableEq, Repr

/-- The reference that a stretch is, if it is one.  A parenthesis that closes a group around a
reference is none itself. -/
def Stretch.reference? : Stretch → Option Reference
  | .token state first text (.atom _ (.backreference group)) rest =>
    if first = ')' then none else some ⟨group, state.counts first text, first :: taken text rest⟩
  | _ => none

/-- The references of a pattern, in order. -/
def references (pattern : List Char) : List Reference :=
  (stretches pattern).filterMap Stretch.reference?

/-! ## References of parsed patterns -/

namespace Ast

mutual

/-- The groups that the back-references of a pattern lead to, in order. -/
def references : Ast → List Nat
  | sequence parts => referencesOf parts
  | choice branches => referencesOf branches
  | capture _ body => body.references
  | lookAround _ body => body.references
  | atomic body => body.references
  | repetition _ _ _ body => body.references
  | backreference group => [group]
  | conditional condition consequent alternative =>
    condition.references ++ consequent.references ++ alternative.references
  | _ => []

/-- The groups that the back-references of the patterns lead to, in order. -/
def referencesOf : List Ast → List Nat
  | [] => []
  | part :: parts => part.references ++ referencesOf parts

end

theorem referencesOf_eq
    (parts : List Ast) :
    referencesOf parts = parts.flatMap references := by
  induction parts with
  | nil => rfl
  | cons part parts inductionHypothesis =>
      rw [referencesOf, inductionHypothesis, List.flatMap_cons]

theorem references_ofParts
    (parts : List Ast) :
    (ofParts parts).references = parts.flatMap references := by
  match parts with
  | [] => rfl
  | [part] => simp [ofParts]
  | first :: second :: parts => exact referencesOf_eq (first :: second :: parts)

theorem references_ofBranches
    (branches : List Ast) :
    (ofBranches branches).references = branches.flatMap references := by
  match branches with
  | [] => rfl
  | [branch] => simp [ofBranches]
  | first :: second :: branches => exact referencesOf_eq (first :: second :: branches)

/-- The references of a pattern that is a condition.  A reference by itself asks whether its group
matched. -/
def asked : Ast → List Nat
  | backreference _ => []
  | condition => condition.references

theorem asked_sublist
    (condition : Ast) :
    condition.asked.Sublist condition.references := by
  unfold asked
  split
  · exact List.nil_sublist _
  · exact List.Sublist.refl _

theorem references_eq_nil_of_isEmpty
    {ast : Ast}
    (empty : ast.isEmpty) :
    ast.references = [] := by
  cases ast with
  | empty => rfl
  | _ => cases empty

theorem references_ofCondition
    (condition body : Ast) :
    (ofCondition condition body).references = condition.asked ++ body.references := by
  have conditional (asks consequent alternative : Ast)
      (own : asks.references = condition.asked)
      (others : consequent.references ++ alternative.references = body.references) :
      (if consequent.isEmpty ∧ alternative.isEmpty then asks
        else .conditional asks consequent alternative).references =
        condition.asked ++ body.references := by
    rw [← own, ← others]
    split
    · next both =>
        rw [references_eq_nil_of_isEmpty both.1, references_eq_nil_of_isEmpty both.2,
          List.append_nil, List.append_nil]
    · exact List.append_assoc ..
  unfold ofCondition
  dsimp only
  refine conditional _ _ _ ?_ ?_
  · cases condition <;> rfl
  · split
    · next first others =>
        exact (congrArg (first.references ++ ·) (references_ofBranches others)).trans
          (referencesOf_eq (first :: others)).symm
    · exact List.append_nil _

end Ast

/-! ## References that the parser has met -/

theorem Level.references_toAst
    (level : Level) :
    level.toAst.references =
      level.branches.reverse.flatMap Ast.references ++ level.parts.reverse.flatMap Ast.references := by
  rw [toAst, Ast.references_ofBranches, List.reverse_cons, List.flatMap_append,
    List.flatMap_singleton, branch, Ast.references_ofParts]

theorem Level.references_push
    (level : Level)
    (part : Ast) :
    (level.push part).toAst.references = level.toAst.references ++ part.references := by
  unfold push
  split
  · next empty => rw [Ast.references_eq_nil_of_isEmpty empty, List.append_nil]
  · simp [references_toAst]

theorem Level.references_nextBranch
    (level : Level) :
    level.nextBranch.toAst.references = level.toAst.references := by
  simp [references_toAst, nextBranch, branch, Ast.references_ofParts]

/-- The references of the condition that an open group waits for, if it does. -/
def GroupKind.asked : GroupKind → List Nat
  | .conditional asks _ => asks.asked
  | _ => []

/-- The references that the parser has met in front of what stands in an open group. -/
def OpenGroup.met (group : OpenGroup) : List Nat :=
  group.outer.toAst.references ++ group.kind.asked

/-- The references that the parser has met, in order. -/
def ParseState.met (state : ParseState) : List Nat :=
  state.groups.reverse.flatMap OpenGroup.met ++ state.level.toAst.references

/-- The references that the parser has met behind a token. -/
def Progress.met : Progress → List Nat
  | .atom state last => state.met ++ last.references
  | .between state => state.met

theorem ParseState.met_open
    (state : ParseState)
    (kind : GroupKind)
    (outer : Level)
    (groups : List OpenGroup) :
    { state with level := .start, groups := ⟨kind, outer⟩ :: groups : ParseState }.met =
      groups.reverse.flatMap OpenGroup.met ++ outer.toAst.references ++ kind.asked := by
  simp [met, OpenGroup.met, Level.references_toAst, Level.start]

theorem ParseState.references_of_endLevel
    {state : ParseState}
    {body : Ast}
    (ended : state.endLevel = .ok body) :
    body.references = state.level.toAst.references := by
  unfold endLevel at ended
  split at ended
  · cases ended
  · obtain rfl := Except.ok.inj ended
    rfl

theorem ParseState.met_quantify
    (state : ParseState)
    (atom : Ast)
    (quantifier : Option Quantifier) :
    (state.quantify atom quantifier).met = state.met ++ atom.references := by
  have push (part : Ast) (same : part.references = atom.references) :
      { state with level := state.level.push part : ParseState }.met =
        state.met ++ atom.references := by
    rw [met, met, Level.references_push, same, List.append_assoc]
  unfold quantify
  refine push _ ?_
  split
  · rfl
  · dsimp only
    split <;> rfl

/-- A quantifier keeps the references of what it repeats. -/
theorem met_readBehind
    {progress : Progress}
    {text : List Char}
    {behind : Read ParseState text}
    (repeated : readBehind progress text = .ok behind) :
    behind.value.met = progress.met := by
  cases progress with
  | between state =>
      obtain rfl := Except.ok.inj repeated
      rfl
  | atom state atom =>
      obtain ⟨quantifier, -, repeated⟩ := Except.bind_eq_ok_iff.mp repeated
      obtain rfl := Except.ok.inj repeated
      exact state.met_quantify atom quantifier.value

theorem ParseState.sublist_of_conditionalOf
    {condition body made : Ast}
    {bodyEmpty : Bool}
    (conditional : conditionalOf condition body bodyEmpty = .ok made) :
    made.references.Sublist (condition.asked ++ body.references) := by
  unfold conditionalOf at conditional
  split at conditional
  · split at conditional
    · obtain rfl := Except.ok.inj conditional
      exact List.nil_sublist _
    · cases conditional
  · obtain rfl := Except.ok.inj conditional
    exact Ast.references_ofCondition condition body ▸ List.Sublist.refl _

/-- Closing a group keeps the references in it, but for one that is a condition by itself. -/
theorem ParseState.met_leave
    {state : ParseState}
    {text rest : List Char}
    {progress : Progress}
    (left : state.leave text rest = .ok progress) :
    progress.met.Sublist state.met := by
  obtain ⟨body, ended, left⟩ := Except.bind_eq_ok_iff.mp left
  have inside := references_of_endLevel ended
  obtain ⟨flags, level, groups, scope, numbered, dangling⟩ := state
  cases groups with
  | nil => cases left
  | cons group groups =>
      obtain ⟨kind, outer⟩ := group
      have whole : ParseState.met ⟨flags, level, ⟨kind, outer⟩ :: groups, scope, numbered, dangling⟩ =
          groups.reverse.flatMap OpenGroup.met ++ outer.toAst.references ++
            (kind.asked ++ body.references) := by
        simp [met, OpenGroup.met, inside]
      rw [whole]
      dsimp only at left
      split at left
      case h_5 =>
        obtain rfl := Except.ok.inj left
        rw [Progress.met, openConditional, met_open]
        exact (body.asked_sublist).append_left _
      case h_6 =>
        obtain ⟨made, conditional, left⟩ := Except.bind_eq_ok_iff.mp left
        obtain rfl := Except.ok.inj left
        exact (sublist_of_conditionalOf conditional).append_left _
      all_goals
        obtain rfl := Except.ok.inj left
        exact List.Sublist.refl _

/-- A header is a reference, or it refers to no group but in its condition. -/
theorem ParseState.met_enter
    {state : ParseState}
    {header : GroupHeader}
    {rest : List Char}
    {progress : Progress}
    (entered : state.enter header rest = .ok progress) :
    (∃ group, progress = .atom (state.refer group false) (.backreference group)) ∨
      progress.met = state.met := by
  have opens (flags : Flags) (scope : Scope) (kind : GroupKind) (numbered dangling : Bool)
      (bare : kind.asked = []) :
      ParseState.met ⟨flags, .start, ⟨kind, state.level⟩ :: state.groups, scope, numbered, dangling⟩ =
        state.met := by
    simp [met, OpenGroup.met, Level.references_toAst, Level.start, bare]
  cases header with
  | reference group =>
      obtain rfl := Except.ok.inj entered
      exact .inl ⟨group, rfl⟩
  | directive flags =>
      obtain rfl := Except.ok.inj entered
      exact .inr (List.append_nil _)
  | _ =>
      obtain rfl := Except.ok.inj entered
      exact .inr (opens _ _ _ _ _ rfl)

/-- Most escapes are no references, and no letter `g` starts one. -/
theorem references_of_readCommonEscape
    {fold : Bool}
    {letter : Char}
    {text : List Char}
    {escape : Read Escape text}
    (read : readCommonEscape fold letter text = .ok escape) :
    letter ≠ 'g' ∧ escape.value.meaning.references = [] := by
  unfold readCommonEscape at read
  split at read
  case h_1 | h_2 =>
    obtain rfl := Except.ok.inj read
    exact ⟨by decide, rfl⟩
  case h_3 | h_4 | h_5 =>
    obtain ⟨char, -, made⟩ := Except.bind_eq_ok_iff.mp read
    obtain rfl := Except.ok.inj made
    exact ⟨by decide, rfl⟩
  case h_6 =>
    split at read
    · next listed =>
        obtain rfl := Except.ok.inj read
        exact ⟨fun same => absurd (same ▸ listed) (by decide), rfl⟩
    split at read
    · next unicode =>
        obtain ⟨name, -, made⟩ := Except.bind_eq_ok_iff.mp read
        obtain rfl := Except.ok.inj made
        exact ⟨fun same => absurd (same ▸ unicode.1) (by decide), rfl⟩
    · obtain ⟨char, plain, made⟩ := Except.bind_eq_ok_iff.mp read
      obtain rfl := Except.ok.inj made
      refine ⟨?_, rfl⟩
      rintro rfl
      cases plain

theorem references_of_assertionOf?
    {letter : Char}
    {assertion : Ast}
    (found : assertionOf? letter = some assertion) :
    letter ≠ 'g' ∧ assertion.references = [] := by
  unfold assertionOf? at found
  split at found
  case h_9 => cases found
  all_goals
    obtain rfl := Option.some.inj found
    exact ⟨by decide, rfl⟩

/-- What an escape outside of classes is: a reference by digits, one behind a `k`, or none. -/
theorem escape_cases
    {scope : Scope}
    {fold : Bool}
    {text : List Char}
    {escape : Read Escape text}
    (read : readEscape scope fold false text = .ok escape) :
    (∃ group, readNumberedReference scope text = .ok group ∧
        escape.value.meaning = .backreference group.value ∧ escape.rest = group.rest ∧
        text.head?.any Char.isDigit) ∨
      (∃ rest group, text = 'k' :: rest ∧ readKeyReference scope rest = .ok group ∧
        escape.value.meaning = .backreference group.value ∧ escape.rest = group.rest) ∨
      ∃ letter rest, text = letter :: rest ∧ ¬ letter.isDigit ∧ letter ∉ ['k', 'g'] ∧
        escape.value.meaning.references = [] := by
  unfold readEscape at read
  split at read
  · cases read
  next letter rest =>
  split at read
  · next digit =>
      obtain ⟨group, groupRead, made⟩ := Except.bind_eq_ok_iff.mp read
      obtain rfl := Except.ok.inj made
      exact .inl ⟨group, groupRead, rfl, rfl, digit⟩
  next digit =>
  split at read
  · next keyed =>
      obtain ⟨group, groupRead, made⟩ := Except.bind_eq_ok_iff.mp read
      obtain rfl := Except.ok.inj made
      obtain rfl := keyed.2
      exact .inr (.inl ⟨rest, group, rfl, groupRead, rfl, rfl⟩)
  next keyed =>
  have other : letter ≠ 'k' := fun same => keyed ⟨Bool.false_ne_true, same⟩
  split at read
  · cases read
  split at read
  · next assertion found =>
      obtain rfl := Except.ok.inj read
      rw [if_neg Bool.false_ne_true] at found
      obtain ⟨apart, none⟩ := references_of_assertionOf? found
      exact .inr (.inr ⟨letter, rest, rfl, digit, by simp [other, apart], none⟩)
  · obtain ⟨common, commonRead, made⟩ := Except.bind_eq_ok_iff.mp read
    obtain rfl := Except.ok.inj made
    obtain ⟨apart, none⟩ := references_of_readCommonEscape commonRead
    exact .inr (.inr ⟨letter, rest, rfl, digit, by simp [other, apart], none⟩)

/-- An escape that refers to no group holds no reference. -/
theorem references_of_readEscape
    {scope : Scope}
    {fold : Bool}
    {text : List Char}
    {escape : Read Escape text}
    (read : readEscape scope fold false text = .ok escape)
    (noReference : ∀ group, escape.value.meaning ≠ .backreference group) :
    escape.value.meaning.references = [] := by
  rcases escape_cases read with ⟨found, -, meaning, -⟩ | ⟨_, found, -, -, meaning, -⟩ |
    ⟨_, _, -, -, -, none⟩
  · exact absurd meaning (noReference _)
  · exact absurd meaning (noReference _)
  · exact none

section

variable {state : ParseState} {text : List Char} {token : Read Progress text}

/-- A token that starts with a backslash is what its escape is. -/
theorem escape_of_readToken
    (read : readToken state '\\' text = .ok token) :
    ∃ escape, readEscape state.scope state.flags.fold false text = .ok escape ∧
      token.rest = escape.rest ∧
      ((∃ group, escape.value.meaning = .backreference group ∧
          token.value =
            .atom (state.refer group escape.value.numbered) (.backreference group)) ∨
        (∀ group, escape.value.meaning ≠ .backreference group) ∧
          token.value = .atom state escape.value.meaning) := by
  obtain ⟨escape, escapeRead, made⟩ := Except.bind_eq_ok_iff.mp read
  obtain rfl := Except.ok.inj made
  refine ⟨escape, escapeRead, rfl, ?_⟩
  dsimp only [Read.map]
  split
  · next group meaning => exact .inl ⟨group, meaning, congrArg _ meaning⟩
  · next other => exact .inr ⟨fun group same => other group same, rfl⟩

/-- A token adds nothing but the reference that it is to those that the parser has met. -/
theorem met_readToken
    {first : Char}
    (read : readToken state first text = .ok token) :
    token.value.met.Sublist (state.met ++
      ((Stretch.token state first text token.value token.rest).reference?.map (·.group)).toList) := by
  have bare {inner : ParseState} {atom : Ast} (same : inner.met = state.met)
      (none : atom.references = []) (added : List Nat) :
      (Progress.atom inner atom).met.Sublist (state.met ++ added) := by
    rw [Progress.met, same, none, List.append_nil]
    exact List.sublist_append_left _ _
  by_cases escapes : first = '\\'
  · subst escapes
    obtain ⟨escape, escapeRead, -, ⟨group, -, value⟩ | ⟨noReference, value⟩⟩ :=
      escape_of_readToken read
    · rw [value]
      exact List.Sublist.refl (state.met ++ [group])
    · rw [value]
      exact bare rfl (references_of_readEscape escapeRead noReference) _
  unfold readToken at read
  dsimp only at read
  split at read
  · split at read
    · cases read
    obtain ⟨header, -, read⟩ := Except.bind_eq_ok_iff.mp read
    obtain ⟨progress, entered, read⟩ := Except.bind_eq_ok_iff.mp read
    obtain rfl := Except.ok.inj read
    rcases ParseState.met_enter entered with ⟨group, rfl⟩ | met
    · exact List.Sublist.refl (state.met ++ [group])
    · dsimp only
      rw [met]
      exact List.sublist_append_left _ _
  · obtain ⟨progress, left, read⟩ := Except.bind_eq_ok_iff.mp read
    obtain rfl := Except.ok.inj read
    exact (ParseState.met_leave left).trans (List.sublist_append_left _ _)
  · obtain rfl := Except.ok.inj read
    dsimp only
    rw [Progress.met, ParseState.met, Level.references_nextBranch]
    exact List.sublist_append_left _ _
  · cases read
  · cases read
  · cases read
  · obtain ⟨members, -, read⟩ := Except.bind_eq_ok_iff.mp read
    obtain rfl := Except.ok.inj read
    exact bare rfl rfl _
  · exact absurd rfl escapes
  all_goals
    obtain rfl := Except.ok.inj read
    exact bare rfl rfl _

end

/-- The groups that the references of some stretches lead to. -/
def groupsOf (stretches : List Stretch) : List Nat :=
  (stretches.filterMap Stretch.reference?).map (·.group)

theorem groupsOf_cons
    (stretch : Stretch)
    (others : List Stretch) :
    groupsOf (stretch :: others) =
      (stretch.reference?.map (·.group)).toList ++ groupsOf others := by
  rw [groupsOf, List.filterMap_cons]
  cases stretch.reference? <;> rfl

theorem groupsOf_between
    (text rest : List Char)
    (others : List Stretch) :
    groupsOf (.between text rest :: others) = groupsOf others := rfl

/-- What the parser meets from a state on are references of the stretches that it reads. -/
theorem met_readTokens
    {state last : ParseState}
    {text : List Char}
    (read : readTokens state text = .ok last) :
    last.met.Sublist (state.met ++ groupsOf (stretchesFrom state text)) := by
  induction size : text.length using Nat.strongRecOn generalizing state text with
  | ind size inductionHypothesis =>
      subst size
      have run := read
      rw [readTokens] at run
      obtain ⟨blank, skipped, run⟩ := Except.bind_eq_ok_iff.mp run
      cases left : blank.rest with
      | nil =>
          split at run
          · obtain rfl := Except.ok.inj run
            exact List.sublist_append_left _ _
          · next found => cases left.symm.trans found
      | cons first rest =>
          obtain ⟨token, tokenRead, behind, repeated, others⟩ :=
            (readTokens_eq_ok_iff_of_token skipped left).mp read
          have shorter : behind.rest.length < text.length :=
            Nat.lt_of_le_of_lt (Nat.le_trans behind.shorter token.shorter) (blank.length_lt left)
          have step : behind.value.met.Sublist _ :=
            (met_readBehind repeated).symm ▸ met_readToken tokenRead
          rw [stretchesFrom_token skipped left tokenRead repeated]
          rw [groupsOf_between, groupsOf_cons, groupsOf_between, ← List.append_assoc]
          exact (inductionHypothesis _ shorter others rfl).trans (step.append_right _)

/-- Every back-reference of a parsed pattern is one of its references, in order.  A reference by
itself as a condition is no back-reference any more. -/
theorem references_of_parse
    {pattern : List Char}
    {parsed : Parsed}
    (read : parse pattern = .ok parsed) :
    parsed.ast.references.Sublist ((references pattern).map (·.group)) := by
  obtain ⟨last, lastRead, read⟩ := Except.bind_eq_ok_iff.mp read
  obtain ⟨ast, finished, read⟩ := Except.bind_eq_ok_iff.mp read
  obtain rfl := Except.ok.inj read
  have met := met_readTokens lastRead
  have finish : last.met = ast.references := by
    obtain ⟨body, ended, finished⟩ := Except.bind_eq_ok_iff.mp finished
    have inside := ParseState.references_of_endLevel ended
    obtain ⟨flags, level, groups, scope, numbered, dangling⟩ := last
    dsimp only at finished
    split at finished
    · obtain rfl := Except.ok.inj finished
      exact inside.symm
    · obtain ⟨_, -, thrown⟩ := Except.bind_eq_ok_iff.mp finished
      cases thrown
    · cases finished
  rwa [finish] at met

end Backtracking
end LineExtraction
