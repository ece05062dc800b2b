import LineExtraction.Backtracking.Regex
import LineExtraction.Proofs.Extraction.Writing
import LineExtraction.Proofs.Pattern.NameCharacter
import LineExtraction.Proofs.Text.Yields

/-!
# The names of groups in the backtracking dialect

Here too the parser numbers capturing groups as they open.  It keeps the names beside the
pattern, and a name that stands at several groups is left to the last of them, so a group
has the name that it opened under or none.
-/

namespace LineExtraction
namespace Backtracking

/-! ## Chains of tokens -/

/-- Whether the parser comes from one state and text to another, token by token. -/
inductive Reads : ParseState → List Char → ParseState → List Char → Prop
  | refl (state : ParseState) (text : List Char) : Reads state text state text
  | token
      {state last : ParseState}
      {text rest end' : List Char}
      {first : Char}
      {blank : Read Unit text}
      {token : Read Progress rest}
      {behind : Read ParseState token.rest}
      (skipped : skipIgnored state.flags.verbose text = .ok blank)
      (left : blank.rest = first :: rest)
      (read : readToken state first rest = .ok token)
      (repeated : readBehind token.value token.rest = .ok behind)
      (others : Reads behind.value behind.rest last end') :
      Reads state text last end'

/-- Parsing goes on behind a token. -/
theorem readTokens_eq_ok_iff_of_token
    {state last : ParseState}
    {text rest : List Char}
    {first : Char}
    {blank : Read Unit text}
    (skipped : skipIgnored state.flags.verbose text = .ok blank)
    (left : blank.rest = first :: rest) :
    readTokens state text = .ok last ↔
      ∃ token, readToken state first rest = .ok token ∧
        ∃ behind, readBehind token.value token.rest = .ok behind ∧
          readTokens behind.value behind.rest = .ok last := by
  rw [readTokens]
  constructor
  · intro found
    obtain ⟨same, sameSkipped, found⟩ := Except.bind_eq_ok_iff.mp found
    obtain rfl := Except.ok.inj (skipped.symm.trans sameSkipped)
    split at found
    · next none => cases none.symm.trans left
    · next sameLeft =>
        obtain ⟨rfl, rfl⟩ := List.cons.inj (left.symm.trans sameLeft)
        obtain ⟨token, tokenFound, found⟩ := Except.bind_eq_ok_iff.mp found
        obtain ⟨behind, behindFound, found⟩ := Except.bind_eq_ok_iff.mp found
        exact ⟨token, tokenFound, behind, behindFound, found⟩
  · rintro ⟨token, tokenFound, behind, behindFound, found⟩
    refine Except.bind_eq_ok_iff.mpr ⟨blank, skipped, ?_⟩
    split
    · next none => cases none.symm.trans left
    · next sameLeft =>
        obtain ⟨rfl, rfl⟩ := List.cons.inj (left.symm.trans sameLeft)
        exact Except.bind_eq_ok_iff.mpr ⟨token, tokenFound,
          Except.bind_eq_ok_iff.mpr ⟨behind, behindFound, found⟩⟩

theorem Reads.readTokens_eq_ok
    {state middle last : ParseState}
    {text rest : List Char}
    (reads : Reads state text middle rest) :
    readTokens state text = .ok last ↔ readTokens middle rest = .ok last := by
  induction reads with
  | refl => exact Iff.rfl
  | token skipped left read repeated others inductionHypothesis =>
      rw [readTokens_eq_ok_iff_of_token skipped left, ← inductionHypothesis]
      constructor
      · rintro ⟨token, sameRead, behind, sameRepeated, found⟩
        obtain rfl := Except.ok.inj (read.symm.trans sameRead)
        obtain rfl := Except.ok.inj (repeated.symm.trans sameRepeated)
        exact found
      · exact fun found => ⟨_, read, _, repeated, found⟩

theorem Reads.trans
    {state middle last : ParseState}
    {text rest end' : List Char}
    (front : Reads state text middle rest)
    (back : Reads middle rest last end') :
    Reads state text last end' := by
  induction front with
  | refl => exact back
  | token skipped left read repeated _ inductionHypothesis =>
      exact .token skipped left read repeated (inductionHypothesis back)

/-- A run of the parser is a chain of tokens. -/
theorem reads_of_readTokens
    {state last : ParseState}
    {text : List Char}
    (found : readTokens state text = .ok last) :
    ∃ rest, Reads state text last rest := by
  induction size : text.length using Nat.strongRecOn generalizing state text with
  | ind size inductionHypothesis =>
      have run := found
      rw [readTokens] at found
      obtain ⟨blank, skipped, found⟩ := Except.bind_eq_ok_iff.mp found
      split at found
      · obtain rfl := Except.ok.inj found
        exact ⟨text, .refl state text⟩
      · next first rest left =>
          obtain ⟨token, read, behind, repeated, others⟩ :=
            (readTokens_eq_ok_iff_of_token skipped left).mp run
          have shorter : behind.rest.length < text.length := by
            have blankShorter := blank.shorter
            have tokenShorter := token.shorter
            have behindShorter := behind.shorter
            rw [left, List.length_cons] at blankShorter
            omega
          obtain ⟨end', reads⟩ := inductionHypothesis _ (size ▸ shorter) others rfl
          exact ⟨end', .token skipped left read repeated reads⟩

/-! ## What tokens do to the names -/

/-- Whether a scope is left as it is, or one group opens in it. -/
def Scope.Grows (before after : Scope) : Prop :=
  after = before ∨ ∃ name : Option (List Char), after =
    { before with
      captures := before.captures + 1
      names := (name.map (·, before.captures + 1)).toList ++ before.names }

/-- The state of the parser behind a token. -/
def Progress.state : Progress → ParseState
  | atom state _ => state
  | between state => state

theorem scope_enter
    {state : ParseState}
    {header : GroupHeader}
    {rest : List Char}
    {progress : Progress}
    (entered : state.enter header rest = .ok progress) :
    state.scope.Grows progress.state.scope := by
  cases header with
  | unnamed =>
      obtain rfl := Except.ok.inj entered
      exact .inr ⟨none, rfl⟩
  | named name =>
      obtain rfl := Except.ok.inj entered
      exact .inr ⟨some name, rfl⟩
  | _ =>
      obtain rfl := Except.ok.inj entered
      exact .inl rfl

theorem scope_leave
    {state : ParseState}
    {text rest : List Char}
    {progress : Progress}
    (left : state.leave text rest = .ok progress) :
    progress.state.scope = state.scope := by
  obtain ⟨body, -, left⟩ := Except.bind_eq_ok_iff.mp left
  dsimp only at left
  split at left
  · cases left
  · split at left
    · obtain rfl := Except.ok.inj left
      rfl
    · obtain rfl := Except.ok.inj left
      rfl
    · obtain rfl := Except.ok.inj left
      rfl
    · obtain rfl := Except.ok.inj left
      rfl
    · obtain rfl := Except.ok.inj left
      rfl
    · obtain ⟨conditional, -, left⟩ := Except.bind_eq_ok_iff.mp left
      obtain rfl := Except.ok.inj left
      rfl

/-- A token opens at most one group. -/
theorem scope_readToken
    {state : ParseState}
    {first : Char}
    {text : List Char}
    {token : Read Progress text}
    (read : readToken state first text = .ok token) :
    state.scope.Grows token.value.state.scope := by
  unfold readToken at read
  dsimp only at read
  split at read
  · split at read
    · cases read
    · obtain ⟨header, -, read⟩ := Except.bind_eq_ok_iff.mp read
      obtain ⟨progress, entered, read⟩ := Except.bind_eq_ok_iff.mp read
      obtain rfl := Except.ok.inj read
      exact scope_enter entered
  · obtain ⟨progress, left, read⟩ := Except.bind_eq_ok_iff.mp read
    obtain rfl := Except.ok.inj read
    exact .inl (scope_leave left)
  · obtain rfl := Except.ok.inj read
    exact .inl rfl
  · cases read
  · cases read
  · cases read
  · obtain ⟨members, -, read⟩ := Except.bind_eq_ok_iff.mp read
    obtain rfl := Except.ok.inj read
    exact .inl rfl
  · obtain ⟨escape, -, read⟩ := Except.bind_eq_ok_iff.mp read
    obtain rfl := Except.ok.inj read
    refine .inl ?_
    simp only [Read.map]
    split <;> rfl
  all_goals
    obtain rfl := Except.ok.inj read
    exact .inl rfl

theorem scope_readBehind
    {progress : Progress}
    {text : List Char}
    {behind : Read ParseState text}
    (repeated : readBehind progress text = .ok behind) :
    behind.value.scope = progress.state.scope := by
  cases progress with
  | between state =>
      obtain rfl := Except.ok.inj repeated
      rfl
  | atom state atom =>
      obtain ⟨quantifier, -, repeated⟩ := Except.bind_eq_ok_iff.mp repeated
      obtain rfl := Except.ok.inj repeated
      rfl

/-! ## Numbering -/

/-- Whether the named groups of a scope are numbered as they opened. -/
structure Scope.Numbered (scope : Scope) : Prop where
  /-- No number is beyond the last one given. -/
  below : ∀ entry ∈ scope.names, entry.2 ≤ scope.captures
  /-- No two names share a number. -/
  distinct : ∀ first ∈ scope.names, ∀ second ∈ scope.names, first.2 = second.2 → first = second

theorem Scope.Numbered.grows
    {before after : Scope}
    (numbered : before.Numbered)
    (grows : before.Grows after) :
    after.Numbered ∧ ∀ entry ∈ before.names, entry ∈ after.names := by
  rcases grows with rfl | ⟨name, rfl⟩
  · exact ⟨numbered, fun _ member => member⟩
  · have entries : ∀ entry, entry ∈ (name.map (·, before.captures + 1)).toList ++ before.names →
        entry.2 = before.captures + 1 ∧ some entry.1 = name ∨ entry ∈ before.names := by
      intro entry member
      refine (List.mem_append.mp member).imp_left fun new => ?_
      obtain ⟨given, rfl, rfl⟩ := Option.map_eq_some_iff.mp (Option.mem_toList.mp new)
      exact ⟨rfl, rfl⟩
    refine ⟨⟨fun entry member => ?_, fun first firstMember second secondMember same => ?_⟩,
      fun entry member => List.mem_append_right _ member⟩
    · rcases entries entry member with ⟨number, -⟩ | old
      · exact Nat.le_of_eq number
      · exact Nat.le_succ_of_le (numbered.below entry old)
    · rcases entries first firstMember with ⟨firstNumber, firstName⟩ | firstOld
      · rcases entries second secondMember with ⟨secondNumber, secondName⟩ | secondOld
        · exact Prod.ext (Option.some.inj (firstName.trans secondName.symm)) same
        · have := numbered.below second secondOld
          omega
      · rcases entries second secondMember with ⟨secondNumber, -⟩ | secondOld
        · have := numbered.below first firstOld
          omega
        · exact numbered.distinct first firstOld second secondOld same

/-- A run of the parser keeps the numbering and every named group that it has met. -/
theorem Scope.Numbered.reads
    {state last : ParseState}
    {text rest : List Char}
    (numbered : state.scope.Numbered)
    (reads : Reads state text last rest) :
    last.scope.Numbered ∧ ∀ entry ∈ state.scope.names, entry ∈ last.scope.names := by
  induction reads with
  | refl => exact ⟨numbered, fun _ member => member⟩
  | token skipped left read repeated others inductionHypothesis =>
      obtain ⟨nextNumbered, keeps⟩ := numbered.grows (scope_readToken read)
      rw [← scope_readBehind repeated] at nextNumbered keeps
      obtain ⟨lastNumbered, keepsOn⟩ := inductionHypothesis nextNumbered
      exact ⟨lastNumbered, fun entry member => keepsOn entry (keeps entry member)⟩

/-! ## Groups of expressions -/

theorem isNameChar_of_mem_expressionName
    {ordinal : Nat}
    {char : Char}
    (member : char ∈ expressionName ordinal) :
    isNameChar char := by
  rw [expressionName_eq] at member
  have ascii : ['0', '1', '2', '3', '4', '5', '6', '7', '8', '9', '_', 'e'].all fun char =>
      char.toNat < 128 ∧ (char.isAlpha ∨ char.isDigit ∨ char = '_') := by
    decide
  have digits (char : Char)
      (member : char ∈ ['0', '1', '2', '3', '4', '5', '6', '7', '8', '9', '_', 'e']) :
      isNameChar char := by
    obtain ⟨small, isName⟩ := of_decide_eq_true (List.all_eq_true.mp ascii char member)
    exact (isNameChar_iff_of_ascii small).mpr isName
  rcases List.mem_cons.mp member with rfl | member
  · exact digits _ (by decide)
  · rcases List.mem_cons.mp member with rfl | member
    · exact digits _ (by decide)
    · exact digits char (List.mem_append_left _ (mem_digits_of_isDigit (isDigit_of_mem_toString member)))

/-- A name is read up to the delimiter that closes it. -/
theorem readName_name
    {name : List Char}
    (named : name ≠ [])
    (all : ∀ char ∈ name, isNameChar char)
    (relative : Bool)
    {close : Char}
    (stops : ¬ isNameChar close)
    (more : List Char) :
    ∃ shorter, readName relative close (name ++ close :: more) = .ok ⟨name, more, shorter⟩ := by
  have plain : ¬ (relative ∧ (name ++ close :: more).head? = some '-') := by
    rintro ⟨-, minus⟩
    cases name with
    | nil => exact named rfl
    | cons first rest =>
        obtain rfl : first = '-' := Option.some.inj minus
        have isName := all '-' List.mem_cons_self
        rw [isNameChar_iff_of_ascii (by decide)] at isName
        exact absurd isName (by decide)
  have run {accepts : Char → Bool} {text : List Char} (same : accepts = isNameChar)
      (whole : text = name ++ close :: more) :
      (readWhile accepts text).value = name ∧ (readWhile accepts text).rest = close :: more := by
    subst same whole
    simp [readWhile, List.takeWhile_append_of_pos all, List.dropWhile_append_of_pos all, stops]
  have shorter : more.length ≤ (name ++ close :: more).length := by
    rw [List.length_append, List.length_cons]
    omega
  have unsigned : (name ++ close :: more).take
      (if relative ∧ (name ++ close :: more).head? = some '-' then 1 else 0) = [] := by
    rw [if_neg plain, List.take_zero]
  obtain ⟨taken, left⟩ := run (if_neg (t := Char.isDigit) plain) (congrArg (fun sign : List Char =>
    (name ++ close :: more).drop sign.length) unsigned)
  have whole := congr (congrArg List.append unsigned) taken
  refine ⟨shorter, ?_⟩
  unfold readName
  dsimp only
  split
  · next none => cases none.symm.trans left
  · next char rest found =>
      obtain ⟨rfl, rfl⟩ := List.cons.inj (left.symm.trans found)
      have filled (written : List Char) (same : written = name) : ¬ written.isEmpty := fun empty =>
        named (same.symm.trans (List.isEmpty_iff.mp empty))
      have made (written : List Char) (same : written = name)
          (bound : more.length ≤ (name ++ close :: more).length) :
          (⟨written, more, bound⟩ : Read (List Char) _) = ⟨name, more, bound⟩ :=
        Read.eq_mk same rfl bound
      exact (if_pos ⟨rfl, filled _ whole⟩).trans (congrArg Except.ok (made _ whole _))

theorem readName_expressionName
    (ordinal : Nat)
    (more : List Char) :
    ∃ shorter, readName false '>' (expressionName ordinal ++ '>' :: more) =
      .ok ⟨expressionName ordinal, more, shorter⟩ := by
  have named : expressionName ordinal ≠ [] := by
    rw [expressionName_eq]
    exact List.cons_ne_nil _ _
  have stops : ¬ isNameChar '>' := by
    rw [isNameChar_iff_of_ascii (by decide)]
    decide
  exact readName_name named (fun _ => isNameChar_of_mem_expressionName) false stops more

theorem readHeader_captureHeader
    (scope : Scope)
    (flags : Flags)
    (ordinal : Nat)
    (more : List Char) :
    ∃ shorter, readGroupHeader scope flags
        ('?' :: 'P' :: '<' :: (expressionName ordinal ++ '>' :: more)) =
      .ok ⟨.named (expressionName ordinal), more, shorter⟩ := by
  obtain ⟨shorter, found⟩ := readName_expressionName ordinal more
  have bound : more.length ≤
      ('?' :: 'P' :: '<' :: (expressionName ordinal ++ '>' :: more)).length :=
    Nat.le_succ_of_le (Nat.le_succ_of_le (Nat.le_succ_of_le shorter))
  have skipped : skipIgnored flags.verbose
      ('?' :: 'P' :: '<' :: (expressionName ordinal ++ '>' :: more)) =
        .ok ⟨(), '?' :: 'P' :: '<' :: (expressionName ordinal ++ '>' :: more), Nat.le_refl _⟩ := by
    cases flags.verbose <;> rfl
  have header : readHeader scope flags
      ('?' :: 'P' :: '<' :: (expressionName ordinal ++ '>' :: more)) =
        .ok ⟨.named (expressionName ordinal), more, bound⟩ := by
    show (readName false '>' _ >>= _) = _
    rw [found]
    rfl
  refine ⟨bound, Except.bind_eq_ok_iff.mpr ⟨_, skipped, ?_⟩⟩
  exact Except.bind_eq_ok_iff.mpr ⟨_, header, rfl⟩

/-- In any mode the header of an expression opens a capture under the name of the
expression. -/
theorem reads_captureHeader
    {state complete : ParseState}
    {ordinal : Nat}
    {more : List Char}
    (found : readTokens state (captureHeader ordinal ++ more) = .ok complete) :
    Reads state (captureHeader ordinal ++ more)
      (state.openCapture (some (expressionName ordinal))) more := by
  have text : captureHeader ordinal ++ more =
      '(' :: '?' :: 'P' :: '<' :: (expressionName ordinal ++ '>' :: more) := by
    simp [captureHeader]
  rw [text] at found ⊢
  have skipped : skipIgnored state.flags.verbose
      ('(' :: '?' :: 'P' :: '<' :: (expressionName ordinal ++ '>' :: more)) =
        .ok ⟨(), '(' :: '?' :: 'P' :: '<' :: (expressionName ordinal ++ '>' :: more),
          Nat.le_refl _⟩ := by
    cases state.flags.verbose <;> rfl
  obtain ⟨token, read, behind, repeated, -⟩ :=
    (readTokens_eq_ok_iff_of_token skipped rfl).mp found
  have opened := read
  simp only [readToken] at opened
  split at opened
  · cases opened
  · obtain ⟨header, headerFound, opened⟩ := Except.bind_eq_ok_iff.mp opened
    obtain ⟨shorter, sameFound⟩ :=
      readHeader_captureHeader state.scope state.flags ordinal more
    obtain rfl := Except.ok.inj (sameFound.symm.trans headerFound)
    obtain rfl := Except.ok.inj opened
    obtain rfl := Except.ok.inj repeated
    exact .token skipped rfl read rfl (.refl _ more)

/-! ## Parsed patterns -/

/-- Every named group that the parser meets on the way is known when the pattern is
parsed, and it is the only one with its number. -/
theorem names_of_parse
    {text rest : List Char}
    {parsed : Parsed}
    {state : ParseState}
    (found : parse text = .ok parsed)
    (reads : Reads (.start (Line.byteLength text)) text state rest) :
    (∀ entry ∈ state.scope.names, entry ∈ parsed.names) ∧
      ∀ first ∈ parsed.names, ∀ second ∈ parsed.names, first.2 = second.2 → first = second := by
  obtain ⟨last, read, found⟩ := Except.bind_eq_ok_iff.mp found
  obtain ⟨ast, -, found⟩ := Except.bind_eq_ok_iff.mp found
  obtain rfl := Except.ok.inj found
  have start : (ParseState.start (Line.byteLength text)).scope.Numbered := ⟨nofun, nofun⟩
  obtain ⟨end', others⟩ := reads_of_readTokens (reads.readTokens_eq_ok.mp read)
  obtain ⟨numbered, -⟩ := start.reads reads
  obtain ⟨lastNumbered, keeps⟩ := numbered.reads others
  exact ⟨keeps, lastNumbered.distinct⟩

/-- A group that is left with a name has opened under it. -/
theorem mem_of_groupNamesOf
    {groupCount group : Nat}
    {names : List (List Char × Nat)}
    {name : String}
    (found : (groupNamesOf groupCount names)[group]? = some (some name)) :
    (name.toList, group) ∈ names := by
  rw [groupNamesOf, List.getElem?_map] at found
  obtain ⟨number, inRange, named⟩ := Option.map_eq_some_iff.mp found
  obtain ⟨inside, same⟩ := List.getElem?_eq_some_iff.mp inRange
  rw [List.getElem_range] at same
  subst same
  obtain ⟨⟨chars, index⟩, captured, rfl⟩ := Option.map_eq_some_iff.mp named
  have both := List.find?_some captured
  obtain rfl : index = group := (of_decide_eq_true both).1
  rw [String.toList_ofList]
  exact List.mem_of_find?_eq_some captured

/-- A compiled pattern has the group names of its parse. -/
theorem names_of_compile
    {backtrackLimit : Nat}
    {pattern : String}
    {regex : Regex}
    (compiled : Regex.compile backtrackLimit pattern = .ok regex) :
    ∃ parsed, parse pattern.toList = .ok parsed ∧
      regex.groupNames = groupNamesOf (parsed.captures + 1) parsed.names := by
  obtain ⟨parsed, parsedFound, compiled⟩ := Except.bind_eq_ok_iff.mp compiled
  refine ⟨parsed, Except.mapError_eq_ok_iff.mp parsedFound, ?_⟩
  by_cases dangling : parsed.dangling
  · rw [if_pos dangling] at compiled
    cases compiled
  · rw [if_neg dangling] at compiled
    dsimp only at compiled
    split at compiled
    · obtain ⟨program, -, made⟩ := Except.bind_eq_ok_iff.mp compiled
      obtain rfl := Except.ok.inj made
      rfl
    · obtain ⟨linear, -, made⟩ := Except.bind_eq_ok_iff.mp compiled
      obtain rfl := Except.ok.inj made
      rfl

end Backtracking
end LineExtraction
