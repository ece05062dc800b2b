import LineExtraction.Pattern.GroupNames
import LineExtraction.Pattern.NumberedReference
import LineExtraction.Proofs.Backtracking.References
import LineExtraction.Proofs.Pattern.NameScan
import LineExtraction.Proofs.Pattern.PositionalRelaxing

/-!
# Scans of pattern text by position

The searches for the names of groups, for a reference by number, and for a comment that is still
open can be made on a text that is never cut.  They come to what the scans come to that cut the
text.  The main statement says that all this is safe on every text, well-formed or not: positions
only move forward, and each slice that is asked for exists.
-/

namespace LineExtraction
namespace Pattern

variable {text : List Char} {position : Nat}

/-! ## Names of groups -/

/-- How far the search for names has come: the position, and the names found so far. -/
structure NamePlace where
  position : Nat
  names : List (List Char)

/-- The start of a text. -/
def NamePlace.start : NamePlace := ⟨0, []⟩

/-- Where the name starts that the group that opens at a position has. -/
def nameStart? (text : List Char) (position : Nat) : Option Nat :=
  if text[position + 2]? = some 'P' ∧ text[position + 3]? = some '<' then some (position + 4)
  else if text[position + 2]? = some '<' ∧
      text[position + 3]?.any (fun char => char ≠ '=' ∧ char ≠ '!') then some (position + 3)
  else none

/-- The position of the first `terminator` in the rest of a text from `start` on, or the end of the
text. -/
def positionIn (text rest : List Char) (terminator : Char) (start : Nat) : Nat :=
  (rest.findIdx? (· = terminator)).elim text.length (start + ·)

/-- Look for a name at a position. -/
def nameStep (text : List Char) (place : NamePlace) (char : Char) :
    Step NamePlace (Option (List (List Char))) :=
  match char with
  | '\\' => .onward { place with position := place.position + 2 }
  | '[' => .onward { place with position := classEnd text place.position }
  | '(' =>
    if text[place.position + 1]? = some '?' then
      match nameStart? text place.position with
      | some start =>
        .withSlice (slice? text start text.length) fun rest =>
          .withSlice (slice? text start (positionIn text rest '>' start)) fun name =>
            .onward ⟨positionIn text rest '>' start + 1, place.names ++ [name]⟩
      | none => .onward { place with position := place.position + 2 }
    else .onward { place with position := place.position + 1 }
  | _ => .onward { place with position := place.position + 1 }

theorem cutPast_eq_findIdx
    (terminator : Char)
    (text : List Char) :
    cutPast terminator text =
      ⟨text.take (text.findIdx (· = terminator) + 1),
        text.drop (text.findIdx (· = terminator) + 1)⟩ := by
  induction text with
  | nil => rfl
  | cons char text inductionHypothesis =>
      by_cases found : char = terminator <;>
        simp [cutPast, List.findIdx_cons, found, inductionHypothesis]

theorem nameOf_cutPast
    (text : List Char) :
    nameOf (cutPast '>' text) = text.take (text.findIdx (· = '>')) := by
  induction text with
  | nil => rfl
  | cons char text inductionHypothesis =>
      by_cases found : char = '>'
      · simp [cutPast, nameOf, List.findIdx_cons, found]
      · simpa [cutPast, nameOf, List.findIdx_cons, found] using inductionHypothesis

theorem positionIn_drop
    (terminator : Char)
    {start : Nat}
    (within : start ≤ text.length) :
    positionIn text (text.drop start) terminator start =
      start + (text.drop start).findIdx (· = terminator) := by
  rw [positionIn, List.findIdx_eq_getD_findIdx?]
  cases (text.drop start).findIdx? (· = terminator) with
  | some offset => rfl
  | none =>
      rw [Option.elim_none, Option.getD_none, List.length_drop]
      omega

theorem groupNameStart?_drop
    (text : List Char)
    (position : Nat) :
    groupNameStart? (text.drop (position + 2)) = (nameStart? text position).map text.drop := by
  unfold nameStart?
  split
  · next long =>
      rw [drop_eq_cons long.1, drop_eq_cons long.2]
      rfl
  next noLong =>
  split
  · next short =>
      obtain ⟨opens, apart⟩ := short
      obtain ⟨char, third, named⟩ := (Option.any_eq_true _ _).mp apart
      have notLook : ¬ (char = '=' ∨ char = '!') := by simpa using named
      rw [drop_eq_cons opens, drop_eq_cons third, groupNameStart?, if_neg notLook, Option.map_some,
        drop_eq_cons third]
  · next noShort =>
      unfold groupNameStart?
      split
      · next same =>
          obtain ⟨second, behind⟩ := of_drop_eq_cons same
          exact absurd ⟨second, (of_drop_eq_cons behind).1⟩ noLong
      · next same =>
          obtain ⟨second, behind⟩ := of_drop_eq_cons same
          have third := (of_drop_eq_cons behind).1
          simp_all
      · rfl

theorem nameStart?_bounds
    {start : Nat}
    (named : nameStart? text position = some start) :
    position < start ∧ start ≤ text.length := by
  unfold nameStart? at named
  split at named
  · next long =>
      cases named
      exact ⟨by omega, lt_length_of_getElem? long.2⟩
  · split at named <;> cases named
    next short =>
      have inside := lt_length_of_getElem? short.1
      exact ⟨by omega, inside⟩

/-- A named group is passed with its name as a slice of the text. -/
theorem groupNamesOf_nameStart?
    {start : Nat}
    (opens : text[position]? = some '(')
    (query : text[position + 1]? = some '?')
    (named : nameStart? text position = some start) :
    ∃ name,
      slice? text start text.length = some (text.drop start) ∧
      slice? text start (positionIn text (text.drop start) '>' start) = some name ∧
      position < positionIn text (text.drop start) '>' start + 1 ∧
      groupNamesOf (text.drop position) =
        name :: groupNamesOf (text.drop (positionIn text (text.drop start) '>' start + 1)) := by
  obtain ⟨behind, within⟩ := nameStart?_bounds named
  have stop := positionIn_drop '>' within
  have offset : (text.drop start).findIdx (· = '>') ≤ (text.drop start).length :=
    List.findIdx_le_length
  rw [List.length_drop] at offset
  have left : (cutPast '>' (text.drop start)).left =
      text.drop (positionIn text (text.drop start) '>' start + 1) := by
    rw [cutPast_eq_findIdx, List.drop_drop, stop, Nat.add_assoc]
  refine ⟨nameOf (cutPast '>' (text.drop start)), ?_, ?_, by omega, ?_⟩
  · refine slice?_eq_some within (Nat.le_refl _) ?_
    rw [List.drop_length, List.append_nil]
  · refine slice?_eq_some (by omega) (by omega) ?_
    rw [nameOf_cutPast, stop, ← List.drop_drop, List.take_append_drop]
  · have found : groupNameStart? (text.drop (position + 2)) = some (text.drop start) := by
      rw [groupNameStart?_drop, named, Option.map_some]
    rw [drop_eq_cons opens, drop_eq_cons query, groupNamesOf.eq_def]
    simp only
    split
    · next rest given =>
        obtain rfl := Option.some.inj (found.symm.trans given)
        rw [left]
    · next given => cases found.symm.trans given

/-- A step of the search goes on at a later position, with the names found that are found in a
text cut where the step begins. -/
theorem nameStep_groupNamesOf
    {place : NamePlace}
    {char : Char}
    (found : text[place.position]? = some char) :
    ∃ next, nameStep text place char = .onward next ∧ place.position < next.position ∧
      next.names ++ groupNamesOf (text.drop next.position) =
        place.names ++ groupNamesOf (text.drop place.position) := by
  have here := drop_eq_cons found
  have ahead := isAhead_classEnd (lt_length_of_getElem? found)
  unfold nameStep
  split
  · refine ⟨_, rfl, by simp, congrArg (place.names ++ ·) ?_⟩
    rw [here, ← List.tail_drop]
    cases text.drop (place.position + 1) <;> simp [groupNamesOf]
  · refine ⟨_, rfl, ahead.lt, congrArg (place.names ++ ·) ?_⟩
    rw [here, ahead.drop_eq, groupNamesOf]
  · split
    · next query =>
        split
        · next start named =>
            obtain ⟨name, rest, part, later, names⟩ := groupNamesOf_nameStart? found query named
            rw [rest, Step.withSlice_some, part, Step.withSlice_some, names]
            exact ⟨_, rfl, later, by simp⟩
        · next unnamed =>
            refine ⟨_, rfl, by simp, congrArg (place.names ++ ·) ?_⟩
            have none : groupNameStart? (text.drop (place.position + 2)) = none := by
              rw [groupNameStart?_drop, unnamed, Option.map_none]
            rw [here, drop_eq_cons query]
            exact (groupNamesOf_query [] none (List.forall_mem_nil _)).symm
    · next bare =>
        refine ⟨_, rfl, Nat.lt_succ_self _, congrArg (place.names ++ ·) ?_⟩
        rw [← List.head?_drop] at bare
        rw [here, groupNamesOf_bare bare]
  · next escapes opens groups =>
      refine ⟨_, rfl, Nat.lt_succ_self _, congrArg (place.names ++ ·) ?_⟩
      have plain : char ∉ nameMarks := by simp_all [nameMarks]
      rw [here, groupNamesOf_cons plain]

/-- The walk that looks for the names of groups. -/
def nameWalk : Walk NamePlace (Option (List (List Char))) where
  position := NamePlace.position
  step := nameStep
  finish place := some place.names
  advances {text place char next} found goes := by
    obtain ⟨later, eq, ahead, -⟩ := nameStep_groupNamesOf found
    cases eq.symm.trans goes
    exact ahead

/-- The walk finds the names that are found in the text. -/
theorem nameWalk_run
    (text : List Char)
    (place : NamePlace) :
    nameWalk.run text place =
      some (place.names ++ groupNamesOf (text.drop place.position)) := by
  refine nameWalk.run_eq text
    (fun place => some (place.names ++ groupNamesOf (text.drop place.position)))
    (fun place beyond => ?_) (fun place char found => .inr ?_) place
  · have nothing : text.drop place.position = [] := drop_eq_nil beyond
    simp only [nothing, groupNamesOf, List.append_nil]
    rfl
  · obtain ⟨next, goes, -, same⟩ := nameStep_groupNamesOf found
    exact ⟨next, goes, congrArg some same⟩

/-! ## References by number -/

/-- Where the reference ends whose bracketed target is read from the third character behind
`position` on. -/
def referenceEnd (text target : List Char) (closing : Char) (position : Nat) : Nat :=
  min (position + (target.findIdx? (· = closing)).elim (text.length - position) (· + 4)) text.length

/-- The closing bracket of the reference at a position. -/
def closingAt (text : List Char) (position : Nat) : Char :=
  if text[position + 2]? = some '<' then '>' else '}'

/-- Look for a reference by number at a position. -/
def numberStep (text : List Char) (position : Nat) (char : Char) :
    Step Nat (Option (Option (List Char))) :=
  match char with
  | '[' => .onward (classEnd text position)
  | '\\' =>
    if text[position + 1]?.any (fun letter => '1' ≤ letter ∧ letter ≤ '9') then
      .withSlice (slice? text position (min (position + 2) text.length)) fun reference =>
        .stop (some (some reference))
    else if (text[position + 1]? = some 'k' ∨ text[position + 1]? = some 'g') ∧
        (text[position + 2]? = some '<' ∨ text[position + 2]? = some '{') ∧
        text[position + 3]?.any startsNumber then
      .withSlice (slice? text (position + 3) text.length) fun target =>
        .withSlice (slice? text position (referenceEnd text target (closingAt text position) position))
          fun reference => .stop (some (some reference))
    else .onward (position + 2)
  | _ => .onward (position + 1)

theorem referenceEnd_drop
    (closing : Char)
    (inside : position + 3 ≤ text.length) :
    position ≤ referenceEnd text (text.drop (position + 3)) closing position ∧
      text.drop (referenceEnd text (text.drop (position + 3)) closing position) =
        (cutPast closing (text.drop (position + 3))).left := by
  -- A target that is never closed runs to the end of the text, and the cut passes all of it too.
  rw [cutPast_eq_findIdx, List.drop_drop, List.findIdx_eq_getD_findIdx?, referenceEnd]
  cases found : (text.drop (position + 3)).findIdx? (· = closing) with
  | some offset =>
      obtain ⟨near, -⟩ := List.findIdx?_eq_some_iff_findIdx_eq.mp found
      rw [List.length_drop] at near
      rw [Option.elim_some, Option.getD_some, Nat.min_eq_left (by omega)]
      exact ⟨by omega, congrArg text.drop (by omega)⟩
  | none =>
      rw [Option.elim_none, Option.getD_none, List.length_drop, Nat.min_eq_right (by omega),
        List.drop_length]
      exact ⟨by omega, (List.drop_eq_nil_of_le (by omega)).symm⟩

/-- A reference by one digit is found as a slice of the text. -/
theorem firstNumbered?_digit
    {letter : Char}
    (found : text[position]? = some '\\')
    (second : text[position + 1]? = some letter)
    (range : '1' ≤ letter ∧ letter ≤ '9') :
    slice? text position (min (position + 2) text.length) = some ['\\', letter] ∧
      firstNumbered? (text.drop position) = some ['\\', letter] := by
  have inside : position + 2 ≤ text.length := lt_length_of_getElem? second
  rw [Nat.min_eq_left inside]
  refine ⟨slice?_eq_some (Nat.le_add_right position 2) inside ?_, ?_⟩
  · rw [drop_eq_cons found, drop_eq_cons second]
    rfl
  · have reference : numberedAt? (text.drop (position + 1)) = some ['\\', letter] := by
      rw [drop_eq_cons second]
      exact if_pos range
    rw [drop_eq_cons found, Backtracking.firstNumbered?_found reference]

/-- A reference whose target starts as a number is found as a slice of the text. -/
theorem firstNumbered?_target
    {letter opening first : Char}
    (found : text[position]? = some '\\')
    (second : text[position + 1]? = some letter)
    (third : text[position + 2]? = some opening)
    (fourth : text[position + 3]? = some first)
    (refers : letter = 'k' ∨ letter = 'g')
    (opens : opening = '<' ∨ opening = '{')
    (numbers : startsNumber first) :
    ∃ reference,
      slice? text (position + 3) text.length = some (text.drop (position + 3)) ∧
      slice? text position (referenceEnd text (text.drop (position + 3)) (closingOf opening)
        position) = some reference ∧
      firstNumbered? (text.drop position) = some reference := by
  have inside : position + 3 ≤ text.length := Nat.le_of_lt (lt_length_of_getElem? fourth)
  obtain ⟨later, left⟩ := referenceEnd_drop (closingOf opening) inside
  refine ⟨['\\', letter, opening] ++ (cutPast (closingOf opening) (text.drop (position + 3))).passed,
    ?_, ?_, ?_⟩
  · refine slice?_eq_some inside (Nat.le_refl _) ?_
    rw [List.drop_length, List.append_nil]
  · refine slice?_eq_some later (Nat.min_le_right _ _) ?_
    rw [left, List.append_assoc, cutPast_append, drop_eq_cons found, drop_eq_cons second,
      drop_eq_cons third]
    rfl
  · have none : ¬ ('1' ≤ letter ∧ letter ≤ '9') := by
      obtain rfl | rfl := refers <;> decide
    have reference : numberedAt? (text.drop (position + 1)) =
        some (['\\', letter, opening] ++
          (cutPast (closingOf opening) (text.drop (position + 3))).passed) := by
      rw [drop_eq_cons second, drop_eq_cons third, drop_eq_cons fourth, numberedAt?, if_neg none,
        if_pos refers]
      exact if_pos ⟨opens, numbers⟩
    rw [drop_eq_cons found, Backtracking.firstNumbered?_found reference]

/-- An escape that starts no reference by number is passed over. -/
theorem firstNumbered?_escaped
    (found : text[position]? = some '\\')
    (noDigit : ¬ text[position + 1]?.any (fun letter => '1' ≤ letter ∧ letter ≤ '9'))
    (noTarget : ¬ ((text[position + 1]? = some 'k' ∨ text[position + 1]? = some 'g') ∧
      (text[position + 2]? = some '<' ∨ text[position + 2]? = some '{') ∧
      text[position + 3]?.any startsNumber)) :
    firstNumbered? (text.drop (position + 2)) = firstNumbered? (text.drop position) := by
  have none : numberedAt? (text.drop (position + 1)) = none := by
    unfold numberedAt?
    split
    · rfl
    next letter rest same =>
    obtain ⟨second, behind⟩ := of_drop_eq_cons same
    have plain : ¬ ('1' ≤ letter ∧ letter ≤ '9') := by simpa [second] using noDigit
    rw [if_neg plain]
    split
    · next refers =>
        split
        · next opening first target =>
            obtain ⟨third, behind⟩ := of_drop_eq_cons behind
            obtain ⟨fourth, -⟩ := of_drop_eq_cons behind
            refine if_neg fun reference => noTarget ?_
            simpa [second, third, fourth] using ⟨refers, reference⟩
        · rfl
    · rfl
  rw [drop_eq_cons found, firstNumbered?.eq_def ('\\' :: _), ← List.tail_drop]
  simp only [none]
  cases text.drop (position + 1) with
  | nil => simp [firstNumbered?]
  | cons letter rest => rfl

/-- A step of the search finds the reference that is found in a text cut where the step begins, or
goes on at a later position and leaves no reference behind. -/
theorem numberStep_firstNumbered?
    {char : Char}
    (found : text[position]? = some char) :
    (∃ reference, numberStep text position char = .stop (some (some reference)) ∧
      firstNumbered? (text.drop position) = some reference) ∨
    ∃ next, numberStep text position char = .onward next ∧ position < next ∧
      firstNumbered? (text.drop next) = firstNumbered? (text.drop position) := by
  have here := drop_eq_cons found
  have ahead := isAhead_classEnd (lt_length_of_getElem? found)
  unfold numberStep
  split
  · refine .inr ⟨_, rfl, ahead.lt, ?_⟩
    rw [here, ahead.drop_eq, firstNumbered?]
  · split
    · next digit =>
        obtain ⟨letter, second, range⟩ := (Option.any_eq_true _ _).mp digit
        obtain ⟨part, same⟩ := firstNumbered?_digit found second (of_decide_eq_true range)
        refine .inl ⟨['\\', letter], ?_, same⟩
        rw [part, Step.withSlice_some]
    next noDigit =>
    split
    · next target =>
        obtain ⟨refers, opens, numbers⟩ := target
        obtain ⟨first, fourth, numbers⟩ := (Option.any_eq_true _ _).mp numbers
        obtain ⟨letter, second, refers⟩ :
            ∃ letter, text[position + 1]? = some letter ∧ (letter = 'k' ∨ letter = 'g') := by
          obtain second | second := refers <;> exact ⟨_, second, by decide⟩
        obtain ⟨opening, third, opens⟩ :
            ∃ opening, text[position + 2]? = some opening ∧ (opening = '<' ∨ opening = '{') := by
          obtain third | third := opens <;> exact ⟨_, third, by decide⟩
        obtain ⟨reference, rest, part, same⟩ :=
          firstNumbered?_target found second third fourth refers opens numbers
        have closes : closingAt text position = closingOf opening := by
          simp [closingAt, third, closingOf]
        refine .inl ⟨reference, ?_, same⟩
        rw [rest, Step.withSlice_some, closes, part, Step.withSlice_some]
    · next noTarget =>
        exact .inr ⟨_, rfl, by omega, firstNumbered?_escaped found noDigit noTarget⟩
  · next opens escapes =>
      refine .inr ⟨_, rfl, Nat.lt_succ_self _, ?_⟩
      rw [here, firstNumbered?.eq_def (char :: _)]
      split <;> simp_all

/-- The walk that looks for the first reference by number. -/
def numberWalk : Walk Nat (Option (Option (List Char))) where
  position := id
  step := numberStep
  finish _ := some none
  advances {text position char next} found goes := by
    obtain ⟨reference, stops, -⟩ | ⟨later, eq, ahead, -⟩ := numberStep_firstNumbered? found
    · cases stops.symm.trans goes
    · cases eq.symm.trans goes
      exact ahead

/-- The walk finds the reference that is found in the text. -/
theorem numberWalk_run
    (text : List Char)
    (position : Nat) :
    numberWalk.run text position = some (firstNumbered? (text.drop position)) := by
  refine numberWalk.run_eq text (fun position => some (firstNumbered? (text.drop position)))
    (fun position beyond => ?_) (fun position char found => ?_) position
  · have nothing : text.drop position = [] := drop_eq_nil beyond
    simp only [nothing, firstNumbered?]
    rfl
  · obtain ⟨reference, stops, same⟩ | ⟨next, goes, -, same⟩ := numberStep_firstNumbered? found
    · exact .inl (stops.trans (congrArg (Step.stop ∘ some) same.symm))
    · exact .inr ⟨next, goes, congrArg some same⟩

/-! ## Comments -/

/-- How far the search for a comment has come: the position, and what is known there. -/
structure CommentPlace where
  position : Nat
  scan : VerboseScan

/-- The start of a text. -/
def CommentPlace.start : CommentPlace := ⟨0, .start⟩

/-- Where the search goes on behind the `(?` at a place. -/
def headerAt (text : List Char) (place : CommentPlace) : CommentPlace :=
  let flags := flagWalk.run text ⟨place.position + 2, true, none⟩
  if text[flags.position]? = some ')' then
    ⟨flags.position + 1, { place.scan with verbose := flags.verbose.getD place.scan.verbose }⟩
  else if text[flags.position]? = some ':' then
    ⟨flags.position + 1, place.scan.enter (flags.verbose.getD place.scan.verbose)⟩
  else ⟨place.position + 2, place.scan.enter place.scan.verbose⟩

/-- Look for the start or the end of a comment at a place. -/
def commentStep (text : List Char) (place : CommentPlace) (char : Char) : CommentPlace :=
  if place.scan.inComment then
    ⟨place.position + 1, { place.scan with inComment := char ≠ '\n' }⟩
  else
    match char with
    | '\\' => { place with position := place.position + 2 }
    | '[' => { place with position := classEnd text place.position }
    | '#' =>
      if place.scan.verbose then ⟨place.position + 1, { place.scan with inComment := true }⟩
      else { place with position := place.position + 1 }
    | '(' =>
      if text[place.position + 1]? = some '?' then headerAt text place
      else ⟨place.position + 1, place.scan.enter place.scan.verbose⟩
    | ')' => ⟨place.position + 1, place.scan.leave⟩
    | _ => { place with position := place.position + 1 }

theorem headerAt_openQueryGroup
    (text : List Char)
    (place : CommentPlace) :
    openQueryGroup place.scan (text.drop (place.position + 2)) =
        ((headerAt text place).scan, text.drop (headerAt text place).position) ∧
      place.position < (headerAt text place).position := by
  obtain ⟨read, later⟩ := endsHeader_flags text ⟨place.position + 2, true, none⟩
  unfold headerAt openQueryGroup
  generalize flagWalk.run text ⟨place.position + 2, true, none⟩ = flags at read later ⊢
  dsimp only at read later ⊢
  rw [read]
  by_cases closes : text[flags.position]? = some ')'
  · simp only [if_pos closes, drop_eq_cons closes, true_and]
    omega
  by_cases colon : text[flags.position]? = some ':'
  · simp only [if_neg closes, if_pos colon, drop_eq_cons colon, true_and]
    omega
  · rw [if_neg closes, if_neg colon]
    refine ⟨?_, by simp⟩
    dsimp only
    split
    · next same => exact absurd same (drop_ne_cons closes _)
    · next same => exact absurd same (drop_ne_cons colon _)
    · rfl

/-- A step of the search goes on at a later position, and changes nothing about whether the text
ends in a comment. -/
theorem commentStep_endsInComment
    {place : CommentPlace}
    {char : Char}
    (found : text[place.position]? = some char) :
    place.position < (commentStep text place char).position ∧
      endsInComment (commentStep text place char).scan
          (text.drop (commentStep text place char).position) =
        endsInComment place.scan (text.drop place.position) := by
  have here := drop_eq_cons found
  have ahead := isAhead_classEnd (lt_length_of_getElem? found)
  unfold commentStep
  split
  · next inside =>
      refine ⟨Nat.lt_succ_self _, ?_⟩
      rw [here, endsInComment.eq_def _ (char :: _)]
      simp [inside]
  next outside =>
  have outside : place.scan.inComment = false := by simpa using outside
  split
  · refine ⟨by simp, ?_⟩
    rw [here, ← List.tail_drop]
    cases text.drop (place.position + 1) with
    | nil => simp [endsInComment, outside]
    | cons letter rest => exact (endsInComment_escape outside letter rest).symm
  · refine ⟨ahead.lt, ?_⟩
    rw [here, ahead.drop_eq, endsInComment_bracket outside]
  · rw [here, endsInComment.eq_def _ ('#' :: _)]
    split
    · next verbose => exact ⟨Nat.lt_succ_self _, by simp [verbose]⟩
    · next terse => exact ⟨Nat.lt_succ_self _, by simp [terse]⟩
  · split
    · next query =>
        obtain ⟨opens, later⟩ := headerAt_openQueryGroup text place
        refine ⟨later, ?_⟩
        rw [here, drop_eq_cons query, endsInComment_query outside, opens]
    · next bare =>
        refine ⟨Nat.lt_succ_self _, ?_⟩
        rw [← List.head?_drop] at bare
        rw [here, endsInComment_bare outside bare]
  · refine ⟨Nat.lt_succ_self _, ?_⟩
    rw [here, endsInComment_leave outside]
  · refine ⟨Nat.lt_succ_self _, ?_⟩
    rw [here, endsInComment.eq_def _ (char :: _)]
    simp_all

/-- The walk that looks whether a text ends in a comment. -/
def commentWalk : Walk CommentPlace Bool where
  position := CommentPlace.position
  step text place char := .onward (commentStep text place char)
  finish place := place.scan.inComment
  advances {text place char next} found goes := by
    cases goes
    exact (commentStep_endsInComment found).1

/-- The walk tells whether the text ends in a comment. -/
theorem commentWalk_run
    (text : List Char)
    (place : CommentPlace) :
    commentWalk.run text place = endsInComment place.scan (text.drop place.position) := by
  refine commentWalk.run_eq text (fun place => endsInComment place.scan (text.drop place.position))
    (fun place beyond => ?_) (fun place char found => .inr ?_) place
  · have nothing : text.drop place.position = [] := drop_eq_nil beyond
    simp only [nothing, endsInComment]
    rfl
  · exact ⟨_, rfl, (commentStep_endsInComment found).2⟩

/-! ## Safety -/

/-- Scanning by position is safe on every text, be it a well-formed pattern or not.  A class or a
group that opens at some position ends behind it and not beyond the end of the text.  Each step of
relaxing, and of the searches for names and for comments, goes on from a later position, and so
finds the slices that it asks for; a step of the search for references does too, or stops with a
reference that it has found.  Relaxing never leaves the text.  All of them come to what the scans
come to that cut the text. -/
theorem scans_advance_within
    (text : List Char) :
    (∀ start < text.length,
      start < classEnd text start ∧ classEnd text start ≤ text.length ∧
      text.drop (classEnd text start) = (cutClass (text.drop (start + 1))).left ∧
      start < groupEnd text start ∧ groupEnd text start ≤ text.length ∧
      text.drop (groupEnd text start) = afterGroupBody 0 (text.drop (start + 1))) ∧
    (relaxWalk.AlwaysAdvances text ∧
      (∀ place, relaxWalk.Reaches text .start place → place.position ≤ text.length) ∧
      relaxWalk.run text .start = some (relaxChars text)) ∧
    (nameWalk.AlwaysAdvances text ∧ nameWalk.run text .start = some (groupNamesOf text)) ∧
    ((∀ position char, text[position]? = some char →
        (∃ reference, numberStep text position char = .stop (some (some reference))) ∨
        ∃ next, numberStep text position char = .onward next ∧ position < next) ∧
      numberWalk.run text 0 = some (firstNumbered? text)) ∧
    (commentWalk.AlwaysAdvances text ∧
      commentWalk.run text .start = endsInsideComment text) := by
  refine ⟨fun start inside => ?_, ⟨?_, ?_, relaxWalk_run text _⟩, ⟨?_, nameWalk_run text _⟩,
    ⟨?_, numberWalk_run text 0⟩, ⟨?_, commentWalk_run text _⟩⟩
  · obtain ⟨classAhead, classWithin, classLeft⟩ := isAhead_classEnd inside
    obtain ⟨groupAhead, groupWithin, groupLeft⟩ := isAhead_groupEnd inside
    exact ⟨classAhead, classWithin, classLeft, groupAhead, groupWithin, groupLeft⟩
  · intro place char found
    obtain ⟨later, goes, ahead⟩ := relaxStep_relaxToken found
    exact ⟨_, goes, ahead.lt⟩
  · intro place reaches
    refine reaches.position_le (Nat.zero_le _) fun found goes => ?_
    obtain ⟨later, eq, ahead⟩ := relaxStep_relaxToken found
    cases eq.symm.trans goes
    exact ahead.le_length
  · intro place char found
    obtain ⟨next, goes, ahead, -⟩ := nameStep_groupNamesOf found
    exact ⟨next, goes, ahead⟩
  · intro position char found
    obtain ⟨reference, stops, -⟩ | ⟨next, goes, ahead, -⟩ := numberStep_firstNumbered? found
    · exact .inl ⟨reference, stops⟩
    · exact .inr ⟨next, goes, ahead⟩
  · intro place char found
    exact ⟨_, rfl, (commentStep_endsInComment found).1⟩

/-- A look-ahead and a class in it that are never closed, and a backslash at the end. -/
def unclosedLook : List Char := "(?P<n>a++)(?=[b\\".toList

theorem scans_advance_within_unclosedLook :
    (13 < classEnd unclosedLook 13 ∧ classEnd unclosedLook 13 = unclosedLook.length) ∧
    (10 < groupEnd unclosedLook 10 ∧ groupEnd unclosedLook 10 = unclosedLook.length) ∧
    (∃ next, relaxWalk.step unclosedLook .start '(' = .onward next ∧ 0 < next.position) ∧
    relaxWalk.run unclosedLook .start = some "(?:a+)(?:)".toList ∧
    nameWalk.run unclosedLook .start = some [['n']] ∧
    (∃ next, numberStep unclosedLook 15 '\\' = .onward next ∧ 15 < next) ∧
    numberWalk.run unclosedLook 0 = some none ∧
    commentWalk.run unclosedLook .start = false := by
  obtain ⟨ends, ⟨relaxes, -, relaxed⟩, ⟨-, named⟩, ⟨numbers, numbered⟩, -, commented⟩ :=
    scans_advance_within unclosedLook
  obtain ⟨classAhead, -⟩ := ends 13 (by decide)
  obtain ⟨-, -, -, groupAhead, -⟩ := ends 10 (by decide)
  have escaped := (numbers 15 '\\' rfl).resolve_left fun ⟨reference, stops⟩ => by cases stops
  exact ⟨⟨classAhead, by decide +kernel⟩, ⟨groupAhead, by decide +kernel⟩, relaxes .start '(' rfl,
    relaxed.trans (by decide +kernel), named.trans (by decide +kernel), escaped,
    numbered.trans (by decide +kernel), commented.trans (by decide +kernel)⟩

end Pattern
end LineExtraction
