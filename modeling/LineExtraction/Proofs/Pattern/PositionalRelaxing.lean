import LineExtraction.Pattern.Relax
import LineExtraction.Proofs.Pattern.Positions

/-!
# Relaxing by position

A fragment can be relaxed without being cut: a position moves through it, and classes and escapes
with braces are copied as slices.  Each step writes what the token at the position is relaxed to
and goes on behind that token, so relaxing never leaves the text and asks for no slice that does
not exist.
-/

namespace LineExtraction
namespace Pattern

variable {text : List Char} {position : Nat}

/-! ## Tokens by position -/

/-- How far relaxing has come: the position, the text written so far, and what is remembered of
the characters in front. -/
structure RelaxPlace where
  position : Nat
  written : List Char
  scan : RelaxScan

namespace RelaxPlace

/-- The start of a text. -/
def start : RelaxPlace := ⟨0, [], ⟨false, false⟩⟩

/-- Go on from a later position with more text written, behind something that is no quantifier. -/
def write (place : RelaxPlace) (later : Nat) (more : List Char) : RelaxPlace :=
  ⟨later, place.written ++ more, { place.scan with afterQuantifier := false }⟩

/-- Copy the character that stands here. -/
def copy (place : RelaxPlace) (char : Char) (scan : RelaxScan) : RelaxPlace :=
  ⟨place.position + 1, place.written ++ [char], scan⟩

end RelaxPlace

/-- The new text of the escape at a position, and the position behind it.  An escape with braces is
a slice of the text. -/
def escapeAt (text : List Char) (position : Nat) : Option (List Char) × Nat :=
  match text[position + 1]? with
  | none => (some ['\\'], position + 1)
  | some letter =>
    if '1' ≤ letter ∧ letter ≤ '9' then (some anyText, positionBehindDigits text (position + 2))
    else if letter = 'k' ∧ text[position + 2]? = some '<' then
      (some anyText, positionPast text '>' (position + 3))
    else if takesBraces letter ∧ text[position + 2]? = some '{' then
      (slice? text position (positionPast text '}' (position + 3)),
        positionPast text '}' (position + 3))
    else (some ['\\', letter], position + 2)

/-- The new text of the group that opens at a position, and the position where relaxing goes on. -/
def groupAt (text : List Char) (position : Nat) : List Char × Nat :=
  let second := text[position + 2]?
  let third := text[position + 3]?
  if text[position + 1]? ≠ some '?' then (plainGroup, position + 1)
  else if second = some ':' ∨ second = some '>' then (plainGroup, position + 3)
  else if second = some '=' ∨ second = some '!' ∨
      second = some '<' ∧ (third = some '=' ∨ third = some '!') then
    (emptyGroup, groupEnd text position)
  else if second = some '<' then (plainGroup, positionPast text '>' (position + 3))
  else if second = some 'P' ∧ third = some '<' then
    (plainGroup, positionPast text '>' (position + 4))
  else if second = some 'P' ∧ third = some '=' then (anyText, groupEnd text position)
  else ("(?".toList, position + 2)

/-- Relax the token that starts at a place. -/
def relaxStep (text : List Char) (place : RelaxPlace) (char : Char) :
    Step RelaxPlace (Option (List Char)) :=
  match char with
  | '\\' =>
    .withSlice (escapeAt text place.position).1 fun part =>
      .onward (place.write (escapeAt text place.position).2 part)
  | '[' =>
    .withSlice (slice? text place.position (classEnd text place.position)) fun part =>
      .onward (place.write (classEnd text place.position) part)
  | '(' => .onward (place.write (groupAt text place.position).2 (groupAt text place.position).1)
  | '{' => .onward (place.copy '{' ⟨false, text[place.position + 1]?.any Char.isDigit⟩)
  | '}' => .onward (place.copy '}' ⟨place.scan.inCounted, false⟩)
  | '+' =>
    if place.scan.afterQuantifier then .onward (place.write (place.position + 1) [])
    else .onward (place.copy '+' { place.scan with afterQuantifier := true })
  | '*' => .onward (place.copy '*' { place.scan with afterQuantifier := true })
  | '?' => .onward (place.copy '?' { place.scan with afterQuantifier := true })
  | char => .onward (place.copy char { place.scan with afterQuantifier := false })

/-! ## Escapes -/

theorem relaxEscape_copied
    {letter : Char}
    {rest : List Char}
    (noDigit : ¬ ('1' ≤ letter ∧ letter ≤ '9'))
    (unnamed : ¬ (letter = 'k' ∧ rest.head? = some '<'))
    (unbraced : ¬ (takesBraces letter ∧ rest.head? = some '{')) :
    relaxEscape (letter :: rest) = (['\\', letter], rest) := by
  cases rest with
  | nil => simp [relaxEscape, noDigit]
  | cons opening body =>
      have named : ¬ (letter = 'k' ∧ opening = '<') := by simpa using unnamed
      have braced : ¬ (takesBraces letter ∧ opening = '{') := by simpa using unbraced
      simp only [relaxEscape, if_neg noDigit, if_neg named, if_neg braced]

/-- An escape with braces stands in the text as it is copied. -/
theorem slice?_braces
    {letter : Char}
    (found : text[position]? = some '\\')
    (second : text[position + 1]? = some letter)
    (opens : text[position + 2]? = some '{') :
    slice? text position (positionPast text '}' (position + 3)) =
      some (['\\', letter, '{'] ++ (cutPast '}' (text.drop (position + 3))).passed) := by
  have ahead := (endsRun_past text '}' (position + 3)).isAhead opens (Nat.le_add_right position 2)
  refine slice?_eq_some (Nat.le_of_lt ahead.lt) ahead.le_length ?_
  rw [ahead.drop_eq, List.append_assoc, cutPast_append, drop_eq_cons found, drop_eq_cons second,
    drop_eq_cons opens]
  rfl

/-- The escape at a position is relaxed as it is in a text that is cut there. -/
theorem escapeAt_relaxEscape
    (found : text[position]? = some '\\') :
    (escapeAt text position).1 = some (relaxEscape (text.drop (position + 1))).1 ∧
      IsAhead text position (escapeAt text position).2
        (relaxEscape (text.drop (position + 1))).2 := by
  cases second : text[position + 1]? with
  | none =>
      simp only [escapeAt, second, drop_eq_nil second]
      exact ⟨rfl, Nat.lt_succ_self _, lt_length_of_getElem? found, drop_eq_nil second⟩
  | some letter =>
      simp only [escapeAt, second, drop_eq_cons second]
      split
      · next digit =>
          have relaxes : relaxEscape (letter :: text.drop (position + 2)) =
              (anyText, (text.drop (position + 2)).dropWhile Char.isDigit) := by
            simp [relaxEscape, digit]
          rw [relaxes]
          exact ⟨rfl, (endsRun_digits text (position + 2)).isAhead second (by omega)⟩
      next noDigit =>
      split
      · next named =>
          obtain ⟨rfl, opens⟩ := named
          rw [drop_eq_cons opens]
          exact ⟨rfl, (endsRun_past text '>' (position + 3)).isAhead opens (by omega)⟩
      next unnamed =>
      split
      · next braced =>
          obtain ⟨takes, opens⟩ := braced
          have relaxes : relaxEscape (letter :: '{' :: text.drop (position + 3)) =
              (['\\', letter, '{'] ++ (cutPast '}' (text.drop (position + 3))).passed,
                (cutPast '}' (text.drop (position + 3))).left) := by
            simp [relaxEscape, noDigit, takes]
          rw [drop_eq_cons opens, relaxes]
          exact ⟨slice?_braces found second opens,
            (endsRun_past text '}' (position + 3)).isAhead opens (by omega)⟩
      · next unbraced =>
          rw [← List.head?_drop] at unnamed unbraced
          rw [relaxEscape_copied noDigit unnamed unbraced]
          exact ⟨rfl, isAhead_succ second (by omega)⟩

/-! ## Groups -/

theorem relaxGroup_bare
    {rest : List Char}
    (bare : rest.head? ≠ some '?') :
    relaxGroup rest = (plainGroup, rest) := by
  unfold relaxGroup
  split <;> simp_all

theorem relaxGroup_named
    {rest : List Char}
    (ahead : ¬ (rest.head? = some '=' ∨ rest.head? = some '!')) :
    relaxGroup ('?' :: '<' :: rest) = (plainGroup, (cutPast '>' rest).left) := by
  refine relaxGroup.eq_7 rest ?_ ?_
  · rintro more rfl
    exact ahead (.inl rfl)
  · rintro more rfl
    exact ahead (.inr rfl)

/-- The header of a group of none of the kinds that relaxing knows is copied. -/
theorem relaxGroup_copied
    {rest : List Char}
    (signs : rest.head? ≠ some ':' ∧ rest.head? ≠ some '>' ∧ rest.head? ≠ some '=' ∧
      rest.head? ≠ some '!' ∧ rest.head? ≠ some '<')
    (letters : rest.head? = some 'P' →
      rest.tail.head? ≠ some '<' ∧ rest.tail.head? ≠ some '=') :
    relaxGroup ('?' :: rest) = ("(?".toList, rest) := by
  unfold relaxGroup
  split <;> simp_all

/-- The group that opens at a position is relaxed as it is in a text that is cut there. -/
theorem groupAt_relaxGroup
    (found : text[position]? = some '(') :
    (groupAt text position).1 = (relaxGroup (text.drop (position + 1))).1 ∧
      IsAhead text position (groupAt text position).2
        (relaxGroup (text.drop (position + 1))).2 := by
  -- Each character that is known takes one more off the text behind the parenthesis, also in what
  -- is known about the end of the group.
  have skipped := isAhead_groupEnd (lt_length_of_getElem? found)
  simp only [groupAt]
  split
  · next bare =>
      rw [← List.head?_drop] at bare
      rw [relaxGroup_bare bare]
      exact ⟨rfl, isAhead_succ found (Nat.le_refl _)⟩
  next query =>
  rw [ne_eq, Decidable.not_not] at query
  rw [drop_eq_cons query] at skipped ⊢
  split
  · next plain =>
      obtain plain | plain := plain <;> rw [drop_eq_cons plain] <;>
        exact ⟨rfl, isAhead_succ plain (by omega)⟩
  next plain =>
  split
  · next look =>
      obtain ahead | ahead | ⟨behind, ahead | ahead⟩ := look
      · rw [drop_eq_cons ahead] at skipped ⊢
        exact ⟨rfl, skipped⟩
      · rw [drop_eq_cons ahead] at skipped ⊢
        exact ⟨rfl, skipped⟩
      · rw [drop_eq_cons behind, drop_eq_cons ahead] at skipped ⊢
        exact ⟨rfl, skipped⟩
      · rw [drop_eq_cons behind, drop_eq_cons ahead] at skipped ⊢
        exact ⟨rfl, skipped⟩
  next look =>
  split
  · next opens =>
      have named : ¬ (text[position + 3]? = some '=' ∨ text[position + 3]? = some '!') :=
        fun sign => look (.inr (.inr ⟨opens, sign⟩))
      rw [← List.head?_drop] at named
      rw [drop_eq_cons opens, relaxGroup_named named]
      exact ⟨rfl, (endsRun_past text '>' (position + 3)).isAhead opens (by omega)⟩
  next opens =>
  split
  · next named =>
      obtain ⟨long, opens⟩ := named
      rw [drop_eq_cons long, drop_eq_cons opens]
      exact ⟨rfl, (endsRun_past text '>' (position + 4)).isAhead opens (by omega)⟩
  next named =>
  split
  · next refers =>
      rw [drop_eq_cons refers.1, drop_eq_cons refers.2] at skipped ⊢
      exact ⟨rfl, skipped⟩
  · next refers =>
      have copied : relaxGroup ('?' :: text.drop (position + 2)) =
          ("(?".toList, text.drop (position + 2)) := by
        apply relaxGroup_copied <;> simp only [List.tail_drop, List.head?_drop] <;> simp_all
      rw [copied]
      exact ⟨rfl, isAhead_succ query (by omega)⟩

/-! ## Steps -/

/-- A step of relaxing writes what the token that starts here is relaxed to, and goes on behind
that token. -/
theorem relaxStep_relaxToken
    {place : RelaxPlace}
    {char : Char}
    (found : text[place.position]? = some char) :
    ∃ later,
      relaxStep text place char = .onward ⟨later,
        place.written ++ (relaxToken place.scan char (text.drop (place.position + 1))).text,
        (relaxToken place.scan char (text.drop (place.position + 1))).scan⟩ ∧
      IsAhead text place.position later
        (relaxToken place.scan char (text.drop (place.position + 1))).rest := by
  have inside := lt_length_of_getElem? found
  have one := isAhead_succ found (Nat.le_refl _)
  unfold relaxStep
  split
  · obtain ⟨part, ahead⟩ := escapeAt_relaxEscape found
    refine ⟨_, ?_, ahead⟩
    rw [part]
    rfl
  · have ahead := isAhead_classEnd inside
    refine ⟨_, ?_, ahead⟩
    have part : slice? text place.position (classEnd text place.position) =
        some ('[' :: (cutClass (text.drop (place.position + 1))).passed) := by
      refine slice?_eq_some (Nat.le_of_lt ahead.lt) ahead.le_length ?_
      rw [ahead.drop_eq, List.cons_append, cutClass_append, drop_eq_cons found]
    rw [part]
    rfl
  · obtain ⟨part, ahead⟩ := groupAt_relaxGroup found
    refine ⟨_, ?_, ahead⟩
    rw [part]
    rfl
  · refine ⟨_, ?_, one⟩
    rw [← List.head?_drop]
    rfl
  · exact ⟨_, rfl, one⟩
  · simp only [relaxToken]
    split
    · exact ⟨_, rfl, one⟩
    · exact ⟨_, rfl, one⟩
  · exact ⟨_, rfl, one⟩
  · exact ⟨_, rfl, one⟩
  · rw [relaxToken.eq_9]
    · exact ⟨_, rfl, one⟩
    all_goals assumption

/-- The walk that relaxes a text. -/
def relaxWalk : Walk RelaxPlace (Option (List Char)) where
  position := RelaxPlace.position
  step := relaxStep
  finish place := some place.written
  advances {text place char next} found goes := by
    obtain ⟨later, eq, ahead⟩ := relaxStep_relaxToken found
    cases eq.symm.trans goes
    exact ahead.lt

/-- The walk writes what relaxing makes of the text. -/
theorem relaxWalk_run
    (text : List Char)
    (place : RelaxPlace) :
    relaxWalk.run text place =
      some (place.written ++ relaxFrom place.scan (text.drop place.position)) := by
  refine relaxWalk.run_eq text
    (fun place => some (place.written ++ relaxFrom place.scan (text.drop place.position)))
    (fun place beyond => ?_) (fun place char found => .inr ?_) place
  · have nothing : text.drop place.position = [] := drop_eq_nil beyond
    simp only [nothing, relaxFrom, List.append_nil]
    rfl
  · obtain ⟨later, goes, ahead⟩ := relaxStep_relaxToken found
    refine ⟨_, goes, congrArg some ?_⟩
    have here : text.drop place.position = char :: text.drop (place.position + 1) :=
      drop_eq_cons found
    rw [ahead.drop_eq, here, relaxFrom, List.append_assoc]

end Pattern
end LineExtraction
