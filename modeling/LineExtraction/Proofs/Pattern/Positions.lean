import LineExtraction.Proofs.Pattern.Scanning

/-!
# Scanning by position

A scan need not cut the text that it reads.  It may leave the text whole, keep a position in it,
look at the characters around that position and ask for slices.  Such a scan is a walk here: a
loop that takes a step as long as its position is one of the text, and each step that goes on
moves the position forward.  A slice exists only where its bounds are in order and lie in the
text, and a walk that asks for another one stops without a result.

Where a class, a group, or a run of characters ends can be told as a position in the whole text.
Behind that position stands what the cuts leave of the text.  The end of a class or of a group
lies behind its opening and never beyond the end of the text, be the span closed or not.
-/

namespace LineExtraction
namespace Pattern

/-! ## Positions and slices -/

section
variable {text : List Char} {position : Nat} {char : Char}

theorem drop_eq_cons
    (found : text[position]? = some char) :
    text.drop position = char :: text.drop (position + 1) := by
  obtain ⟨inside, rfl⟩ := List.getElem?_eq_some_iff.mp found
  exact List.drop_eq_getElem_cons inside

theorem of_drop_eq_cons
    {rest : List Char}
    (same : text.drop position = char :: rest) :
    text[position]? = some char ∧ text.drop (position + 1) = rest := by
  rw [← List.head?_drop, ← List.tail_drop, same]
  exact ⟨rfl, rfl⟩

theorem drop_ne_cons
    (apart : text[position]? ≠ some char)
    (rest : List Char) :
    text.drop position ≠ char :: rest := by
  intro same
  exact apart (of_drop_eq_cons same).1

theorem lt_length_of_getElem?
    (found : text[position]? = some char) :
    position < text.length :=
  (List.getElem?_eq_some_iff.mp found).1

theorem drop_eq_nil
    (beyond : text[position]? = none) :
    text.drop position = [] :=
  List.drop_eq_nil_of_le (List.getElem?_eq_none_iff.mp beyond)

end

/-- A later position of a text, behind which some part of the text is left. -/
structure IsAhead (text : List Char) (position later : Nat) (left : List Char) : Prop where
  lt : position < later
  le_length : later ≤ text.length
  drop_eq : text.drop later = left

theorem isAhead_succ
    {text : List Char}
    {start position : Nat}
    {char : Char}
    (found : text[position]? = some char)
    (behind : start ≤ position) :
    IsAhead text start (position + 1) (text.drop (position + 1)) :=
  ⟨Nat.lt_succ_of_le behind, lt_length_of_getElem? found, rfl⟩

/-- The characters from one position up to another one, if the two are in order and no character
beyond the end of the text is asked for. -/
def slice? (text : List Char) (start stop : Nat) : Option (List Char) :=
  if start ≤ stop ∧ stop ≤ text.length then some (text.extract start stop) else none

/-- A text that is cut in two at a later position has the part in front as a slice. -/
theorem slice?_eq_some
    {text passed : List Char}
    {start stop : Nat}
    (ordered : start ≤ stop)
    (within : stop ≤ text.length)
    (split : passed ++ text.drop stop = text.drop start) :
    slice? text start stop = some passed := by
  have lengths := congrArg List.length split
  simp only [List.length_append, List.length_drop] at lengths
  have width : passed.length = stop - start := by omega
  rw [slice?, if_pos ⟨ordered, within⟩, List.extract_eq_take_drop, ← split, List.take_left' width]

/-! ## Steps -/

/-- How a step of a walk ends: the walk goes on from another state, or stops with a result. -/
inductive Step (State Result : Type) where
  | onward (next : State)
  | stop (result : Result)

namespace Step

variable {State Result : Type}

/-- Go on with a slice.  Where it does not exist, the walk stops without a result. -/
def withSlice
    (part : Option (List Char))
    (goOn : List Char → Step State (Option Result)) :
    Step State (Option Result) :=
  match part with
  | some part => goOn part
  | none => .stop none

@[simp] theorem withSlice_some
    (part : List Char)
    (goOn : List Char → Step State (Option Result)) :
    withSlice (some part) goOn = goOn part := rfl

/-- What a walk comes to from a state has a property, if it has it behind this step. -/
def Leads (motive : State → Result → Prop) (state : State) : Step State Result → Prop
  | .onward next => ∀ result, motive next result → motive state result
  | .stop result => motive state result

@[simp] theorem leads_onward
    (motive : State → Result → Prop)
    (state next : State) :
    (onward next).Leads motive state ↔ ∀ result, motive next result → motive state result :=
  .rfl

@[simp] theorem leads_stop
    (motive : State → Result → Prop)
    (state : State)
    (result : Result) :
    (stop result).Leads motive state ↔ motive state result :=
  .rfl

end Step

/-! ## Walks -/

/-- A loop over a text.  It takes a step as long as its position is that of a character, and a
step behind which it goes on has moved the position forward. -/
structure Walk (State Result : Type) where
  position : State → Nat
  step : List Char → State → Char → Step State Result
  finish : State → Result
  advances : ∀ {text state char next}, text[position state]? = some char →
    step text state char = .onward next → position state < position next

namespace Walk

variable {State Result : Type}

/-- What a walk comes to from a state. -/
def run (walk : Walk State Result) (text : List Char) (state : State) : Result :=
  match _ : text[walk.position state]? with
  | none => walk.finish state
  | some char =>
    match _ : walk.step text state char with
    | .onward next => walk.run text next
    | .stop result => result
termination_by text.length - walk.position state
decreasing_by
  have ahead := walk.advances ‹_› ‹_›
  have inside := lt_length_of_getElem? ‹text[walk.position state]? = some char›
  omega

/-- What holds at the end of the text, where a walk stops, and in front of a step if it holds
behind it, holds of what the walk comes to. -/
theorem run_induction
    (walk : Walk State Result)
    (text : List Char)
    {motive : State → Result → Prop}
    (finishes : ∀ state, text[walk.position state]? = none → motive state (walk.finish state))
    (steps : ∀ state char, text[walk.position state]? = some char →
      (walk.step text state char).Leads motive state)
    (state : State) :
    motive state (walk.run text state) := by
  fun_induction walk.run text state with
  | case1 state found => exact finishes state found
  | case2 state char found next goes inductionHypothesis =>
      have leads := steps state char found
      rw [goes] at leads
      exact leads _ inductionHypothesis
  | case3 state char found result goes =>
      have leads := steps state char found
      rw [goes] at leads
      exact leads

/-- What a walk comes to is known if it is known at the end of the text and no step that goes on
changes it. -/
theorem run_eq
    (walk : Walk State Result)
    (text : List Char)
    (meaning : State → Result)
    (finishes : ∀ state, text[walk.position state]? = none → walk.finish state = meaning state)
    (steps : ∀ state char, text[walk.position state]? = some char →
      walk.step text state char = .stop (meaning state) ∨
        ∃ next, walk.step text state char = .onward next ∧ meaning next = meaning state)
    (state : State) :
    walk.run text state = meaning state := by
  refine walk.run_induction text (motive := fun state result => result = meaning state)
    finishes (fun state char found => ?_) state
  obtain stops | ⟨next, goes, same⟩ := steps state char found
  · rw [stops, Step.leads_stop]
  · rw [goes, Step.leads_onward]
    rintro result rfl
    exact same

/-- The states that a walk passes through from a first one on. -/
inductive Reaches (walk : Walk State Result) (text : List Char) (start : State) : State → Prop
  | start : Reaches walk text start start
  | step {state next : State} {char : Char}
      (reached : Reaches walk text start state)
      (found : text[walk.position state]? = some char)
      (goes : walk.step text state char = .onward next) :
      Reaches walk text start next

/-- A walk stays in the text if no step leaves it. -/
theorem Reaches.position_le
    {walk : Walk State Result}
    {text : List Char}
    {start state : State}
    (begins : walk.position start ≤ text.length)
    (stays : ∀ {state char next}, text[walk.position state]? = some char →
      walk.step text state char = .onward next → walk.position next ≤ text.length)
    (reaches : walk.Reaches text start state) :
    walk.position state ≤ text.length := by
  induction reaches with
  | start => exact begins
  | step reached found goes inductionHypothesis => exact stays found goes

/-- Each step of a walk goes on, from a later position.  So it finds all slices that it asks
for. -/
def AlwaysAdvances (walk : Walk State Result) (text : List Char) : Prop :=
  ∀ state char, text[walk.position state]? = some char →
    ∃ next, walk.step text state char = .onward next ∧ walk.position state < walk.position next

end Walk

variable {text : List Char} {start position : Nat}

/-! ## Nested spans -/

/-- A place in nested spans: a position, and how many spans are to be closed there before the
outermost one. -/
structure Nesting where
  position : Nat
  depth : Nat

namespace Nesting

/-- Go on behind some characters. -/
def skip (place : Nesting) (count : Nat) : Step Nesting Nat :=
  .onward { place with position := place.position + count }

/-- Go on in a span that opens here. -/
def enter (place : Nesting) : Step Nesting Nat :=
  .onward ⟨place.position + 1, place.depth + 1⟩

/-- Go on behind the innermost span.  The walk ends behind the outermost one. -/
def leave (place : Nesting) : Step Nesting Nat :=
  match place.depth with
  | 0 => .stop (place.position + 1)
  | outer + 1 => .onward ⟨place.position + 1, outer⟩

theorem position_lt_of_leave
    {place next : Nesting}
    (goes : place.leave = .onward next) :
    place.position < next.position := by
  unfold leave at goes
  split at goes <;> cases goes
  exact Nat.lt_succ_self _

end Nesting

/-- A position is the end of the span around a place: behind it stands what is left of the text
there, and it is not in front of the place. -/
structure EndsSpan
    (text : List Char)
    (left : Nat → List Char → List Char)
    (place : Nesting)
    (stop : Nat) : Prop where
  drop_eq : text.drop stop = left place.depth (text.drop place.position)
  position_le : place.position ≤ stop

namespace EndsSpan

variable {left : Nat → List Char → List Char} {place next : Nesting} {stop : Nat}

theorem of_later
    (same : left place.depth (text.drop place.position) =
      left next.depth (text.drop next.position))
    (later : place.position ≤ next.position)
    (stop : Nat)
    (ends : EndsSpan text left next stop) :
    EndsSpan text left place stop :=
  ⟨ends.drop_eq.trans same.symm, Nat.le_trans later ends.position_le⟩

theorem of_beyond
    (nothing : left place.depth [] = [])
    (beyond : text[place.position]? = none) :
    EndsSpan text left place place.position := by
  refine ⟨?_, Nat.le_refl _⟩
  rw [drop_eq_nil beyond, nothing]

/-- Behind its closing character the innermost span has ended. -/
theorem leads_leave
    (outermost : left 0 (text.drop place.position) = text.drop (place.position + 1))
    (inner : ∀ outer, left (outer + 1) (text.drop place.position) =
      left outer (text.drop (place.position + 1))) :
    place.leave.Leads (EndsSpan text left) place := by
  obtain ⟨position, depth⟩ := place
  cases depth with
  | zero => exact ⟨outermost.symm, Nat.le_succ _⟩
  | succ outer =>
      intro stop ends
      exact of_later (inner outer) (Nat.le_succ _) stop ends

/-- A walk may end beyond the end of the text.  Moved back there, the end of a span is still
behind all that it was behind. -/
theorem isAhead_min
    (ends : EndsSpan text left place stop)
    (behind : start < place.position)
    (inside : start < text.length) :
    IsAhead text start (min stop text.length) (left place.depth (text.drop place.position)) := by
  refine ⟨Nat.lt_min.mpr ⟨Nat.lt_of_lt_of_le behind ends.position_le, inside⟩,
    Nat.min_le_right _ _, ?_⟩
  rw [← ends.drop_eq]
  obtain near | far := Nat.le_total stop text.length
  · rw [Nat.min_eq_left near]
  · rw [Nat.min_eq_right far, List.drop_length, List.drop_eq_nil_of_le far]

end EndsSpan

/-! ### Classes -/

/-- A step through the body of a class. -/
def classStep (place : Nesting) (char : Char) : Step Nesting Nat :=
  match char with
  | '\\' => place.skip 2
  | '[' => place.enter
  | ']' => place.leave
  | _ => place.skip 1

/-- The walk to the end of a class.  A backslash at the end of the text takes it a position too
far. -/
def classWalk : Walk Nesting Nat where
  position := Nesting.position
  step _ := classStep
  finish := Nesting.position
  advances {_ place char next} _ goes := by
    unfold classStep at goes
    split at goes
    case h_3 => exact Nesting.position_lt_of_leave goes
    all_goals cases goes; simp

/-- The position behind what may stand in front of the members of a class: a caret, and a closing
bracket that is a member itself. -/
def classBodyStart (text : List Char) (start : Nat) : Nat :=
  let position := if text[start + 1]? = some '^' then start + 2 else start + 1
  if text[position]? = some ']' then position + 1 else position

/-- The position behind the bracket that closes the class that opens at `start`. -/
def classEnd (text : List Char) (start : Nat) : Nat :=
  min (classWalk.run text ⟨classBodyStart text start, 0⟩) text.length

theorem left_cutClassBody_escape
    (depth : Nat)
    (rest : List Char) :
    (cutClassBody depth ('\\' :: rest)).left = (cutClassBody depth rest.tail).left := by
  cases rest <;> simp [cutClassBody]

theorem endsSpan_class
    (text : List Char)
    (place : Nesting) :
    EndsSpan text (fun depth rest => (cutClassBody depth rest).left) place
      (classWalk.run text place) := by
  -- What is left does not change from place to place, so the end of a later place is that of all
  -- places in front of it.
  refine classWalk.run_induction text (fun place beyond => ?_) (fun place char found => ?_) place
  · exact .of_beyond (by simp [cutClassBody]) beyond
  · have here := drop_eq_cons found
    simp only [classWalk, classStep] at here ⊢
    split
    · refine EndsSpan.of_later ?_ (Nat.le_add_right _ _)
      rw [here, left_cutClassBody_escape, List.tail_drop]
    · refine EndsSpan.of_later ?_ (Nat.le_succ _)
      rw [here]
      simp [cutClassBody]
    · apply EndsSpan.leads_leave <;> simp [here, cutClassBody]
    · next escapes opens closes =>
        have plain : char ∉ insideSpecial := by simp_all [insideSpecial]
        refine EndsSpan.of_later ?_ (Nat.le_succ _)
        rw [here, cutClassBody_cons _ plain, Cut.extend_left]

theorem left_cutClass_drop
    (text : List Char)
    (start : Nat) :
    (cutClass (text.drop (start + 1))).left =
      (cutClassBody 0 (text.drop (classBodyStart text start))).left := by
  unfold classBodyStart
  by_cases caret : text[start + 1]? = some '^'
  · simp only [if_pos caret, drop_eq_cons caret]
    split
    · next bracket => simp [drop_eq_cons bracket, cutClass]
    · next bracket => simp [cutClass.eq_2 _ (drop_ne_cons bracket)]
  · simp only [if_neg caret]
    split
    · next bracket => simp [drop_eq_cons bracket, cutClass]
    · next bracket =>
        rw [cutClass.eq_4 _ (fun _ => drop_ne_cons caret _) (drop_ne_cons caret)
          (drop_ne_cons bracket)]

theorem lt_classBodyStart
    (text : List Char)
    (start : Nat) :
    start < classBodyStart text start := by
  unfold classBodyStart
  split <;> dsimp only <;> split <;> omega

/-- A class that opens in a text ends behind its opening and in the text, and behind its end
stands what is left behind the class. -/
theorem isAhead_classEnd
    (inside : start < text.length) :
    IsAhead text start (classEnd text start) (cutClass (text.drop (start + 1))).left := by
  rw [left_cutClass_drop]
  exact (endsSpan_class text _).isAhead_min (lt_classBodyStart text start) inside

/-! ### Groups -/

/-- A step through the body of a group. -/
def groupStep (text : List Char) (place : Nesting) (char : Char) : Step Nesting Nat :=
  match char with
  | '\\' => place.skip 2
  | '[' => .onward { place with position := classEnd text place.position }
  | '(' => place.enter
  | ')' => place.leave
  | _ => place.skip 1

/-- The walk to the end of a group. -/
def groupWalk : Walk Nesting Nat where
  position := Nesting.position
  step := groupStep
  finish := Nesting.position
  advances {text place char next} found goes := by
    have ahead := (isAhead_classEnd (lt_length_of_getElem? found)).lt
    unfold groupStep at goes
    split at goes
    case h_2 => cases goes; exact ahead
    case h_4 => exact Nesting.position_lt_of_leave goes
    all_goals cases goes; simp

/-- The position behind the parenthesis that closes the group that opens at `start`. -/
def groupEnd (text : List Char) (start : Nat) : Nat :=
  min (groupWalk.run text ⟨start + 1, 0⟩) text.length

theorem afterGroupBody_escape
    (depth : Nat)
    (rest : List Char) :
    afterGroupBody depth ('\\' :: rest) = afterGroupBody depth rest.tail := by
  cases rest <;> simp [afterGroupBody]

theorem endsSpan_group
    (text : List Char)
    (place : Nesting) :
    EndsSpan text afterGroupBody place (groupWalk.run text place) := by
  refine groupWalk.run_induction text (fun place beyond => ?_) (fun place char found => ?_) place
  · exact .of_beyond (by simp [afterGroupBody]) beyond
  · have here := drop_eq_cons found
    obtain ⟨ahead, -, left⟩ := isAhead_classEnd (lt_length_of_getElem? found)
    simp only [groupWalk, groupStep] at here ahead left ⊢
    split
    · refine EndsSpan.of_later ?_ (Nat.le_add_right _ _)
      rw [here, afterGroupBody_escape, List.tail_drop]
    · refine EndsSpan.of_later ?_ (Nat.le_of_lt ahead)
      rw [here, left, afterGroupBody]
    · refine EndsSpan.of_later ?_ (Nat.le_succ _)
      rw [here, afterGroupBody]
    · apply EndsSpan.leads_leave <;> simp [here, afterGroupBody]
    · next escapes class' opens closes =>
        have plain : char ∉ ['\\', '[', '(', ')'] := by simp_all
        refine EndsSpan.of_later ?_ (Nat.le_succ _)
        rw [here, afterGroupBody_cons _ plain]

/-- A group that opens in a text ends behind its opening and in the text, and behind its end
stands what is left behind the group. -/
theorem isAhead_groupEnd
    (inside : start < text.length) :
    IsAhead text start (groupEnd text start) (afterGroupBody 0 (text.drop (start + 1))) :=
  (endsSpan_group text _).isAhead_min (Nat.lt_succ_self start) inside

/-! ## Runs of characters -/

/-- A position is the end of a run of characters: behind it stands what the run leaves of the text,
and it lies between the start of the run and the end of the text. -/
structure EndsRun
    (text : List Char)
    (left : List Char → List Char)
    (start stop : Nat) : Prop where
  drop_eq : text.drop stop = left (text.drop start)
  start_le : start ≤ stop
  stop_le : stop ≤ max start text.length

namespace EndsRun

variable {left : List Char → List Char}

theorem of_beyond
    (nothing : left [] = [])
    (beyond : text[position]? = none) :
    EndsRun text left position position := by
  refine ⟨?_, Nat.le_refl _, Nat.le_max_left _ _⟩
  rw [drop_eq_nil beyond, nothing]

theorem of_next
    (inside : position < text.length)
    (same : left (text.drop position) = left (text.drop (position + 1)))
    (stop : Nat)
    (ends : EndsRun text left (position + 1) stop) :
    EndsRun text left position stop := by
  refine ⟨ends.drop_eq.trans same.symm, Nat.le_of_succ_le ends.start_le, ?_⟩
  have within := ends.stop_le
  omega

/-- A run that starts behind a character of a text ends in the text. -/
theorem isAhead
    {stop : Nat}
    {char : Char}
    (ends : EndsRun text left (position + 1) stop)
    (found : text[position]? = some char)
    (behind : start ≤ position) :
    IsAhead text start stop (left (text.drop (position + 1))) := by
  have inside := lt_length_of_getElem? found
  have least := ends.start_le
  have most := ends.stop_le
  exact ⟨by omega, by omega, ends.drop_eq⟩

end EndsRun

/-- The walk past the first of some character. -/
def pastWalk (terminator : Char) : Walk Nat Nat where
  position := id
  step _ position char := if char = terminator then .stop (position + 1) else .onward (position + 1)
  finish := id
  advances {_ position char next} _ goes := by
    split at goes <;> cases goes
    exact Nat.lt_succ_self position

/-- The position behind the first `terminator` from `start` on, or the end of the text. -/
def positionPast (text : List Char) (terminator : Char) (start : Nat) : Nat :=
  (pastWalk terminator).run text start

theorem endsRun_past
    (text : List Char)
    (terminator : Char)
    (start : Nat) :
    EndsRun text (fun rest => (cutPast terminator rest).left) start
      (positionPast text terminator start) := by
  refine (pastWalk terminator).run_induction text (fun position beyond => ?_)
    (fun position char found => ?_) start
  · exact .of_beyond rfl beyond
  · have here : text.drop position = char :: text.drop (position + 1) := drop_eq_cons found
    have inside : position < text.length := lt_length_of_getElem? found
    simp only [pastWalk]
    split
    · next same =>
        refine ⟨?_, Nat.le_succ _, by omega⟩
        simp [here, cutPast, same]
    · next apart =>
        refine EndsRun.of_next inside ?_
        simp [here, cutPast, apart]

/-- The walk behind digits. -/
def digitWalk : Walk Nat Nat where
  position := id
  step _ position char := if char.isDigit then .onward (position + 1) else .stop position
  finish := id
  advances {_ position char next} _ goes := by
    split at goes <;> cases goes
    exact Nat.lt_succ_self position

/-- The position behind the digits from `start` on. -/
def positionBehindDigits (text : List Char) (start : Nat) : Nat :=
  digitWalk.run text start

theorem endsRun_digits
    (text : List Char)
    (start : Nat) :
    EndsRun text (List.dropWhile Char.isDigit) start (positionBehindDigits text start) := by
  refine digitWalk.run_induction text (fun position beyond => ?_)
    (fun position char found => ?_) start
  · exact .of_beyond rfl beyond
  · have here : text.drop position = char :: text.drop (position + 1) := drop_eq_cons found
    have inside : position < text.length := lt_length_of_getElem? found
    simp only [digitWalk]
    split
    · next digit =>
        refine EndsRun.of_next inside ?_
        rw [here, List.dropWhile_cons_of_pos digit]
    · next other =>
        refine ⟨?_, Nat.le_refl _, Nat.le_max_left _ _⟩
        rw [here, List.dropWhile_cons_of_neg other]

/-! ## Flag headers -/

/-- How far the letters of a flag header have been read: the position, whether letters switch flags
on there, and the value given to the verbose flag, if any. -/
structure FlagPlace where
  position : Nat
  enable : Bool
  verbose : Option Bool

/-- Read a letter of a flag header. -/
def flagStep (place : FlagPlace) (char : Char) : Step FlagPlace FlagPlace :=
  if char = '-' then .onward ⟨place.position + 1, false, place.verbose⟩
  else if char = 'x' then .onward ⟨place.position + 1, place.enable, some place.enable⟩
  else if isAsciiLetter char then .onward { place with position := place.position + 1 }
  else .stop place

/-- The walk behind the letters of a flag header. -/
def flagWalk : Walk FlagPlace FlagPlace where
  position := FlagPlace.position
  step _ := flagStep
  finish := id
  advances {_ place char next} _ goes := by
    unfold flagStep at goes
    split at goes
    · cases goes; exact Nat.lt_succ_self _
    split at goes
    · cases goes; exact Nat.lt_succ_self _
    split at goes <;> cases goes
    exact Nat.lt_succ_self _

/-- The letters of a header have been read from a place up to another one, behind which stands what
is left behind them. -/
structure EndsHeader (text : List Char) (place last : FlagPlace) : Prop where
  readFlagHeader_eq : readFlagHeader place.enable place.verbose (text.drop place.position) =
    ⟨last.verbose, text.drop last.position⟩
  position_le : place.position ≤ last.position

theorem EndsHeader.of_next
    {place next : FlagPlace}
    (same : readFlagHeader place.enable place.verbose (text.drop place.position) =
      readFlagHeader next.enable next.verbose (text.drop next.position))
    (later : next.position = place.position + 1)
    (last : FlagPlace)
    (ends : EndsHeader text next last) :
    EndsHeader text place last := by
  refine ⟨same.trans ends.readFlagHeader_eq, ?_⟩
  have further := ends.position_le
  omega

theorem endsHeader_flags
    (text : List Char)
    (place : FlagPlace) :
    EndsHeader text place (flagWalk.run text place) := by
  refine flagWalk.run_induction text (fun place beyond => ?_) (fun place char found => ?_) place
  · have nothing : text.drop place.position = [] := drop_eq_nil beyond
    refine ⟨?_, Nat.le_refl _⟩
    rw [nothing]
    exact congrArg (FlagHeader.mk place.verbose) nothing.symm
  · have here : text.drop place.position = char :: text.drop (place.position + 1) :=
      drop_eq_cons found
    simp only [flagWalk, flagStep]
    split
    · next minus =>
        refine EndsHeader.of_next ?_ rfl
        rw [here, readFlagHeader, if_pos minus]
    next noMinus =>
    split
    · next verbose =>
        refine EndsHeader.of_next ?_ rfl
        rw [here, readFlagHeader, if_neg noMinus, if_pos verbose]
    next other =>
    split
    · next letter =>
        refine EndsHeader.of_next ?_ rfl
        rw [here, readFlagHeader, if_neg noMinus, if_neg other, if_pos letter]
    · next ended =>
        refine ⟨?_, Nat.le_refl _⟩
        rw [here, readFlagHeader, if_neg noMinus, if_neg other, if_neg ended]

end Pattern
end LineExtraction
