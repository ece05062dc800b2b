import LineExtraction.Linear.Blank
import LineExtraction.Linear.SyntaxError
import LineExtraction.Proofs.Outcome
import LineExtraction.Proofs.Text.Yields

/-!
# Readers go on in a longer text

A reader that leaves something of its text unread has not seen where the text ends, so
it reads the same when more text stands behind.  What closes a group changes nothing
either where a reader comes to the end.
-/

namespace LineExtraction
namespace Linear

/-! ## Texts with more behind -/

/-- Whether `longer` is what is left of a text with `suffix` behind it where `text` is
left of the text alone.  At the end of the text verbose mode may have passed over blanks into
the suffix, from inside a comment or from outside of one. -/
def Behind (verbose : Bool) (suffix text longer : List Char) : Prop :=
  longer = text ++ suffix ∨
    verbose ∧ text = [] ∧ ∃ inComment, longer = skipComments inComment suffix

/-- Whether a text that starts a comment or goes on in one, or does neither, can only be seen
to start with what closes a group. -/
def Closing (suffix : List Char) : Prop :=
  ∀ left, Behind true suffix [] left → ∀ char ∈ left.head?, char = ')' ∨ char = '\n'

section

variable {verbose : Bool} {suffix text longer : List Char}

theorem Behind.eq_append
    (behind : Behind verbose suffix text longer)
    (left : text ≠ []) :
    longer = text ++ suffix :=
  behind.resolve_right fun ⟨_, ended, _⟩ => left ended

/-- Nothing is passed over but in verbose mode. -/
theorem Behind.eq_append_of_terse
    (behind : Behind false suffix text longer) :
    longer = text ++ suffix :=
  behind.resolve_right fun ⟨verbose, _⟩ => Bool.false_ne_true verbose

theorem Behind.loosen
    (behind : Behind verbose suffix text longer) :
    Behind true suffix text longer :=
  behind.imp_right fun ⟨_, ended⟩ => ⟨rfl, ended⟩

theorem behind_append
    (suffix text : List Char) :
    Behind verbose suffix text (text ++ suffix) :=
  .inl rfl

end

/-! ## Blanks -/

theorem skipComments_suffix
    (inComment : Bool)
    (text : List Char) :
    skipComments inComment text <:+ text := by
  fun_induction skipComments inComment text with
  | case1 => exact List.suffix_rfl
  | case2 _ _ inductionHypothesis => exact inductionHypothesis.trans (List.suffix_cons _ _)
  | case3 _ _ _ _ _ inductionHypothesis => exact inductionHypothesis.trans (List.suffix_cons _ _)
  | case4 _ _ _ _ inductionHypothesis => exact inductionHypothesis.trans (List.suffix_cons _ _)
  | case5 => exact List.suffix_rfl

/-- At the end of the text what is left is an end of the suffix. -/
theorem Behind.suffix
    {verbose : Bool}
    {suffix longer : List Char}
    (behind : Behind verbose suffix [] longer) :
    longer <:+ suffix := by
  obtain rfl | ⟨-, -, inComment, rfl⟩ := behind
  · exact List.suffix_rfl
  · exact skipComments_suffix inComment suffix

/-- A text that holds nothing but what closes a group is a closing. -/
theorem closing_of_forall_mem
    {suffix : List Char}
    (closes : ∀ char ∈ suffix, char = ')' ∨ char = '\n') :
    Closing suffix :=
  fun _ behind char head => closes char (behind.suffix.mem (List.mem_of_mem_head? head))

/-- The character that is next behind a text with a closing behind it. -/
theorem Behind.head?_ne
    {verbose : Bool}
    {suffix text longer : List Char}
    (behind : Behind verbose suffix text longer)
    (room : text ≠ [] ∨ Closing suffix)
    {char : Char}
    (other : char ≠ ')' ∧ char ≠ '\n')
    (head : text.head? ≠ some char) :
    longer.head? ≠ some char := by
  intro found
  cases text with
  | cons first rest =>
      rw [behind.eq_append (List.cons_ne_nil first rest)] at found
      exact head found
  | nil =>
      have closing := room.resolve_left fun left => left rfl
      exact (closing longer behind.loosen char found).elim other.1 other.2

theorem skipBlank_suffix
    (verbose : Bool)
    (text : List Char) :
    skipBlank verbose text <:+ text := by
  cases verbose with
  | false => exact List.suffix_rfl
  | true => exact skipComments_suffix false text

/-- What stands behind the first character that is no blank. -/
theorem suffix_of_skipBlank_eq_cons
    {verbose : Bool}
    {text rest : List Char}
    {first : Char}
    (skipped : skipBlank verbose text = first :: rest) :
    rest <:+ text :=
  (List.suffix_cons first rest).trans (skipped ▸ skipBlank_suffix verbose text)

theorem behind_skipComments
    (inComment : Bool)
    (text suffix : List Char) :
    Behind true suffix (skipComments inComment text) (skipComments inComment (text ++ suffix)) := by
  fun_induction skipComments inComment text with
  | case1 inComment => exact .inr ⟨rfl, rfl, inComment, rfl⟩
  | case2 char rest inductionHypothesis =>
      rw [List.cons_append, skipComments, if_pos rfl]
      exact inductionHypothesis
  | case3 inComment char rest notComment blank inductionHypothesis =>
      rw [List.cons_append, skipComments, if_neg notComment, if_pos blank]
      exact inductionHypothesis
  | case4 inComment rest notComment notBlank inductionHypothesis =>
      rw [List.cons_append, skipComments, if_neg notComment, if_neg notBlank, if_pos rfl]
      exact inductionHypothesis
  | case5 inComment char rest notComment notBlank notHash =>
      rw [List.cons_append, skipComments, if_neg notComment, if_neg notBlank, if_neg notHash]
      exact behind_append suffix (char :: rest)

theorem behind_skipBlank
    (verbose : Bool)
    (text suffix : List Char) :
    Behind verbose suffix (skipBlank verbose text) (skipBlank verbose (text ++ suffix)) := by
  cases verbose with
  | false => exact behind_append suffix text
  | true => exact behind_skipComments false text suffix

/-- What is behind a skipped blank, in a longer text. -/
theorem skipBlank_append
    {verbose : Bool}
    {text rest : List Char}
    {first : Char}
    (suffix : List Char)
    (skipped : skipBlank verbose text = first :: rest) :
    skipBlank verbose (text ++ suffix) = first :: (rest ++ suffix) := by
  rw [(behind_skipBlank verbose text suffix).eq_append (by rw [skipped]; exact List.cons_ne_nil _ _),
    skipped]
  rfl

theorem skipBlank_nil
    (verbose : Bool) :
    skipBlank verbose [] = [] := by
  cases verbose <;> rfl

theorem dropWhile_append
    (accepts : Char → Bool)
    {text : List Char}
    (suffix : List Char)
    (left : text.dropWhile accepts ≠ []) :
    (text ++ suffix).dropWhile accepts = text.dropWhile accepts ++ suffix := by
  induction text with
  | nil => exact absurd rfl left
  | cons char rest inductionHypothesis =>
      rw [List.cons_append, List.dropWhile_cons, List.dropWhile_cons] at *
      by_cases accepted : accepts char
      · rw [if_pos accepted] at left ⊢
        rw [if_pos accepted]
        exact inductionHypothesis left
      · rw [if_neg accepted, if_neg accepted]
        rfl

/-! ## Runs -/

theorem readRun_suffix
    (verbose : Bool)
    (accepts : Char → Bool)
    (text : List Char) :
    (readRun verbose accepts text).rest <:+ text := by
  fun_induction readRun verbose accepts text with
  | case1 => exact List.suffix_rfl
  | case2 verbose _ char rest _ _ run inductionHypothesis =>
      exact inductionHypothesis.trans
        ((skipBlank_suffix verbose rest).trans (List.suffix_cons char rest))
  | case3 => exact List.suffix_rfl

/-- What stands behind the character that ends a run. -/
theorem suffix_of_readRun_eq_cons
    {verbose : Bool}
    {accepts : Char → Bool}
    {text rest : List Char}
    {first : Char}
    (ends : (readRun verbose accepts (skipBlank verbose text)).rest = first :: rest) :
    rest <:+ text :=
  (List.suffix_cons first rest).trans
    ((ends ▸ readRun_suffix verbose accepts _).trans (skipBlank_suffix verbose text))

/-! ## Continuing readers -/

/-- Whether what a reader makes of a longer text continues what it makes of a text, where
it leaves something unread or only a closing follows. -/
def Continues
    {α : Type}
    {text longer : List Char}
    (verbose : Bool)
    (suffix : List Char)
    (short : Except SyntaxError (Read α text))
    (long : Except SyntaxError (Read α longer)) : Prop :=
  ∀ read, short = .ok read → (read.rest ≠ [] ∨ Closing suffix) →
    ∃ more, long = .ok more ∧ more.value = read.value ∧ Behind verbose suffix read.rest more.rest

section

variable {α β : Type} {verbose : Bool} {text longer text' longer' suffix : List Char}

theorem continues_error
    {cause : SyntaxError}
    {long : Except SyntaxError (Read α longer)} :
    Continues verbose suffix (.error cause : Except SyntaxError (Read α text)) long :=
  fun _ found => nomatch found

theorem continues_ok
    {read : Read α text}
    {more : Read α longer}
    (value : more.value = read.value)
    (behind : Behind verbose suffix read.rest more.rest) :
    Continues verbose suffix (.ok read) (.ok more) := by
  intro other found _
  obtain rfl := Except.ok.inj found
  exact ⟨more, rfl, value, behind⟩

/-- What is done with the value of a continuing reader continues. -/
theorem Continues.bind
    {short : Except SyntaxError (Read α text)}
    {long : Except SyntaxError (Read α longer)}
    (continues : Continues verbose suffix short long)
    {change : Read α text → Except SyntaxError (Read β text')}
    {change' : Read α longer → Except SyntaxError (Read β longer')}
    (rest : ∀ read changed, change read = .ok changed → read.rest = [] → changed.rest = [])
    (keeps : ∀ read more, more.value = read.value → Behind verbose suffix read.rest more.rest →
      (read.rest ≠ [] ∨ Closing suffix) → Continues verbose suffix (change read) (change' more)) :
    Continues verbose suffix (short >>= change) (long >>= change') := by
  intro changed found room
  obtain ⟨read, readFound, same⟩ := Except.bind_eq_ok_iff.mp found
  have earlier : read.rest ≠ [] ∨ Closing suffix :=
    room.imp_left fun left ended => left (rest read changed same ended)
  obtain ⟨more, moreFound, value, behind⟩ := continues read readFound earlier
  obtain ⟨last, lastFound, lastValue, lastBehind⟩ :=
    keeps read more value behind earlier changed same room
  exact ⟨last, Except.bind_eq_ok_iff.mpr ⟨more, moreFound, lastFound⟩, lastValue, lastBehind⟩

/-- What is done with a value that both readers get continues. -/
theorem continues_bind
    {γ : Type}
    {value value' : Except SyntaxError γ}
    {next : γ → Except SyntaxError (Read α text)}
    {next' : γ → Except SyntaxError (Read α longer)}
    (same : value' = value)
    (continues : ∀ found, value = .ok found → Continues verbose suffix (next found) (next' found)) :
    Continues verbose suffix (value >>= next) (value' >>= next') := by
  subst same
  cases value' with
  | error cause => exact continues_error
  | ok found => exact continues found rfl

/-- What changes only the value of a continuing reader continues. -/
theorem Continues.change
    {short : Except SyntaxError (Read α text)}
    {long : Except SyntaxError (Read α longer)}
    (continues : Continues verbose suffix short long)
    {change : Read α text → Read β text'}
    {change' : Read α longer → Read β longer'}
    (keeps : ∀ read more, more.value = read.value → (change' more).value = (change read).value)
    (rest : ∀ read, (change read).rest = read.rest)
    (rest' : ∀ more, (change' more).rest = more.rest) :
    Continues verbose suffix (do return change (← short)) (do return change' (← long)) := by
  intro changed found room
  obtain ⟨read, readFound, same⟩ := Except.bind_eq_ok_iff.mp found
  obtain rfl := Except.ok.inj same
  rw [rest] at room ⊢
  obtain ⟨more, moreFound, value, behind⟩ := continues read readFound room
  exact ⟨change' more, Except.bind_eq_ok_iff.mpr ⟨more, moreFound, rfl⟩, keeps read more value,
    by rw [rest']; exact behind⟩

/-- Weakening both readers keeps that they continue. -/
theorem Continues.weaken
    {short : Except SyntaxError (Read α text)}
    {long : Except SyntaxError (Read α longer)}
    (continues : Continues verbose suffix short long)
    (bound : text.length ≤ text'.length)
    (bound' : longer.length ≤ longer'.length) :
    Continues verbose suffix (do return (← short).weaken bound) (do return (← long).weaken bound') :=
  continues.change (fun _ _ value => value) (fun _ => rfl) (fun _ => rfl)

/-- Mapping both readers keeps that they continue. -/
theorem Continues.map
    {short : Except SyntaxError (Read α text)}
    {long : Except SyntaxError (Read α longer)}
    (continues : Continues verbose suffix short long)
    (change : α → β) :
    Continues verbose suffix (do return (← short).map change) (do return (← long).map change) :=
  continues.change (fun _ _ value => congrArg change value) (fun _ => rfl) (fun _ => rfl)

/-- Mapping and weakening both readers keeps that they continue. -/
theorem Continues.mapWeaken
    {short : Except SyntaxError (Read α text)}
    {long : Except SyntaxError (Read α longer)}
    (continues : Continues verbose suffix short long)
    (change : α → β)
    (bound : text.length ≤ text'.length)
    (bound' : longer.length ≤ longer'.length) :
    Continues verbose suffix (do return ((← short).map change).weaken bound)
      (do return ((← long).map change).weaken bound') :=
  continues.change (fun _ _ value => congrArg change value) (fun _ => rfl) (fun _ => rfl)

/-- Whether a reader makes of a longer text what it makes of a text, and leaves in addition
what the longer text ends with. -/
def Extends
    (suffix : List Char)
    (short : Except SyntaxError (Read α text))
    (long : Except SyntaxError (Read α longer)) : Prop :=
  ∀ read, short = .ok read →
    ∃ more, long = .ok more ∧ more.value = read.value ∧ more.rest = read.rest ++ suffix

theorem Extends.continues
    {short : Except SyntaxError (Read α text)}
    {long : Except SyntaxError (Read α longer)}
    (extend : Extends suffix short long) :
    Continues verbose suffix short long := by
  intro read found _
  obtain ⟨more, moreFound, value, rest⟩ := extend read found
  exact ⟨more, moreFound, value, .inl rest⟩

theorem extends_error
    {cause : SyntaxError}
    {long : Except SyntaxError (Read α longer)} :
    Extends suffix (.error cause : Except SyntaxError (Read α text)) long :=
  fun _ found => nomatch found

theorem extends_ok
    {read : Read α text}
    {more : Read α longer}
    (value : more.value = read.value)
    (rest : more.rest = read.rest ++ suffix) :
    Extends suffix (.ok read) (.ok more) := by
  intro other found
  obtain rfl := Except.ok.inj found
  exact ⟨more, rfl, value, rest⟩

/-- What changes only the value of an extending reader extends. -/
theorem Extends.change
    {short : Except SyntaxError (Read α text)}
    {long : Except SyntaxError (Read α longer)}
    (extend : Extends suffix short long)
    {change : Read α text → Read β text'}
    {change' : Read α longer → Read β longer'}
    (keeps : ∀ read more, more.value = read.value → (change' more).value = (change read).value)
    (rest : ∀ read, (change read).rest = read.rest)
    (rest' : ∀ more, (change' more).rest = more.rest) :
    Extends suffix (do return change (← short)) (do return change' (← long)) := by
  intro changed found
  obtain ⟨read, readFound, same⟩ := Except.bind_eq_ok_iff.mp found
  obtain rfl := Except.ok.inj same
  obtain ⟨more, moreFound, value, behind⟩ := extend read readFound
  exact ⟨change' more, Except.bind_eq_ok_iff.mpr ⟨more, moreFound, rfl⟩, keeps read more value,
    by rw [rest, rest', behind]⟩

theorem Extends.weaken
    {short : Except SyntaxError (Read α text)}
    {long : Except SyntaxError (Read α longer)}
    (extend : Extends suffix short long)
    (bound : text.length ≤ text'.length)
    (bound' : longer.length ≤ longer'.length) :
    Extends suffix (do return (← short).weaken bound) (do return (← long).weaken bound') :=
  extend.change (fun _ _ value => value) (fun _ => rfl) (fun _ => rfl)

theorem Extends.mapWeaken
    {short : Except SyntaxError (Read α text)}
    {long : Except SyntaxError (Read α longer)}
    (extend : Extends suffix short long)
    (change : α → β)
    (bound : text.length ≤ text'.length)
    (bound' : longer.length ≤ longer'.length) :
    Extends suffix (do return ((← short).map change).weaken bound)
      (do return ((← long).map change).weaken bound') :=
  extend.change (fun _ _ value => congrArg change value) (fun _ => rfl) (fun _ => rfl)

/-- What needs some text behind a continuing reader extends if it extends there. -/
theorem Continues.bindExtends
    {short : Except SyntaxError (Read α text)}
    {long : Except SyntaxError (Read α longer)}
    (continues : Continues verbose suffix short long)
    {change : Read α text → Except SyntaxError (Read β text')}
    {change' : Read α longer → Except SyntaxError (Read β longer')}
    (needs : ∀ read changed, change read = .ok changed → read.rest ≠ [])
    (keeps : ∀ read more, more.value = read.value → more.rest = read.rest ++ suffix →
      Extends suffix (change read) (change' more)) :
    Extends suffix (short >>= change) (long >>= change') := by
  intro changed found
  obtain ⟨read, readFound, same⟩ := Except.bind_eq_ok_iff.mp found
  have left := needs read changed same
  obtain ⟨more, moreFound, value, behind⟩ := continues read readFound (.inl left)
  obtain ⟨last, lastFound, lastValue, lastRest⟩ :=
    keeps read more value (behind.eq_append left) changed same
  exact ⟨last, Except.bind_eq_ok_iff.mpr ⟨more, moreFound, lastFound⟩, lastValue, lastRest⟩

end

/-! ## Runs of characters -/

theorem readRun_nil
    (verbose : Bool)
    (accepts : Char → Bool) :
    (readRun verbose accepts []).rest = [] := by
  rw [readRun]

/-- A run that holds no character leaves its text. -/
theorem readRun_rest_of_isEmpty
    {verbose : Bool}
    {accepts : Char → Bool}
    {text : List Char}
    (bare : (readRun verbose accepts text).value.isEmpty) :
    (readRun verbose accepts text).rest = text := by
  cases text with
  | nil => exact readRun_nil verbose accepts
  | cons char rest =>
      rw [readRun] at bare ⊢
      split at bare
      · cases bare
      · next refused => rw [if_neg refused]

theorem readRun_append
    (verbose : Bool)
    (accepts : Char → Bool)
    (text suffix : List Char)
    (left : (readRun verbose accepts text).rest ≠ []) :
    (readRun verbose accepts (text ++ suffix)).value = (readRun verbose accepts text).value ∧
      (readRun verbose accepts (text ++ suffix)).rest =
        (readRun verbose accepts text).rest ++ suffix := by
  fun_induction readRun verbose accepts text with
  | case1 => exact absurd rfl left
  | case2 verbose accepts char rest accepted _ run inductionHypothesis =>
      have more : skipBlank verbose rest ≠ [] := by
        intro ended
        refine left ?_
        show (readRun verbose accepts (skipBlank verbose rest)).rest = []
        rw [ended, readRun_nil]
      obtain ⟨value, behind⟩ := inductionHypothesis left
      rw [← (behind_skipBlank verbose rest suffix).eq_append more] at value behind
      rw [List.cons_append, readRun, if_pos accepted]
      exact ⟨congrArg (char :: ·) value, behind⟩
  | case3 verbose accepts char rest refused =>
      rw [List.cons_append, readRun, if_neg refused]
      exact ⟨rfl, rfl⟩

theorem readRun_skipBlank_append
    {verbose : Bool}
    {accepts : Char → Bool}
    {text rest : List Char}
    {first : Char}
    (suffix : List Char)
    (left : (readRun verbose accepts (skipBlank verbose text)).rest = first :: rest) :
    (readRun verbose accepts (skipBlank verbose (text ++ suffix))).value =
        (readRun verbose accepts (skipBlank verbose text)).value ∧
      (readRun verbose accepts (skipBlank verbose (text ++ suffix))).rest =
        first :: (rest ++ suffix) := by
  have started : skipBlank verbose text ≠ [] := by
    intro ended
    rw [ended, readRun_nil] at left
    cases left
  have ran := readRun_append verbose accepts (skipBlank verbose text) suffix
    (by rw [left]; exact List.cons_ne_nil _ _)
  rw [← (behind_skipBlank verbose text suffix).eq_append started, left] at ran
  exact ran

end Linear
end LineExtraction
