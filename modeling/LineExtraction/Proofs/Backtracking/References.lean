import LineExtraction.Pattern.NumberedReference
import LineExtraction.Proofs.Backtracking.Stretches
import LineExtraction.Proofs.Pattern.Relaxing

/-!
# References to groups by number

The scan for references by number knows escapes and bracket classes and nothing else.  Stretch by
stretch it follows the parser of the backtracking dialect all the same, as long as neither comments
nor names of Unicode classes hold what the scan takes for the start of an escape or for an end of a
class, and as references are written in the way that it knows.  Then it finds the first reference
that is by number, if there is one.
-/

namespace LineExtraction
namespace Backtracking

open Pattern (Lacks firstNumbered? numberedAt? startsNumber cutClass cutPast)

/-! ## References by number -/

/-- How the first of some references that is by number is written. -/
def firstCounting? (references : List Reference) : Option (List Char) :=
  (references.find? (·.numbered)).map (·.source)

theorem firstCounting?_append
    (front back : List Reference) :
    firstCounting? (front ++ back) = (firstCounting? front).or (firstCounting? back) := by
  rw [firstCounting?, List.find?_append, Option.map_or]
  rfl

/-! ## Stretches that the scan can follow -/

/-- The characters at which the scan for references by number does more than go on. -/
def numberMarks : List Char := ['\\', '[']

/-- Whether a reference is written in a way that the scan knows: by number with one digit that is
not zero or with a number in angle brackets, and by name with anything in angle brackets but what
starts as a number does. -/
def Reference.isKnown (reference : Reference) : Bool :=
  match reference.source with
  | ['\\', digit] => digit ≠ '0'
  | '\\' :: 'k' :: '<' :: first :: _ => reference.numbered ∨ ¬ startsNumber first
  | '\\' :: 'k' :: _ => ¬ reference.numbered
  | '\\' :: _ => false
  | source => ¬ reference.numbered ∧ Lacks numberMarks source

/-- Whether the scan goes on behind a stretch that is no reference: no backslash and no bracket
stands in what is ignored, in a quantifier or in a header, or in the name of a Unicode class. -/
def Stretch.isClear : Stretch → Bool
  | .between text rest => Lacks numberMarks (taken text rest)
  | .token _ first text _ rest =>
    if first ∈ numberMarks then hasClearNames (first :: taken text rest)
    else Lacks numberMarks (taken text rest)

/-- Whether the scan for references by number can follow a stretch. -/
def Stretch.isFollowed (stretch : Stretch) : Bool :=
  match stretch.reference? with
  | some reference => reference.isKnown
  | none => stretch.isClear

/-- Whether the scan for references by number can follow every stretch of a pattern. -/
def isFollowed (pattern : List Char) : Bool :=
  (stretches pattern).all Stretch.isFollowed

/-! ## Steps of the scan -/

theorem firstNumbered?_cons
    {char : Char}
    (plain : char ∉ numberMarks)
    (rest : List Char) :
    firstNumbered? (char :: rest) = firstNumbered? rest := by
  have apart {mark : Char} (member : mark ∈ numberMarks) : char ≠ mark := by
    rintro rfl
    exact plain member
  rw [firstNumbered?.eq_def]
  split
  · next same => cases same
  · next same => exact absurd (List.cons.inj same).1 (apart (by decide))
  · next same => exact absurd (List.cons.inj same).1 (apart (by decide))
  · next same => rw [(List.cons.inj same).2]

theorem firstNumbered?_lacking
    {front : List Char}
    (lacks : Lacks numberMarks front)
    (rest : List Char) :
    firstNumbered? (front ++ rest) = firstNumbered? rest := by
  induction front with
  | nil => rfl
  | cons char front inductionHypothesis =>
      obtain ⟨plain, others⟩ := List.forall_mem_cons.mp lacks
      rw [List.cons_append, firstNumbered?_cons plain, inductionHypothesis others]

theorem firstNumbered?_found
    {text source : List Char}
    (found : numberedAt? text = some source) :
    firstNumbered? ('\\' :: text) = some source := by
  rw [firstNumbered?.eq_def]
  simp only [found]

theorem firstNumbered?_escape
    {letter : Char}
    {text : List Char}
    (none : numberedAt? (letter :: text) = none) :
    firstNumbered? ('\\' :: letter :: text) = firstNumbered? text := by
  rw [firstNumbered?.eq_def]
  simp only [none]

theorem firstNumbered?_class
    (text : List Char) :
    firstNumbered? ('[' :: text) = firstNumbered? (cutClass text).left :=
  firstNumbered?.eq_def ('[' :: text)

/-! ## References by digits and by name -/

/-- What the scan finds at a reference that starts with a digit. -/
theorem numberedAt?_digit
    {digit : Char}
    (isDigit : digit.isDigit)
    (positive : digit ≠ '0')
    (rest : List Char) :
    numberedAt? (digit :: rest) = some ['\\', digit] := by
  have ordinary : '1' ≤ digit ∧ digit ≤ '9' := by
    have member := mem_digits_of_isDigit isDigit
    have checked : ∀ char ∈ ['0', '1', '2', '3', '4', '5', '6', '7', '8', '9'],
        char ≠ '0' → '1' ≤ char ∧ char ≤ '9' := by
      decide
    exact checked digit member positive
  unfold numberedAt?
  exact if_pos ordinary

/-- A name that counts as a number starts as a number does. -/
theorem exists_startsNumber_of_group?
    {scope : Scope}
    {name : List Char}
    {group : Nat}
    (found : scope.group? name = some group)
    (unknown : (scope.names.lookup name).isNone) :
    ∃ first rest, name = first :: rest ∧ startsNumber first := by
  unfold Scope.group? at found
  split at found
  · next named => cases named.symm.trans (Option.isNone_iff_eq_none.mp unknown)
  split at found
  · exact ⟨'-', _, rfl, by decide⟩
  unfold numberOf? at found
  split at found
  · next fits =>
      cases name with
      | nil => exact absurd rfl fits.1
      | cons first rest =>
          have digit := List.all_eq_true.mp fits.2.1 first List.mem_cons_self
          exact ⟨first, rest, rfl, decide_eq_true (.inl digit)⟩
  · cases found

/-! ## Escapes -/

/-- Nothing but a digit, a `k` or a `g` starts a reference by number. -/
theorem numberedAt?_eq_none
    {letter : Char}
    (digit : ¬ letter.isDigit)
    (apart : letter ∉ ['k', 'g'])
    (rest : List Char) :
    numberedAt? (letter :: rest) = none := by
  have ordinary : ¬ ('1' ≤ letter ∧ letter ≤ '9') := by
    rintro ⟨low, high⟩
    refine digit (Bool.and_eq_true_iff.mpr ⟨decide_eq_true ?_, decide_eq_true high⟩)
    exact Char.le_trans (by decide) low
  simp only [List.mem_cons, List.not_mem_nil, or_false] at apart
  unfold numberedAt?
  exact (if_neg ordinary).trans (if_neg apart)

/-! ## The scan along the parser -/

section

variable {scope : Scope} {text : List Char}

/-- The scan stops at a reference by one digit. -/
theorem firstNumbered?_digits
    {number : Nat}
    {group : Read Nat text}
    (read : readNumberedReference scope text = .ok group)
    (starts : text.head?.any Char.isDigit)
    (known : (Reference.mk number true ('\\' :: taken text group.rest)).isKnown) :
    firstNumbered? ('\\' :: text) = some ('\\' :: taken text group.rest) := by
  have left : group.rest = text.dropWhile Char.isDigit := by
    unfold readNumberedReference at read
    split at read
    · next number numberRead =>
        split at read
        · obtain rfl := Except.ok.inj read
          obtain ⟨value, -, rfl⟩ := Option.map_eq_some_iff.mp numberRead
          rfl
        · cases read
    · cases read
  have source : taken text group.rest = text.takeWhile Char.isDigit :=
    taken_eq (left ▸ List.takeWhile_append_dropWhile.symm)
  cases text with
  | nil => cases starts
  | cons digit rest =>
      have isDigit : digit.isDigit := starts
      rw [source, List.takeWhile_cons_of_pos isDigit] at known ⊢
      cases more : rest.takeWhile Char.isDigit with
      | nil =>
          rw [more] at known
          exact firstNumbered?_found (numberedAt?_digit isDigit (of_decide_eq_true known) rest)
      | cons next others =>
          rw [more] at known
          unfold Reference.isKnown at known
          split at known
          · next same => cases same
          · next same =>
              cases same
              exact absurd isDigit (by decide)
          · next same =>
              cases same
              exact absurd isDigit (by decide)
          · cases known
          · next plain => exact absurd rfl (plain _)

theorem exists_name_of_readNamedReference
    {relative : Bool}
    {close : Char}
    {group : Read Nat text}
    (read : readNamedReference scope relative close text = .ok group) :
    ∃ name, readName relative close text = .ok name ∧
      scope.group? name.value = some group.value ∧ name.rest = group.rest := by
  obtain ⟨name, nameRead, read⟩ := Except.bind_eq_ok_iff.mp read
  split at read
  · next found =>
      obtain rfl := Except.ok.inj read
      exact ⟨name, nameRead, found, rfl⟩
  · cases read

/-- A name behind a `k` stands in quotes or in angle brackets. -/
theorem key_cases
    {group : Read Nat text}
    (read : readKeyReference scope text = .ok group) :
    ∃ target name,
      (text = '\'' :: target ∧ readName true '\'' target = .ok name ∨
        text = '<' :: target ∧ readName true '>' target = .ok name) ∧
      scope.group? name.value = some group.value ∧ name.rest = group.rest := by
  unfold readKeyReference at read
  split at read
  · next target =>
      obtain ⟨inner, innerRead, made⟩ := Except.bind_eq_ok_iff.mp read
      obtain rfl := Except.ok.inj made
      obtain ⟨name, nameRead, found, left⟩ := exists_name_of_readNamedReference innerRead
      exact ⟨target, name, .inl ⟨rfl, nameRead⟩, found, left⟩
  · next target =>
      obtain ⟨inner, innerRead, made⟩ := Except.bind_eq_ok_iff.mp read
      obtain rfl := Except.ok.inj made
      obtain ⟨name, nameRead, found, left⟩ := exists_name_of_readNamedReference innerRead
      exact ⟨target, name, .inr ⟨rfl, nameRead⟩, found, left⟩
  · cases read

/-- What ends a name or stops the scan stands in no name. -/
theorem lacks_of_readName
    {relative : Bool}
    {close : Char}
    {name : Read (List Char) text}
    (read : readName relative close text = .ok name) :
    Lacks ('>' :: numberMarks) name.value := by
  intro char member
  rcases (eq_of_readName read).2 char member with rfl | digit | isName
  · decide
  · have checked : ∀ char ∈ ['0', '1', '2', '3', '4', '5', '6', '7', '8', '9'],
        char ∉ '>' :: numberMarks := by
      decide
    exact checked char (mem_digits_of_isDigit digit)
  · have lacks := Pattern.lacks_of_isNameChar (List.forall_mem_singleton.mpr isName)
    exact lacks.mono (by decide) char (List.mem_singleton_self char)

/-- The source of a reference behind a `k`. -/
theorem taken_name
    {open' close : Char}
    {name : Read (List Char) text}
    (whole : text = name.value ++ close :: name.rest) :
    taken ('k' :: open' :: text) name.rest = 'k' :: open' :: (name.value ++ [close]) :=
  taken_eq (by rw [List.cons_append, List.cons_append, List.append_assoc, List.singleton_append,
    ← whole])

/-- Behind a reference to a name that a group has the scan goes on. -/
theorem firstNumbered?_passed
    {relative : Bool}
    {open' close : Char}
    {name : Read (List Char) text}
    (read : readName relative close text = .ok name)
    (plain : open' ∉ numberMarks ∧ close ∉ numberMarks)
    (none : numberedAt? ('k' :: open' :: text) = none) :
    firstNumbered? ('\\' :: 'k' :: open' :: text) = firstNumbered? name.rest := by
  rw [firstNumbered?_escape none, firstNumbered?_cons plain.1]
  refine (congrArg firstNumbered? (eq_of_readName read).1).trans ?_
  rw [firstNumbered?_lacking ((lacks_of_readName read).mono (List.subset_cons_self _ _)),
    firstNumbered?_cons plain.2]

theorem numberedAt?_bracketed
    (first : Char)
    (target : List Char) :
    numberedAt? ('k' :: '<' :: first :: target) =
      if startsNumber first then some ('\\' :: 'k' :: '<' :: (cutPast '>' (first :: target)).passed)
      else none := by
  show (if _ ∧ startsNumber first then _ else none) = _
  simp only [true_or, true_and]
  rfl

/-- The scan stops at a reference in angle brackets that is by number, and at no other. -/
theorem firstNumbered?_bracketed
    {number group : Nat}
    {name : Read (List Char) text}
    (read : readName true '>' text = .ok name)
    (found : scope.group? name.value = some group)
    (known : (Reference.mk number (scope.names.lookup name.value).isNone
      ('\\' :: taken ('k' :: '<' :: text) name.rest)).isKnown) :
    firstNumbered? ('\\' :: 'k' :: '<' :: text) =
      if (scope.names.lookup name.value).isNone then
        some ('\\' :: taken ('k' :: '<' :: text) name.rest)
      else firstNumbered? name.rest := by
  obtain ⟨whole, -⟩ := eq_of_readName read
  rw [taken_name whole] at known ⊢
  split
  · next unknown =>
      obtain ⟨first, rest, same, numeral⟩ := exists_startsNumber_of_group? found unknown
      refine firstNumbered?_found ?_
      have cut := Pattern.cutPast_lacking
        ((lacks_of_readName read).mono (List.cons_subset_cons _ (List.nil_subset _))) name.rest
      rw [← whole] at cut
      obtain ⟨target, rfl⟩ : ∃ target, text = first :: target :=
        ⟨rest ++ '>' :: name.rest, whole.trans (same ▸ rfl)⟩
      rw [numberedAt?_bracketed, if_pos numeral, cut]
  · next named =>
      refine firstNumbered?_passed read (by decide) ?_
      obtain ⟨first, target, rfl, numeral⟩ :
          ∃ first target, text = first :: target ∧ ¬ startsNumber first := by
        cases begins : name.value with
        | nil => exact ⟨'>', name.rest, whole.trans (begins ▸ rfl), by decide⟩
        | cons first rest =>
            refine ⟨first, rest ++ '>' :: name.rest, whole.trans (begins ▸ rfl), ?_⟩
            rw [begins] at known named
            exact (of_decide_eq_true known).resolve_left named
      rw [numberedAt?_bracketed, if_neg numeral]

/-- The scan goes on behind a reference in quotes. -/
theorem firstNumbered?_quoted
    {name : Read (List Char) text}
    (read : readName true '\'' text = .ok name) :
    firstNumbered? ('\\' :: 'k' :: '\'' :: text) = firstNumbered? name.rest := by
  refine firstNumbered?_passed read (by decide) ?_
  cases text <;> rfl

/-- The reference that an escape is. -/
theorem firstNumbered?_reference
    {fold : Bool}
    {escape : Read Escape text}
    {group : Nat}
    (read : readEscape scope fold false text = .ok escape)
    (refers : escape.value.meaning = .backreference group)
    (known : (Reference.mk group (scope.countsEscape text)
      ('\\' :: taken text escape.rest)).isKnown) :
    firstNumbered? ('\\' :: text) =
      if scope.countsEscape text then some ('\\' :: taken text escape.rest)
      else firstNumbered? escape.rest := by
  rcases escape_cases read with ⟨found, foundRead, -, left, starts⟩ |
    ⟨target, found, rfl, foundRead, -, left⟩ | ⟨_, _, -, -, -, none⟩
  · have counts : scope.countsEscape text := by
      unfold Scope.countsEscape
      split
      · cases starts
      · cases starts
      · exact starts
      · cases starts
    rw [counts, left] at known
    rw [if_pos counts, left]
    exact firstNumbered?_digits foundRead starts known
  · obtain ⟨inner, name, spelled, nameFound, nameLeft⟩ := key_cases foundRead
    rw [left, ← nameLeft] at known ⊢
    rcases spelled with ⟨rfl, nameRead⟩ | ⟨rfl, nameRead⟩
    · have counts : scope.countsEscape ('k' :: '\'' :: inner) =
          (scope.names.lookup name.value).isNone := by
        rw [Scope.countsEscape, nameRead]
        rfl
      obtain ⟨whole, -⟩ := eq_of_readName nameRead
      rw [counts, taken_name whole] at known
      have named : ¬ (scope.names.lookup name.value).isNone := of_decide_eq_true known
      rw [counts, if_neg named]
      exact firstNumbered?_quoted nameRead
    · have counts : scope.countsEscape ('k' :: '<' :: inner) =
          (scope.names.lookup name.value).isNone := by
        rw [Scope.countsEscape, nameRead]
        rfl
      rw [counts] at known ⊢
      exact firstNumbered?_bracketed nameRead nameFound known
  · rw [refers] at none
    cases none

end

/-- Behind an escape that is no reference the scan goes on. -/
theorem firstNumbered?_clear
    {scope : Scope}
    {fold : Bool}
    {text : List Char}
    {escape : Read Escape text}
    (read : readEscape scope fold false text = .ok escape)
    (noReference : ∀ group, escape.value.meaning ≠ .backreference group)
    (clear : hasClearNames ('\\' :: taken text escape.rest)) :
    firstNumbered? ('\\' :: text) = firstNumbered? escape.rest := by
  have none : numberedAt? text = none := by
    rcases escape_cases read with ⟨found, -, meaning, -⟩ | ⟨_, found, -, -, meaning, -⟩ |
      ⟨letter, rest, same, digit, apart, -⟩
    · exact absurd meaning (noReference _)
    · exact absurd meaning (noReference _)
    · rw [same]
      exact numberedAt?_eq_none digit apart rest
  obtain ⟨letter, body, whole, bodyClear⟩ := exists_clear_of_readEscape read noReference
  have body_eq : taken text escape.rest = letter :: body := taken_eq whole
  rw [body_eq, ← List.append_nil body] at clear
  obtain ⟨lacks, -⟩ := hasClearNames_escape bodyClear clear
  rw [whole] at none
  refine (congrArg (fun text => firstNumbered? ('\\' :: text)) whole).trans ?_
  rw [firstNumbered?_escape none, firstNumbered?_lacking (lacks.mono (by decide))]

namespace Stretch

/-- What is found from a stretch on: the stretch itself, if it is a reference by number, or else
what is found behind it. -/
def found? (stretch : Stretch) (behind : Option (List Char)) : Option (List Char) :=
  (firstCounting? stretch.reference?.toList).or behind

section

variable {stretch : Stretch}

theorem found?_of_reference
    {reference : Reference}
    (refers : stretch.reference? = some reference)
    (behind : Option (List Char)) :
    stretch.found? behind = if reference.numbered then some reference.source else behind := by
  rw [found?, refers, Option.toList_some, firstCounting?, List.find?_singleton]
  split <;> rfl

theorem found?_of_none
    (none : stretch.reference? = none)
    (behind : Option (List Char)) :
    stretch.found? behind = behind := by
  rw [found?, none]
  rfl

/-- What is no back-reference is no reference. -/
theorem reference?_eq_none
    {state : ParseState}
    {first : Char}
    {text rest : List Char}
    {progress : Progress}
    (other : ∀ inner group, progress ≠ .atom inner (.backreference group)) :
    (token state first text progress rest).reference? = none := by
  unfold reference?
  split
  · next same =>
      obtain ⟨-, -, -, same, -⟩ := Stretch.token.inj same
      exact absurd same (other _ _)
  · rfl

/-- A reference is written as its token is. -/
theorem source_of_reference?
    {state : ParseState}
    {first : Char}
    {text rest : List Char}
    {progress : Progress}
    {reference : Reference}
    (refers : (token state first text progress rest).reference? = some reference) :
    reference.source = first :: taken text rest := by
  unfold reference? at refers
  split at refers
  · next same =>
      obtain ⟨rfl, rfl, rfl, -, rfl⟩ := Stretch.token.inj same
      split at refers
      · cases refers
      · obtain rfl := Option.some.inj refers
        rfl
  · cases refers

end

end Stretch

/-- A reference that does not start with a backslash is known by name only. -/
theorem Reference.not_numbered_of_isKnown
    {reference : Reference}
    {first : Char}
    {rest : List Char}
    (known : reference.isKnown)
    (source : reference.source = first :: rest)
    (plain : first ≠ '\\') :
    ¬ reference.numbered ∧ Lacks numberMarks rest := by
  unfold Reference.isKnown at known
  rw [source] at known
  split at known
  case h_5 =>
    obtain ⟨named, lacks⟩ := of_decide_eq_true known
    exact ⟨named, fun char member => lacks char (List.mem_cons_of_mem _ member)⟩
  all_goals
    next same => exact absurd (List.cons.inj same).1 plain

section

variable {state : ParseState} {text : List Char} {token : Read Progress text}

theorem firstNumbered?_escapeToken
    (read : readToken state '\\' text = .ok token)
    (followed : (Stretch.token state '\\' text token.value token.rest).isFollowed) :
    firstNumbered? ('\\' :: text) =
      (Stretch.token state '\\' text token.value token.rest).found?
        (firstNumbered? token.rest) := by
  obtain ⟨escape, escapeRead, left, cases⟩ := escape_of_readToken read
  rcases cases with ⟨group, meaning, value⟩ | ⟨noReference, value⟩
  · rw [value, left] at followed ⊢
    rw [firstNumbered?_reference escapeRead meaning followed]
    have refers : (Stretch.token state '\\' text
        (.atom (state.refer group escape.value.numbered) (.backreference group))
        escape.rest).reference? =
          some ⟨group, state.scope.countsEscape text, '\\' :: taken text escape.rest⟩ := rfl
    rw [Stretch.found?_of_reference refers]
  · have none : (Stretch.token state '\\' text token.value token.rest).reference? = none := by
      refine Stretch.reference?_eq_none fun inner group same => ?_
      exact noReference group (Progress.atom.inj (value.symm.trans same)).2
    rw [Stretch.isFollowed, none] at followed
    rw [Stretch.found?_of_none none, left]
    exact firstNumbered?_clear escapeRead noReference (left ▸ followed)

/-- A scan goes on behind a class where the parser does. -/
theorem firstNumbered?_classToken
    (read : readToken state '[' text = .ok token)
    (followed : (Stretch.token state '[' text token.value token.rest).isFollowed) :
    firstNumbered? ('[' :: text) =
      (Stretch.token state '[' text token.value token.rest).found? (firstNumbered? token.rest) := by
  obtain ⟨members, membersRead, made⟩ := Except.bind_eq_ok_iff.mp read
  obtain rfl := Except.ok.inj made
  obtain ⟨front, whole, cut⟩ := exists_cut_of_readBracketClass membersRead
  have clear : hasClearNames ('[' :: taken text members.rest) := followed
  rw [taken_eq whole, hasClearNames_cons (by decide)] at clear
  rw [firstNumbered?_class, cut clear]
  rfl

/-- A scan goes on behind a token that holds nothing at which it stops. -/
theorem firstNumbered?_plainToken
    {first : Char}
    (plain : first ∉ numberMarks)
    (read : readToken state first text = .ok token)
    (followed : (Stretch.token state first text token.value token.rest).isFollowed) :
    firstNumbered? (first :: text) =
      (Stretch.token state first text token.value token.rest).found?
        (firstNumbered? token.rest) := by
  have whole := taken_append (trims_readToken state first text token read)
  have goesOn (lacks : Lacks numberMarks (taken text token.rest)) :
      firstNumbered? (first :: text) = firstNumbered? token.rest := by
    have passed := firstNumbered?_lacking lacks token.rest
    rw [firstNumbered?_cons plain, ← passed, whole]
  rw [Stretch.isFollowed] at followed
  split at followed
  · next reference refers =>
      obtain ⟨named, lacks⟩ := Reference.not_numbered_of_isKnown followed
        (Stretch.source_of_reference? refers) fun same => plain (same ▸ by decide)
      rw [Stretch.found?_of_reference refers, if_neg named, goesOn lacks]
  · next none =>
      rw [Stretch.isClear, if_neg plain] at followed
      rw [Stretch.found?_of_none none, goesOn (of_decide_eq_true followed)]

/-- The scan finds a token that is a reference by number, and goes on behind any other. -/
theorem firstNumbered?_token
    {first : Char}
    (read : readToken state first text = .ok token)
    (followed : (Stretch.token state first text token.value token.rest).isFollowed) :
    firstNumbered? (first :: text) =
      (Stretch.token state first text token.value token.rest).found?
        (firstNumbered? token.rest) := by
  by_cases escapes : first = '\\'
  · subst escapes
    exact firstNumbered?_escapeToken read followed
  by_cases opens : first = '['
  · subst opens
    exact firstNumbered?_classToken read followed
  · exact firstNumbered?_plainToken (by simp [numberMarks, escapes, opens]) read followed

end

/-- The first reference by number of some stretches. -/
theorem firstCounting?_cons
    (stretch : Stretch)
    (others : List Stretch) :
    firstCounting? ((stretch :: others).filterMap Stretch.reference?) =
      stretch.found? (firstCounting? (others.filterMap Stretch.reference?)) := by
  rw [Stretch.found?, ← firstCounting?_append, List.filterMap_cons]
  cases stretch.reference? <;> rfl

/-- A scan goes on behind what stands between two tokens. -/
theorem firstNumbered?_between
    {text rest : List Char}
    (inside : rest <:+ text)
    (followed : (Stretch.between text rest).isFollowed) :
    firstNumbered? text = (Stretch.between text rest).found? (firstNumbered? rest) := by
  have lacks : Lacks numberMarks (taken text rest) := of_decide_eq_true followed
  have passed := firstNumbered?_lacking lacks rest
  rw [taken_append inside] at passed
  rw [passed, Stretch.found?_of_none rfl]

/-- The scan finds what the parser reads, from any state on. -/
theorem firstNumbered?_of_readTokens
    {state last : ParseState}
    {text : List Char}
    (read : readTokens state text = .ok last)
    (followed : (stretchesFrom state text).all Stretch.isFollowed) :
    firstNumbered? text =
      firstCounting? ((stretchesFrom state text).filterMap Stretch.reference?) := by
  induction size : text.length using Nat.strongRecOn generalizing state text with
  | ind size inductionHypothesis =>
      subst size
      have run := read
      rw [readTokens] at run
      obtain ⟨blank, skipped, -⟩ := Except.bind_eq_ok_iff.mp run
      have blankInside := trims_skipIgnored _ text blank skipped
      cases left : blank.rest with
      | nil =>
          rw [left] at blankInside
          rw [stretchesFrom_end skipped left] at followed ⊢
          rw [List.all_cons, Bool.and_eq_true] at followed
          rw [firstNumbered?_between blankInside followed.1, firstCounting?_cons,
            firstNumbered?.eq_def]
          rfl
      | cons first rest =>
          rw [left] at blankInside
          obtain ⟨token, tokenRead, behind, repeated, others⟩ :=
            (readTokens_eq_ok_iff_of_token skipped left).mp read
          rw [stretchesFrom_token skipped left tokenRead repeated] at followed ⊢
          simp only [List.all_cons, Bool.and_eq_true] at followed
          obtain ⟨blankFollowed, tokenFollowed, behindFollowed, othersFollowed⟩ := followed
          have shorter : behind.rest.length < text.length :=
            Nat.lt_of_le_of_lt (Nat.le_trans behind.shorter token.shorter) (blank.length_lt left)
          rw [firstNumbered?_between blankInside blankFollowed,
            firstNumbered?_token tokenRead tokenFollowed,
            firstNumbered?_between (trims_readBehind _ _ behind repeated) behindFollowed,
            inductionHypothesis _ shorter others othersFollowed rfl]
          simp only [firstCounting?_cons]

end Backtracking

namespace Pattern

open Backtracking

/-- The scan for references by number finds the first one that the parser reads, and none where
it reads none, in every pattern whose stretches it can follow. -/
theorem numberedReference?_of_parse
    {pattern : String}
    {parsed : Parsed}
    (read : parse pattern.toList = .ok parsed)
    (followed : isFollowed pattern.toList) :
    numberedReference? pattern =
      (firstCounting? (references pattern.toList)).map String.ofList := by
  obtain ⟨last, lastRead, -⟩ := Except.bind_eq_ok_iff.mp read
  rw [numberedReference?, firstNumbered?_of_readTokens lastRead followed]
  rfl

/-- A class with brackets, a reference by name, one by number and a comment. -/
def mixedReferences : String := "(?<q>a)[]\\]]\\k<q>(b)\\k<2>(?#two)"

theorem numberedReference?_of_parse_mixedReferences :
    ∃ parsed, parse mixedReferences.toList = .ok parsed ∧
      numberedReference? mixedReferences =
        (firstCounting? (references mixedReferences.toList)).map String.ofList ∧
      references mixedReferences.toList =
        [⟨1, false, "\\k<q>".toList⟩, ⟨2, true, "\\k<2>".toList⟩] := by
  obtain ⟨parsed, read, -⟩ : ∃ parsed, parse mixedReferences.toList = .ok parsed ∧ true :=
    Except.exists_ok_of_decide (by decide +kernel)
  exact ⟨parsed, read, numberedReference?_of_parse read (by decide +kernel), by decide +kernel⟩

/-- A reference to a group whose name starts with a digit. -/
def digitName : String := "(?<1a>x)\\k<1a>"

/-- The scan takes the name for a number, where the parser reads no reference by number. -/
theorem numberedReference?_digitName :
    ∃ parsed, parse digitName.toList = .ok parsed ∧
      references digitName.toList = [⟨1, false, "\\k<1a>".toList⟩] ∧
      numberedReference? digitName = some "\\k<1a>" := by
  obtain ⟨parsed, read, -⟩ : ∃ parsed, parse digitName.toList = .ok parsed ∧ true :=
    Except.exists_ok_of_decide (by decide +kernel)
  exact ⟨parsed, read, by decide +kernel, by decide +kernel⟩

end Pattern
end LineExtraction
