import LineExtraction.Linear.Reader.Escape
import LineExtraction.Linear.Reader.Quantifier
import LineExtraction.Pattern.Wrap
import LineExtraction.Proofs.Linear.Continuation

/-!
# What a scan for comments passes over

The scan that looks for a comment at the end of a pattern reads characters and knows no
grammar.  It passes over blanks, quantifiers and escapes as their readers do: none of the
characters that mean something to the scan stands in them, unless in a comment that the
readers pass over as well.
-/

namespace LineExtraction
namespace Linear

open Pattern (VerboseScan endsInComment)

/-! ## Texts that hold nothing but comments to a scan -/

/-- The characters that a scan for comments takes for the start or the end of something. -/
def landmarks : List Char := ['\\', '[', '(', ')']

/-- Whether a scan is in a comment behind a text, from inside of a comment or from outside.
There is no answer where a landmark stands outside of comments. -/
def commentBehind? (verbose inComment : Bool) : List Char → Option Bool
  | [] => some inComment
  | char :: rest =>
    if inComment then commentBehind? verbose (char ≠ '\n') rest
    else if char ∈ landmarks then none
    else commentBehind? verbose (char = '#' ∧ verbose) rest

theorem commentBehind?_append
    {verbose inComment middle : Bool}
    {front : List Char}
    (passed : commentBehind? verbose inComment front = some middle)
    (rest : List Char) :
    commentBehind? verbose inComment (front ++ rest) = commentBehind? verbose middle rest := by
  induction front generalizing inComment with
  | nil =>
      obtain rfl := Option.some.inj passed
      rfl
  | cons char front inductionHypothesis =>
      rw [commentBehind?] at passed
      rw [List.cons_append, commentBehind?]
      split at passed
      · next comment => rw [if_pos comment, inductionHypothesis passed]
      next outside =>
        split at passed
        · cases passed
        next plain => rw [if_neg outside, if_neg plain, inductionHypothesis passed]

/-- A scan goes on behind a text without landmarks. -/
theorem endsInComment_append
    {scan : VerboseScan}
    {front : List Char}
    {inComment : Bool}
    (passed : commentBehind? scan.verbose scan.inComment front = some inComment)
    (rest : List Char) :
    endsInComment scan (front ++ rest) = endsInComment { scan with inComment } rest := by
  induction front generalizing scan with
  | nil =>
      obtain rfl := Option.some.inj passed
      rfl
  | cons char front inductionHypothesis =>
      rw [commentBehind?] at passed
      rw [List.cons_append, endsInComment.eq_def]
      dsimp only
      split at passed
      · next comment =>
          rw [if_pos comment]
          exact @inductionHypothesis { scan with inComment := char ≠ '\n' } passed
      next outside =>
        split at passed
        · cases passed
        next plain =>
          have apart (landmark : Char) (member : landmark ∈ landmarks) : char ≠ landmark :=
            fun same => plain (same ▸ member)
          have goesOn :=
            @inductionHypothesis { scan with inComment := char = '#' ∧ scan.verbose } passed
          rw [if_neg outside, if_neg (apart '\\' (by decide)), if_neg (apart '[' (by decide)),
            if_neg (apart '(' (by decide)), if_neg (apart ')' (by decide)), ← goesOn]
          split
          · next opens => simp [opens]
          · next stays =>
              obtain ⟨verbose, enclosing, inComment⟩ := scan
              obtain rfl : inComment = false := Bool.eq_false_iff.mpr outside
              simp only [stays, decide_false]

/-- Whether a scan passes over a text up to its rest, where a comment is open only if nothing is
left. -/
def Passes (verbose : Bool) (text rest : List Char) : Prop :=
  ∃ front inComment, text = front ++ rest ∧
    commentBehind? verbose false front = some inComment ∧ (inComment → rest = [])

section

variable {verbose : Bool} {text middle rest : List Char}

theorem Passes.refl
    (verbose : Bool)
    (text : List Char) :
    Passes verbose text text :=
  ⟨[], false, rfl, rfl, nofun⟩

theorem Passes.trans
    (first : Passes verbose text middle)
    (second : Passes verbose middle rest) :
    Passes verbose text rest := by
  obtain ⟨front, comment, rfl, passed, ended⟩ := first
  obtain ⟨back, open', rfl, passed', ended'⟩ := second
  refine ⟨front ++ back, if comment then true else open', (List.append_assoc ..).symm, ?_, ?_⟩
  · rw [commentBehind?_append passed]
    cases comment with
    | false => exact passed'
    | true =>
        obtain ⟨rfl, -⟩ := List.append_eq_nil_iff.mp (ended rfl)
        rfl
  · cases comment with
    | false => exact ended'
    | true => exact fun _ => (List.append_eq_nil_iff.mp (ended rfl)).2

theorem commentBehind?_singleton
    {char : Char}
    (plain : char ∉ landmarks)
    (quiet : verbose → char ≠ '#') :
    commentBehind? verbose false [char] = some false := by
  have noComment : ¬ (char = '#' ∧ verbose) := fun ⟨same, mode⟩ => quiet mode same
  rw [commentBehind?, if_neg Bool.false_ne_true, if_neg plain, commentBehind?]
  simp only [noComment, decide_false]

theorem passes_cons
    {char : Char}
    (plain : char ∉ landmarks)
    (quiet : verbose → char ≠ '#')
    (rest : List Char) :
    Passes verbose (char :: rest) rest :=
  ⟨[char], false, rfl, commentBehind?_singleton plain quiet, nofun⟩

/-- A scan goes on behind what it passes over. -/
theorem Passes.endsInComment_eq
    {scan : VerboseScan}
    (passes : Passes scan.verbose text rest)
    (outside : scan.inComment = false)
    (left : rest ≠ []) :
    endsInComment scan text = endsInComment scan rest := by
  obtain ⟨front, inComment, rfl, passed, ended⟩ := passes
  obtain rfl : inComment = false := Bool.eq_false_iff.mpr fun comment => left (ended comment)
  rw [← outside] at passed
  rw [endsInComment_append passed]

/-- A scan is in a comment at the end of a text that it passes over exactly if it passes over
a parenthesis behind the text as well. -/
theorem Passes.endsInComment_iff
    {scan : VerboseScan}
    {left : List Char}
    (passes : Passes scan.verbose text [])
    (longer : Passes scan.verbose (text ++ [')']) left)
    (outside : scan.inComment = false)
    (ends : left = [')'] ∨ left = []) :
    endsInComment scan text ↔ left = [] := by
  obtain ⟨front, inComment, rfl, passed, -⟩ := passes
  obtain ⟨front', inComment', same, passed', ended⟩ := longer
  rw [List.append_nil] at same ⊢
  have scanned : endsInComment scan (front ++ []) = inComment := by
    rw [endsInComment_append (outside.symm ▸ passed), endsInComment.eq_def]
  rw [List.append_nil] at scanned
  rw [scanned]
  obtain rfl | rfl := ends
  · obtain rfl := List.append_cancel_right same
    obtain rfl := Option.some.inj (passed.symm.trans passed')
    exact ⟨fun comment => absurd (ended comment) (List.cons_ne_nil _ _), nofun⟩
  · rw [List.append_nil] at same
    subst same
    rw [commentBehind?_append passed] at passed'
    refine iff_of_true ?_ rfl
    refine Decidable.byContradiction fun outside => ?_
    rw [commentBehind?, if_neg outside, if_pos (by decide)] at passed'
    cases passed'

end

/-! ## Blanks -/

theorem not_mem_landmarks_of_isWhiteSpace
    {char : Char}
    (blank : Unicode.isWhiteSpace char) :
    char ∉ landmarks := by
  have checked : landmarks.all fun char => !Unicode.isWhiteSpace char := by decide +kernel
  intro member
  have solid := List.all_eq_true.mp checked char member
  rw [blank] at solid
  cases solid

theorem ne_hash_of_isWhiteSpace
    {char : Char}
    (blank : Unicode.isWhiteSpace char) :
    char ≠ '#' := by
  rintro rfl
  exact absurd blank (by decide +kernel)

theorem passes_skipBlank
    (verbose : Bool)
    (text : List Char) :
    Passes verbose text (skipBlank verbose text) := by
  have skips (inComment : Bool) (text : List Char) :
      ∃ front stillOpen, text = front ++ skipComments inComment text ∧
        commentBehind? true inComment front = some stillOpen ∧
        (stillOpen → skipComments inComment text = []) := by
    fun_induction skipComments inComment text with
    | case1 inComment => exact ⟨[], inComment, rfl, rfl, fun _ => rfl⟩
    | case2 char rest inductionHypothesis =>
        obtain ⟨front, stillOpen, same, passed, ended⟩ := inductionHypothesis
        exact ⟨char :: front, stillOpen, congrArg (char :: ·) same, passed, ended⟩
    | case3 inComment char rest outside blank inductionHypothesis =>
        obtain ⟨front, stillOpen, same, passed, ended⟩ := inductionHypothesis
        refine ⟨char :: front, stillOpen, congrArg (char :: ·) same, ?_, ended⟩
        rw [commentBehind?, if_neg outside, if_neg (not_mem_landmarks_of_isWhiteSpace blank)]
        simpa [ne_hash_of_isWhiteSpace blank] using passed
    | case4 inComment rest outside notBlank inductionHypothesis =>
        obtain ⟨front, stillOpen, same, passed, ended⟩ := inductionHypothesis
        refine ⟨'#' :: front, stillOpen, congrArg ('#' :: ·) same, ?_, ended⟩
        rw [commentBehind?, if_neg outside, if_neg (by decide)]
        exact passed
    | case5 inComment char rest outside =>
        exact ⟨[], inComment, rfl, rfl, fun comment => absurd comment outside⟩
  cases verbose with
  | false => exact .refl false text
  | true => exact skips false text

/-- No comment starts behind skipped blanks. -/
theorem ne_hash_of_skipBlank
    {verbose : Bool}
    {text rest : List Char}
    {first : Char}
    (skipped : skipBlank verbose text = first :: rest) :
    verbose → first ≠ '#' := by
  have apart (inComment : Bool) (text : List Char)
      (skipped : skipComments inComment text = first :: rest) : first ≠ '#' := by
    fun_induction skipComments inComment text with
    | case1 => cases skipped
    | case2 _ _ inductionHypothesis => exact inductionHypothesis skipped
    | case3 _ _ _ _ _ inductionHypothesis => exact inductionHypothesis skipped
    | case4 _ _ _ _ inductionHypothesis => exact inductionHypothesis skipped
    | case5 _ _ _ _ _ notHash =>
        obtain ⟨rfl, -⟩ := List.cons.inj skipped
        exact notHash
  rintro rfl
  exact apart false text skipped

/-- A scan passes over blanks and the character behind them. -/
theorem passes_of_skipBlank_eq_cons
    {verbose : Bool}
    {text rest : List Char}
    {first : Char}
    (skipped : skipBlank verbose text = first :: rest)
    (plain : first ∉ landmarks) :
    Passes verbose text rest :=
  (skipped ▸ passes_skipBlank verbose text).trans
    (passes_cons plain (ne_hash_of_skipBlank skipped) rest)

theorem passes_skipWhiteSpace
    (verbose : Bool)
    (text : List Char) :
    Passes verbose text (skipWhiteSpace text) := by
  induction text with
  | nil => exact .refl verbose []
  | cons char rest inductionHypothesis =>
      rw [skipWhiteSpace, List.dropWhile_cons]
      split
      · next blank =>
          exact (passes_cons (not_mem_landmarks_of_isWhiteSpace blank)
            (fun _ => ne_hash_of_isWhiteSpace blank) rest).trans inductionHypothesis
      · exact .refl verbose (char :: rest)

theorem passes_skipAround
    (verbose : Bool)
    (text : List Char) :
    Passes verbose text (skipAround verbose text) := by
  fun_induction skipAround verbose text with
  | case1 => exact .refl verbose []
  | case2 char rest blank inductionHypothesis =>
      exact (passes_cons (not_mem_landmarks_of_isWhiteSpace blank)
        (fun _ => ne_hash_of_isWhiteSpace blank) rest).trans
        ((passes_skipBlank verbose rest).trans inductionHypothesis)
  | case3 char rest => exact .refl verbose (char :: rest)

/-- A scan passes over a run of characters among which there is no landmark.  Verbose mode lets
no comment start in a run that goes on behind blanks. -/
theorem passes_readRun
    {verbose : Bool}
    {accepts : Char → Bool}
    {text : List Char}
    (plain : ∀ char ∈ (readRun verbose accepts text).value, char ∉ landmarks)
    (quiet : verbose → accepts '#' → text.head? ≠ some '#') :
    Passes verbose text (readRun verbose accepts text).rest := by
  fun_induction readRun verbose accepts text with
  | case1 verbose => exact .refl verbose []
  | case2 verbose accepts char rest accepted shorter run inductionHypothesis =>
      obtain ⟨first, others⟩ := List.forall_mem_cons.mp plain
      have noHash : verbose → char ≠ '#' := by
        rintro mode rfl
        exact quiet mode accepted rfl
      have further : verbose → accepts '#' → (skipBlank verbose rest).head? ≠ some '#' := by
        intro mode _ head
        obtain ⟨more, skipped⟩ := List.head?_eq_some_iff.mp head
        exact ne_hash_of_skipBlank skipped mode rfl
      exact (passes_cons first noHash rest).trans
        ((passes_skipBlank verbose rest).trans (inductionHypothesis others further))
  | case3 verbose accepts char rest => exact .refl verbose (char :: rest)

theorem readRun_accepted
    {verbose : Bool}
    {accepts : Char → Bool}
    {text : List Char} :
    ∀ char ∈ (readRun verbose accepts text).value, accepts char := by
  fun_induction readRun verbose accepts text with
  | case1 => exact List.forall_mem_nil _
  | case2 verbose accepts char rest accepted shorter run inductionHypothesis =>
      exact List.forall_mem_cons.mpr ⟨accepted, inductionHypothesis⟩
  | case3 => exact List.forall_mem_nil _

/-- A run ends where a character is not accepted. -/
theorem readRun_refused
    {verbose : Bool}
    {accepts : Char → Bool}
    {text rest : List Char}
    {first : Char}
    (ends : (readRun verbose accepts text).rest = first :: rest) :
    ¬ accepts first := by
  fun_induction readRun verbose accepts text with
  | case1 => cases ends
  | case2 _ _ _ _ _ _ _ inductionHypothesis => exact inductionHypothesis ends
  | case3 _ _ _ _ refused =>
      obtain ⟨rfl, -⟩ := List.cons.inj ends
      exact refused

/-- A scan passes over a run of characters that are no landmarks and start no comment. -/
theorem passes_readRun_of_accepted
    (verbose : Bool)
    {accepts : Char → Bool}
    (refuses : ('#' :: landmarks).all fun char => !accepts char)
    (text : List Char) :
    Passes verbose text (readRun verbose accepts text).rest := by
  have refused (char : Char) (member : char ∈ '#' :: landmarks) : ¬ accepts char := by
    simpa using List.all_eq_true.mp refuses char member
  refine passes_readRun (fun char member landmark => ?_) fun _ accepted => ?_
  · exact refused char (List.mem_cons_of_mem _ landmark) (readRun_accepted char member)
  · exact absurd accepted (refused '#' List.mem_cons_self)

/-! ## Readers that a scan passes over -/

/-- Whether a scan passes over all that a reader takes. -/
def Skims
    {α : Type}
    {text : List Char}
    (verbose : Bool)
    (result : Except SyntaxError (Read α text)) : Prop :=
  ∀ read, result = .ok read → Passes verbose text read.rest

section

variable {α β : Type} {verbose : Bool} {text text' : List Char}

theorem skims_error
    {cause : SyntaxError} :
    Skims verbose (.error cause : Except SyntaxError (Read α text)) :=
  fun _ found => nomatch found

theorem skims_ok
    {read : Read α text}
    (passes : Passes verbose text read.rest) :
    Skims verbose (.ok read) := by
  intro other found
  obtain rfl := Except.ok.inj found
  exact passes

theorem skims_bind
    {γ : Type}
    {value : Except SyntaxError γ}
    {next : γ → Except SyntaxError (Read α text)}
    (skims : ∀ found, value = .ok found → Skims verbose (next found)) :
    Skims verbose (value >>= next) := by
  cases value with
  | error cause => exact skims_error
  | ok found => exact skims found rfl

/-- What keeps the rest of a reader is passed over from where the reader's text is reached. -/
theorem Skims.change
    {result : Except SyntaxError (Read α text)}
    (skims : Skims verbose result)
    {change : Read α text → Read β text'}
    (reached : Passes verbose text' text)
    (rest : ∀ read, (change read).rest = read.rest) :
    Skims verbose (do return change (← result)) :=
  skims_bind fun read found => skims_ok (rest read ▸ reached.trans (skims read found))

end

/-! ## Quantifiers -/

theorem passes_readLaziness
    (verbose : Bool)
    (text : List Char) :
    Passes verbose text (readLaziness text).rest := by
  unfold readLaziness
  split
  · exact passes_cons (by decide) (fun _ => by decide) _
  · exact .refl verbose text

theorem passes_readCount
    (verbose : Bool)
    (text : List Char) :
    Passes verbose text (readCount verbose text).rest :=
  (passes_skipWhiteSpace verbose text).trans
    ((passes_readRun_of_accepted verbose (by decide) _).trans (passes_skipAround verbose _))

theorem skims_readCountEnd
    (verbose : Bool)
    (min : Nat)
    (max : Option Nat)
    (text : List Char) :
    Skims verbose (readCountEnd verbose min max text) := by
  unfold readCountEnd
  split
  · next rest =>
      dsimp only
      split
      · exact skims_error
      · exact skims_ok ((passes_cons (by decide) (fun _ => by decide) rest).trans
          ((passes_skipBlank verbose rest).trans (passes_readLaziness verbose _)))
  · exact skims_error

theorem skims_readCounted
    (verbose : Bool)
    (text : List Char) :
    Skims verbose (readCounted verbose text) := by
  unfold readCounted
  split
  · exact skims_error
  have low : Passes verbose text (readCount verbose (skipBlank verbose text)).rest :=
    (passes_skipBlank verbose text).trans (passes_readCount verbose _)
  dsimp only
  split
  · exact skims_error
  · next behind comma =>
      rw [comma] at low
      have reached : Passes verbose text (skipBlank verbose behind) :=
        low.trans ((passes_cons (by decide) (fun _ => by decide) behind).trans
          (passes_skipBlank verbose behind))
      split
      · exact skims_error
      · next rest closes =>
          exact skims_bind fun min _ =>
            (skims_readCountEnd verbose min none _).change (closes ▸ reached) fun _ => rfl
      · next first rest _ next =>
          refine skims_bind fun min _ => skims_bind fun max _ => ?_
          exact (skims_readCountEnd verbose min (some max) _).change
            ((next ▸ reached).trans (passes_readCount verbose _)) fun _ => rfl
  · next first rest _ next =>
      exact skims_bind fun min _ =>
        (skims_readCountEnd verbose min (some min) _).change (next ▸ low) fun _ => rfl

theorem skims_readQuantifier?
    {verbose : Bool}
    {first : Char}
    {text : List Char} :
    ∀ quantifier ∈ readQuantifier? verbose first text, Skims verbose quantifier := by
  unfold readQuantifier?
  split
  · rintro _ ⟨⟩
    exact skims_ok (passes_readLaziness verbose text)
  · rintro _ ⟨⟩
    exact skims_ok (passes_readLaziness verbose text)
  · rintro _ ⟨⟩
    exact skims_ok (passes_readLaziness verbose text)
  · rintro _ ⟨⟩
    exact skims_readCounted verbose text
  · exact nofun

/-! ## Escapes -/

theorem skims_readHexDigits
    (verbose : Bool)
    (count : Nat)
    (text : List Char) :
    Skims verbose (readHexDigits verbose count text) := by
  have checked : ('#' :: landmarks).all fun char => !isHexDigit char := by decide
  induction count generalizing text with
  | zero => exact skims_ok (.refl verbose text)
  | succ count inductionHypothesis =>
      cases text with
      | nil => exact skims_error
      | cons char rest =>
          rw [readHexDigits]
          split
          · next digit =>
              have apart (char' : Char) (member : char' ∈ '#' :: landmarks) : char ≠ char' := by
                rintro rfl
                simpa [digit] using List.all_eq_true.mp checked char member
              have plain : char ∉ landmarks := fun landmark =>
                apart char (List.mem_cons_of_mem _ landmark) rfl
              exact (inductionHypothesis _).change
                ((passes_cons plain (fun _ => apart '#' List.mem_cons_self) rest).trans
                  (passes_skipBlank verbose rest)) fun _ => rfl
          · exact skims_error

theorem skims_readBracedHex
    (verbose : Bool)
    (text : List Char) :
    Skims verbose (readBracedHex verbose text) := by
  unfold readBracedHex
  dsimp only
  split
  · exact skims_error
  · next behind ends =>
      have reached : Passes verbose text ('\x7d' :: behind) :=
        ends ▸ (passes_skipBlank verbose text).trans
          (passes_readRun_of_accepted verbose (by decide) _)
      split
      · exact skims_error
      · exact skims_bind fun char _ => skims_ok (reached.trans
          ((passes_cons (by decide) (fun _ => by decide) behind).trans
            (passes_skipBlank verbose behind)))
  · exact skims_error

theorem skims_readHex
    (verbose : Bool)
    (count : Nat)
    (text : List Char) :
    Skims verbose (readHex verbose count text) := by
  unfold readHex
  split
  · exact skims_error
  · next body skipped =>
      exact (skims_readBracedHex verbose body).change
        (passes_of_skipBlank_eq_cons skipped (by decide)) fun _ => rfl
  · next first body _ skipped =>
      refine skims_bind fun digits found => skims_bind fun char _ => skims_ok ?_
      exact (skipped ▸ passes_skipBlank verbose text).trans
        (skims_readHexDigits verbose count _ digits found)

theorem skims_readWordBoundary
    (verbose : Bool)
    (text : List Char) :
    Skims verbose (readWordBoundary verbose text) := by
  unfold readWordBoundary
  split
  · next body =>
      have named : Passes verbose ('\x7b' :: body)
          (readRun verbose isBoundaryChar (skipBlank verbose body)).rest :=
        (passes_cons (by decide) (fun _ => by decide) body).trans
          ((passes_skipBlank verbose body).trans
            (passes_readRun_of_accepted verbose (by decide) _))
      dsimp only
      split
      · exact skims_error
      split
      · exact skims_ok (.refl verbose ('\x7b' :: body))
      split
      · next rest ends =>
          split
          · exact skims_ok ((ends ▸ named).trans
              (passes_cons (by decide) (fun _ => by decide) rest))
          · exact skims_error
      · exact skims_error
  · exact skims_ok (.refl verbose _)

/-! ### Classes by name -/

/-- Whether there is no landmark among the characters that a query asks by. -/
def ClassQuery.IsPlain : ClassQuery → Prop
  | .named name => ∀ char ∈ name, char ∉ landmarks
  | .valued property value => ∀ char ∈ property ++ value, char ∉ landmarks

/-- Whether what an escape stands for is not asked for by a landmark. -/
def Primitive.IsPlain : Primitive → Prop
  | .unicode _ query => query.IsPlain
  | _ => True

theorem eq_of_splitAt?
    {separator text : List Char}
    {parts : List Char × List Char}
    (found : splitAt? separator text = some parts) :
    text = parts.1 ++ (separator ++ parts.2) := by
  induction text generalizing parts with
  | nil => cases found
  | cons char rest inductionHypothesis =>
      rw [splitAt?] at found
      split at found
      · next starts =>
          obtain rfl := Option.some.inj found
          obtain ⟨behind, same⟩ := List.isPrefixOf_iff_prefix.mp starts
          rw [← same, List.drop_left]
          rfl
      · obtain ⟨inner, innerFound, rfl⟩ := Option.map_eq_some_iff.mp found
        exact congrArg (char :: ·) (inductionHypothesis innerFound)

theorem plain_of_isPlain_classOfName
    {negated : Bool}
    {name : List Char}
    (plain : (classOfName negated name).IsPlain) :
    ∀ char ∈ name, char ∉ landmarks := by
  have assembled {separator : List Char} {parts : List Char × List Char}
      (found : splitAt? separator name = some parts)
      (free : separator.all fun char => char ∉ landmarks)
      (clear : ∀ char ∈ parts.1 ++ parts.2, char ∉ landmarks) :
      ∀ char ∈ name, char ∉ landmarks := by
    intro char member
    rw [eq_of_splitAt? found] at member
    rcases List.mem_append.mp member with front | member
    · exact clear char (List.mem_append_left _ front)
    rcases List.mem_append.mp member with between | back
    · exact of_decide_eq_true (List.all_eq_true.mp free char between)
    · exact clear char (List.mem_append_right _ back)
  unfold classOfName at plain
  split at plain
  · next found => exact assembled found (by decide) plain
  · split at plain
    · next found =>
        rcases Option.or_eq_some_iff.mp found with found | ⟨-, found⟩
        · exact assembled found (by decide) plain
        · exact assembled found (by decide) plain
    · exact plain

theorem passes_readUnicodeClass
    {verbose negated : Bool}
    {text : List Char}
    {read : Read Primitive text}
    (found : readUnicodeClass verbose negated text = .ok read)
    (plain : read.value.IsPlain) :
    Passes verbose text read.rest := by
  unfold readUnicodeClass at found
  split at found
  · cases found
  · next body skipped =>
      dsimp only at found
      split at found
      · cases found
      · next last rest ends =>
          obtain rfl := Except.ok.inj found
          have closes : last = '\x7d' := by simpa using readRun_refused ends
          subst closes
          have named : Passes verbose (skipBlank verbose body) ('\x7d' :: rest) := by
            rw [← ends]
            refine passes_readRun (plain_of_isPlain_classOfName plain) fun mode _ head => ?_
            obtain ⟨more, same⟩ := List.head?_eq_some_iff.mp head
            exact ne_hash_of_skipBlank same mode rfl
          exact (passes_of_skipBlank_eq_cons skipped (by decide)).trans
            ((passes_skipBlank verbose body).trans
              (named.trans (passes_cons (by decide) (fun _ => by decide) rest)))
  · cases found
  · next letter rest _ _ skipped =>
      obtain rfl := Except.ok.inj found
      exact passes_of_skipBlank_eq_cons skipped (plain letter (List.mem_singleton_self letter))

/-- A scan passes over an escape from behind its letter. -/
theorem passes_readEscape
    {verbose : Bool}
    {letter : Char}
    {text : List Char}
    {read : Read Primitive (letter :: text)}
    (found : readEscape verbose (letter :: text) = .ok read)
    (plain : read.value.IsPlain) :
    Passes verbose text read.rest := by
  have weakened {α : Type} {reader : Except SyntaxError (Read α text)}
      (skims : Skims verbose reader)
      {change : Read α text → Read Primitive (letter :: text)}
      (rest : ∀ inner, (change inner).rest = inner.rest)
      (found : (do return change (← reader)) = .ok read) : Passes verbose text read.rest := by
    obtain ⟨inner, innerFound, found⟩ := Except.bind_eq_ok_iff.mp found
    obtain rfl := Except.ok.inj found
    exact rest inner ▸ skims inner innerFound
  simp only [readEscape] at found
  split at found
  · cases found
  split at found
  · exact weakened (skims_readHex verbose 2 text) (fun _ => rfl) found
  split at found
  · exact weakened (skims_readHex verbose 4 text) (fun _ => rfl) found
  split at found
  · exact weakened (skims_readHex verbose 8 text) (fun _ => rfl) found
  split at found
  · obtain ⟨inner, innerFound, found⟩ := Except.bind_eq_ok_iff.mp found
    obtain rfl := Except.ok.inj found
    exact passes_readUnicodeClass innerFound plain
  split at found
  · exact weakened (skims_readWordBoundary verbose text) (fun _ => rfl) found
  split at found
  · obtain rfl := Except.ok.inj found
    exact .refl verbose text
  · cases found

end Linear
end LineExtraction
