import LineExtraction.Proofs.Linear.ClassQueries
import LineExtraction.Proofs.Linear.Closing
import LineExtraction.Proofs.Linear.GroupNames
import LineExtraction.Proofs.Pattern.Scanning

/-!
# Scans for comments along the parser

Token by token the scan that looks for a comment at the end of a pattern follows the parser, as
long as it sees a class end where the parser does, and the header of a group.  Then it finds a
comment at the end of the pattern exactly where the parser is in one.
-/

namespace LineExtraction
namespace Linear

open Pattern (VerboseScan endsInComment openQueryGroup FlagHeader readFlagHeader isAsciiLetter
  cutClass endsInsideComment endsInComment_query endsInComment_bare endsInComment_leave
  endsInComment_escape endsInComment_bracket)

/-! ## Group headers -/

theorem flagValue?_append
    (flag : Flag)
    (enable : Bool)
    (front back : List FlagItem) :
    flagValue? flag enable (front ++ back) =
      (flagValue? flag enable front).or
        (flagValue? flag (enable && .negation ∉ front) back) := by
  induction front generalizing enable with
  | nil => simp [flagValue?]
  | cons item front inductionHypothesis =>
      cases item with
      | negation => simp [flagValue?, inductionHypothesis]
      | flag named =>
          rw [List.cons_append, flagValue?, flagValue?]
          split
          · rfl
          · simp [inductionHypothesis]

theorem flagValue?_of_not_mem
    {flag : Flag}
    {enable : Bool}
    {items : List FlagItem}
    (absent : .flag flag ∉ items) :
    flagValue? flag enable items = none := by
  induction items generalizing enable with
  | nil => rfl
  | cons item items inductionHypothesis =>
      obtain ⟨apart, others⟩ := not_or.mp (mt List.mem_cons.mpr absent)
      cases item with
      | negation => exact inductionHypothesis others
      | flag named =>
          rw [flagValue?, if_neg fun same => apart (congrArg FlagItem.flag same.symm),
            inductionHypothesis others]

theorem isAsciiLetter_of_flagOf?
    {char : Char}
    {flag : Flag}
    (letter : flagOf? char = some flag) :
    isAsciiLetter char ∧ char ≠ '-' ∧ (char = 'x' ↔ flag = .ignoreWhitespace) := by
  unfold flagOf? at letter
  split at letter
  all_goals cases letter
  all_goals exact ⟨by decide, by decide, by decide⟩

/-- Whether the scan finds the flags of a header, and the sign behind them that says whether they
are for a group. -/
def SeesFlags
    {text : List Char}
    (found : FlagHeader)
    (header : Read GroupHeader text) : Prop :=
  ∃ flags, found.verbose = flagValue? .ignoreWhitespace true flags ∧
    (header.value = .plain flags ∧ found.rest = ':' :: header.rest ∨
      header.value = .directive flags ∧ found.rest = ')' :: header.rest)

/-- The scan reads flags as the parser does. -/
theorem seesFlags_of_readFlags
    {items : List FlagItem}
    {text : List Char}
    {header : Read GroupHeader text}
    (read : readFlags items text = .ok header) :
    SeesFlags (readFlagHeader (.negation ∉ items)
      (flagValue? .ignoreWhitespace true items.reverse) text) header := by
  induction text generalizing items with
  | nil => cases read
  | cons char rest inductionHypothesis =>
      have goesOn {item : FlagItem}
          {shorter : rest.length ≤ (char :: rest).length}
          (read : (do return (← readFlags (item :: items) rest).weaken shorter) = .ok header)
          (step : readFlagHeader (.negation ∉ items)
              (flagValue? .ignoreWhitespace true items.reverse) (char :: rest) =
            readFlagHeader (.negation ∉ item :: items)
              (flagValue? .ignoreWhitespace true (item :: items).reverse) rest) :
          SeesFlags (readFlagHeader (.negation ∉ items)
            (flagValue? .ignoreWhitespace true items.reverse) (char :: rest)) header := by
        obtain ⟨inner, innerFound, read⟩ := Except.bind_eq_ok_iff.mp read
        obtain rfl := Except.ok.inj read
        rw [step]
        exact inductionHypothesis innerFound
      rw [readFlags] at read
      split at read
      · next ends =>
          have stops : readFlagHeader (.negation ∉ items)
              (flagValue? .ignoreWhitespace true items.reverse) (char :: rest) =
              ⟨flagValue? .ignoreWhitespace true items.reverse, char :: rest⟩ := by
            obtain rfl | rfl := ends <;> simp [readFlagHeader, isAsciiLetter]
          rw [stops]
          split at read
          · cases read
          split at read
          · next plain =>
              obtain rfl := Except.ok.inj read
              exact ⟨items.reverse, rfl, .inl ⟨rfl, congrArg (· :: rest) plain⟩⟩
          split at read
          · cases read
          · next notPlain _ =>
              obtain rfl := Except.ok.inj read
              exact ⟨items.reverse, rfl,
                .inr ⟨rfl, congrArg (· :: rest) (ends.resolve_left notPlain)⟩⟩
      · split at read
        · next negates =>
            split at read
            · cases read
            refine goesOn read ?_
            rw [readFlagHeader, if_pos negates, List.reverse_cons, flagValue?_append]
            simp [flagValue?]
        · next notNegates =>
            split at read
            · cases read
            next flag letter =>
              split at read
              · cases read
              next fresh =>
              refine goesOn read ?_
              obtain ⟨ascii, -, verbose⟩ := isAsciiLetter_of_flagOf? letter
              have absent : .flag flag ∉ items.reverse := by simpa using fresh
              rw [readFlagHeader, if_neg notNegates, List.reverse_cons, flagValue?_append]
              by_cases isVerbose : char = 'x'
              · obtain rfl := verbose.mp isVerbose
                rw [if_pos isVerbose, flagValue?_of_not_mem absent]
                simp [flagValue?]
              · rw [if_neg isVerbose, if_pos ascii]
                have other : flag ≠ .ignoreWhitespace := fun same => isVerbose (verbose.mpr same)
                simp [flagValue?, other]

/-- Behind a question mark a header says something. -/
theorem head?_ne_of_unnamed
    {text : List Char}
    {header : Read GroupHeader text}
    (read : readHeader text = .ok header)
    (unnamed : header.value = .unnamed) :
    text.head? ≠ some '?' := by
  unfold readHeader at read
  split at read
  case h_5 | h_6 =>
    obtain ⟨name, -, made⟩ := Except.bind_eq_ok_iff.mp read
    obtain rfl := Except.ok.inj made
    cases unnamed
  case h_8 =>
    obtain ⟨found, flagsRead, made⟩ := Except.bind_eq_ok_iff.mp read
    obtain rfl := Except.ok.inj made
    replace unnamed : found.value = .unnamed := unnamed
    obtain ⟨flags, -, ⟨value, -⟩ | ⟨value, -⟩⟩ := seesFlags_of_readFlags flagsRead
    · cases unnamed.symm.trans value
    · cases unnamed.symm.trans value
  case h_9 notQuery =>
    intro query
    obtain ⟨rest, same⟩ := List.head?_eq_some_iff.mp query
    exact notQuery rest same
  all_goals cases read

theorem eq_of_readNameChars
    {first : Bool}
    {text : List Char}
    {name : Read (List Char) text}
    (read : readNameChars first text = .ok name) :
    text = name.value ++ '>' :: name.rest := by
  induction text generalizing first with
  | nil => cases read
  | cons char rest inductionHypothesis =>
      rw [readNameChars] at read
      split at read
      · next ends =>
          obtain rfl := Except.ok.inj read
          exact congrArg (· :: rest) ends
      split at read
      · obtain ⟨inner, innerFound, read⟩ := Except.bind_eq_ok_iff.mp read
        obtain rfl := Except.ok.inj read
        exact congrArg (char :: ·) (inductionHypothesis innerFound)
      · cases read

theorem eq_of_readGroupName
    {text : List Char}
    {name : Read (List Char) text}
    (read : readGroupName text = .ok name) :
    text = name.value ++ '>' :: name.rest := by
  obtain ⟨found, foundRead, made⟩ := Except.bind_eq_ok_iff.mp read
  dsimp only at made
  split at made
  · cases made
  · obtain rfl := Except.ok.inj made
    exact eq_of_readNameChars foundRead

theorem commentBehind?_of_plain
    {verbose : Bool}
    {text : List Char}
    (plain : ∀ char ∈ text, char ∉ '#' :: landmarks) :
    commentBehind? verbose false text = some false := by
  induction text with
  | nil => rfl
  | cons char text inductionHypothesis =>
      obtain ⟨first, others⟩ := List.forall_mem_cons.mp plain
      obtain ⟨noHash, noLandmark⟩ := not_or.mp (mt List.mem_cons.mpr first)
      rw [commentBehind?, if_neg Bool.false_ne_true, if_neg noLandmark]
      simp only [noHash, false_and, decide_false]
      exact inductionHypothesis others

/-- A scan passes over the name of a group in which no bracket stands. -/
theorem endsInComment_name
    {scan : VerboseScan}
    (outside : scan.inComment = false)
    {sign name : List Char}
    (signed : ∀ char ∈ sign, char ∉ '#' :: landmarks)
    (spelled : IsSpelled name)
    (noBracket : '[' ∉ name)
    (more : List Char) :
    endsInComment scan (sign ++ (name ++ '>' :: more)) = endsInComment scan more := by
  have plain : ∀ char ∈ sign ++ (name ++ ['>']), char ∉ '#' :: landmarks := by
    have checked : ∀ char ∈ '#' :: landmarks, char ≠ '[' → char.toNat < 128 ∧
        ¬ (char = '_' ∨ char.isAlpha ∨
          (char = '.' ∨ char = '[' ∨ char = ']' ∨ char.isDigit)) := by
      decide
    intro char member
    rcases List.mem_append.mp member with front | member
    · exact signed char front
    rcases List.mem_append.mp member with inName | ends
    · intro landmark
      have apart : char ≠ '[' := fun same => noBracket (same ▸ inName)
      obtain ⟨ascii, refused⟩ := checked char landmark apart
      exact refused (((isNameChar_iff_of_ascii ascii false).mp (spelled char inName)).imp_right
        (Or.imp_right And.right))
    · rw [List.mem_singleton.mp ends]
      decide
  have passed := endsInComment_append (outside ▸ commentBehind?_of_plain plain) more
  simpa [← outside] using passed

/-! ## Tokens -/

/-- What a scan for comments knows where the parser is in a state. -/
def ParseState.scan (state : ParseState) : VerboseScan :=
  ⟨state.verbose, state.groups.map (·.verbose), false⟩

/-- Whether a scan for comments can follow a token: a class ends where the scan cuts it, the
header of a group stands right behind its parenthesis, and no bracket stands in a name. -/
def Lexeme.isFollowed
    (lexeme : Lexeme)
    (text rest : List Char) : Bool :=
  match lexeme with
  | .opens .unnamed => true
  | .opens (.named name) => text.head? = some '?' ∧ '[' ∉ name
  | .opens _ => text.head? = some '?'
  | .part (.bracketed _ _) => (cutClass text).left = rest
  | _ => true

section

variable {state next : ParseState} {text : List Char}

/-- The scan reads the header of a group as the parser does. -/
theorem endsInComment_header
    {header : Read GroupHeader text}
    (read : readHeader text = .ok header)
    (query : text.head? = some '?')
    (entered : state.enter header.value = .ok next)
    (noBracket : ∀ name, header.value = .named name → '[' ∉ name) :
    endsInComment state.scan ('(' :: text) = endsInComment next.scan header.rest := by
  have named (sign : List Char) {rest : List Char} {name : Read (List Char) rest}
      (signed : ∀ char ∈ sign, char ∉ '#' :: landmarks)
      (nameRead : readGroupName rest = .ok name)
      (entered : state.enter (.named name.value) = .ok next)
      (noBracket : '[' ∉ name.value)
      (opened : openQueryGroup state.scan (sign ++ rest) =
        (state.scan.enter state.scan.verbose, sign ++ rest)) :
      endsInComment state.scan ('(' :: '?' :: (sign ++ rest)) =
        endsInComment next.scan name.rest := by
    have same : next.scan = state.scan.enter state.scan.verbose := by
      rw [ParseState.enter] at entered
      split at entered
      · cases entered
      · obtain rfl := Except.ok.inj entered
        rfl
    have passes : endsInComment next.scan (sign ++ (name.value ++ '>' :: name.rest)) = _ :=
      endsInComment_name rfl signed (isSpelled_readGroupName nameRead) noBracket name.rest
    rw [← eq_of_readGroupName nameRead] at passes
    rw [endsInComment_query rfl, opened, ← same]
    exact passes
  unfold readHeader at read
  split at read
  case h_5 rest =>
    obtain ⟨name, nameRead, read⟩ := Except.bind_eq_ok_iff.mp read
    obtain rfl := Except.ok.inj read
    exact named ['P', '<'] (by decide) nameRead entered (noBracket name.value rfl)
      (by simp [openQueryGroup, readFlagHeader, isAsciiLetter])
  case h_6 rest _ _ =>
    obtain ⟨name, nameRead, read⟩ := Except.bind_eq_ok_iff.mp read
    obtain rfl := Except.ok.inj read
    exact named ['<'] (by decide) nameRead entered (noBracket name.value rfl)
      (by simp [openQueryGroup, readFlagHeader, isAsciiLetter])
  case h_8 rest _ _ _ _ _ _ _ =>
    obtain ⟨found, flagsRead, read⟩ := Except.bind_eq_ok_iff.mp read
    obtain rfl := Except.ok.inj read
    obtain ⟨flags, mode, sees⟩ := seesFlags_of_readFlags flagsRead
    replace mode : (readFlagHeader true none rest).verbose = _ := mode
    replace entered : state.enter found.value = .ok next := entered
    rw [endsInComment_query rfl, openQueryGroup]
    obtain ⟨value, ends⟩ | ⟨value, ends⟩ := sees
    · replace ends : (readFlagHeader true none rest).rest = _ := ends
      rw [value] at entered
      obtain rfl := Except.ok.inj entered
      simp only [ends, mode]
      rfl
    · replace ends : (readFlagHeader true none rest).rest = _ := ends
      rw [value] at entered
      obtain rfl := Except.ok.inj entered
      simp only [ends, mode]
      rfl
  case h_9 notQuery =>
    obtain ⟨rest, same⟩ := List.head?_eq_some_iff.mp query
    exact absurd same (notQuery rest)
  all_goals cases read

theorem skims_readLexeme
    {verbose : Bool}
    {first : Char}
    (plain : first ∉ landmarks)
    (text : List Char) :
    Skims verbose (readLexeme verbose first text) := by
  have apart (landmark : Char) (member : landmark ∈ landmarks) : first ≠ landmark :=
    fun same => plain (same ▸ member)
  unfold readLexeme
  split
  · exact absurd rfl (apart '(' (by decide))
  · exact absurd rfl (apart ')' (by decide))
  · exact skims_ok (.refl verbose text)
  · exact absurd rfl (apart '[' (by decide))
  · exact absurd rfl (apart '\\' (by decide))
  · exact skims_ok (.refl verbose text)
  · exact skims_ok (.refl verbose text)
  · exact skims_ok (.refl verbose text)
  · split
    · next found =>
        exact (skims_readQuantifier? _ found).change (.refl verbose text) fun _ => rfl
    · exact skims_ok (.refl verbose text)

theorem skipBlank_query
    (verbose : Bool)
    (rest : List Char) :
    skipBlank verbose ('?' :: rest) = '?' :: rest := by
  cases verbose with
  | false => rfl
  | true =>
      rw [skipBlank, if_pos rfl, skipComments, if_neg Bool.false_ne_true,
        if_neg (by decide +kernel), if_neg (by decide)]

theorem scan_of_keepsMode
    {lexeme : Lexeme}
    (keeps : lexeme.KeepsMode)
    (taken : state.take lexeme = .ok next) :
    next.scan = state.scan ∧ next.verbose = state.verbose := by
  obtain ⟨verbose, groups⟩ := keeps state next taken
  exact ⟨by rw [ParseState.scan, ParseState.scan, verbose, groups], verbose⟩

theorem isPlain_toAst_iff
    {primitive : Primitive} :
    primitive.toAst.IsPlain ↔ primitive.IsPlain := by
  cases primitive <;> rfl

/-- The scan follows the parser over a token: from some place in the token on it only passes over
what the parser still takes, with more text behind the token as well as without. -/
theorem endsInComment_readLexeme
    {first : Char}
    {lexeme : Read Lexeme text}
    {suffix : List Char}
    (quiet : state.verbose → first ≠ '#')
    (read : readLexeme state.verbose first text = .ok lexeme)
    (taken : state.take lexeme.value = .ok next)
    (followed : lexeme.value.isFollowed text lexeme.rest)
    (plain : lexeme.value.IsPlain)
    (closing : Closing suffix) :
    ∃ behind, endsInComment state.scan (first :: text) = endsInComment next.scan behind ∧
      Passes next.verbose behind lexeme.rest ∧
      ∀ more : Read Lexeme (text ++ suffix),
        readLexeme state.verbose first (text ++ suffix) = .ok more →
        more.value = lexeme.value → Passes next.verbose (behind ++ suffix) more.rest := by
  by_cases landmark : first ∈ landmarks
  · have kinds : first = '\\' ∨ first = '[' ∨ first = '(' ∨ first = ')' := by
      simpa [landmarks] using landmark
    obtain rfl | rfl | rfl | rfl := kinds
    · have same := scan_of_keepsMode (keepsMode_readLexeme read (by decide)) taken
      cases text with
      | nil => cases read
      | cons letter body =>
          obtain ⟨escape, found, made⟩ := Except.bind_eq_ok_iff.mp read
          obtain rfl := Except.ok.inj made
          rw [same.1, same.2]
          refine ⟨body, endsInComment_escape rfl letter body,
            passes_readEscape found (isPlain_toAst_iff.mp plain), ?_⟩
          intro more longer value
          obtain ⟨escape', found', made⟩ := Except.bind_eq_ok_iff.mp longer
          obtain rfl := Except.ok.inj made
          replace value : escape'.value.toAst = escape.value.toAst := Lexeme.part.inj value
          exact passes_readEscape found' (isPlain_toAst_iff.mp (by rw [value]; exact plain))
    · have same := scan_of_keepsMode (keepsMode_readLexeme read (by decide)) taken
      obtain ⟨parsed, found, made⟩ := Except.bind_eq_ok_iff.mp read
      obtain rfl := Except.ok.inj made
      have ends : (cutClass text).left = parsed.rest := of_decide_eq_true followed
      rw [same.1]
      refine ⟨parsed.rest, (endsInComment_bracket rfl text).trans (by rw [ends]), .refl _ _, ?_⟩
      intro more longer _
      obtain ⟨parsed', found', made⟩ := Except.bind_eq_ok_iff.mp longer
      obtain rfl := Except.ok.inj made
      obtain ⟨other, otherFound, -, rest⟩ :=
        extends_readBracketClass state.verbose text suffix parsed found
      obtain rfl := Except.ok.inj (otherFound.symm.trans found')
      exact rest ▸ .refl _ _
    · obtain ⟨header, found, made⟩ := Except.bind_eq_ok_iff.mp read
      obtain rfl := Except.ok.inj made
      replace taken : state.enter header.value = .ok next := taken
      by_cases query : text.head? = some '?'
      · obtain ⟨rest, shape⟩ := List.head?_eq_some_iff.mp query
        have skipped : skipBlank state.verbose text = text := by rw [shape, skipBlank_query]
        have sign : (skipBlank state.verbose text).head? = some '?' := skipped.symm ▸ query
        have noBracket (name : List Char) (named : header.value = .named name) : '[' ∉ name := by
          replace followed : (Lexeme.opens header.value).isFollowed text header.rest := followed
          rw [named] at followed
          exact (of_decide_eq_true followed).2
        refine ⟨header.rest, ?_, .refl _ _, ?_⟩
        · obtain ⟨inner, innerFound, made⟩ := Except.bind_eq_ok_iff.mp found
          obtain rfl := Except.ok.inj made
          exact (congrArg (fun rest => endsInComment state.scan ('(' :: rest)) skipped.symm).trans
            (endsInComment_header innerFound sign taken noBracket)
        · intro more longer _
          obtain ⟨header', found', made⟩ := Except.bind_eq_ok_iff.mp longer
          obtain rfl := Except.ok.inj made
          exact (rest_of_query found sign found').symm ▸ .refl _ _
      · have unnamed : header.value = .unnamed := by
          replace followed : (Lexeme.opens header.value).isFollowed text header.rest := followed
          cases value : header.value with
          | unnamed => rfl
          | named name =>
              rw [value] at followed
              exact absurd (of_decide_eq_true followed).1 query
          | _ =>
              rw [value] at followed
              exact absurd (of_decide_eq_true followed) query
        have bare : (skipBlank state.verbose text).head? ≠ some '?' := by
          obtain ⟨inner, innerFound, made⟩ := Except.bind_eq_ok_iff.mp found
          obtain rfl := Except.ok.inj made
          exact head?_ne_of_unnamed innerFound unnamed
        rw [unnamed] at taken
        obtain rfl := Except.ok.inj taken
        refine ⟨text, endsInComment_bare rfl query, ?_, ?_⟩
        · show Passes state.verbose text header.rest
          rw [(unnamed_of_readGroupHeader found bare).2]
          exact passes_skipBlank state.verbose text
        · intro more longer _
          obtain ⟨header', found', made⟩ := Except.bind_eq_ok_iff.mp longer
          obtain rfl := Except.ok.inj made
          have bare' := (behind_skipBlank state.verbose text suffix).head?_ne (.inr closing)
            (by decide) bare
          show Passes state.verbose (text ++ suffix) header'.rest
          rw [(unnamed_of_readGroupHeader found' bare').2]
          exact passes_skipBlank state.verbose (text ++ suffix)
    · obtain rfl := Except.ok.inj read
      cases groups : state.groups with
      | nil =>
          rw [ParseState.take, ParseState.leave, groups] at taken
          cases taken
      | cons group groups' =>
          rw [ParseState.take, ParseState.leave, groups] at taken
          obtain rfl := Except.ok.inj taken
          refine ⟨text, ?_, .refl _ text, ?_⟩
          · rw [endsInComment_leave rfl, ParseState.scan, groups]
            rfl
          · intro more longer _
            obtain rfl := Except.ok.inj longer
            exact .refl _ (text ++ suffix)
  · have keeps := keepsMode_readLexeme read
      ⟨fun same => landmark (same ▸ by decide), fun same => landmark (same ▸ by decide)⟩
    obtain ⟨scan, verbose⟩ := scan_of_keepsMode keeps taken
    rw [scan, verbose]
    refine ⟨text, ?_, skims_readLexeme landmark text lexeme read, fun more longer _ =>
      skims_readLexeme landmark (text ++ suffix) more longer⟩
    exact @endsInComment_append state.scan [first] false (commentBehind?_singleton landmark quiet)
      text

end

/-! ## Runs -/

/-- Whether a scan for comments can follow every token that the parser reads from a state on. -/
def isLegibleFrom (state : ParseState) (text : List Char) : Bool :=
  match skipped : skipBlank state.verbose text with
  | [] => true
  | first :: rest =>
    match readLexeme state.verbose first rest with
    | .error _ => true
    | .ok lexeme =>
      have : lexeme.rest.length < text.length :=
        Nat.lt_of_le_of_lt lexeme.shorter (length_lt_of_skipBlank skipped)
      match state.take lexeme.value with
      | .error _ => true
      | .ok next => lexeme.value.isFollowed rest lexeme.rest && isLegibleFrom next lexeme.rest
termination_by text.length

/-- Whether a scan for comments can follow every token that the parser reads off a pattern. -/
def isLegible (pattern : List Char) : Bool :=
  isLegibleFrom .start pattern

theorem isLegibleFrom_token
    {state next : ParseState}
    {first : Char}
    {text rest : List Char}
    {lexeme : Read Lexeme rest}
    (skipped : skipBlank state.verbose text = first :: rest)
    (read : readLexeme state.verbose first rest = .ok lexeme)
    (taken : state.take lexeme.value = .ok next) :
    isLegibleFrom state text =
      (lexeme.value.isFollowed rest lexeme.rest && isLegibleFrom next lexeme.rest) := by
  rw [isLegibleFrom]
  split
  · next ended => cases ended.symm.trans skipped
  next same =>
    obtain ⟨rfl, rfl⟩ := List.cons.inj (same.symm.trans skipped)
    simp only [read, taken]

/-- At the end of a pattern a scan is in a comment exactly if the parser overlooks a parenthesis,
if both come there without anything in between. -/
theorem endsInComment_iff_of_passes
    {last : ParseState}
    {text longer : List Char}
    (closed : last.groups = [])
    (passes : Passes last.verbose text [])
    (passesLonger : Passes last.verbose (text ++ [')']) longer)
    (behind : Behind last.verbose [')'] [] (skipBlank last.verbose longer)) :
    endsInComment last.scan text ↔ readTokens last longer = .ok last := by
  have ends := behind.parenthesis_cases.imp_right And.right
  rw [passes.endsInComment_iff (passesLonger.trans (passes_skipBlank last.verbose longer)) rfl ends]
  obtain seen | overlooked := ends
  · rw [seen, readTokens_parenthesis closed seen]
    exact iff_of_false (List.cons_ne_nil _ _) nofun
  · exact iff_of_true overlooked
      (readTokens_eq_ok_iff.mpr ⟨longer, .refl last longer, overlooked⟩)

/-- Where the scan can follow the parser, it finds a comment at the end of a text exactly if the
parser overlooks a parenthesis there. -/
theorem Reads.endsInComment_iff
    {state last : ParseState}
    {text rest : List Char}
    (reads : Reads state text last rest)
    (blank : skipBlank last.verbose rest = [])
    (closed : last.groups = [])
    (plain : last.IsPlain)
    (legible : isLegibleFrom state text) :
    endsInComment state.scan text ↔ readTokens state (text ++ [')']) = .ok last := by
  induction reads with
  | refl state text =>
      have behind := behind_skipBlank state.verbose text [')']
      rw [blank] at behind
      exact endsInComment_iff_of_passes closed (blank ▸ passes_skipBlank state.verbose text)
        (.refl _ _) behind
  | @token state next last text behindFirst rest first lexeme skipped read taken others
      inductionHypothesis =>
      rw [isLegibleFrom_token skipped read taken, Bool.and_eq_true] at legible
      obtain ⟨lexemePlain, -⟩ := ParseState.isPlain_of_take taken (others.isPlain plain)
      obtain ⟨more, longerRead, value, left⟩ :=
        continues_readLexeme state.verbose first behindFirst [')'] lexeme read (.inr closing_parenthesis)
      obtain ⟨behind, scans, passes, passesLonger⟩ := endsInComment_readLexeme
        (ne_hash_of_skipBlank skipped) read taken legible.1 lexemePlain closing_parenthesis
      replace passesLonger := passesLonger more longerRead value
      have started : endsInComment state.scan text = endsInComment next.scan behind := by
        rw [← scans, ← skipped]
        exact (passes_skipBlank state.verbose text).endsInComment_eq rfl
          (by rw [skipped]; exact List.cons_ne_nil _ _)
      have goesOn : readTokens state (text ++ [')']) = readTokens next more.rest := by
        rw [readTokens_of_lexeme (skipBlank_append [')'] skipped) longerRead, value, taken]
        rfl
      rw [started, goesOn]
      by_cases ended : lexeme.rest = []
      · have nothing := others
        rw [ended] at nothing
        obtain ⟨rfl, -⟩ := nothing.eq_of_nil
        have atEnd := behind_of_take read taken closed longerRead left
        rw [ended] at passes atEnd
        exact endsInComment_iff_of_passes closed passes passesLonger
          (atEnd.skipBlank (skipBlank_nil last.verbose))
      · rw [passes.endsInComment_eq rfl ended, left.eq_append ended]
        exact inductionHypothesis blank closed plain legible.2

/-- The scan finds a comment at the end of a legible pattern exactly where the parser is in one. -/
theorem endsInsideComment_iff
    {pattern : List Char}
    {last : ParseState}
    (read : readTokens .start pattern = .ok last)
    (closed : last.groups = [])
    (plain : last.IsPlain)
    (legible : isLegible pattern) :
    endsInsideComment pattern ↔ EndsInComment pattern := by
  obtain ⟨rest, reads, blank⟩ := readTokens_eq_ok_iff.mp read
  have agrees : endsInsideComment pattern ↔ _ :=
    reads.endsInComment_iff blank closed plain legible
  rw [agrees]
  constructor
  · exact fun longer => ⟨last, read, longer⟩
  · rintro ⟨other, found, longer⟩
    obtain rfl := Except.ok.inj (read.symm.trans found)
    exact longer

end Linear
end LineExtraction
