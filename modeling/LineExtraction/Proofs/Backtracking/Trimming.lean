import LineExtraction.Backtracking.Parser
import LineExtraction.Proofs.Outcome
import LineExtraction.Proofs.Pattern.Scanning
import LineExtraction.Proofs.Text.Yields

/-!
# What readers of the backtracking dialect leave

What is ignored, a quantifier and the header of a group are each taken off the front of a text,
so what is left is an end of the text.  An escape takes a letter and what belongs to it, and a
class is cut off where its bracket is, as long as no name of a class holds a bracket.
-/

namespace LineExtraction
namespace Backtracking

open Pattern (Lacks NamedClass insideSpecial lacks_of_isHexDigit lacks_append_iff cutClass
  cutClassBody cutClassBody_cons cutClassBody_lacking)

variable {verbose : Bool} {text : List Char}

/-- What stands behind the next character that a reader leaves. -/
theorem suffix_of_rest_eq_cons
    {α : Type}
    {read : Read α text}
    {first : Char}
    {rest : List Char}
    (inside : read.rest <:+ text)
    (left : read.rest = first :: rest) :
    rest <:+ text :=
  (List.suffix_cons first rest).trans (left ▸ inside)

/-! ## Ignored text -/

theorem trims_skipFrom
    (verbose : Bool)
    (skipping : Skipping)
    (text : List Char) :
    Trims (skipFrom verbose skipping text) := by
  fun_induction skipFrom verbose skipping text with
  | case1 rest inductionHypothesis =>
      exact inductionHypothesis.change (List.suffix_append ['(', '?', '#'] rest) fun _ => rfl
  | case2 char rest _ _ inductionHypothesis =>
      exact inductionHypothesis.change (List.suffix_cons char rest) fun _ => rfl
  | case3 char rest _ _ _ inductionHypothesis =>
      exact inductionHypothesis.change (List.suffix_cons char rest) fun _ => rfl
  | case4 => exact trims_ok List.suffix_rfl
  | case5 char rest next inductionHypothesis =>
      exact inductionHypothesis.change (List.suffix_cons char rest) fun _ => rfl
  | case6 rest inductionHypothesis =>
      exact inductionHypothesis.change (List.suffix_cons ')' rest) fun _ => rfl
  | case7 escaped rest inductionHypothesis =>
      exact inductionHypothesis.change (List.suffix_append ['\\', escaped] rest) fun _ => rfl
  | case8 char rest _ _ inductionHypothesis =>
      exact inductionHypothesis.change (List.suffix_cons char rest) fun _ => rfl
  | case9 => exact trims_error
  | case10 => exact trims_ok List.suffix_rfl

theorem trims_skipIgnored
    (verbose : Bool)
    (text : List Char) :
    Trims (skipIgnored verbose text) :=
  trims_skipFrom verbose .outside text

theorem suffix_of_skipIgnored?
    {blank : Read Unit text}
    (skipped : skipIgnored? verbose text = some blank) :
    blank.rest <:+ text := by
  refine trims_skipIgnored verbose text blank ?_
  cases found : skipIgnored verbose text with
  | error => simp [skipIgnored?, found, Except.toOption] at skipped
  | ok same =>
      simp only [skipIgnored?, found, Except.toOption, Option.some.injEq] at skipped
      rw [skipped]

/-! ## Runs -/

theorem readWhile_suffix
    (accepts : Char → Bool)
    (text : List Char) :
    (readWhile accepts text).rest <:+ text :=
  List.dropWhile_suffix accepts

/-- A run goes up to the first character that is not accepted. -/
theorem eq_of_readWhile
    {accepts : Char → Bool}
    {stop : Char}
    {rest : List Char}
    (left : (readWhile accepts text).rest = stop :: rest) :
    text = (readWhile accepts text).value ++ stop :: rest ∧
      (readWhile accepts text).value.all accepts ∧ accepts stop = false := by
  have dropped : text.dropWhile accepts = stop :: rest := left
  have whole : text.takeWhile accepts ++ text.dropWhile accepts = text :=
    List.takeWhile_append_dropWhile
  have refused := List.head?_dropWhile_not accepts text
  rw [dropped] at whole refused
  exact ⟨whole.symm, List.all_takeWhile, refused⟩

theorem suffix_of_readNumber?
    {number : Read Nat text}
    (read : readNumber? text = some number) :
    number.rest <:+ text := by
  obtain ⟨value, -, rfl⟩ := Option.map_eq_some_iff.mp read
  exact readWhile_suffix Char.isDigit text

/-! ## Quantifiers -/

theorem suffix_of_readLeastCount?
    {least : Read Nat text}
    (read : readLeastCount? text = some least) :
    least.rest <:+ text := by
  unfold readLeastCount? at read
  split at read
  · obtain rfl := Option.some.inj read
    exact List.suffix_rfl
  · exact suffix_of_readNumber? read

theorem readGreatestCount_suffix
    (text : List Char) :
    (readGreatestCount text).rest <:+ text := by
  unfold readGreatestCount
  split
  · next number read => exact suffix_of_readNumber? read
  · exact List.suffix_rfl

theorem suffix_of_readBrace?
    {counts : Counts}
    {brace : Read Counts text}
    (read : readBrace? verbose counts text = some brace) :
    brace.rest <:+ text := by
  obtain ⟨blank, skipped, read⟩ := Option.bind_eq_some_iff.mp read
  dsimp only at read
  split at read
  · next rest left =>
      obtain rfl := Option.some.inj read
      exact suffix_of_rest_eq_cons (suffix_of_skipIgnored? skipped) left
  · cases read

theorem suffix_of_readCounts?
    {counts : Read Counts text}
    (read : readCounts? verbose text = some counts) :
    counts.rest <:+ text := by
  obtain ⟨front, frontSkipped, read⟩ := Option.bind_eq_some_iff.mp read
  obtain ⟨least, leastRead, read⟩ := Option.bind_eq_some_iff.mp read
  obtain ⟨blank, blankSkipped, read⟩ := Option.bind_eq_some_iff.mp read
  have inside : blank.rest <:+ text :=
    (suffix_of_skipIgnored? blankSkipped).trans
      ((suffix_of_readLeastCount? leastRead).trans (suffix_of_skipIgnored? frontSkipped))
  dsimp only at read
  split at read
  · next rest left =>
      obtain rfl := Option.some.inj read
      exact (List.suffix_cons '\x7d' rest).trans (left ▸ inside)
  · next rest left =>
      obtain ⟨behind, behindSkipped, read⟩ := Option.bind_eq_some_iff.mp read
      obtain ⟨brace, braceRead, read⟩ := Option.bind_eq_some_iff.mp read
      obtain rfl := Option.some.inj read
      exact (suffix_of_readBrace? braceRead).trans ((readGreatestCount_suffix _).trans
        ((suffix_of_skipIgnored? behindSkipped).trans
          ((List.suffix_cons ',' rest).trans (left ▸ inside))))
  · cases read

theorem suffix_of_readQuantifierHead?
    {counts : Read Counts text}
    (read : readQuantifierHead? verbose text = some counts) :
    counts.rest <:+ text := by
  unfold readQuantifierHead? at read
  split at read
  case h_4 rest =>
    obtain ⟨braced, bracedRead, rfl⟩ := Option.map_eq_some_iff.mp read
    exact (suffix_of_readCounts? bracedRead).trans (List.suffix_cons '\x7b' rest)
  case h_5 => cases read
  all_goals
    obtain rfl := Option.some.inj read
    exact List.suffix_cons _ _

theorem readMark_suffix
    (wanted : Char)
    (text : List Char) :
    (readMark wanted text).rest <:+ text := by
  unfold readMark
  split
  · exact List.suffix_rfl
  · split
    · exact List.suffix_cons _ _
    · exact List.suffix_rfl

theorem trims_readQuantifier
    (verbose swapGreed repeatable : Bool)
    (text : List Char) :
    Trims (readQuantifier verbose swapGreed repeatable text) := by
  refine trims_bind fun front frontSkipped => ?_
  have inside := trims_skipIgnored verbose text front frontSkipped
  split
  · exact trims_ok inside
  next counts read =>
  split
  · exact trims_error
  refine trims_bind fun behind behindSkipped => trims_ok ?_
  exact (readMark_suffix '+' _).trans ((readMark_suffix '?' _).trans
    ((trims_skipIgnored verbose _ behind behindSkipped).trans
      ((suffix_of_readQuantifierHead? read).trans inside)))

/-! ## References -/

/-- What a name is made of, and what stands behind it. -/
theorem eq_of_readName
    {relative : Bool}
    {close : Char}
    {name : Read (List Char) text}
    (read : readName relative close text = .ok name) :
    text = name.value ++ close :: name.rest ∧
      ∀ char ∈ name.value, char = '-' ∨ char.isDigit ∨ isNameChar char := by
  have ends {char : Char} {filled : Prop} [Decidable filled] {made : Read (List Char) text}
      (read : (if char = close ∧ filled then .ok made
        else .error .groupNameInvalid : Except SyntaxError _) = .ok name) :
      char = close ∧ made = name := by
    split at read
    · next closes => exact ⟨closes.1, Except.ok.inj read⟩
    · cases read
  unfold readName at read
  dsimp only at read
  split at read
  · cases read
  next char rest left =>
  obtain ⟨rfl, rfl⟩ := ends read
  constructor
  · rw [List.append_assoc, ← left, readWhile, List.takeWhile_append_dropWhile]
    exact (List.prefix_iff_eq_append.mp (List.take_prefix _ _)).symm
  by_cases counted : relative ∧ text.head? = some '-'
  · obtain ⟨body, rfl⟩ := List.head?_eq_some_iff.mp counted.2
    simp only [if_pos counted]
    exact List.forall_mem_cons.mpr ⟨.inl rfl, fun char member =>
      .inr (.inl (List.all_eq_true.mp List.all_takeWhile char member))⟩
  · simp only [if_neg counted]
    exact fun char member => .inr (.inr (List.all_eq_true.mp List.all_takeWhile char member))

theorem trims_readName
    (relative : Bool)
    (close : Char)
    (text : List Char) :
    Trims (readName relative close text) := by
  intro name read
  obtain ⟨whole, -⟩ := eq_of_readName read
  exact (List.suffix_cons close name.rest).trans ⟨name.value, whole.symm⟩

theorem trims_readNamedReference
    (scope : Scope)
    (relative : Bool)
    (close : Char)
    (text : List Char) :
    Trims (readNamedReference scope relative close text) := by
  refine trims_bind fun name nameRead => ?_
  split
  · exact trims_ok (trims_readName relative close text name nameRead)
  · exact trims_error

theorem trims_readNumberedReference
    (scope : Scope)
    (text : List Char) :
    Trims (readNumberedReference scope text) := by
  unfold readNumberedReference
  split
  · next group read =>
      split
      · exact trims_ok (suffix_of_readNumber? read)
      · exact trims_error
  · exact trims_error

/-! ## Headers -/

theorem trims_readCloseParen
    (verbose : Bool)
    (text : List Char) :
    Trims (readCloseParen verbose text) := by
  refine trims_bind fun blank skipped => ?_
  dsimp only
  split
  · exact trims_error
  · next rest left =>
      exact trims_ok (suffix_of_rest_eq_cons (trims_skipIgnored verbose text blank skipped) left)
  · exact trims_error

theorem trims_readConditionEnd
    (verbose numbered : Bool)
    {group : Read Nat text}
    (inside : group.rest <:+ text) :
    Trims (readConditionEnd verbose numbered group) :=
  trims_bind fun close closeRead =>
    trims_ok ((trims_readCloseParen verbose group.rest close closeRead).trans inside)

theorem trims_readCondition
    (scope : Scope)
    (verbose : Bool)
    (text : List Char) :
    Trims (readCondition scope verbose text) := by
  have named (delimiter close : Char) (rest : List Char) :
      Trims (do
        let group ← readNamedReference scope true close rest
        readConditionEnd verbose false (group.weaken (Read.took_one rest)) :
        Except SyntaxError (Read GroupHeader (delimiter :: rest))) :=
    trims_bind fun group groupRead => trims_readConditionEnd verbose false
      ((trims_readNamedReference scope true close rest group groupRead).trans
        (List.suffix_cons delimiter rest))
  unfold readCondition
  split
  · exact trims_error
  · exact named _ _ _
  · exact named _ _ _
  · split
    · exact trims_bind fun group groupRead => trims_readConditionEnd verbose true
        (trims_readNumberedReference scope _ group groupRead)
    · exact trims_ok List.suffix_rfl

theorem trims_readFlagsEnd
    (whole text : List Char)
    (flags : Flags)
    (negated : Bool)
    (char : Char)
    (rest : List Char) :
    Trims (readFlagsEnd whole text flags negated char rest) := by
  unfold readFlagsEnd
  dsimp only
  split
  · split
    · exact trims_error
    · exact trims_ok List.suffix_rfl
  split
  · split
    · exact trims_error
    · exact trims_ok List.suffix_rfl
  · exact trims_error

theorem trims_readFlags
    (whole : List Char)
    (flags : Flags)
    (negated : Bool)
    (text : List Char) :
    Trims (readFlags whole flags negated text) := by
  induction size : text.length using Nat.strongRecOn generalizing flags negated text with
  | ind size inductionHypothesis =>
      rw [readFlags]
      refine trims_bind fun blank skipped => ?_
      dsimp only
      split
      · exact trims_error
      next char rest left =>
      have inside := suffix_of_rest_eq_cons (trims_skipIgnored _ text blank skipped) left
      have others (flags : Flags) (negated : Bool) : Trims (readFlags whole flags negated rest) :=
        inductionHypothesis _ (size ▸ blank.length_lt left) flags negated rest rfl
      split
      · exact trims_error
      split
      · exact (others _ _).change inside fun _ => rfl
      split
      · exact (others _ _).change inside fun _ => rfl
      · exact (trims_readFlagsEnd whole _ flags negated char rest).change inside fun _ => rfl

theorem trims_readHeader
    (scope : Scope)
    (flags : Flags)
    (text : List Char) :
    Trims (readHeader scope flags text) := by
  unfold readHeader
  split
  case h_5 rest _ _ =>
    exact (trims_readName false '>' rest).change (List.suffix_append ['?', '<'] rest) fun _ => rfl
  case h_6 rest =>
    exact (trims_readName false '>' rest).change (List.suffix_append ['?', 'P', '<'] rest)
      fun _ => rfl
  case h_7 rest =>
    exact (trims_readNamedReference scope false ')' rest).change
      (List.suffix_append ['?', 'P', '='] rest) fun _ => rfl
  case h_9 rest =>
    exact (trims_readCondition scope flags.verbose rest).change (List.suffix_append ['?', '('] rest)
      fun _ => rfl
  case h_10 rest _ _ _ _ _ _ _ _ _ =>
    exact (trims_readFlags rest flags false rest).change (List.suffix_cons '?' rest) fun _ => rfl
  all_goals exact trims_ok (by simp [List.suffix_cons_iff])

theorem trims_readGroupHeader
    (scope : Scope)
    (flags : Flags)
    (text : List Char) :
    Trims (readGroupHeader scope flags text) :=
  trims_bind fun blank skipped =>
    (trims_readHeader scope flags blank.rest).change
      (trims_skipIgnored flags.verbose text blank skipped) fun _ => rfl

/-! ## Escapes -/

/-- The letters of the escapes that name a Unicode class. -/
def unicodeLetters : List Char := ['p', 'P']

/-- The name of a Unicode class that stands at the front of a text, as far as its closing brace. -/
def unicodeNameOf : List Char → List Char
  | '\x7b' :: body => '\x7b' :: body.takeWhile (· ≠ '\x7d')
  | text => text.take 1

/-- Whether a text that belongs to an escape behind its letter holds no bracket and no backslash,
unless the name of a Unicode class does. -/
def ClearBody (letter : Char) (body : List Char) : Prop :=
  ∀ more, (letter ∈ unicodeLetters → Lacks insideSpecial (unicodeNameOf (body ++ more))) →
    Lacks insideSpecial body

theorem exists_lacking_of_readBracedHex
    {char : Read Char text}
    (read : readBracedHex text = .ok char) :
    ∃ body, text = body ++ char.rest ∧ Lacks insideSpecial body := by
  unfold readBracedHex at read
  dsimp only at read
  split at read
  · next rest left =>
      split at read
      · cases read
      obtain ⟨value, -, made⟩ := Except.bind_eq_ok_iff.mp read
      obtain rfl := Except.ok.inj made
      obtain ⟨whole, hex, -⟩ := eq_of_readWhile left
      refine ⟨(readWhile isHexDigit text).value ++ ['\x7d'], ?_, lacks_append_iff.mpr
        ⟨(lacks_of_isHexDigit hex).mono (by decide), by decide⟩⟩
      rw [List.append_assoc]
      exact whole
  · cases read

theorem exists_lacking_of_readHex
    {count : Nat}
    {char : Read Char text}
    (read : readHex count text = .ok char) :
    ∃ body, text = body ++ char.rest ∧ Lacks insideSpecial body := by
  unfold readHex at read
  dsimp only at read
  split at read
  · next digits =>
      obtain ⟨value, -, made⟩ := Except.bind_eq_ok_iff.mp read
      obtain rfl := Except.ok.inj made
      exact ⟨text.take count, (List.take_append_drop count text).symm,
        (lacks_of_isHexDigit digits.2).mono (by decide)⟩
  split at read
  · next behind _ =>
      obtain ⟨braced, bracedRead, made⟩ := Except.bind_eq_ok_iff.mp read
      obtain rfl := Except.ok.inj made
      obtain ⟨body, whole, lacks⟩ := exists_lacking_of_readBracedHex bracedRead
      exact ⟨'\x7b' :: body, congrArg ('\x7b' :: ·) whole,
        List.forall_mem_cons.mpr ⟨by decide, lacks⟩⟩
  · cases read

theorem exists_clear_of_readUnicodeName
    {letter : Char}
    (unicode : letter ∈ unicodeLetters)
    {name : Read (List Char) text}
    (read : readUnicodeName text = .ok name) :
    ∃ body, text = body ++ name.rest ∧ ClearBody letter body := by
  unfold readUnicodeName at read
  split at read
  · cases read
  · next behind =>
      dsimp only at read
      split at read
      · cases read
      next close rest left =>
      obtain rfl := Except.ok.inj read
      obtain ⟨whole, open', closes⟩ := eq_of_readWhile left
      obtain rfl : close = '\x7d' := by simpa using closes
      generalize (readWhile (· ≠ '\x7d') behind).value = inner at whole open'
      refine ⟨'\x7b' :: inner ++ ['\x7d'], ?_, fun more lacks => ?_⟩
      · exact congrArg ('\x7b' :: ·)
          (whole.trans (List.append_assoc inner ['\x7d'] rest).symm)
      · have taken : unicodeNameOf ('\x7b' :: inner ++ ['\x7d'] ++ more) = '\x7b' :: inner := by
          show '\x7b' :: (inner ++ ['\x7d'] ++ more).takeWhile (· ≠ '\x7d') = _
          rw [List.append_assoc, List.takeWhile_append_of_pos (List.all_eq_true.mp open')]
          simp
        exact lacks_append_iff.mpr ⟨taken ▸ lacks unicode, by decide⟩
  · next char rest plain =>
      obtain rfl := Except.ok.inj read
      refine ⟨[char], rfl, fun more lacks => ?_⟩
      have taken : unicodeNameOf ([char] ++ more) = [char] := by
        rw [List.singleton_append, unicodeNameOf]
        · rfl
        · intro body same
          exact plain (List.cons.inj same).1
      exact taken ▸ lacks unicode

/-- What an escape takes behind its letter. -/
theorem exists_clear_of_readCommonEscape
    {fold : Bool}
    {letter : Char}
    {escape : Read Escape text}
    (read : readCommonEscape fold letter text = .ok escape) :
    ∃ body, text = body ++ escape.rest ∧ ClearBody letter body := by
  have bare : ∃ body, text = body ++ text ∧ ClearBody letter body :=
    ⟨[], rfl, fun _ _ => List.forall_mem_nil _⟩
  have code {count : Nat} {char : Read Char text} (found : readHex count text = .ok char) :
      ∃ body, text = body ++ char.rest ∧ ClearBody letter body :=
    (exists_lacking_of_readHex found).imp fun _ both => both.imp_right fun lacks _ _ => lacks
  unfold readCommonEscape at read
  split at read
  case h_1 | h_2 =>
    obtain rfl := Except.ok.inj read
    exact bare
  case h_3 | h_4 | h_5 =>
    obtain ⟨char, charRead, made⟩ := Except.bind_eq_ok_iff.mp read
    obtain rfl := Except.ok.inj made
    exact code charRead
  case h_6 =>
    split at read
    · obtain rfl := Except.ok.inj read
      exact bare
    split at read
    · next unicode =>
        obtain ⟨name, nameRead, made⟩ := Except.bind_eq_ok_iff.mp read
        obtain rfl := Except.ok.inj made
        exact exists_clear_of_readUnicodeName (by simpa [unicodeLetters] using unicode.1) nameRead
    · obtain ⟨char, -, made⟩ := Except.bind_eq_ok_iff.mp read
      obtain rfl := Except.ok.inj made
      exact bare

/-- What an escape takes that is no reference. -/
theorem exists_clear_of_readEscape
    {scope : Scope}
    {fold inClass : Bool}
    {escape : Read Escape text}
    (read : readEscape scope fold inClass text = .ok escape)
    (noReference : ∀ group, escape.value.meaning ≠ .backreference group) :
    ∃ letter body, text = letter :: (body ++ escape.rest) ∧ ClearBody letter body := by
  unfold readEscape at read
  split at read
  · cases read
  next letter rest =>
  split at read
  · obtain ⟨group, -, made⟩ := Except.bind_eq_ok_iff.mp read
    obtain rfl := Except.ok.inj made
    exact absurd rfl (noReference group.value)
  split at read
  · obtain ⟨group, -, made⟩ := Except.bind_eq_ok_iff.mp read
    obtain rfl := Except.ok.inj made
    exact absurd rfl (noReference group.value)
  split at read
  · cases read
  split at read
  · obtain rfl := Except.ok.inj read
    exact ⟨letter, [], rfl, fun _ _ => List.forall_mem_nil _⟩
  · obtain ⟨common, commonRead, made⟩ := Except.bind_eq_ok_iff.mp read
    obtain rfl := Except.ok.inj made
    obtain ⟨body, whole, clear⟩ := exists_clear_of_readCommonEscape commonRead
    exact ⟨letter, body, congrArg (letter :: ·) whole, clear⟩

/-! ## Classes -/

/-- Whether no name of a Unicode class in a text holds a bracket or a backslash. -/
def hasClearNames : List Char → Bool
  | '\\' :: letter :: rest =>
    (letter ∈ unicodeLetters → Lacks insideSpecial (unicodeNameOf rest)) ∧ hasClearNames rest
  | _ :: rest => hasClearNames rest
  | [] => true

theorem hasClearNames_cons
    {char : Char}
    (plain : char ≠ '\\')
    (rest : List Char) :
    hasClearNames (char :: rest) = hasClearNames rest := by
  rw [hasClearNames.eq_2]
  rintro _ _ rfl _
  exact plain rfl

theorem hasClearNames_plain
    {front : List Char}
    (plain : ∀ char ∈ front, char ≠ '\\')
    (rest : List Char) :
    hasClearNames (front ++ rest) = hasClearNames rest := by
  induction front with
  | nil => rfl
  | cons char front inductionHypothesis =>
      obtain ⟨apart, others⟩ := List.forall_mem_cons.mp plain
      rw [List.cons_append, hasClearNames_cons apart, inductionHypothesis others]

/-- Where the names of an escape are clear, so are its body and what stands behind it. -/
theorem hasClearNames_escape
    {letter : Char}
    {body more : List Char}
    (clear : ClearBody letter body)
    (names : hasClearNames ('\\' :: letter :: (body ++ more))) :
    Lacks insideSpecial body ∧ hasClearNames more := by
  obtain ⟨own, others⟩ := of_decide_eq_true names
  have lacks := clear more own
  have plain (char : Char) (member : char ∈ body) : char ≠ '\\' := by
    rintro rfl
    exact lacks _ member (by decide)
  exact ⟨lacks, hasClearNames_plain plain more ▸ others⟩

/-- What the members of a class take is what the scan for the end of a class takes, as long as
the names of classes are clear. -/
theorem exists_cut_of_readClassMembers
    {scope : Scope}
    {fold : Bool}
    {depth : Nat}
    {members : Read (List Char) text}
    (read : readClassMembers scope fold depth text = .ok members) :
    ∃ front, text = front ++ members.rest ∧
      (hasClearNames front → cutClassBody depth text = ⟨front, members.rest⟩) := by
  induction size : text.length using Nat.strongRecOn generalizing depth text with
  | ind size inductionHypothesis =>
      subst size
      have goesOn {char : Char} {rest front left : List Char} {inner : Nat}
          (plain : char ≠ '\\')
          (step : cutClassBody depth (char :: rest) = (cutClassBody inner rest).extend [char])
          (others : rest = front ++ left ∧
            (hasClearNames front → cutClassBody inner rest = ⟨front, left⟩)) :
          ∃ front, char :: rest = front ++ left ∧
            (hasClearNames front → cutClassBody depth (char :: rest) = ⟨front, left⟩) := by
        refine ⟨char :: front, congrArg (char :: ·) others.1, fun names => ?_⟩
        rw [step, others.2 (hasClearNames_cons plain front ▸ names)]
        rfl
      rw [readClassMembers.eq_def] at read
      split at read
      · cases read
      · next rest =>
          obtain ⟨escape, escapeRead, read⟩ := Except.bind_eq_ok_iff.mp read
          obtain ⟨written, writtenFound, read⟩ := Except.bind_eq_ok_iff.mp read
          obtain ⟨others, othersRead, made⟩ := Except.bind_eq_ok_iff.mp read
          obtain rfl := Except.ok.inj made
          have noReference (group : Nat) : escape.value.meaning ≠ .backreference group := by
            intro same
            rw [Escape.inClass, same] at writtenFound
            cases writtenFound
          obtain ⟨letter, body, taken, clear⟩ := exists_clear_of_readEscape escapeRead noReference
          obtain ⟨front, whole, cut⟩ :=
            inductionHypothesis _ (Nat.lt_succ_of_le escape.shorter) othersRead rfl
          have split : rest = letter :: (body ++ front ++ others.rest) :=
            taken.trans (congrArg (letter :: ·)
              ((congrArg (body ++ ·) whole).trans (List.append_assoc ..).symm))
          refine ⟨'\\' :: letter :: (body ++ front), congrArg ('\\' :: ·) split, fun names => ?_⟩
          obtain ⟨lacks, frontNames⟩ := hasClearNames_escape clear names
          refine (congrArg (fun rest => cutClassBody depth ('\\' :: rest)) taken).trans ?_
          rw [cutClassBody, cutClassBody_lacking depth lacks, cut frontNames]
          rfl
      · next rest =>
          obtain ⟨others, othersRead, made⟩ := Except.bind_eq_ok_iff.mp read
          obtain rfl := Except.ok.inj made
          obtain ⟨front, found⟩ := inductionHypothesis _ (Nat.lt_succ_self _) othersRead rfl
          exact goesOn (by decide) rfl found
      · next rest =>
          split at read
          · obtain rfl := Except.ok.inj read
            exact ⟨[']'], rfl, fun _ => rfl⟩
          · next inner =>
              obtain ⟨others, othersRead, made⟩ := Except.bind_eq_ok_iff.mp read
              obtain rfl := Except.ok.inj made
              obtain ⟨front, found⟩ := inductionHypothesis _ (Nat.lt_succ_self _) othersRead rfl
              exact goesOn (by decide) rfl found
      · next char rest escapes opens closes =>
          obtain ⟨others, othersRead, made⟩ := Except.bind_eq_ok_iff.mp read
          obtain rfl := Except.ok.inj made
          obtain ⟨front, found⟩ := inductionHypothesis _ (Nat.lt_succ_self _) othersRead rfl
          have plain : char ∉ insideSpecial := by
            simpa [insideSpecial] using ⟨opens, closes, escapes⟩
          exact goesOn escapes (cutClassBody_cons depth plain rest) found

theorem readOptional_of_ne
    {wanted : Char}
    (other : text.head? ≠ some wanted) :
    ∃ shorter, readOptional wanted text = ⟨[], text, shorter⟩ := by
  cases text with
  | nil => exact ⟨_, rfl⟩
  | cons first rest => exact ⟨_, if_neg fun same => other (congrArg some same)⟩

/-- What may stand in front of the members of a class is told apart in the same way. -/
theorem cutClass_eq
    (text : List Char) :
    cutClass text =
      (cutClassBody 0 (readOptional ']' (readOptional '^' text).rest).rest).extend
        ((readOptional '^' text).value ++ (readOptional ']' (readOptional '^' text).rest).value) := by
  have absent {wanted : Char} {text : List Char} (other : ∀ rest, text ≠ wanted :: rest) :
      ∃ shorter, readOptional wanted text = ⟨[], text, shorter⟩ :=
    readOptional_of_ne fun head =>
      let ⟨rest, same⟩ := List.head?_eq_some_iff.mp head
      other rest same
  fun_cases cutClass text with
  | case1 rest => rfl
  | case2 rest unclosed =>
      obtain ⟨_, none⟩ := absent unclosed
      show _ = (cutClassBody 0 (readOptional ']' rest).rest).extend
        (['^'] ++ (readOptional ']' rest).value)
      rw [none]
      rfl
  | case3 rest => rfl
  | case4 text caret bare unclosed =>
      obtain ⟨_, noCaret⟩ := absent bare
      obtain ⟨_, noBracket⟩ := absent unclosed
      rw [noCaret]
      dsimp only
      rw [noBracket]
      rfl

/-- What may stand in front of the members is no escape. -/
theorem readOptional_append
    (wanted : Char)
    (text : List Char) :
    (readOptional wanted text).value ++ (readOptional wanted text).rest = text ∧
      ∀ char ∈ (readOptional wanted text).value, char = wanted := by
  unfold readOptional
  split
  · exact ⟨rfl, List.forall_mem_nil _⟩
  · split
    · next same => exact ⟨rfl, List.forall_mem_singleton.mpr same⟩
    · exact ⟨rfl, List.forall_mem_nil _⟩

/-- What a class takes is what the scan for its end takes, as long as the names of classes are
clear. -/
theorem exists_cut_of_readBracketClass
    {scope : Scope}
    {fold : Bool}
    {members : Read (List Char) text}
    (read : readBracketClass scope fold text = .ok members) :
    ∃ front, text = front ++ members.rest ∧
      (hasClearNames front → (cutClass text).left = members.rest) := by
  obtain ⟨others, othersRead, made⟩ := Except.bind_eq_ok_iff.mp read
  obtain rfl := Except.ok.inj made
  obtain ⟨front, whole, cut⟩ := exists_cut_of_readClassMembers othersRead
  obtain ⟨caretWhole, caretPlain⟩ := readOptional_append '^' text
  obtain ⟨bracketWhole, bracketPlain⟩ := readOptional_append ']' (readOptional '^' text).rest
  refine ⟨(readOptional '^' text).value ++ ((readOptional ']' (readOptional '^' text).rest).value ++
    front), ?_, fun names => ?_⟩
  · rw [List.append_assoc, List.append_assoc]
    refine caretWhole.symm.trans (congrArg _ (bracketWhole.symm.trans (congrArg _ whole)))
  · rw [hasClearNames_plain (fun char member => caretPlain char member ▸ by decide),
      hasClearNames_plain (fun char member => bracketPlain char member ▸ by decide)] at names
    rw [cutClass_eq, cut names]
    rfl

/-! ## Tokens -/

theorem trims_readKeyReference
    (scope : Scope)
    (text : List Char) :
    Trims (readKeyReference scope text) := by
  unfold readKeyReference
  split
  · exact (trims_readNamedReference scope true '\'' _).change (List.suffix_cons _ _) fun _ => rfl
  · exact (trims_readNamedReference scope true '>' _).change (List.suffix_cons _ _) fun _ => rfl
  · exact trims_error

theorem trims_readEscape
    (scope : Scope)
    (fold inClass : Bool)
    (text : List Char) :
    Trims (readEscape scope fold inClass text) := by
  unfold readEscape
  split
  · exact trims_error
  next letter rest =>
  split
  · exact trims_bind fun group groupRead =>
      trims_ok (trims_readNumberedReference scope (letter :: rest) group groupRead)
  split
  · exact trims_bind fun group groupRead =>
      trims_ok ((trims_readKeyReference scope rest group groupRead).trans
        (List.suffix_cons letter rest))
  split
  · exact trims_error
  split
  · exact trims_ok (List.suffix_cons letter rest)
  · refine trims_bind fun common commonRead => trims_ok ?_
    obtain ⟨body, whole, -⟩ := exists_clear_of_readCommonEscape commonRead
    exact List.IsSuffix.trans ⟨body, whole.symm⟩ (List.suffix_cons letter rest)

/-- What is left behind a token is an end of what stands behind its first character. -/
theorem trims_readToken
    (state : ParseState)
    (first : Char)
    (text : List Char) :
    Trims (readToken state first text) := by
  unfold readToken
  dsimp only
  split
  · split
    · exact trims_error
    · exact trims_bind fun header headerRead => trims_bind fun _ _ =>
        trims_ok (trims_readGroupHeader state.scope state.flags text header headerRead)
  · exact trims_bind fun _ _ => trims_ok List.suffix_rfl
  · exact trims_ok List.suffix_rfl
  · exact trims_error
  · exact trims_error
  · exact trims_error
  · refine trims_bind fun members membersRead => trims_ok ?_
    obtain ⟨front, whole, -⟩ := exists_cut_of_readBracketClass membersRead
    exact ⟨front, whole.symm⟩
  · exact trims_bind fun escape escapeRead =>
      trims_ok (trims_readEscape state.scope state.flags.fold false text escape escapeRead)
  all_goals exact trims_ok List.suffix_rfl

theorem trims_readBehind
    (progress : Progress)
    (text : List Char) :
    Trims (readBehind progress text) := by
  cases progress with
  | between state => exact trims_ok List.suffix_rfl
  | atom state atom =>
      exact trims_bind fun quantifier quantifierRead =>
        trims_ok (trims_readQuantifier _ _ _ text quantifier quantifierRead)

end Backtracking
end LineExtraction
