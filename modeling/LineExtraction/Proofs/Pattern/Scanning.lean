import LineExtraction.Pattern.Wrap
import LineExtraction.Proofs.Pattern.NameCharacter
import LineExtraction.Proofs.Pattern.Phrase

/-!
# Scans of phrases

The scans of pattern text read characters and know no grammar.  On the text of a phrase they
go right all the same: a class is cut behind its own bracket, a group behind its own
parenthesis, and no comment is ever open.
-/

namespace LineExtraction
namespace Pattern

/-- None of some characters stands in a text. -/
def Lacks (special text : List Char) : Prop := ∀ char ∈ text, char ∉ special

instance (special text : List Char) : Decidable (Lacks special text) :=
  List.decidableBAll _ _

theorem Lacks.mono
    {special other text : List Char}
    (lacks : Lacks special text)
    (subset : other ⊆ special) :
    Lacks other text :=
  fun char member taken => lacks char member (subset taken)

/-! ## Texts of atoms -/

/-- The characters that the scans take for the start or the end of something. -/
def scanned : List Char := ['\\', '[', ']', '(', ')']

theorem lacks_of_isHexDigit
    {digits : List Char}
    (hex : digits.all isHexDigit) :
    Lacks NamedClass.delimiters digits := by
  have checked : NamedClass.delimiters.all fun char => !isHexDigit char := by decide
  intro char member taken
  have apart := List.all_eq_true.mp checked char taken
  rw [List.all_eq_true.mp hex char member] at apart
  exact Bool.false_ne_true apart

/-- Characters that stand in no name of a group. -/
def nameless : List Char := '>' :: '=' :: '!' :: NamedClass.delimiters

theorem lacks_of_isNameChar
    {name : List Char}
    (named : ∀ char ∈ name, Backtracking.isNameChar char) :
    Lacks nameless name := by
  have checked : ∀ char ∈ nameless,
      char.toNat < 128 ∧ ¬ (char.isAlpha ∨ char.isDigit ∨ char = '_') := by
    decide
  intro char member taken
  obtain ⟨ascii, apart⟩ := checked char taken
  exact apart ((Backtracking.isNameChar_iff_of_ascii ascii).mp (named char member))

theorem isNameChar_of_isGroupName
    {name : List Char}
    (named : isGroupName name) :
    ∀ char ∈ name, Backtracking.isNameChar char := by
  cases name with
  | nil => exact absurd named Bool.false_ne_true
  | cons first rest =>
      obtain ⟨-, begins, others⟩ := of_decide_eq_true named
      refine List.forall_mem_cons.mpr ⟨begins, fun char member => ?_⟩
      exact (of_decide_eq_true (List.all_eq_true.mp others char member)).2

theorem lacks_of_isGroupName
    {name : List Char}
    (named : isGroupName name) :
    Lacks nameless name :=
  lacks_of_isNameChar (isNameChar_of_isGroupName named)

theorem lacks_append_iff
    {special front back : List Char} :
    Lacks special (front ++ back) ↔ Lacks special front ∧ Lacks special back :=
  List.forall_mem_append

/-- A character is written plainly or behind a backslash. -/
theorem Spelling.text_cases
    {special : List Char}
    {spelling : Spelling}
    (valid : spelling.isValid special) :
    (∃ char ∉ special, spelling.text = [char]) ∨
      ∃ letter rest, spelling.text = '\\' :: letter :: rest ∧ Lacks scanned rest := by
  have subset : scanned ⊆ NamedClass.delimiters := by decide
  have braces : Lacks scanned ['\x7b'] ∧ Lacks scanned ['\x7d'] := by
    constructor <;> intro char member <;> rw [List.mem_singleton.mp member] <;> decide
  cases spelling with
  | plain char => exact .inl ⟨char, of_decide_eq_true valid, rfl⟩
  | escaped char => exact .inr ⟨char, [], rfl, List.forall_mem_nil _⟩
  | control letter => exact .inr ⟨letter, [], rfl, List.forall_mem_nil _⟩
  | code letter digits =>
      obtain ⟨-, -, hex, -⟩ := of_decide_eq_true valid
      exact .inr ⟨letter, digits, rfl, (lacks_of_isHexDigit hex).mono subset⟩
  | bracedCode letter digits =>
      obtain ⟨-, -, -, hex, -⟩ := of_decide_eq_true valid
      refine .inr ⟨letter, '\x7b' :: digits ++ ['\x7d'], rfl, lacks_append_iff.mpr
        ⟨List.forall_mem_cons.mpr ⟨by decide, ?_⟩, braces.2⟩⟩
      exact (lacks_of_isHexDigit hex).mono subset

/-- A named class is written behind a backslash. -/
theorem NamedClass.text_eq
    {kind : NamedClass}
    (valid : kind.isValid) :
    ∃ letter rest, kind.text = '\\' :: letter :: rest ∧ Lacks scanned rest := by
  have letters : scanned.all fun char => !char.isAlpha := by decide
  cases kind with
  | perl negated perl => exact ⟨_, [], rfl, List.forall_mem_nil _⟩
  | short negated letter =>
      refine ⟨_, [letter], rfl, List.forall_mem_singleton.mpr fun taken => ?_⟩
      have apart := List.all_eq_true.mp letters letter taken
      rw [show letter.isAlpha = true from valid] at apart
      exact Bool.false_ne_true apart
  | long negated name =>
      refine ⟨_, '\x7b' :: name ++ ['\x7d'], rfl, lacks_append_iff.mpr
        ⟨List.forall_mem_cons.mpr ⟨by decide, fun char member taken => ?_⟩,
          List.forall_mem_singleton.mpr (by decide)⟩⟩
      exact of_decide_eq_true (List.all_eq_true.mp valid char member)
        (List.Subset.trans (by decide) (List.Subset.refl NamedClass.delimiters) taken)

/-- An atom is a character that means nothing to the scans, stands behind a backslash, is a
bracket class, or refers to a group in parentheses. -/
theorem Leaf.text_cases
    {atom : Leaf}
    (valid : atom.isValid) :
    (∃ char ∉ ['\\', '[', '(', ')', '\x7b', '+', '*', '?'], atom.text = [char]) ∨
      (∃ letter rest, atom.text = '\\' :: letter :: rest ∧ Lacks scanned rest) ∨
      (∃ set, set.isValid ∧ atom = .bracket set) ∨
      ∃ name, isGroupName name ∧ atom = .reference false name := by
  have subset : ['\\', '[', '(', ')', '\x7b', '+', '*', '?'] ⊆ outsideSpecial := by decide
  cases atom with
  | char spelling =>
      obtain ⟨char, plain, text⟩ | escaped := spelling.text_cases valid
      · exact .inl ⟨char, fun taken => plain (subset taken), text⟩
      · exact .inr (.inl escaped)
  | dot => exact .inl ⟨'.', by decide, rfl⟩
  | named kind => exact .inr (.inl (kind.text_eq valid))
  | bracket set => exact .inr (.inr (.inl ⟨set, valid, rfl⟩))
  | anchor kind =>
      cases kind with
      | startLine => exact .inl ⟨'^', by decide, rfl⟩
      | endLine => exact .inl ⟨'$', by decide, rfl⟩
      | _ => exact .inr (.inl ⟨_, [], rfl, List.forall_mem_nil _⟩)
  | reference keyed name =>
      cases keyed with
      | false => exact .inr (.inr (.inr ⟨name, valid, rfl⟩))
      | true =>
          have lacks : Lacks scanned name := (lacks_of_isGroupName valid).mono (by decide)
          refine .inr (.inl ⟨'k', '<' :: name ++ ['>'], rfl, lacks_append_iff.mpr
            ⟨List.forall_mem_cons.mpr ⟨by decide, lacks⟩, List.forall_mem_singleton.mpr (by decide)⟩⟩)

/-! ## Classes -/

namespace Cut

theorem extend_extend
    (front back : List Char)
    (cut : Cut) :
    (cut.extend back).extend front = cut.extend (front ++ back) := by
  rw [extend, extend, extend, List.append_assoc]

@[simp] theorem extend_mk
    (lead passed left : List Char) :
    extend lead ⟨passed, left⟩ = ⟨lead ++ passed, left⟩ := rfl

end Cut

theorem cutClassBody_cons
    (depth : Nat)
    {char : Char}
    (plain : char ∉ insideSpecial)
    (more : List Char) :
    cutClassBody depth (char :: more) = (cutClassBody depth more).extend [char] := by
  rw [cutClassBody.eq_7]
  · rintro rfl _
    exact plain (by decide)
  · rintro _ _ rfl _
    exact plain (by decide)
  · rintro rfl
    exact plain (by decide)
  · rintro rfl
    exact plain (by decide)

theorem cutClassBody_lacking
    (depth : Nat)
    {text : List Char}
    (lacks : Lacks insideSpecial text)
    (more : List Char) :
    cutClassBody depth (text ++ more) = (cutClassBody depth more).extend text := by
  induction text with
  | nil => rfl
  | cons char text inductionHypothesis =>
      obtain ⟨plain, others⟩ := List.forall_mem_cons.mp lacks
      rw [List.cons_append, cutClassBody_cons depth plain, inductionHypothesis others,
        Cut.extend_extend]
      rfl

theorem cutClassBody_escape
    (depth : Nat)
    (letter : Char)
    {rest : List Char}
    (lacks : Lacks scanned rest)
    (more : List Char) :
    cutClassBody depth ('\\' :: letter :: rest ++ more) =
      (cutClassBody depth more).extend ('\\' :: letter :: rest) := by
  rw [List.cons_append, List.cons_append, cutClassBody.eq_3,
    cutClassBody_lacking depth (lacks.mono (by decide)), Cut.extend_extend]
  rfl

theorem cutClassBody_ascii
    (depth : Nat)
    (negated : Bool)
    (kind : Linear.AsciiClass)
    (more : List Char) :
    cutClassBody depth ((Member.ascii negated kind).text ++ more) =
      (cutClassBody depth more).extend (Member.ascii negated kind).text := by
  have named : Lacks insideSpecial (':' :: Member.caret negated ++ Member.asciiName kind ++ [':']) := by
    cases negated <;> cases kind <;> decide
  have text : (Member.ascii negated kind).text =
      '[' :: (':' :: Member.caret negated ++ Member.asciiName kind ++ [':']) ++ [']'] := by
    simp [Member.text]
  rw [text, List.append_assoc, List.cons_append, cutClassBody.eq_4,
    cutClassBody_lacking (depth + 1) named, List.singleton_append, cutClassBody.eq_6,
    Cut.extend_extend, Cut.extend_extend]
  rfl

/-- Members are cut through to the bracket that closes the class around them. -/
theorem cutClassBody_members
    {depth : Nat}
    {members : List Member}
    (valid : Member.areValid depth members)
    (more : List Char) :
    cutClassBody depth (members.flatMap Member.text ++ ']' :: more) =
      ⟨members.flatMap Member.text ++ [']'], more⟩ := by
  induction members generalizing depth with
  | nil =>
      obtain rfl : depth = 0 := of_decide_eq_true valid
      rfl
  | cons member members inductionHypothesis =>
      rw [List.flatMap_cons, List.append_assoc]
      cases member with
      | char spelling =>
          obtain ⟨own, others⟩ := of_decide_eq_true valid
          obtain ⟨char, plain, text⟩ | ⟨letter, rest, text, lacks⟩ := spelling.text_cases own
          · rw [Member.text, text, List.singleton_append, cutClassBody_cons depth plain,
              inductionHypothesis others]
            simp
          · rw [Member.text, text, cutClassBody_escape depth letter lacks,
              inductionHypothesis others]
            simp
      | named kind =>
          obtain ⟨own, others⟩ := of_decide_eq_true valid
          obtain ⟨letter, rest, text, lacks⟩ := kind.text_eq own
          rw [Member.text, text, cutClassBody_escape depth letter lacks,
            inductionHypothesis others]
          simp
      | ascii negated kind =>
          obtain ⟨-, others⟩ := of_decide_eq_true valid
          rw [cutClassBody_ascii, inductionHypothesis others]
          simp
      | opening negated =>
          obtain ⟨-, others⟩ := of_decide_eq_true valid
          have caret : Lacks insideSpecial (Member.caret negated) := by
                    cases negated <;> decide
          rw [Member.text, List.cons_append, cutClassBody.eq_4,
            cutClassBody_lacking (depth + 1) caret, inductionHypothesis others]
          simp
      | closing =>
          cases depth with
          | zero => exact absurd valid Bool.false_ne_true
          | succ outer =>
              rw [Member.text, List.singleton_append, cutClassBody.eq_6,
                inductionHypothesis valid]
              simp

theorem Member.head_text_of_mayOpen
    {negated : Bool}
    {member : Member}
    (mayOpen : member.mayOpen negated)
    {members : List Member}
    (valid : areValid 0 (member :: members)) :
    ∃ first tail, member.text = first :: tail ∧ first ≠ ']' ∧ (negated ∨ first ≠ '^') := by
  cases member with
  | char spelling =>
      obtain ⟨own, -⟩ := of_decide_eq_true valid
      cases spelling with
      | plain char =>
          refine ⟨char, [], rfl, ?_, (of_decide_eq_true mayOpen).imp_right fun apart => ?_⟩
          · rintro rfl
            exact (of_decide_eq_true own : ']' ∉ insideSpecial) (by decide)
          · rintro rfl
            exact apart rfl
      | _ => exact ⟨'\\', _, rfl, by decide, .inr (by decide)⟩
  | named kind => cases kind <;> exact ⟨'\\', _, rfl, by decide, .inr (by decide)⟩
  | closing => exact absurd mayOpen Bool.false_ne_true
  | _ => exact ⟨'[', _, rfl, by decide, .inr (by decide)⟩

/-- A class is cut behind its own bracket where its members are cut through. -/
theorem cutClass_members
    (negated bracketFirst : Bool)
    {members more : List Char}
    (cut : cutClassBody 0 (members ++ ']' :: more) = ⟨members ++ [']'], more⟩)
    (begins : bracketFirst ∨
      ∃ first tail, members = first :: tail ∧ first ≠ ']' ∧ (negated ∨ first ≠ '^')) :
    cutClass (Member.caret negated ++
        ((if bracketFirst then [']'] else []) ++ (members ++ ']' :: more))) =
      ⟨Member.caret negated ++ ((if bracketFirst then [']'] else []) ++ (members ++ [']'])),
        more⟩ := by
  cases bracketFirst with
  | true => cases negated <;> simp [Member.caret, cutClass, cut]
  | false =>
      obtain ⟨first, tail, rfl, apart, caret⟩ := begins.resolve_left Bool.false_ne_true
      have unclosed (rest : List Char) :
          first :: tail ++ ']' :: more ≠ ']' :: rest := by
        intro same
        exact apart (List.cons.inj same).1
      cases negated with
      | true =>
          change cutClass ('^' :: (first :: tail ++ ']' :: more)) = _
          rw [cutClass.eq_2 _ unclosed, cut]
          rfl
      | false =>
          have bare (rest : List Char) : first :: tail ++ ']' :: more ≠ '^' :: rest := by
            intro same
            exact caret.resolve_left Bool.false_ne_true (List.cons.inj same).1
          change cutClass (first :: tail ++ ']' :: more) = _
          rw [cutClass.eq_4 _ (fun _ => bare _) bare unclosed, cut]
          rfl

/-- A well-formed class is cut behind the bracket that closes it. -/
theorem cutClass_body
    {set : Bracket}
    (valid : set.isValid)
    (more : List Char) :
    cutClass (set.body ++ more) = ⟨set.body, more⟩ := by
  obtain ⟨begins, inner, -⟩ := of_decide_eq_true valid
  have starts : set.bracketFirst ∨ ∃ first tail,
      set.members.flatMap Member.text = first :: tail ∧ first ≠ ']' ∧
        (set.negated ∨ first ≠ '^') := by
    refine begins.imp_right fun starts => ?_
    cases found : set.members with
    | nil =>
        rw [found] at starts
        exact absurd starts Bool.false_ne_true
    | cons member members =>
        rw [found] at starts inner
        obtain ⟨first, tail, text, apart, caret⟩ := Member.head_text_of_mayOpen starts inner
        exact ⟨first, tail ++ members.flatMap Member.text, by simp [text], apart, caret⟩
  simpa [Bracket.body] using
    cutClass_members set.negated set.bracketFirst (cutClassBody_members inner more) starts

/-! ## Groups -/

theorem afterGroupBody_cons
    (depth : Nat)
    {char : Char}
    (plain : char ∉ ['\\', '[', '(', ')'])
    (more : List Char) :
    afterGroupBody depth (char :: more) = afterGroupBody depth more := by
  rw [afterGroupBody.eq_8]
  · rintro rfl _
    exact plain (by decide)
  · rintro _ _ rfl _
    exact plain (by decide)
  · rintro rfl
    exact plain (by decide)
  · rintro rfl
    exact plain (by decide)
  · rintro rfl
    exact plain (by decide)

theorem afterGroupBody_lacking
    (depth : Nat)
    {text : List Char}
    (lacks : Lacks scanned text)
    (more : List Char) :
    afterGroupBody depth (text ++ more) = afterGroupBody depth more := by
  have subset : ['\\', '[', '(', ')'] ⊆ scanned := by decide
  induction text with
  | nil => rfl
  | cons char text inductionHypothesis =>
      obtain ⟨plain, others⟩ := List.forall_mem_cons.mp lacks
      rw [List.cons_append, afterGroupBody_cons depth fun taken => plain (subset taken),
        inductionHypothesis others]

theorem afterGroupBody_leaf
    (depth : Nat)
    {atom : Leaf}
    (valid : atom.isValid)
    (more : List Char) :
    afterGroupBody depth (atom.text ++ more) = afterGroupBody depth more := by
  obtain ⟨char, plain, text⟩ | ⟨letter, rest, text, lacks⟩ | ⟨set, own, rfl⟩ | ⟨name, named, rfl⟩ :=
    atom.text_cases valid
  · have subset : ['\\', '[', '(', ')'] ⊆ ['\\', '[', '(', ')', '\x7b', '+', '*', '?'] := by decide
    rw [text, List.singleton_append, afterGroupBody_cons depth fun taken => plain (subset taken)]
  · rw [text, List.cons_append, List.cons_append, afterGroupBody.eq_3,
      afterGroupBody_lacking depth lacks]
  · rw [Leaf.text, Bracket.text, List.cons_append, afterGroupBody.eq_4, cutClass_body own]
  · have lacks : Lacks scanned ('?' :: 'P' :: '=' :: name) :=
      lacks_append_iff.mpr ⟨(by decide : Lacks scanned ['?', 'P', '=']),
        (lacks_of_isGroupName named).mono (by decide)⟩
    have text : (Leaf.reference false name).text ++ more =
        '(' :: ('?' :: 'P' :: '=' :: name ++ ')' :: more) := by
      simp [Leaf.text]
    rw [text, afterGroupBody.eq_5, afterGroupBody_lacking (depth + 1) lacks, afterGroupBody.eq_7]

namespace Counts

/-- Whether a number is written in decimal digits. -/
def isDecimal (digits : List Char) : Bool := digits ≠ [] ∧ digits.all Char.isDigit

/-- Whether the numbers are written in decimal digits, however large they are. -/
def areDecimal : Counts → Bool
  | exactly digits => isDecimal digits
  | atLeast digits => isDecimal digits
  | between least greatest => isDecimal least ∧ isDecimal greatest
  | _ => true

theorem isDecimal_of_isNumeral
    {digits : List Char}
    (numeral : isNumeral digits) :
    isDecimal digits :=
  decide_eq_true ⟨(of_decide_eq_true numeral).1, (of_decide_eq_true numeral).2.1⟩

theorem areDecimal_of_isValid
    {counts : Counts}
    (valid : counts.isValid) :
    counts.areDecimal := by
  cases counts with
  | exactly digits => exact isDecimal_of_isNumeral valid
  | atLeast digits => exact isDecimal_of_isNumeral valid
  | between least greatest =>
      obtain ⟨low, high⟩ := of_decide_eq_true valid
      exact decide_eq_true ⟨isDecimal_of_isNumeral low, isDecimal_of_isNumeral high⟩
  | _ => rfl

end Counts

theorem Quantifier.areDecimal_of_isValid
    {quantifier : Option Quantifier}
    (valid : quantifier.all (·.counts.isValid)) :
    quantifier.all (·.counts.areDecimal) := by
  cases quantifier with
  | none => rfl
  | some quantifier => exact Counts.areDecimal_of_isValid valid

theorem lacks_text_counts
    {counts : Counts}
    (decimal : counts.areDecimal) :
    Lacks scanned counts.text := by
  have checked : scanned.all fun char => !char.isDigit := by decide
  have lacks {digits : List Char} (decimal : Counts.isDecimal digits) : Lacks scanned digits := by
    intro char member taken
    have apart := List.all_eq_true.mp checked char taken
    rw [List.all_eq_true.mp (of_decide_eq_true decimal).2 char member] at apart
    exact Bool.false_ne_true apart
  have opened {text : List Char} (lacks : Lacks scanned text) : Lacks scanned ('\x7b' :: text) :=
    List.forall_mem_cons.mpr ⟨by decide, lacks⟩
  cases counts with
  | exactly digits =>
      exact lacks_append_iff.mpr ⟨opened (lacks decimal), by decide⟩
  | atLeast digits =>
      exact lacks_append_iff.mpr ⟨opened (lacks decimal), by decide⟩
  | between least greatest =>
      obtain ⟨low, high⟩ := of_decide_eq_true decimal
      refine lacks_append_iff.mpr ⟨lacks_append_iff.mpr ⟨opened (lacks low), ?_⟩, ?_⟩
      · exact List.forall_mem_cons.mpr ⟨by decide, lacks high⟩
      · decide
  | _ => decide

theorem lacks_textOf
    {quantifier : Option Quantifier}
    (decimal : quantifier.all (·.counts.areDecimal)) :
    Lacks scanned (Quantifier.textOf quantifier) := by
  cases quantifier with
  | none => exact List.forall_mem_nil _
  | some quantifier =>
      refine lacks_append_iff.mpr ⟨lacks_append_iff.mpr ⟨lacks_text_counts decimal, ?_⟩, ?_⟩
      · split <;> decide
      · split <;> decide

theorem GroupSign.text_lacks
    {sign : GroupSign}
    (valid : sign.isValid) :
    ∃ header, sign.text = '(' :: header ∧ Lacks scanned header := by
  have named {name : List Char} (long : List Char) (free : Lacks scanned long)
      (isName : isGroupName name) : Lacks scanned (long ++ (name ++ ['>'])) :=
    lacks_append_iff.mpr ⟨free, lacks_append_iff.mpr
      ⟨(lacks_of_isGroupName isName).mono (by decide), by decide⟩⟩
  cases sign with
  | named long name =>
      cases long with
      | true => exact ⟨_, rfl, named ['?', 'P', '<'] (by decide) valid⟩
      | false => exact ⟨_, rfl, named ['?', '<'] (by decide) valid⟩
  | look behind negative =>
      cases behind <;> cases negative <;> exact ⟨_, rfl, by decide⟩
  | _ => exact ⟨_, rfl, by decide⟩

/-- A scan for the end of a group goes past a phrase. -/
theorem afterGroupBody_phrase
    (depth : Nat)
    {phrase : Phrase}
    (valid : phrase.isValid)
    (more : List Char) :
    afterGroupBody depth (phrase.text ++ more) = afterGroupBody depth more := by
  induction phrase generalizing depth more with
  | done => rfl
  | leaf atom quantifier rest inductionHypothesis =>
      obtain ⟨own, others⟩ := Phrase.allOf_leaf_iff.mp valid
      obtain ⟨atomValid, counts, -⟩ := of_decide_eq_true own
      rw [Phrase.text, List.append_assoc, List.append_assoc, afterGroupBody_leaf depth atomValid,
        afterGroupBody_lacking depth (lacks_textOf (Quantifier.areDecimal_of_isValid counts)), inductionHypothesis depth others]
  | group sign body quantifier rest bodyHypothesis restHypothesis =>
      obtain ⟨own, bodyValid, others⟩ := Phrase.allOf_group_iff.mp valid
      obtain ⟨signValid, counts⟩ := of_decide_eq_true own
      obtain ⟨header, text, lacks⟩ := sign.text_lacks signValid
      simp only [Phrase.text, text, List.cons_append, List.append_assoc]
      rw [afterGroupBody.eq_5, afterGroupBody_lacking _ lacks, bodyHypothesis _ bodyValid,
        afterGroupBody.eq_7, afterGroupBody_lacking _ (lacks_textOf (Quantifier.areDecimal_of_isValid counts)),
        restHypothesis _ others]
  | bar rest inductionHypothesis =>
      rw [Phrase.text, List.cons_append, afterGroupBody_cons depth (by decide),
        inductionHypothesis depth valid]

/-! ## Comments -/

theorem endsInComment_cons
    {scan : VerboseScan}
    (outside : scan.inComment = false)
    (terse : scan.verbose = false)
    {char : Char}
    (plain : char ∉ ['\\', '[', '(', ')'])
    (more : List Char) :
    endsInComment scan (char :: more) = endsInComment scan more := by
  have apart {other : Char} (member : other ∈ ['\\', '[', '(', ')']) : char ≠ other := by
    rintro rfl
    exact plain member
  rw [endsInComment.eq_def]
  simp [outside, terse, apart]

theorem endsInComment_lacking
    {scan : VerboseScan}
    (outside : scan.inComment = false)
    (terse : scan.verbose = false)
    {text : List Char}
    (lacks : Lacks scanned text)
    (more : List Char) :
    endsInComment scan (text ++ more) = endsInComment scan more := by
  have subset : ['\\', '[', '(', ')'] ⊆ scanned := by decide
  induction text with
  | nil => rfl
  | cons char text inductionHypothesis =>
      obtain ⟨plain, others⟩ := List.forall_mem_cons.mp lacks
      rw [List.cons_append, endsInComment_cons outside terse fun taken => plain (subset taken),
        inductionHypothesis others]

/-- What stands behind a parenthesis and a question mark. -/
theorem endsInComment_query
    {scan : VerboseScan}
    (outside : scan.inComment = false)
    (more : List Char) :
    endsInComment scan ('(' :: '?' :: more) =
      endsInComment (openQueryGroup scan more).1 (openQueryGroup scan more).2 := by
  rw [endsInComment.eq_def]
  simp [outside]

/-- A group without a header keeps the mode. -/
theorem endsInComment_bare
    {scan : VerboseScan}
    (outside : scan.inComment = false)
    {more : List Char}
    (bare : more.head? ≠ some '?') :
    endsInComment scan ('(' :: more) = endsInComment (scan.enter scan.verbose) more := by
  rw [endsInComment.eq_def]
  simp only [outside]
  cases more with
  | nil => rfl
  | cons first more =>
      have apart : first ≠ '?' := fun same => bare (congrArg some same)
      simp [apart]

theorem endsInComment_leave
    {scan : VerboseScan}
    (outside : scan.inComment = false)
    (more : List Char) :
    endsInComment scan (')' :: more) = endsInComment scan.leave more := by
  rw [endsInComment.eq_def]
  simp [outside]

/-- The header of a group opens the group and no more. -/
theorem endsInComment_sign
    {scan : VerboseScan}
    (outside : scan.inComment = false)
    (terse : scan.verbose = false)
    {sign : GroupSign}
    (valid : sign.isValid)
    {more : List Char}
    (clear : isClear more) :
    endsInComment scan (sign.text ++ more) = endsInComment (scan.enter false) more := by
  have through (text : List Char) (lacks : Lacks scanned text) :
      endsInComment (scan.enter false) (text ++ more) = endsInComment (scan.enter false) more :=
    endsInComment_lacking (show (scan.enter false).inComment = false from outside)
      (show (scan.enter false).verbose = false from rfl) lacks more
  have query (text : List Char) : endsInComment scan ('(' :: '?' :: text) = _ :=
    endsInComment_query outside text
  have named {name : List Char} (sign : List Char) (free : Lacks scanned sign)
      (isName : isGroupName name) : Lacks scanned (sign ++ (name ++ ['>'])) :=
    lacks_append_iff.mpr ⟨free, lacks_append_iff.mpr
      ⟨(lacks_of_isGroupName isName).mono (by decide), by decide⟩⟩
  cases sign with
  | capture =>
      refine (endsInComment_bare outside fun asked => ?_).trans (by rw [terse]; rfl)
      cases more with
      | nil => cases asked
      | cons first more =>
          obtain rfl := Option.some.inj asked
          exact absurd clear Bool.false_ne_true
  | named long name =>
      cases long with
      | true =>
          rw [← through _ (named ['P', '<'] (by decide) valid)]
          simp [GroupSign.text, query, openQueryGroup, readFlagHeader, isAsciiLetter, terse]
      | false =>
          rw [← through _ (named ['<'] (by decide) valid)]
          simp [GroupSign.text, query, openQueryGroup, readFlagHeader, isAsciiLetter, terse]
  | plain => simp [GroupSign.text, query, openQueryGroup, readFlagHeader, isAsciiLetter, terse]
  | fold => simp [GroupSign.text, query, openQueryGroup, readFlagHeader, isAsciiLetter, terse]
  | dotAll => simp [GroupSign.text, query, openQueryGroup, readFlagHeader, isAsciiLetter, terse]
  | atomic =>
      rw [← through ['>'] (by decide)]
      simp [GroupSign.text, query, openQueryGroup, readFlagHeader, isAsciiLetter, terse]
  | look behind negative =>
      cases behind <;> cases negative
      · rw [← through ['='] (by decide)]
        simp [GroupSign.text, query, openQueryGroup, readFlagHeader, isAsciiLetter, terse]
      · rw [← through ['!'] (by decide)]
        simp [GroupSign.text, query, openQueryGroup, readFlagHeader, isAsciiLetter, terse]
      · rw [← through ['<', '='] (by decide)]
        simp [GroupSign.text, query, openQueryGroup, readFlagHeader, isAsciiLetter, terse]
      · rw [← through ['<', '!'] (by decide)]
        simp [GroupSign.text, query, openQueryGroup, readFlagHeader, isAsciiLetter, terse]

theorem endsInComment_close
    {scan : VerboseScan}
    (outside : scan.inComment = false)
    (more : List Char) :
    endsInComment (scan.enter false) (')' :: more) = endsInComment scan more :=
  endsInComment_leave (show (scan.enter false).inComment = false from outside) more

theorem endsInComment_escape
    {scan : VerboseScan}
    (outside : scan.inComment = false)
    (letter : Char)
    (more : List Char) :
    endsInComment scan ('\\' :: letter :: more) = endsInComment scan more := by
  rw [endsInComment.eq_def]
  simp [outside]

theorem endsInComment_bracket
    {scan : VerboseScan}
    (outside : scan.inComment = false)
    (text : List Char) :
    endsInComment scan ('[' :: text) = endsInComment scan (cutClass text).left := by
  rw [endsInComment.eq_def]
  simp [outside]

theorem endsInComment_class
    {scan : VerboseScan}
    (outside : scan.inComment = false)
    {body more : List Char}
    (cut : cutClass (body ++ more) = ⟨body, more⟩) :
    endsInComment scan ('[' :: (body ++ more)) = endsInComment scan more := by
  rw [endsInComment_bracket outside, cut]

theorem endsInComment_leaf
    {scan : VerboseScan}
    (outside : scan.inComment = false)
    (terse : scan.verbose = false)
    {atom : Leaf}
    (valid : atom.isValid)
    (more : List Char) :
    endsInComment scan (atom.text ++ more) = endsInComment scan more := by
  obtain ⟨char, plain, text⟩ | ⟨letter, rest, text, lacks⟩ | ⟨set, own, rfl⟩ | ⟨name, named, rfl⟩ :=
    atom.text_cases valid
  · have subset : ['\\', '[', '(', ')'] ⊆ ['\\', '[', '(', ')', '\x7b', '+', '*', '?'] := by decide
    rw [text, List.singleton_append,
      endsInComment_cons outside terse fun taken => plain (subset taken)]
  · rw [text, List.cons_append, List.cons_append, endsInComment_escape outside,
      endsInComment_lacking outside terse lacks]
  · exact endsInComment_class outside (cutClass_body own more)
  · have lacks : Lacks scanned ('P' :: '=' :: name) :=
      lacks_append_iff.mpr ⟨(by decide : Lacks scanned ['P', '=']),
        (lacks_of_isGroupName named).mono (by decide)⟩
    have text : (Leaf.reference false name).text ++ more =
        '(' :: '?' :: ('P' :: '=' :: name ++ ')' :: more) := by
      simp [Leaf.text]
    have entered : openQueryGroup scan ('P' :: '=' :: name ++ ')' :: more) =
        (scan.enter false, 'P' :: '=' :: name ++ ')' :: more) := by
      simp [openQueryGroup, readFlagHeader, isAsciiLetter, terse]
    rw [text, endsInComment_query outside, entered,
      endsInComment_lacking (show (scan.enter false).inComment = false from outside)
        (show (scan.enter false).verbose = false from rfl) lacks, endsInComment_close outside]

/-- A scan for comments finds none in a phrase. -/
theorem endsInComment_phrase
    {scan : VerboseScan}
    (outside : scan.inComment = false)
    (terse : scan.verbose = false)
    {phrase : Phrase}
    (valid : phrase.isValid)
    {more : List Char}
    (clear : isClear more) :
    endsInComment scan (phrase.text ++ more) = endsInComment scan more := by
  induction phrase generalizing scan more with
  | done => rfl
  | leaf atom quantifier rest inductionHypothesis =>
      obtain ⟨own, others⟩ := Phrase.allOf_leaf_iff.mp valid
      obtain ⟨atomValid, counts, -⟩ := of_decide_eq_true own
      rw [Phrase.text, List.append_assoc, List.append_assoc,
        endsInComment_leaf outside terse atomValid,
        endsInComment_lacking outside terse (lacks_textOf (Quantifier.areDecimal_of_isValid counts)),
        inductionHypothesis outside terse others clear]
  | group sign body quantifier rest bodyHypothesis restHypothesis =>
      obtain ⟨own, bodyValid, others⟩ := Phrase.allOf_group_iff.mp valid
      obtain ⟨signValid, counts⟩ := of_decide_eq_true own
      have closes : isClear (')' :: (Quantifier.textOf quantifier ++ (rest.text ++ more))) :=
        isClear_cons (by decide) _
      simp only [Phrase.text, List.cons_append, List.append_assoc]
      rw [endsInComment_sign outside terse signValid (body.isClear_text_append bodyValid closes),
        bodyHypothesis (show (scan.enter false).inComment = false from outside)
          (show (scan.enter false).verbose = false from rfl) bodyValid closes,
        endsInComment_close outside,
        endsInComment_lacking outside terse (lacks_textOf (Quantifier.areDecimal_of_isValid counts)),
        restHypothesis outside terse others clear]
  | bar rest inductionHypothesis =>
      rw [Phrase.text, List.cons_append, endsInComment_cons outside terse (by decide),
        inductionHypothesis outside terse valid clear]

/-- A phrase is wrapped without a line break. -/
theorem wrapChars_phrase
    {phrase : Phrase}
    (valid : phrase.isValid) :
    wrapChars phrase.text = (Phrase.group .plain phrase none .done).text := by
  have quiet : endsInsideComment phrase.text = false := by
    have scanned : endsInComment .start (phrase.text ++ []) = endsInComment .start [] :=
      endsInComment_phrase rfl rfl valid rfl
    rw [List.append_nil] at scanned
    exact scanned.trans (by rw [endsInComment.eq_def]; rfl)
  simp [wrapChars, quiet, Phrase.text, GroupSign.text, Quantifier.textOf]

end Pattern
end LineExtraction
