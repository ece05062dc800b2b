import LineExtraction.Proofs.Linear.ClassMembers
import LineExtraction.Proofs.Linear.Reader.BracketClass
import LineExtraction.Proofs.Linear.Reader.Spelling

/-!
# Respelled classes

A bracket class may be written with its escapes, or with a character of its own for every
escaped one, quoted where the linear dialect gives it a meaning.  Both texts are read as the
same class, whatever stands behind them.
-/

namespace LineExtraction
namespace Linear

/-! ## Classes up to how codes were written -/

/-- The literal without the note that it may name a byte. -/
def Literal.dropByte (literal : Literal) : Literal := ⟨literal.char, false⟩

namespace ClassSet

/-- The set without the notes that codes may name bytes. -/
def dropBytes : ClassSet → ClassSet
  | literal char => literal char.dropByte
  | range first last => range first.dropByte last.dropByte
  | bracketed negated body => bracketed negated body.dropBytes
  | union first rest => union first.dropBytes rest.dropBytes
  | operation operator left right => operation operator left.dropBytes right.dropBytes
  | set => set

theorem dropBytes_ofItems
    (items : List ClassSet) :
    (ofItems items).dropBytes = ofItems (items.map dropBytes) := by
  induction items with
  | nil => rfl
  | cons item items inductionHypothesis =>
      cases items with
      | nil => rfl
      | cons next items =>
          rw [ofItems, dropBytes, inductionHypothesis]
          · rfl
          · exact List.cons_ne_nil _ _

/-- Under Unicode a code in a class never names a byte. -/
theorem members_dropBytes
    {flags : Flags}
    (unicode : flags.unicode)
    (set : ClassSet) :
    set.dropBytes.members flags = set.members flags := by
  have same (literal : Literal) : memberChar flags literal.dropByte = memberChar flags literal := by
    simp [memberChar, literalChar, unicode, Literal.dropByte]
  induction set with
  | literal char => rw [dropBytes, members, members, same]
  | range first last => rw [dropBytes, members, members, same, same]
  | bracketed negated body bodyHypothesis => rw [dropBytes, members, members, bodyHypothesis]
  | union first rest firstHypothesis restHypothesis =>
      rw [dropBytes, members, members, firstHypothesis, restHypothesis]
  | operation operator left right leftHypothesis rightHypothesis =>
      rw [dropBytes, members, members, leftHypothesis, rightHypothesis]
  | _ => rfl

end ClassSet

namespace ClassFrame

/-- What waits, without the notes that codes may name bytes. -/
def dropBytes : ClassFrame → ClassFrame
  | opened members negated => opened (members.map ClassSet.dropBytes) negated
  | operation operator left => operation operator left.dropBytes

end ClassFrame

theorem dropBytes_applyOperation
    {left right : ClassSet}
    {frames waiting : List ClassFrame}
    (sets : left.dropBytes = right.dropBytes)
    (same : frames.map ClassFrame.dropBytes = waiting.map ClassFrame.dropBytes) :
    (applyOperation left frames).1.dropBytes = (applyOperation right waiting).1.dropBytes ∧
      (applyOperation left frames).2.map ClassFrame.dropBytes =
        (applyOperation right waiting).2.map ClassFrame.dropBytes := by
  cases frames with
  | nil =>
      obtain rfl := List.map_eq_nil_iff.mp same.symm
      exact ⟨sets, rfl⟩
  | cons frame frames =>
      cases waiting with
      | nil => exact nomatch same
      | cons other waiting =>
          obtain ⟨head, tail⟩ := List.cons.inj same
          cases frame with
          | opened members negated =>
              cases other with
              | opened others negated => exact ⟨sets, same⟩
              | operation operator set => exact nomatch head
          | operation operator set =>
              cases other with
              | opened others negated => exact nomatch head
              | operation another waits =>
                  simp only [ClassFrame.dropBytes, ClassFrame.operation.injEq] at head
                  simp only [applyOperation, ClassSet.dropBytes, head, sets, true_and]
                  exact tail

/-- The frames of a class that has `depth` more classes around it than the outermost. -/
inductive Nested : (depth : Nat) → List ClassFrame → Prop
  | outermost (members : List ClassSet) (negated : Bool) : Nested 0 [.opened members negated]
  | opened
      {depth : Nat}
      {frames : List ClassFrame}
      (members : List ClassSet)
      (negated : Bool)
      (around : Nested depth frames) :
      Nested (depth + 1) (.opened members negated :: frames)
  | operation
      {depth : Nat}
      {frames : List ClassFrame}
      (operator : SetOperator)
      (left : ClassSet)
      (around : Nested depth frames) :
      Nested depth (.operation operator left :: frames)

theorem Nested.ne_nil
    {depth : Nat}
    {frames : List ClassFrame}
    (nested : Nested depth frames) :
    frames ≠ [] := by
  cases nested <;> exact List.cons_ne_nil _ _

theorem Nested.applyOperation
    {depth : Nat}
    {frames : List ClassFrame}
    (nested : Nested depth frames)
    (set : ClassSet) :
    Nested depth (applyOperation set frames).2 := by
  cases nested with
  | outermost members negated => exact .outermost members negated
  | opened members negated around => exact .opened members negated around
  | operation operator left around => exact around

end Linear

/-! ## Members -/

namespace Pattern
namespace Member

/-- The text of a member where escaped characters stand for themselves. -/
def respelled : Member → List Char
  | char (.plain letter) => [letter]
  | char spelling => quoteWith isLinearMeta [spelling.char]
  | member => member.text

/-- The text of a member in one or the other spelling. -/
def textAs (respell : Bool) (member : Member) : List Char :=
  if respell then member.respelled else member.text

/-- What a single member reads as, unless it has a bracket. -/
def primitiveAs (respell : Bool) : Member → Option Linear.Primitive
  | char spelling => some (.literal ⟨spelling.char, !respell && spelling.isByte⟩)
  | named kind => some kind.primitive
  | _ => none

/-- The text of members up to the bracket that closes their class, and what stands behind. -/
def textUpTo (respell : Bool) (members : List Member) (more : List Char) : List Char :=
  members.flatMap (textAs respell) ++ ']' :: more

theorem textUpTo_cons
    (respell : Bool)
    (member : Member)
    (members : List Member)
    (more : List Char) :
    textUpTo respell (member :: members) more =
      member.textAs respell ++ textUpTo respell members more := by
  rw [textUpTo, textUpTo, List.flatMap_cons, List.append_assoc]

end Member
end Pattern

namespace Linear

open Pattern (Spelling NamedClass Member Bracket isLinearMeta quoteWith insideSpecial)

/-- The characters that make operators, ranges and the ends of classes. -/
def classMarks : List Char := ['&', '-', '~', '^', ']', '[']

/-- How a single member begins: a mark stands for itself only where it is plain. -/
theorem exists_textAs_cons
    (respell : Bool)
    {member : Member}
    (valid : member.isValid)
    {primitive : Primitive}
    (single : member.primitiveAs respell = some primitive) :
    ∃ first tail, member.textAs respell = first :: tail ∧
      (first ∈ classMarks → member = .char (.plain first)) ∧ first ≠ '[' ∧ first ≠ ']' ∧
      ∀ more, Yields (readMember false first (tail ++ more)) primitive more := by
  have backslash : '\\' ∈ classMarks → member = .char (.plain '\\') := fun member =>
    absurd member (by decide)
  have escape {tail : List Char} {primitive : Primitive}
      (read : ∀ more, Yields (readEscape false (tail ++ more)) primitive more) :
      ∀ more, Yields (readMember false '\\' (tail ++ more)) primitive more := read
  cases member with
  | named kind =>
      obtain rfl := Option.some.inj single
      have text : (Member.named kind).textAs respell = kind.text := by cases respell <;> rfl
      have escaped : ∃ tail, kind.text = '\\' :: tail := by cases kind <;> exact ⟨_, rfl⟩
      obtain ⟨tail, escaped⟩ := escaped
      exact ⟨'\\', tail, text.trans escaped, backslash, by decide, by decide,
        escape (yields_readEscape_named valid escaped)⟩
  | char spelling =>
      obtain rfl := Option.some.inj single
      by_cases plain : ∃ char, spelling = .plain char
      · obtain ⟨char, rfl⟩ := plain
        have text : (Member.char (.plain char)).textAs respell = [char] := by cases respell <;> rfl
        have ordinary : char ∉ insideSpecial := of_decide_eq_true valid
        have apart : char ≠ '[' ∧ char ≠ ']' ∧ char ≠ '\\' := by
          simpa [insideSpecial] using ordinary
        refine ⟨char, [], text, fun _ => rfl, apart.1, apart.2.1, fun more => ?_⟩
        rw [readMember, if_neg apart.2.2]
        rw [show (!respell && Spelling.isByte (.plain char)) = false by cases respell <;> rfl]
        exact ⟨Nat.le_refl _, rfl⟩
      · have escaped : ∃ tail, spelling.text = '\\' :: tail := by
          cases spelling with
          | plain char => exact absurd ⟨char, rfl⟩ plain
          | _ => exact ⟨_, rfl⟩
        obtain ⟨tail, escaped⟩ := escaped
        cases respell with
        | false =>
            exact ⟨'\\', tail, escaped, backslash, by decide, by decide,
              escape (yields_readEscape_spelling valid escaped (by decide))⟩
        | true =>
            have text : (Member.char spelling).textAs true =
                quoteWith isLinearMeta [spelling.char] := by
              cases spelling with
              | plain char => exact absurd ⟨char, rfl⟩ plain
              | _ => rfl
            by_cases special : isLinearMeta spelling.char
            · rw [quoteWith, if_pos special] at text
              refine ⟨'\\', [spelling.char], text, backslash, by decide, by decide,
                escape fun more => ?_⟩
              exact yields_readEscape_escaped (decide_eq_true (.inl special)) more
            · rw [quoteWith, if_neg special] at text
              have apart {other : Char} (meta' : isLinearMeta other) : spelling.char ≠ other := by
                rintro rfl
                exact special meta'
              refine ⟨spelling.char, [], text, fun member => ?_, apart rfl, apart rfl,
                fun more => ?_⟩
              · refine absurd member fun listed => special (decide_eq_true ?_)
                exact List.Subset.trans (show classMarks ⊆ _ by decide) (List.Subset.refl _) listed
              · rw [readMember, if_neg (apart rfl)]
                exact ⟨Nat.le_refl _, rfl⟩
  | _ => cases single

theorem areValid_of_single
    {respell : Bool}
    {member : Member}
    {primitive : Primitive}
    (single : member.primitiveAs respell = some primitive)
    {depth : Nat}
    {members : List Member}
    (valid : Member.areValid depth (member :: members)) :
    member.isValid ∧ Member.areValid depth members := by
  cases member with
  | char spelling => simpa [Member.areValid] using valid
  | named kind => simpa [Member.areValid] using valid
  | _ => cases single

theorem areValid_of_char
    {spelling : Spelling}
    {depth : Nat}
    {members : List Member}
    (valid : Member.areValid depth (.char spelling :: members)) :
    (Member.char spelling).isValid ∧ Member.areValid depth members := by
  simpa [Member.areValid] using valid

/-- A text of members begins with a mark only where the mark is plain or a bracket. -/
theorem cases_of_head_textUpTo
    {respell : Bool}
    {depth : Nat}
    {members : List Member}
    (valid : Member.areValid depth members)
    {more : List Char}
    {mark : Char}
    (listed : mark ∈ classMarks)
    (head : (Member.textUpTo respell members more).head? = some mark) :
    (mark = ']' ∧ (members = [] ∨ ∃ rest, members = .closing :: rest)) ∨
      (mark = '[' ∧ ∃ member rest, members = member :: rest ∧ member.isBracketed) ∨
      ∃ rest, members = .char (.plain mark) :: rest := by
  cases members with
  | nil => exact .inl ⟨(Option.some.inj head).symm, .inl rfl⟩
  | cons member members =>
      rw [Member.textUpTo_cons] at head
      cases single : member.primitiveAs respell with
      | some primitive =>
          obtain ⟨here, -⟩ := areValid_of_single single valid
          obtain ⟨first, tail, text, plain, -⟩ := exists_textAs_cons respell here single
          rw [text] at head
          obtain rfl : first = mark := Option.some.inj head
          exact .inr (.inr ⟨members, by rw [plain listed]⟩)
      | none =>
          cases member with
          | char spelling => exact nomatch single
          | named kind => exact nomatch single
          | closing =>
              have same : (Member.closing).textAs respell = [']'] := by cases respell <;> rfl
              rw [same] at head
              exact .inl ⟨(Option.some.inj head).symm, .inr ⟨members, rfl⟩⟩
          | ascii negated kind =>
              have same : ∃ tail, (Member.ascii negated kind).textAs respell = '[' :: tail := by
                cases respell <;> exact ⟨_, rfl⟩
              obtain ⟨tail, same⟩ := same
              rw [same] at head
              exact .inr (.inl ⟨(Option.some.inj head).symm, _, _, rfl, rfl⟩)
          | opening negated =>
              have same : ∃ tail, (Member.opening negated).textAs respell = '[' :: tail := by
                cases respell <;> exact ⟨_, rfl⟩
              obtain ⟨tail, same⟩ := same
              rw [same] at head
              exact .inr (.inl ⟨(Option.some.inj head).symm, _, _, rfl, rfl⟩)

theorem textAs_plain
    (respell : Bool)
    (char : Char) :
    (Member.char (.plain char)).textAs respell = [char] := by
  cases respell <;> rfl

theorem textUpTo_ne_nil
    (respell : Bool)
    (members : List Member)
    (more : List Char) :
    Member.textUpTo respell members more ≠ [] :=
  List.append_ne_nil_of_right_ne_nil _ (List.cons_ne_nil _ _)

/-! ## Items and ranges -/

/-- The primitive without the note that it may name a byte. -/
def Primitive.dropByte : Primitive → Primitive
  | literal char => literal char.dropByte
  | primitive => primitive

theorem toMember_of_dropByte_eq
    {left right : Primitive}
    (same : left.dropByte = right.dropByte)
    {item : ClassSet}
    (found : left.toMember = .ok item) :
    ∃ other, right.toMember = .ok other ∧ item.dropBytes = other.dropBytes := by
  cases left with
  | assertion kind => exact nomatch found
  | literal char =>
      cases right with
      | literal other =>
          obtain rfl := Except.ok.inj found
          exact ⟨_, rfl, congrArg ClassSet.literal (Primitive.literal.inj same)⟩
      | _ => exact nomatch same
  | perl negated kind =>
      cases right with
      | perl negated kind =>
          obtain ⟨rfl, rfl⟩ := Primitive.perl.inj same
          obtain rfl := Except.ok.inj found
          exact ⟨_, rfl, rfl⟩
      | _ => exact nomatch same
  | unicode negated query =>
      cases right with
      | unicode negated query =>
          obtain ⟨rfl, rfl⟩ := Primitive.unicode.inj same
          obtain rfl := Except.ok.inj found
          exact ⟨_, rfl, rfl⟩
      | _ => exact nomatch same

theorem toBoundary_of_dropByte_eq
    {left right : Primitive}
    (same : left.dropByte = right.dropByte)
    {bound : Literal}
    (found : left.toBoundary = .ok bound) :
    ∃ other, right.toBoundary = .ok other ∧ bound.dropByte = other.dropByte := by
  cases left with
  | literal char =>
      cases right with
      | literal other =>
          obtain rfl := Except.ok.inj found
          exact ⟨_, rfl, Primitive.literal.inj same⟩
      | _ => exact nomatch same
  | _ => exact nomatch found

/-- Both spellings of a member read as the same primitive. -/
theorem dropByte_primitiveAs
    {respell other : Bool}
    {member : Member}
    {primitive another : Primitive}
    (single : member.primitiveAs respell = some primitive)
    (otherSingle : member.primitiveAs other = some another) :
    primitive.dropByte = another.dropByte := by
  cases member with
  | char spelling =>
      obtain rfl := Option.some.inj single
      obtain rfl := Option.some.inj otherSingle
      rfl
  | named kind =>
      obtain rfl := Option.some.inj single
      obtain rfl := Option.some.inj otherSingle
      rfl
  | _ => cases single

/-- The character behind a member does not make it the start of a range. -/
def StandsAlone (rest : List Char) : Prop :=
  rest ≠ [] ∧ ∀ behind, rest = '-' :: behind → behind.head? = some ']' ∨ behind.head? = some '-'

theorem yields_readMemberOrRange_alone_iff
    {first : Char}
    {text rest : List Char}
    {primitive : Primitive}
    (read : Yields (readMember false first text) primitive rest)
    (alone : StandsAlone rest)
    {item : ClassSet}
    {ending : List Char} :
    Yields (readMemberOrRange false first text) item ending ↔
      primitive.toMember = .ok item ∧ ending = rest := by
  obtain ⟨shorter, same⟩ := read
  rw [yields_iff, readMemberOrRange, same]
  have result : (∃ read : Read ClassSet text,
      (do return ⟨← primitive.toMember, rest, shorter⟩) = Except.ok read ∧
        read.value = item ∧ read.rest = ending) ↔ primitive.toMember = .ok item ∧ ending = rest := by
    cases primitive.toMember with
    | error cause => exact ⟨by rintro ⟨_, ⟨⟩, -⟩, by rintro ⟨⟨⟩, -⟩⟩
    | ok member =>
        constructor
        · rintro ⟨_, ⟨⟩, rfl, rfl⟩
          exact ⟨rfl, rfl⟩
        · rintro ⟨⟨⟩, rfl⟩
          exact ⟨_, rfl, rfl, rfl⟩
  dsimp only [bind, Except.bind]
  split
  · next nothing => exact absurd nothing alone.1
  · next behind found =>
      obtain rfl : rest = '-' :: behind := found
      rw [if_pos (show peekBlank false behind = _ ∨ peekBlank false behind = _ from
        alone.2 behind rfl)]
      exact result
  · next found =>
      obtain rfl := (show rest = _ from found)
      exact result

theorem yields_readMemberOrRange_range_iff
    {first last : Char}
    {text behind rest : List Char}
    {primitive stop : Primitive}
    (read : Yields (readMember false first text) primitive ('-' :: last :: behind))
    (inside : last ≠ ']' ∧ last ≠ '-')
    (stopRead : Yields (readMember false last behind) stop rest)
    {item : ClassSet}
    {ending : List Char} :
    Yields (readMemberOrRange false first text) item ending ↔
      ∃ lower upper, primitive.toBoundary = .ok lower ∧ stop.toBoundary = .ok upper ∧
        ¬ upper.char < lower.char ∧ item = .range lower upper ∧ ending = rest := by
  obtain ⟨shorter, same⟩ := read
  obtain ⟨stopShorter, stopSame⟩ := stopRead
  rw [yields_iff, readMemberOrRange, same]
  dsimp only [bind, Except.bind]
  have goesOn : ¬ (peekBlank false (last :: behind) = some ']' ∨
      peekBlank false (last :: behind) = some '-') := by
    rintro (closes | hyphen)
    · exact inside.1 (Option.some.inj closes)
    · exact inside.2 (Option.some.inj hyphen)
  split
  · next nothing => cases (show '-' :: last :: behind = [] from nothing)
  · next found =>
      obtain ⟨-, rfl⟩ := List.cons.inj (show '-' :: last :: behind = _ from found)
      rw [if_neg goesOn]
      split
      · next nothing => cases (show last :: behind = [] from nothing)
      · next foundBehind =>
          obtain ⟨rfl, rfl⟩ := List.cons.inj (show last :: behind = _ from foundBehind)
          rw [stopSame]
          dsimp only
          cases primitive.toBoundary with
          | error cause => exact ⟨by rintro ⟨_, ⟨⟩, -⟩, by rintro ⟨_, _, ⟨⟩, -⟩⟩
          | ok lower =>
              cases stop.toBoundary with
              | error cause => exact ⟨by rintro ⟨_, ⟨⟩, -⟩, by rintro ⟨_, _, -, ⟨⟩, -⟩⟩
              | ok upper =>
                  dsimp only
                  split
                  · next less =>
                      constructor
                      · rintro ⟨_, ⟨⟩, -⟩
                      · rintro ⟨_, _, ⟨⟩, ⟨⟩, ordered, -⟩
                        exact absurd less ordered
                  · next ordered =>
                      constructor
                      · rintro ⟨_, ⟨⟩, rfl, rfl⟩
                        exact ⟨lower, upper, rfl, rfl, ordered, rfl, rfl⟩
                      · rintro ⟨_, _, ⟨⟩, ⟨⟩, -, rfl, rfl⟩
                        exact ⟨_, rfl, rfl, rfl⟩
  · next other found =>
      exact absurd (List.cons.inj (show '-' :: last :: behind = _ from found)).1.symm other

theorem haveClosedRanges_tail
    {member : Member}
    {members : List Member}
    (closed : Member.haveClosedRanges (member :: members)) :
    Member.haveClosedRanges members := by
  rw [Member.haveClosedRanges, decide_eq_true_eq] at closed
  exact closed.2

theorem single_of_not_isBracketed
    {member : Member}
    (plain : ¬ member.isBracketed)
    (other : member ≠ .closing)
    (respell : Bool) :
    ∃ primitive, member.primitiveAs respell = some primitive := by
  cases member with
  | char spelling => exact ⟨_, rfl⟩
  | named kind => exact ⟨_, rfl⟩
  | closing => exact absurd rfl other
  | _ => exact absurd rfl plain

/-- Behind a member that makes no range its text ends. -/
theorem standsAlone_textUpTo
    {depth : Nat}
    {members : List Member}
    (valid : Member.areValid depth members)
    (alone : ∀ behind, members = .char (.plain '-') :: behind →
      behind = [] ∨ (∃ rest, behind = .closing :: rest) ∨
        ∃ rest, behind = .char (.plain '-') :: rest)
    (respell : Bool)
    (more : List Char) :
    StandsAlone (Member.textUpTo respell members more) := by
  refine ⟨textUpTo_ne_nil respell members more, fun behind same => ?_⟩
  have head : (Member.textUpTo respell members more).head? = some '-' := by rw [same]; rfl
  rcases cases_of_head_textUpTo valid (by decide) head with ⟨other, -⟩ | ⟨other, -⟩ | ⟨rest, rfl⟩
  · exact absurd other (by decide)
  · exact absurd other (by decide)
  · rw [Member.textUpTo_cons, textAs_plain] at same
    obtain rfl := (List.cons.inj same).2
    rcases alone rest rfl with rfl | ⟨rest, rfl⟩ | ⟨rest, rfl⟩
    · exact .inl rfl
    · left
      cases respell <;> rfl
    · right
      cases respell <;> rfl

/-- An item or a range reads the same in both spellings. -/
theorem readMemberOrRange_respelled
    {respell other : Bool}
    {member : Member}
    {primitive another : Primitive}
    (single : member.primitiveAs respell = some primitive)
    (otherSingle : member.primitiveAs other = some another)
    {depth : Nat}
    {members : List Member}
    (valid : Member.areValid depth members)
    (closed : Member.haveClosedRanges (member :: members))
    (noOperator : member = .char (.plain '-') → ∀ rest, members ≠ .char (.plain '-') :: rest)
    {more less : List Char}
    {first second : Char}
    {text otherText : List Char}
    (read : Yields (readMember false first text) primitive (Member.textUpTo respell members more))
    (otherRead : Yields (readMember false second otherText) another
      (Member.textUpTo other members less))
    {item : ClassSet}
    {ending : List Char}
    (found : Yields (readMemberOrRange false first text) item ending) :
    ∃ rest : List Member, Member.areValid depth rest ∧ Member.haveClosedRanges rest ∧
      rest.length ≤ members.length ∧ ending = Member.textUpTo respell rest more ∧
        ∃ otherItem, item.dropBytes = otherItem.dropBytes ∧
          Yields (readMemberOrRange false second otherText) otherItem
            (Member.textUpTo other rest less) := by
  have same := dropByte_primitiveAs single otherSingle
  by_cases alone : ∀ behind, members = .char (.plain '-') :: behind →
      behind = [] ∨ (∃ rest, behind = .closing :: rest) ∨
        ∃ rest, behind = .char (.plain '-') :: rest
  · obtain ⟨member', rfl⟩ := (yields_readMemberOrRange_alone_iff read
      (standsAlone_textUpTo valid alone respell more)).mp found
    obtain ⟨otherItem, otherMember, items⟩ := toMember_of_dropByte_eq same member'
    exact ⟨members, valid, haveClosedRanges_tail closed, Nat.le_refl _, rfl, otherItem, items,
      (yields_readMemberOrRange_alone_iff otherRead
        (standsAlone_textUpTo valid alone other less)).mpr ⟨otherMember, rfl⟩⟩
  · -- a hyphen follows, and behind it the other end of a range
    simp only [Classical.not_forall, not_or, not_exists] at alone
    obtain ⟨behind, rfl, some, notClosing, notHyphen⟩ := alone
    obtain ⟨-, behindValid⟩ := areValid_of_char valid
    obtain ⟨last, rest, rfl⟩ := List.exists_cons_of_ne_nil some
    have starts : member.startsRange := by
      cases member with
      | char spelling =>
          refine decide_eq_true fun hyphen => ?_
          exact noOperator (congrArg Member.char hyphen) _ rfl
      | named kind => rfl
      | _ => cases single
    have unbracketed : ¬ last.isBracketed := by
      have open' : member.closesRange (.char (.plain '-') :: last :: rest) := by
        rw [Member.haveClosedRanges, decide_eq_true_eq] at closed
        exact closed.1
      exact fun bracketed => of_decide_eq_true open' ⟨starts, bracketed⟩
    have otherThanClosing : last ≠ .closing := fun closing => notClosing rest (closing ▸ rfl)
    obtain ⟨stop, stopSingle⟩ := single_of_not_isBracketed unbracketed otherThanClosing respell
    obtain ⟨otherStop, otherStopSingle⟩ :=
      single_of_not_isBracketed unbracketed otherThanClosing other
    obtain ⟨lastValid, restValid⟩ := areValid_of_single stopSingle behindValid
    obtain ⟨head, tail, text', plain, -, notBracket, stopRead⟩ :=
      exists_textAs_cons respell lastValid stopSingle
    obtain ⟨otherHead, otherTail, otherText', otherPlain, -, otherNotBracket, otherStopRead⟩ :=
      exists_textAs_cons other lastValid otherStopSingle
    rw [Member.textUpTo_cons, textAs_plain, Member.textUpTo_cons, text'] at read
    rw [Member.textUpTo_cons, textAs_plain, Member.textUpTo_cons, otherText'] at otherRead
    have notMark {head : Char} (plain : head ∈ classMarks → last = .char (.plain head)) :
        head ≠ '-' := by
      rintro rfl
      exact notHyphen rest (by rw [plain (by decide)])
    obtain ⟨lower, upper, lowerFound, upperFound, ordered, rfl, rfl⟩ :=
      (yields_readMemberOrRange_range_iff read ⟨notBracket, notMark plain⟩ (stopRead _)).mp found
    obtain ⟨otherLower, otherLowerFound, lowers⟩ := toBoundary_of_dropByte_eq same lowerFound
    obtain ⟨otherUpper, otherUpperFound, uppers⟩ := toBoundary_of_dropByte_eq
      (dropByte_primitiveAs stopSingle otherStopSingle) upperFound
    refine ⟨rest, restValid, haveClosedRanges_tail (haveClosedRanges_tail
      (haveClosedRanges_tail closed)), ?_, rfl, .range otherLower otherUpper, ?_, ?_⟩
    · simp only [List.length_cons]
      omega
    · rw [ClassSet.dropBytes, ClassSet.dropBytes, lowers, uppers]
    · refine (yields_readMemberOrRange_range_iff otherRead ⟨otherNotBracket, notMark otherPlain⟩
        (otherStopRead _)).mpr ⟨otherLower, otherUpper, otherLowerFound, otherUpperFound, ?_,
          rfl, rfl⟩
      rwa [← (Literal.mk.inj lowers).1, ← (Literal.mk.inj uppers).1]

/-! ## Opening a class -/

/-- The hyphens at the front of members, as the reader of openings keeps them. -/
def leadingHyphens (members : List Member) : List ClassSet :=
  (members.takeWhile (· = .char (.plain '-'))).map fun _ => .literal ⟨'-', false⟩

theorem readHyphens_textUpTo
    {depth : Nat}
    {members : List Member}
    (valid : Member.areValid depth members)
    (closed : Member.haveClosedRanges members)
    (respell : Bool)
    (more : List Char) :
    (readHyphens false (Member.textUpTo respell members more)).value = leadingHyphens members ∧
      (readHyphens false (Member.textUpTo respell members more)).rest =
        Member.textUpTo respell (members.dropWhile (· = .char (.plain '-'))) more ∧
      Member.areValid depth (members.dropWhile (· = .char (.plain '-'))) ∧
      Member.haveClosedRanges (members.dropWhile (· = .char (.plain '-'))) := by
  have stops {members : List Member} (valid : Member.areValid depth members)
      (other : ∀ rest, members ≠ .char (.plain '-') :: rest) :
      (readHyphens false (Member.textUpTo respell members more)).value = [] ∧
        (readHyphens false (Member.textUpTo respell members more)).rest =
          Member.textUpTo respell members more := by
    obtain ⟨first, rest, text⟩ := List.exists_cons_of_ne_nil (textUpTo_ne_nil respell members more)
    have apart : ¬ (decide (first = '-') = true) := by
      intro hyphen
      have head : (Member.textUpTo respell members more).head? = some '-' := by
        rw [text, of_decide_eq_true hyphen]
        rfl
      rcases cases_of_head_textUpTo valid (by decide) head with
        ⟨same, -⟩ | ⟨same, -⟩ | ⟨rest, same⟩
      · exact absurd same (by decide)
      · exact absurd same (by decide)
      · exact other rest same
    rw [text, readHyphens, readRun]
    simp only [if_neg apart]
    exact ⟨rfl, rfl⟩
  induction members with
  | nil =>
      obtain ⟨value, rest⟩ := stops valid fun _ same => absurd same (List.cons_ne_nil _ _).symm
      exact ⟨value, rest, valid, closed⟩
  | cons member members inductionHypothesis =>
      by_cases hyphen : member = .char (.plain '-')
      · subst hyphen
        obtain ⟨-, later⟩ := areValid_of_char valid
        obtain ⟨value, rest, restValid, restClosed⟩ :=
          inductionHypothesis later (haveClosedRanges_tail closed)
        have dropped : (Member.char (.plain '-') :: members).dropWhile (· = .char (.plain '-')) =
            members.dropWhile (· = .char (.plain '-')) :=
          List.dropWhile_cons_of_pos (decide_eq_true rfl)
        have taken : leadingHyphens (.char (.plain '-') :: members) =
            .literal ⟨'-', false⟩ :: leadingHyphens members := by
          simp [leadingHyphens]
        rw [dropped, taken, ← value, ← rest, Member.textUpTo_cons, textAs_plain]
        refine ⟨?_, ?_, restValid, restClosed⟩
        · rw [readHyphens, List.singleton_append, readRun]
          rfl
        · rw [readHyphens, List.singleton_append, readRun]
          rfl
      · obtain ⟨value, rest⟩ := stops valid fun rest same => hyphen (List.cons.inj same).1
        rw [leadingHyphens, List.takeWhile_cons_of_neg (by simpa using hyphen),
          List.dropWhile_cons_of_neg (by simpa using hyphen)]
        exact ⟨value, rest, valid, closed⟩

/-- Members that may open a class begin with no sign of a negation and with no closing
bracket. -/
theorem head_textUpTo_of_mayOpen
    (respell : Bool)
    {negated : Bool}
    {depth : Nat}
    {members : List Member}
    (valid : Member.areValid depth members)
    (opens : members.head?.any (Member.mayOpen negated))
    (more : List Char) :
    (negated = false → (Member.textUpTo respell members more).head? ≠ some '^') ∧
      (Member.textUpTo respell members more).head? ≠ some ']' := by
  constructor
  · rintro rfl head
    rcases cases_of_head_textUpTo valid (by decide) head with ⟨same, -⟩ | ⟨same, -⟩ | ⟨rest, rfl⟩
    · exact absurd same (by decide)
    · exact absurd same (by decide)
    · exact absurd opens (by simp [Member.mayOpen])
  · intro head
    rcases cases_of_head_textUpTo valid (by decide) head with
      ⟨-, rfl | ⟨rest, rfl⟩⟩ | ⟨same, -⟩ | ⟨rest, rfl⟩
    · exact absurd opens (by simp)
    · exact absurd opens (by simp [Member.mayOpen])
    · exact absurd same (by decide)
    · have ordinary := (areValid_of_char valid).1
      exact absurd ordinary (by decide)

theorem openingBody_caret
    {negated : Bool}
    {text : List Char}
    (plain : negated = false → text.head? ≠ some '^') :
    openingBody false (Member.caret negated ++ text) = text ∧
      decide ((Member.caret negated ++ text).head? = some '^') = negated := by
  cases negated with
  | true => exact ⟨rfl, rfl⟩
  | false =>
      refine ⟨?_, decide_eq_false (plain rfl)⟩
      show openingBody false text = text
      rw [openingBody, if_neg (show ¬ (skipBlank false _).head? = some '^' from plain rfl)]
      rfl

/-- The front of a class with members. -/
theorem yields_readClassOpening_members
    {negated : Bool}
    {depth : Nat}
    {members : List Member}
    (valid : Member.areValid depth members)
    (closed : Member.haveClosedRanges members)
    (opens : members.head?.any (Member.mayOpen negated))
    (respell : Bool)
    (more : List Char) :
    Yields (readClassOpening false (Member.caret negated ++ Member.textUpTo respell members more))
      (negated, leadingHyphens members)
      (Member.textUpTo respell (members.dropWhile (· = .char (.plain '-'))) more) := by
  obtain ⟨plain, notClosing⟩ := head_textUpTo_of_mayOpen respell valid opens more
  obtain ⟨body, sign⟩ := openingBody_caret plain
  obtain ⟨value, rest, -, -⟩ := readHyphens_textUpTo valid closed respell more
  obtain ⟨next, behind, left⟩ := List.exists_cons_of_ne_nil
    (textUpTo_ne_nil respell (members.dropWhile (· = .char (.plain '-'))) more)
  have goesOn : next ≠ ']' ∨ ¬ (readHyphens false (openingBody false
      (Member.caret negated ++ Member.textUpTo respell members more))).value.isEmpty := by
    rw [body, value]
    refine Decidable.or_iff_not_imp_left.mpr fun closing bare => notClosing ?_
    obtain rfl := Decidable.not_not.mp closing
    have all : members.dropWhile (· = .char (.plain '-')) = members := by
      cases members with
      | nil => rfl
      | cons member members =>
          by_cases hyphen : member = .char (.plain '-')
          · subst hyphen
            exact absurd bare (by simp [leadingHyphens])
          · exact List.dropWhile_cons_of_neg (by simpa using hyphen)
    rw [← all, left]
    rfl
  obtain ⟨read, found, readValue, readRest⟩ := readClassOpening_of_next goesOn
    (by rw [body, rest, left])
  refine yields_iff.mpr ⟨read, found, readValue.trans ?_, readRest.trans left.symm⟩
  rw [body, value, skipBlank_false, sign]

/-- The front of a class with a bracket as its first member. -/
theorem yields_readClassOpening_bracket
    (negated : Bool)
    (members : List Member)
    (respell : Bool)
    (more : List Char) :
    Yields (readClassOpening false
        (Member.caret negated ++ ']' :: Member.textUpTo respell members more))
      (negated, [.literal ⟨']', false⟩]) (Member.textUpTo respell members more) := by
  have plain : negated = false →
      (']' :: Member.textUpTo respell members more).head? ≠ some '^' := fun _ => by simp
  obtain ⟨body, sign⟩ := openingBody_caret plain
  have bare : readHyphens false (']' :: Member.textUpTo respell members more) =
      ⟨[], ']' :: Member.textUpTo respell members more, Nat.le_refl _⟩ := by
    rw [readHyphens, readRun]
    rfl
  have empty : (readHyphens false (openingBody false
      (Member.caret negated ++ ']' :: Member.textUpTo respell members more))).value.isEmpty := by
    rw [body, bare]
    rfl
  have ends : (readHyphens false (openingBody false
      (Member.caret negated ++ ']' :: Member.textUpTo respell members more))).rest =
        ']' :: Member.textUpTo respell members more := by
    rw [body, bare]
  rcases readClassOpening_of_bracket empty ends with
    ⟨ended, -⟩ | ⟨-, read, found, value, rest⟩
  · exact absurd ended (textUpTo_ne_nil respell members more)
  · refine yields_iff.mpr ⟨read, found, value.trans ?_, rest⟩
    rw [skipBlank_false, sign]

/-! ## ASCII classes -/

/-- An ASCII class reads as itself. -/
theorem found?_readAsciiClass?_ascii
    (negated : Bool)
    (kind : AsciiClass)
    (rest : List Char) :
    found? (readAsciiClass? (':' :: Member.caret negated ++ Member.asciiName kind ++
      ':' :: ']' :: rest)) = some (.ascii negated kind, rest) := by
  have named : asciiClassNamed? (Member.asciiName kind) = some kind := by cases kind <;> rfl
  have letters : ∀ char ∈ Member.asciiName kind, decide (char ≠ ':') = true := by
    cases kind <;> decide
  have name : found? (readAsciiName? negated (Member.asciiName kind ++ ':' :: ']' :: rest)) =
      some (.ascii negated kind, rest) := by
    rw [found?_readAsciiName?, List.dropWhile_append_of_pos letters,
      List.takeWhile_append_of_pos letters]
    simp [named]
  cases negated with
  | true => exact found?_weaken.trans name
  | false =>
      have plain : (Member.asciiName kind ++ ':' :: ']' :: rest).head? ≠ some '^' := by
        cases kind <;> exact nofun
      rw [show ':' :: Member.caret false ++ Member.asciiName kind ++ ':' :: ']' :: rest =
        ':' :: (Member.asciiName kind ++ ':' :: ']' :: rest) from rfl, readAsciiClass?]
      · exact found?_weaken.trans name
      · rintro text same
        rw [same] at plain
        exact plain rfl

theorem readAsciiClass?_of_head_ne
    {text : List Char}
    (apart : text.head? ≠ some ':') :
    readAsciiClass? text = none := by
  rw [readAsciiClass?]
  · rintro name rfl
    exact apart rfl
  · rintro name rfl
    exact apart rfl

/-- The text of a member begins with a backslash, a bracket or the character it means. -/
theorem head_textAs
    (respell : Bool)
    (member : Member) :
    ∃ first tail, member.textAs respell = first :: tail ∧
      (first ∈ ['\\', '[', ']'] ∨ ∃ spelling, member = .char spelling ∧ first = spelling.char) := by
  have quoted (char : Char) : ∃ first tail, quoteWith isLinearMeta [char] = first :: tail ∧
      (first ∈ ['\\', '[', ']'] ∨ first = char) := by
    by_cases special : isLinearMeta char
    · exact ⟨'\\', [char], by rw [quoteWith, if_pos special]; rfl, .inl (by decide)⟩
    · exact ⟨char, [], by rw [quoteWith, if_neg special]; rfl, .inr rfl⟩
  cases member with
  | char spelling =>
      cases respell with
      | false =>
          cases spelling with
          | plain char => exact ⟨char, [], rfl, .inr ⟨_, rfl, rfl⟩⟩
          | _ => exact ⟨'\\', _, rfl, .inl (by decide)⟩
      | true =>
          cases spelling with
          | plain char => exact ⟨char, [], rfl, .inr ⟨_, rfl, rfl⟩⟩
          | _ =>
              obtain ⟨first, tail, text, either⟩ := quoted (Spelling.char _)
              exact ⟨first, tail, text, either.imp_right fun same => ⟨_, rfl, same⟩⟩
  | named kind => cases respell <;> cases kind <;> exact ⟨'\\', _, rfl, .inl (by decide)⟩
  | ascii negated kind => cases respell <;> exact ⟨'[', _, rfl, .inl (by decide)⟩
  | opening negated => cases respell <;> exact ⟨'[', _, rfl, .inl (by decide)⟩
  | closing => cases respell <;> exact ⟨']', [], rfl, .inl (by decide)⟩

/-- What opens a nested class is no ASCII class. -/
theorem readAsciiClass?_opening
    {negated : Bool}
    {members : List Member}
    (nests : members.head?.any (Member.mayNest negated))
    (respell : Bool)
    (more : List Char) :
    readAsciiClass? (Member.caret negated ++ Member.textUpTo respell members more) = none := by
  refine readAsciiClass?_of_head_ne ?_
  cases negated with
  | true => exact nofun
  | false =>
      cases members with
      | nil => exact absurd nests (by decide)
      | cons member members =>
          obtain ⟨first, tail, text, either⟩ := head_textAs respell member
          rw [Member.textUpTo_cons, text]
          intro colon
          obtain rfl : first = ':' := Option.some.inj colon
          rcases either with listed | ⟨spelling, rfl, same⟩
          · exact absurd listed (by decide)
          · simp [Member.mayNest, ← same] at nests

/-! ## Operators -/

theorem doubled_of_operator
    {first : Char}
    {rest : List Char}
    {operator : SetOperator}
    (found : operatorOf? first rest = some operator) :
    rest.head? = some first ∧ first ∈ ['&', '-', '~'] ∧
      operatorOf? first [first] = some operator := by
  unfold operatorOf? at found
  split at found
  · exact nomatch found
  · next same =>
      split at found
      · exact ⟨Decidable.not_not.mp same, by decide, found⟩
      · exact ⟨Decidable.not_not.mp same, by decide, found⟩
      · exact ⟨Decidable.not_not.mp same, by decide, found⟩
      · exact nomatch found

/-- An operator is written by two plain characters. -/
theorem members_of_operator
    {respell : Bool}
    {member : Member}
    (here : member.isValid)
    {primitive : Primitive}
    (single : member.primitiveAs respell = some primitive)
    {depth : Nat}
    {members : List Member}
    (valid : Member.areValid depth members)
    {more tail : List Char}
    {first : Char}
    {operator : SetOperator}
    (text : member.textAs respell = first :: tail)
    (found : operatorOf? first (tail ++ Member.textUpTo respell members more) = some operator) :
    ∃ rest, member = .char (.plain first) ∧ members = .char (.plain first) :: rest ∧
      operatorOf? first [first] = some operator := by
  obtain ⟨doubled, mark, known⟩ := doubled_of_operator found
  have listed : first ∈ classMarks := List.Subset.trans (by decide) (List.Subset.refl _) mark
  obtain ⟨same, others, text', plain, -⟩ := exists_textAs_cons respell here single
  obtain ⟨rfl, rfl⟩ := List.cons.inj (text.symm.trans text')
  obtain rfl := plain listed
  rw [textAs_plain] at text
  obtain rfl := (List.cons.inj text).2
  rcases cases_of_head_textUpTo valid listed doubled with ⟨rfl, -⟩ | ⟨rfl, -⟩ | ⟨rest, rfl⟩
  · exact absurd mark (by decide)
  · exact absurd mark (by decide)
  · exact ⟨rest, rfl, rfl, known⟩

/-! ## Whole classes -/

section

variable {respell other : Bool}

/-- The rest of a class, from members on that stand in `depth` more classes than the
outermost, reads the same in both spellings, and neither reads beyond the bracket that closes
the class. -/
def ReadsAlike (respell other : Bool) (depth : Nat) (members : List Member) : Prop :=
  ∀ ⦃frames waiting : List ClassFrame⦄, Nested depth frames →
    frames.map ClassFrame.dropBytes = waiting.map ClassFrame.dropBytes →
    ∀ ⦃items others : List ClassSet⦄,
      items.map ClassSet.dropBytes = others.map ClassSet.dropBytes →
      ∀ (more less : List Char) ⦃value : Bool × ClassSet⦄ ⦃ending : List Char⦄,
        Yields (readClassBody false frames items (Member.textUpTo respell members more))
          value ending →
        ending = more ∧ ∃ set, value.2.dropBytes = set.dropBytes ∧
          Yields (readClassBody false waiting others (Member.textUpTo other members less))
            (value.1, set) less

theorem dropBytes_ofItems_reverse
    {items others : List ClassSet}
    (same : items.map ClassSet.dropBytes = others.map ClassSet.dropBytes) :
    (ClassSet.ofItems items.reverse).dropBytes = (ClassSet.ofItems others.reverse).dropBytes := by
  rw [ClassSet.dropBytes_ofItems, ClassSet.dropBytes_ofItems, List.map_reverse, same,
    List.map_reverse]

/-- An open class stands in the same place for both spellings. -/
theorem opened_of_dropBytes
    {members : List ClassSet}
    {negated : Bool}
    {frames waiting : List ClassFrame}
    (same : (ClassFrame.opened members negated :: frames).map ClassFrame.dropBytes =
      waiting.map ClassFrame.dropBytes) :
    ∃ others behind, waiting = .opened others negated :: behind ∧
      members.map ClassSet.dropBytes = others.map ClassSet.dropBytes ∧
      frames.map ClassFrame.dropBytes = behind.map ClassFrame.dropBytes := by
  cases waiting with
  | nil => exact nomatch same
  | cons frame behind =>
      obtain ⟨head, tail⟩ := List.cons.inj same
      cases frame with
      | opened others sign =>
          obtain ⟨items, rfl⟩ := ClassFrame.opened.inj head
          exact ⟨others, behind, rfl, items, tail⟩
      | operation operator left => exact nomatch head

theorem readClassBody_close
    (frames : List ClassFrame)
    (items : List ClassSet)
    (more : List Char) :
    readClassBody false frames items (']' :: more) =
      match (applyOperation (.ofItems items.reverse) frames).2 with
      | .opened outer negated :: enclosing =>
        if enclosing.isEmpty then
          .ok ⟨(negated, (applyOperation (.ofItems items.reverse) frames).1), more, Nat.le_succ _⟩
        else do
          return (← readClassBody false enclosing
            (.bracketed negated (applyOperation (.ofItems items.reverse) frames).1 :: outer)
              more).weaken (Nat.le_succ _)
      | _ => .error .classUnclosed :=
  readClassBody_of_close rfl (Nat.le_succ _) rfl

theorem readsAlike_nil :
    ReadsAlike respell other 0 [] := by
  intro frames waiting nested sameFrames items others sameItems more less value ending found
  obtain ⟨sets, left⟩ := dropBytes_applyOperation (dropBytes_ofItems_reverse sameItems) sameFrames
  have after := nested.applyOperation (ClassSet.ofItems items.reverse)
  rw [show Member.textUpTo respell [] more = ']' :: more from rfl, readClassBody_close] at found
  rw [show Member.textUpTo other [] less = ']' :: less from rfl, readClassBody_close]
  generalize applyOperation (ClassSet.ofItems items.reverse) frames = applied at *
  generalize applyOperation (ClassSet.ofItems others.reverse) waiting = otherApplied at *
  obtain ⟨set, frames⟩ := applied
  obtain ⟨otherSet, waiting⟩ := otherApplied
  cases after with
  | outermost outer negated =>
      obtain ⟨_, _, rfl, -, same⟩ := opened_of_dropBytes left
      obtain rfl := List.map_eq_nil_iff.mp same.symm
      obtain ⟨_, same⟩ := found
      obtain ⟨rfl, rfl⟩ := (Read.mk.injEq .. ▸ Except.ok.inj same :)
      exact ⟨rfl, otherSet, sets, Nat.le_succ _, rfl⟩
  | operation operator operand around =>
      obtain ⟨_, same⟩ := found
      exact nomatch same

theorem readsAlike_closing
    {depth : Nat}
    {members : List Member}
    (others : ReadsAlike respell other depth members) :
    ReadsAlike respell other (depth + 1) (.closing :: members) := by
  intro frames waiting nested sameFrames items otherItems sameItems more less value ending found
  obtain ⟨sets, left⟩ := dropBytes_applyOperation (dropBytes_ofItems_reverse sameItems) sameFrames
  have after := nested.applyOperation (ClassSet.ofItems items.reverse)
  have text (respell : Bool) (more : List Char) :
      Member.textUpTo respell (.closing :: members) more =
        ']' :: Member.textUpTo respell members more := by
    rw [Member.textUpTo_cons]
    cases respell <;> rfl
  rw [text, readClassBody_close] at found
  rw [text, readClassBody_close]
  generalize applyOperation (ClassSet.ofItems items.reverse) frames = applied at *
  generalize applyOperation (ClassSet.ofItems otherItems.reverse) waiting = otherApplied at *
  obtain ⟨set, frames⟩ := applied
  obtain ⟨otherSet, waiting⟩ := otherApplied
  cases after with
  | opened outer negated around =>
      obtain ⟨otherOuter, behind, rfl, outers, same⟩ := opened_of_dropBytes left
      have otherSome : behind ≠ [] := by
        rintro rfl
        exact around.ne_nil (List.map_eq_nil_iff.mp same)
      dsimp only at found ⊢
      rw [if_neg (by simpa using around.ne_nil), yields_weaken_iff] at found
      rw [if_neg (by simpa using otherSome)]
      have bodies : set.dropBytes = otherSet.dropBytes := sets
      have sameOuter : (ClassSet.bracketed negated set :: outer).map ClassSet.dropBytes =
          (ClassSet.bracketed negated otherSet :: otherOuter).map ClassSet.dropBytes := by
        rw [List.map_cons, List.map_cons, ClassSet.dropBytes, ClassSet.dropBytes, bodies, outers]
      obtain ⟨rfl, set', sets', yields⟩ := others around same sameOuter more less found
      exact ⟨rfl, set', sets', yields_weaken_iff.mpr yields⟩
  | operation operator operand around =>
      obtain ⟨_, same⟩ := found
      exact nomatch same

theorem yields_readClassBody_opening_iff
    {frames : List ClassFrame}
    {items inner : List ClassSet}
    {text rest : List Char}
    {negated : Bool}
    (plain : readAsciiClass? text = none)
    (opening : Yields (readClassOpening false text) (negated, inner) rest)
    {value : Bool × ClassSet}
    {ending : List Char} :
    Yields (readClassBody false frames items ('[' :: text)) value ending ↔
      Yields (readClassBody false (.opened items negated :: frames) inner rest) value ending := by
  obtain ⟨shorter, opening⟩ := opening
  have bound {shorter : List Char} (less : shorter.length ≤ text.length) :
      shorter.length ≤ ('[' :: text).length := Nat.le_succ_of_le less
  rw [readClassBody_of_nested rfl plain bound, opening]
  exact yields_weaken_iff

theorem yields_readClassBody_ascii_iff
    {frames : List ClassFrame}
    {items : List ClassSet}
    {item : ClassSet}
    {text rest : List Char}
    (ascii : found? (readAsciiClass? text) = some (item, rest))
    {value : Bool × ClassSet}
    {ending : List Char} :
    Yields (readClassBody false frames items ('[' :: text)) value ending ↔
      Yields (readClassBody false frames (item :: items) rest) value ending := by
  obtain ⟨read, found, same⟩ := Option.map_eq_some_iff.mp ascii
  obtain ⟨rfl, rfl⟩ := Prod.mk.inj same
  have bound : read.rest.length ≤ ('[' :: text).length := Nat.le_succ_of_le read.shorter
  rw [readClassBody_of_ascii rfl found bound]
  exact yields_weaken_iff

theorem yields_readClassBody_operator_iff
    {frames : List ClassFrame}
    {items : List ClassSet}
    {first : Char}
    {rest : List Char}
    {operator : SetOperator}
    (bare : first ≠ '[' ∧ first ≠ ']')
    (found : operatorOf? first [first] = some operator)
    {value : Bool × ClassSet}
    {ending : List Char} :
    Yields (readClassBody false frames items (first :: first :: rest)) value ending ↔
      Yields (readClassBody false
        (.operation operator (applyOperation (.ofItems items.reverse) frames).1 ::
          (applyOperation (.ofItems items.reverse) frames).2) [] rest) value ending := by
  rw [readClassBody_of_operator rfl bare (show operatorOf? first (first :: rest) = _ from found) rfl
    (show rest.length ≤ (first :: first :: rest).length by simp only [List.length_cons]; omega)]
  exact yields_weaken_iff

theorem yields_readClassBody_item_iff
    {frames : List ClassFrame}
    {items : List ClassSet}
    {first : Char}
    {text : List Char}
    (bare : first ≠ '[' ∧ first ≠ ']')
    (plain : operatorOf? first text = none)
    {value : Bool × ClassSet}
    {ending : List Char} :
    Yields (readClassBody false frames items (first :: text)) value ending ↔
      ∃ item rest, Yields (readMemberOrRange false first text) item rest ∧
        Yields (readClassBody false frames (item :: items) rest) value ending := by
  have bound {shorter : List Char} (less : shorter.length ≤ text.length) :
      shorter.length ≤ (first :: text).length := Nat.le_succ_of_le less
  rw [readClassBody_of_item rfl bare plain bound]
  cases read : readMemberOrRange false first text with
  | error cause =>
      constructor
      · rintro ⟨_, ⟨⟩⟩
      · rintro ⟨_, _, ⟨_, ⟨⟩⟩, -⟩
  | ok item =>
      refine yields_weaken_iff.trans ?_
      constructor
      · exact fun yields => ⟨item.value, item.rest, ⟨item.shorter, rfl⟩, yields⟩
      · rintro ⟨_, _, ⟨_, ⟨⟩⟩, yields⟩
        exact yields

theorem mayOpen_of_mayNest
    {negated : Bool}
    {members : List Member}
    (nests : members.head?.any (Member.mayNest negated)) :
    members.head?.any (Member.mayOpen negated) := by
  cases members with
  | nil => exact nests
  | cons member members =>
      cases member with
      | char spelling =>
          exact decide_eq_true ((of_decide_eq_true nests).imp_right And.left)
      | _ => exact nests

theorem readsAlike_opening
    {negated : Bool}
    {depth : Nat}
    {members : List Member}
    (nests : members.head?.any (Member.mayNest negated))
    (valid : Member.areValid (depth + 1) members)
    (closed : Member.haveClosedRanges members)
    (others : ReadsAlike respell other (depth + 1)
      (members.dropWhile (· = .char (.plain '-')))) :
    ReadsAlike respell other depth (.opening negated :: members) := by
  intro frames waiting nested sameFrames items otherItems sameItems more less value ending found
  have text (respell : Bool) (more : List Char) :
      Member.textUpTo respell (.opening negated :: members) more =
        '[' :: (Member.caret negated ++ Member.textUpTo respell members more) := by
    rw [Member.textUpTo_cons]
    cases respell <;> rfl
  have opens := mayOpen_of_mayNest nests
  have sameAround : (ClassFrame.opened items negated :: frames).map ClassFrame.dropBytes =
      (ClassFrame.opened otherItems negated :: waiting).map ClassFrame.dropBytes := by
    rw [List.map_cons, List.map_cons, ClassFrame.dropBytes, ClassFrame.dropBytes, sameItems,
      sameFrames]
  rw [text, yields_readClassBody_opening_iff
    (readAsciiClass?_opening nests respell more)
    (yields_readClassOpening_members valid closed opens respell more)] at found
  rw [text]
  simp only [yields_readClassBody_opening_iff
    (readAsciiClass?_opening nests other less)
    (yields_readClassOpening_members valid closed opens other less)]
  exact others (.opened items negated nested) sameAround rfl more less found

theorem readsAlike_ascii
    (negated : Bool)
    (kind : AsciiClass)
    {depth : Nat}
    {members : List Member}
    (others : ReadsAlike respell other depth members) :
    ReadsAlike respell other depth (.ascii negated kind :: members) := by
  intro frames waiting nested sameFrames items otherItems sameItems more less value ending found
  have text (respell : Bool) (more : List Char) :
      Member.textUpTo respell (.ascii negated kind :: members) more =
        '[' :: (':' :: Member.caret negated ++ Member.asciiName kind ++
          ':' :: ']' :: Member.textUpTo respell members more) := by
    rw [Member.textUpTo_cons]
    cases respell <;> simp [Member.textAs, Member.text, Member.respelled]
  rw [text, yields_readClassBody_ascii_iff (found?_readAsciiClass?_ascii negated kind _)] at found
  rw [text]
  simp only [yields_readClassBody_ascii_iff (found?_readAsciiClass?_ascii negated kind _)]
  exact others nested sameFrames (by rw [List.map_cons, List.map_cons, sameItems]) more less found

/-- A member that is no bracket, or the operator or range that it starts. -/
theorem readsAlike_single
    {depth : Nat}
    {member : Member}
    {members : List Member}
    (plain : ¬ member.isBracketed)
    (notClosing : member ≠ .closing)
    (valid : Member.areValid depth (member :: members))
    (closed : Member.haveClosedRanges (member :: members))
    (others : ∀ rest : List Member, Member.areValid depth rest → Member.haveClosedRanges rest →
      rest.length ≤ members.length → ReadsAlike respell other depth rest) :
    ReadsAlike respell other depth (member :: members) := by
  intro frames waiting nested sameFrames items otherItems sameItems more less value ending found
  obtain ⟨primitive, single⟩ := single_of_not_isBracketed plain notClosing respell
  obtain ⟨another, otherSingle⟩ := single_of_not_isBracketed plain notClosing other
  obtain ⟨here, behind⟩ := areValid_of_single single valid
  obtain ⟨first, tail, text, -, notOpen, notClose, read⟩ := exists_textAs_cons respell here single
  obtain ⟨second, otherTail, otherText, -, otherNotOpen, otherNotClose, otherRead⟩ :=
    exists_textAs_cons other here otherSingle
  rw [Member.textUpTo_cons, text, List.cons_append] at found
  rw [Member.textUpTo_cons, otherText, List.cons_append]
  cases operator : operatorOf? first (tail ++ Member.textUpTo respell members more) with
  | some operation =>
      obtain ⟨rest, rfl, rfl, known⟩ := members_of_operator here single behind text operator
      rw [textAs_plain] at text otherText
      obtain ⟨-, rfl⟩ := List.cons.inj text
      obtain ⟨rfl, rfl⟩ := List.cons.inj otherText
      rw [List.nil_append, Member.textUpTo_cons, textAs_plain, List.singleton_append,
        yields_readClassBody_operator_iff ⟨notOpen, notClose⟩ known] at found
      rw [List.nil_append, Member.textUpTo_cons, textAs_plain, List.singleton_append]
      simp only [yields_readClassBody_operator_iff ⟨notOpen, notClose⟩ known]
      obtain ⟨sets, left⟩ :=
        dropBytes_applyOperation (dropBytes_ofItems_reverse sameItems) sameFrames
      refine others rest (areValid_of_char behind).2
        (haveClosedRanges_tail (haveClosedRanges_tail closed)) (Nat.le_succ _)
        (.operation operation _ (nested.applyOperation _)) ?_ rfl more less found
      rw [List.map_cons, List.map_cons, ClassFrame.dropBytes, ClassFrame.dropBytes, sets, left]
  | none =>
      have known {mark : Char} {rest : List Member} (same : member = .char (.plain mark))
          (doubled : members = .char (.plain mark) :: rest) : operatorOf? mark [mark] = none := by
        subst same doubled
        rw [textAs_plain] at text
        obtain ⟨rfl, rfl⟩ := List.cons.inj text
        rw [List.nil_append, Member.textUpTo_cons, textAs_plain] at operator
        exact operator
      have otherOperator :
          operatorOf? second (otherTail ++ Member.textUpTo other members less) = none := by
        refine Option.eq_none_iff_forall_not_mem.mpr fun operation found => ?_
        obtain ⟨rest, same, doubled, some⟩ :=
          members_of_operator here otherSingle behind otherText found
        exact nomatch (known same doubled).symm.trans some
      have noOperator : member = .char (.plain '-') →
          ∀ rest, members ≠ .char (.plain '-') :: rest := fun same rest doubled =>
        nomatch known same doubled
      rw [yields_readClassBody_item_iff ⟨notOpen, notClose⟩ operator] at found
      simp only [yields_readClassBody_item_iff ⟨otherNotOpen, otherNotClose⟩ otherOperator]
      obtain ⟨item, rest, itemFound, found⟩ := found
      obtain ⟨rest, restValid, restClosed, shorter, rfl, otherItem, sameItem, otherFound⟩ :=
        readMemberOrRange_respelled single otherSingle behind closed noOperator (read _)
          (otherRead _) itemFound
      have sameAll : (item :: items).map ClassSet.dropBytes =
          (otherItem :: otherItems).map ClassSet.dropBytes := by
        rw [List.map_cons, List.map_cons, sameItem, sameItems]
      obtain ⟨rfl, set, sets, yields⟩ :=
        others rest restValid restClosed shorter nested sameFrames sameAll more less found
      exact ⟨rfl, set, sets, otherItem, _, otherFound, yields⟩

theorem readsAlike
    {depth : Nat}
    {members : List Member}
    (valid : Member.areValid depth members)
    (closed : Member.haveClosedRanges members) :
    ReadsAlike respell other depth members := by
  induction length : members.length using Nat.strongRecOn generalizing depth members with
  | ind count inductionHypothesis =>
      subst length
      have shorter {rest : List Member} {inner : Nat} (valid : Member.areValid inner rest)
          (closed : Member.haveClosedRanges rest) (less : rest.length < members.length) :
          ReadsAlike respell other inner rest :=
        inductionHypothesis rest.length less valid closed rfl
      cases members with
      | nil =>
          obtain rfl : depth = 0 := of_decide_eq_true valid
          exact readsAlike_nil
      | cons member members =>
          have tail := haveClosedRanges_tail closed
          cases member with
          | closing =>
              cases depth with
              | zero => exact absurd valid nofun
              | succ depth =>
                  have inner : Member.areValid depth members := valid
                  exact readsAlike_closing (shorter inner tail (Nat.lt_succ_self _))
          | opening negated =>
              obtain ⟨nests, inner⟩ : members.head?.any (Member.mayNest negated) ∧
                  Member.areValid (depth + 1) members := by
                simpa [Member.areValid] using valid
              obtain ⟨-, -, droppedValid, droppedClosed⟩ :=
                readHyphens_textUpTo inner tail respell []
              exact readsAlike_opening nests inner tail (shorter droppedValid droppedClosed
                (Nat.lt_succ_of_le (List.dropWhile_sublist _).length_le))
          | ascii negated kind =>
              have later : Member.areValid depth members := by
                simpa [Member.areValid, Member.isValid] using valid
              exact readsAlike_ascii negated kind (shorter later tail (Nat.lt_succ_self _))
          | char spelling =>
              exact readsAlike_single Bool.false_ne_true nofun valid closed fun rest restValid restClosed less =>
                shorter restValid restClosed (Nat.lt_succ_of_le less)
          | named kind =>
              exact readsAlike_single Bool.false_ne_true nofun valid closed fun rest restValid restClosed less =>
                shorter restValid restClosed (Nat.lt_succ_of_le less)

end

end Linear

/-- The text behind the opening bracket in one or the other spelling. -/
def Pattern.Bracket.bodyAs (respell : Bool) (bracket : Pattern.Bracket) : List Char :=
  Pattern.Member.caret bracket.negated ++ (if bracket.bracketFirst then [']'] else []) ++
    bracket.members.flatMap (Pattern.Member.textAs respell) ++ [']']

namespace Linear

open Pattern (Member Bracket)

theorem yields_readBracketClass_iff
    {text rest : List Char}
    {negated : Bool}
    {items : List ClassSet}
    (opening : Yields (readClassOpening false text) (negated, items) rest)
    {value : Bool × ClassSet}
    {ending : List Char} :
    Yields (readBracketClass false text) value ending ↔
      Yields (readClassBody false [.opened [] negated] items rest) value ending := by
  obtain ⟨shorter, opening⟩ := opening
  rw [readBracketClass, opening]
  exact yields_weaken_iff

/-- A bracket class reads the same in both spellings, whatever stands behind it. -/
theorem readBracketClass_respelled
    {respell other : Bool}
    {bracket : Bracket}
    (valid : bracket.isValid)
    {more less : List Char}
    {value : Bool × ClassSet}
    {ending : List Char}
    (found : Yields (readBracketClass false (bracket.bodyAs respell ++ more)) value ending) :
    ending = more ∧ ∃ set, value.2.dropBytes = set.dropBytes ∧
      Yields (readBracketClass false (bracket.bodyAs other ++ less)) (value.1, set) less := by
  obtain ⟨opens, listed, closed⟩ := of_decide_eq_true valid
  obtain ⟨negated, bracketFirst, members⟩ := bracket
  cases bracketFirst with
  | true =>
      have text (respell : Bool) (more : List Char) :
          (Pattern.Bracket.mk negated true members).bodyAs respell ++ more =
            Member.caret negated ++ ']' :: Member.textUpTo respell members more := by
        simp [Bracket.bodyAs, Member.textUpTo]
      rw [text, yields_readBracketClass_iff
        (yields_readClassOpening_bracket negated members respell more)] at found
      rw [text]
      simp only [yields_readBracketClass_iff
        (yields_readClassOpening_bracket negated members other less)]
      exact readsAlike listed closed (.outermost [] negated) rfl rfl more less found
  | false =>
      have text (respell : Bool) (more : List Char) :
          (Pattern.Bracket.mk negated false members).bodyAs respell ++ more =
            Member.caret negated ++ Member.textUpTo respell members more := by
        simp [Bracket.bodyAs, Member.textUpTo]
      have opens := opens.resolve_left Bool.false_ne_true
      obtain ⟨-, -, droppedValid, droppedClosed⟩ := readHyphens_textUpTo listed closed respell []
      rw [text, yields_readBracketClass_iff
        (yields_readClassOpening_members listed closed opens respell more)] at found
      rw [text]
      simp only [yields_readBracketClass_iff
        (yields_readClassOpening_members listed closed opens other less)]
      exact readsAlike droppedValid droppedClosed (.outermost [] negated) rfl rfl more less found

end Linear
end LineExtraction
