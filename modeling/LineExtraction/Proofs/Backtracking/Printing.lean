import LineExtraction.Backtracking.Measure
import LineExtraction.Backtracking.Printer
import LineExtraction.Proofs.Compilation.Groups
import LineExtraction.Proofs.Backtracking.PhraseReading

/-!
# Printed patterns are phrases

What is printed of a pattern that is not hard is the text of a phrase: literals are quoted,
classes are spelled with as few escapes as possible, counts are written in decimal, and a part
that would bind differently stands in a plain group.
-/

namespace LineExtraction

/-! ## Classes -/

namespace Pattern

/-- A character that is escaped only where it would mean something else. -/
def Spelling.quoted (isMeta : Char → Bool) (char : Char) : Spelling :=
  if isMeta char then escaped char else plain char

theorem Spelling.text_quoted
    (isMeta : Char → Bool)
    (char : Char) :
    (quoted isMeta char).text = quoteWith isMeta [char] := by
  rw [quoted, quoteWith]
  split <;> rfl

theorem Spelling.char_quoted
    (isMeta : Char → Bool)
    (char : Char) :
    (quoted isMeta char).char = char := by
  rw [quoted]
  split <;> rfl

theorem Spelling.isValid_quoted
    {isMeta : Char → Bool}
    {special : List Char}
    (escapes : ∀ char, isMeta char → isLinearMeta char)
    (knows : special.all isMeta)
    (char : Char) :
    (quoted isMeta char).isValid special := by
  rw [quoted]
  split
  · next isSpecial => exact decide_eq_true (.inl (escapes char isSpecial))
  · next bare => exact decide_eq_true fun member => bare (List.all_eq_true.mp knows char member)

theorem isLinearMeta_of_isBacktrackingMeta
    {char : Char}
    (special : isBacktrackingMeta char) :
    isLinearMeta char := by
  have subset : ['\\', '.', '+', '*', '?', '(', ')', '|', '[', ']', '\x7b', '\x7d', '^', '$', '#'] ⊆
      ['\\', '.', '+', '*', '?', '(', ')', '|', '[', ']', '\x7b', '\x7d', '^', '$', '#', '&', '-',
        '~'] := by
    decide
  exact decide_eq_true (subset (of_decide_eq_true special))

/-- The spelling with as few escapes as the linear dialect allows inside of a class. -/
def Spelling.respell : Spelling → Spelling
  | plain char => plain char
  | spelling => quoted isLinearMeta spelling.char

theorem Spelling.char_respell
    (spelling : Spelling) :
    spelling.respell.char = spelling.char := by
  cases spelling with
  | plain char => rfl
  | _ => exact char_quoted isLinearMeta _

/-- Only a plain character is respelled as one that means something inside of a class. -/
theorem Spelling.eq_plain_of_respell
    {spelling : Spelling}
    {char : Char}
    (special : isLinearMeta char)
    (same : spelling.respell = plain char) :
    spelling = plain char := by
  have apart {other : Char} (same : quoted isLinearMeta other = plain char) : False := by
    rw [quoted] at same
    split at same
    · cases same
    · next bare =>
        obtain rfl := Spelling.plain.inj same
        exact bare special
  cases spelling with
  | plain own => exact same
  | _ => exact (apart same).elim

theorem Spelling.isValid_respell
    {spelling : Spelling}
    (valid : spelling.isValid insideSpecial) :
    spelling.respell.isValid insideSpecial := by
  cases spelling with
  | plain char => exact valid
  | _ => exact isValid_quoted (fun _ special => special) (by decide) _

namespace Member

/-- The member with as few escapes as the linear dialect allows. -/
def respell : Member → Member
  | char spelling => char spelling.respell
  | member => member

theorem text_respell
    (member : Member) :
    member.respell.text = member.textAs true := by
  cases member with
  | char spelling =>
      cases spelling with
      | plain letter => rfl
      | _ => exact Spelling.text_quoted isLinearMeta _
  | _ => rfl

theorem isValid_respell
    {member : Member}
    (valid : member.isValid) :
    member.respell.isValid := by
  cases member with
  | char spelling => exact Spelling.isValid_respell valid
  | _ => exact valid

theorem mayOpen_respell
    {negated : Bool}
    {member : Member}
    (opens : member.mayOpen negated) :
    member.respell.mayOpen negated := by
  cases member with
  | char spelling =>
      exact decide_eq_true ((of_decide_eq_true opens).imp_right fun apart same =>
        apart (Spelling.eq_plain_of_respell rfl same))
  | _ => exact opens

theorem mayNest_respell
    {negated : Bool}
    {member : Member}
    (nests : member.mayNest negated) :
    member.respell.mayNest negated := by
  cases member with
  | char spelling =>
      refine decide_eq_true ((of_decide_eq_true nests).imp_right fun ⟨apart, noColon⟩ => ⟨?_, ?_⟩)
      · exact fun same => apart (Spelling.eq_plain_of_respell rfl same)
      · rwa [Spelling.char_respell]
  | _ => exact nests

theorem areValid_respell
    {depth : Nat}
    {members : List Member}
    (valid : areValid depth members) :
    areValid depth (members.map respell) := by
  induction members generalizing depth with
  | nil => exact valid
  | cons member members inductionHypothesis =>
      cases member with
      | opening negated =>
          obtain ⟨nests, others⟩ := of_decide_eq_true valid
          refine decide_eq_true ⟨?_, inductionHypothesis others⟩
          cases members with
          | nil => cases nests
          | cons first rest => exact mayNest_respell nests
      | closing =>
          cases depth with
          | zero => exact absurd valid Bool.false_ne_true
          | succ depth => exact inductionHypothesis (show areValid depth members from valid)
      | char spelling =>
          obtain ⟨own, others⟩ := of_decide_eq_true valid
          exact decide_eq_true ⟨isValid_respell own, inductionHypothesis others⟩
      | named kind =>
          obtain ⟨own, others⟩ := of_decide_eq_true valid
          exact decide_eq_true ⟨own, inductionHypothesis others⟩
      | ascii negated kind =>
          obtain ⟨own, others⟩ := of_decide_eq_true valid
          exact decide_eq_true ⟨own, inductionHypothesis others⟩

theorem startsRange_of_respell
    {member : Member}
    (starts : member.respell.startsRange) :
    member.startsRange := by
  cases member with
  | char spelling =>
      refine decide_eq_true fun same => of_decide_eq_true starts ?_
      rw [same]
      rfl
  | _ => exact starts

theorem isBracketed_respell
    (member : Member) :
    member.respell.isBracketed = member.isBracketed := by
  cases member <;> rfl

theorem closesRange_respell
    {first : Member}
    {rest : List Member}
    (closes : first.closesRange rest) :
    first.respell.closesRange (rest.map respell) := by
  unfold closesRange
  split
  · next last _ same =>
      obtain ⟨hyphen, others, rfl, isHyphen, same⟩ := List.map_eq_cons_iff.mp same
      obtain ⟨last, others, rfl, rfl, -⟩ := List.map_eq_cons_iff.mp same
      cases hyphen with
      | char spelling =>
          obtain rfl := Spelling.eq_plain_of_respell rfl (Member.char.inj isHyphen)
          refine decide_eq_true fun ⟨starts, bracketed⟩ => of_decide_eq_true closes ?_
          exact ⟨startsRange_of_respell starts, isBracketed_respell last ▸ bracketed⟩
      | _ => cases isHyphen
  · rfl

theorem haveClosedRanges_respell
    {members : List Member}
    (closed : haveClosedRanges members) :
    haveClosedRanges (members.map respell) := by
  induction members with
  | nil => rfl
  | cons first rest inductionHypothesis =>
      obtain ⟨closes, others⟩ := of_decide_eq_true closed
      exact decide_eq_true ⟨closesRange_respell closes, inductionHypothesis others⟩

end Member

namespace Bracket

/-- The class with as few escapes as the linear dialect allows. -/
def respell (bracket : Bracket) : Bracket :=
  { bracket with members := bracket.members.map Member.respell }

theorem text_respell
    (bracket : Bracket) :
    bracket.respell.text = bracket.respelled := by
  have members : (bracket.members.map Member.respell).flatMap Member.text =
      bracket.members.flatMap (Member.textAs true) := by
    rw [List.flatMap_map]
    exact congrArg (bracket.members.flatMap ·) (funext Member.text_respell)
  rw [text, body, respelled, bodyAs, ← members]
  rfl

theorem isValid_respell
    {bracket : Bracket}
    (valid : bracket.isValid) :
    bracket.respell.isValid := by
  obtain ⟨opens, listed, closed⟩ := of_decide_eq_true valid
  refine decide_eq_true ⟨opens.imp_right fun opens => ?_, Member.areValid_respell listed,
    Member.haveClosedRanges_respell closed⟩
  obtain ⟨negated, bracketFirst, members⟩ := bracket
  cases members with
  | nil => cases opens
  | cons first rest => exact Member.mayOpen_respell opens

end Bracket

/-! ## Quantifiers -/

theorem Counts.isNumeral_repr
    {count : Nat}
    (fits : count ≤ Backtracking.maximalNumber) :
    isNumeral (Nat.repr count).toList := by
  have some : (Nat.repr count).toList ≠ [] := by
    rw [Nat.toList_repr]
    exact Nat.toDigits_ne_nil
  have digits : (Nat.repr count).toList.all Char.isDigit :=
    List.all_eq_true.mpr fun _ => isDigit_of_mem_toString
  exact decide_eq_true ⟨some, digits, (decimalValue_toString count).symm ▸ fits⟩

/-- The counts that are written for a least and a greatest one. -/
def Counts.ofBounds : (min : Nat) → (max : Option Nat) → Counts
  | 0, some 1 => .optional
  | 0, none => .star
  | 1, none => .plus
  | min, none => .atLeast (Nat.repr min).toList
  | min, some max =>
    if min = max then .exactly (Nat.repr min).toList
    else .between (Nat.repr min).toList (Nat.repr max).toList

namespace Quantifier

/-- The quantifier that is written for counts. -/
def ofCounts (min : Nat) (max : Option Nat) (greedy : Bool) : Quantifier :=
  ⟨.ofBounds min max, !greedy, false⟩

theorem text_ofCounts
    (min : Nat)
    (max : Option Nat)
    (greedy : Bool) :
    (ofCounts min max greedy).text = Backtracking.quantifierText min max greedy := by
  have written : Backtracking.quantifierText min max true = (Counts.ofBounds min max).text := by
    unfold Backtracking.quantifierText
    rw [if_pos rfl]
    split
    case h_4 _ _ apart once =>
      rw [Counts.ofBounds]
      · rfl
      · exact apart
      · exact once
    case h_5 _ max apart =>
      rw [Counts.ofBounds]
      · split <;> rfl
      · exact apart
    all_goals rfl
  cases greedy with
  | true => simp [text, ofCounts, written]
  | false =>
      show _ = Backtracking.quantifierText min max true ++ ['?']
      simp [text, ofCounts, written]

/-- The quantifier commits nowhere, and its counts can be read. -/
def IsPlain (quantifier : Option Quantifier) : Prop :=
  ∀ own ∈ quantifier, own.counts.isValid ∧ own.possessive = false

theorem isPlain_none : IsPlain none := nofun

theorem isPlain_ofCounts
    {min : Nat}
    (minFits : min ≤ Backtracking.maximalNumber)
    {max : Option Nat}
    (maxFits : ∀ bound ∈ max, bound ≤ Backtracking.maximalNumber)
    (greedy : Bool) :
    IsPlain (some (ofCounts min max greedy)) := by
  rintro _ ⟨⟩
  refine ⟨?_, rfl⟩
  show (Counts.ofBounds min max).isValid
  unfold Counts.ofBounds
  split
  case h_4 => exact Counts.isNumeral_repr minFits
  case h_5 =>
    split
    · exact Counts.isNumeral_repr minFits
    · exact decide_eq_true ⟨Counts.isNumeral_repr minFits, Counts.isNumeral_repr (maxFits _ rfl)⟩
  all_goals rfl

end Quantifier

/-- Whether the atom is a class. -/
def Leaf.isClass : Leaf → Bool
  | named _ => true
  | bracket _ => true
  | _ => false

/-- An atom, which stands in a group with the sign where it is marked. -/
def Phrase.marked (sign : GroupSign) (isMarked : Bool) (atom : Leaf)
    (quantifier : Option Quantifier) (rest : Phrase) : Phrase :=
  if isMarked then .group sign (.leaf atom none .done) quantifier rest
  else .leaf atom quantifier rest

end Pattern

/-! ## Patterns -/

namespace Backtracking.Ast

open Pattern (Spelling Leaf GroupSign Phrase isBacktrackingMeta)

section

variable (classOf : List Char → Leaf)

mutual

/-- The phrase that is printed of a pattern that has to hold together as `binding` says, with
a quantifier and in front of a rest.  The class with a text is given. -/
def phrase (binding : Binding) (quantifier : Option Pattern.Quantifier) (rest : Phrase) :
    Ast → Phrase
  | any newline => .marked .dotAll newline .dot quantifier rest
  | literal char fold => .marked .fold fold (.char (.quoted isBacktrackingMeta char)) quantifier rest
  | assertion look =>
    .leaf (.anchor (if look = .startText then .startLine else .endLine)) none rest
  | charClass text fold => .marked .fold fold (classOf text) quantifier rest
  | sequence parts =>
    if binding = .part ∨ binding = .quantified then
      .group .plain (partsPhrase .done parts) quantifier rest
    else partsPhrase rest parts
  | choice branches =>
    if binding = .loose then branchesPhrase rest branches
    else .group .plain (branchesPhrase .done branches) quantifier rest
  | capture _ body => .group .capture (phrase .loose none .done body) quantifier rest
  | repetition min max greedy body =>
    let own := some (.ofCounts min max greedy)
    if binding = .quantified then
      .group .plain (phrase .quantified own .done body) quantifier rest
    else phrase .quantified own rest body
  | _ => rest

/-- The phrase of parts one after the other. -/
def partsPhrase (rest : Phrase) : List Ast → Phrase
  | [] => rest
  | part :: parts => phrase .part none (partsPhrase rest parts) part

/-- The phrase of branches with bars between them. -/
def branchesPhrase (rest : Phrase) : List Ast → Phrase
  | [] => rest
  | [branch] => phrase .branch none rest branch
  | branch :: branches => phrase .branch none (.bar (branchesPhrase rest branches)) branch

end

mutual

/-- Whether the pattern is printed as a phrase: it is not hard, its classes are given, its
counts can be read, and what repeats is repeatable. -/
def IsPlain : Ast → Prop
  | empty => True
  | any _ => True
  | literal _ _ => True
  | assertion look => look = .startText ∨ look = .endText
  | charClass text _ =>
    (classOf text).isClass ∧ (classOf text).isValid ∧ (classOf text).text = text
  | sequence parts => ArePlain parts
  | choice branches => branches ≠ [] ∧ ArePlain branches
  | capture _ body => IsPlain body
  | repetition min max _ body =>
    (min ≤ maximalNumber ∧ ∀ bound ∈ max, bound ≤ maximalNumber) ∧ body.isRepeatable ∧
      IsPlain body
  | _ => False

/-- Whether every pattern of the list is printed as a phrase. -/
def ArePlain : List Ast → Prop
  | [] => True
  | part :: parts => IsPlain part ∧ ArePlain parts

end

variable {classOf : List Char → Leaf}

/-! ### Texts -/

theorem text_marked
    (sign : GroupSign)
    (isMarked : Bool)
    (atom : Leaf)
    (quantifier : Option Pattern.Quantifier)
    (rest : Phrase) :
    (Phrase.marked sign isMarked atom quantifier rest).text =
      (if isMarked then sign.text ++ atom.text ++ [')'] else atom.text) ++
        (Pattern.Quantifier.textOf quantifier ++ rest.text) := by
  rw [Phrase.marked]
  cases isMarked with
  | true => simp [Phrase.text, Pattern.Quantifier.textOf]
  | false => rfl

/-- A quantifier stands only behind what holds together and may have one. -/
def Bears (binding : Binding) (ast : Ast) (quantifier : Option Pattern.Quantifier) : Prop :=
  quantifier.isSome → binding = .quantified ∧ ast.isRepeatable

theorem eq_none_of_bears
    {binding : Binding}
    {ast : Ast}
    {quantifier : Option Pattern.Quantifier}
    (bears : Bears binding ast quantifier)
    (other : ¬ (binding = .quantified ∧ ast.isRepeatable)) :
    quantifier = none := by
  cases quantifier with
  | none => rfl
  | some own => exact absurd (bears rfl) other

mutual

/-- What is printed of a pattern is the text of its phrase. -/
theorem text_phrase
    (ast : Ast)
    (plain : ast.IsPlain classOf)
    (binding : Binding)
    (quantifier : Option Pattern.Quantifier)
    (bears : Bears binding ast quantifier)
    (rest : Phrase) :
    (ast.phrase classOf binding quantifier rest).text =
      ast.toText binding ++ (Pattern.Quantifier.textOf quantifier ++ rest.text) := by
  cases ast with
  | empty =>
      obtain rfl := eq_none_of_bears bears nofun
      rfl
  | any newline =>
      rw [phrase, text_marked]
      rfl
  | literal char fold =>
      rw [phrase, text_marked, Leaf.text, Spelling.text_quoted]
      rfl
  | assertion look =>
      obtain rfl := eq_none_of_bears bears nofun
      obtain rfl | rfl := plain <;> rfl
  | charClass text fold =>
      rw [phrase, text_marked, plain.2.2]
      rfl
  | sequence parts =>
      rw [phrase, toText]
      split
      · simp [Phrase.text, text_partsPhrase parts plain .done, grouped, GroupSign.text]
      · next loose =>
          obtain rfl := eq_none_of_bears bears fun same => loose (.inr same.1)
          exact text_partsPhrase parts plain rest
  | choice branches =>
      rw [phrase, toText]
      split
      · next loose =>
          subst loose
          obtain rfl := eq_none_of_bears bears nofun
          exact text_branchesPhrase branches plain.2 rest
      · simp [Phrase.text, text_branchesPhrase branches plain.2 .done, grouped, GroupSign.text]
  | capture index body =>
      rw [phrase, toText, Phrase.text, text_phrase body plain .loose none nofun .done]
      simp [Phrase.text, GroupSign.text, Pattern.Quantifier.textOf]
  | repetition min max greedy body =>
      have inner (rest : Phrase) := text_phrase body plain.2.2 .quantified
        (some (.ofCounts min max greedy)) (fun _ => ⟨rfl, plain.2.1⟩) rest
      have own : Pattern.Quantifier.textOf (some (.ofCounts min max greedy)) =
          quantifierText min max greedy :=
        Pattern.Quantifier.text_ofCounts min max greedy
      rw [phrase, toText]
      split
      · rw [Phrase.text, inner, own]
        simp [Phrase.text, grouped, GroupSign.text]
      · next loose =>
          obtain rfl := eq_none_of_bears bears fun same => loose same.1
          rw [inner, own, List.append_assoc]
          rfl
  | _ => cases plain

theorem text_partsPhrase
    (parts : List Ast)
    (plain : ArePlain classOf parts)
    (rest : Phrase) :
    (partsPhrase classOf rest parts).text = partsText parts ++ rest.text := by
  cases parts with
  | nil => rfl
  | cons part parts =>
      rw [partsPhrase, partsText, text_phrase part plain.1 .part none nofun,
        text_partsPhrase parts plain.2 rest, List.append_assoc]
      rfl

theorem text_branchesPhrase
    (branches : List Ast)
    (plain : ArePlain classOf branches)
    (rest : Phrase) :
    (branchesPhrase classOf rest branches).text = branchesText branches ++ rest.text := by
  match branches with
  | [] => rfl
  | [branch] =>
      rw [branchesPhrase, branchesText, text_phrase branch plain.1 .branch none nofun]
      rfl
  | branch :: other :: branches =>
      rw [branchesPhrase, branchesText, text_phrase branch plain.1 .branch none nofun,
        Phrase.text, text_branchesPhrase (other :: branches) plain.2 rest, List.append_assoc]
      · rfl
      · nofun
      · nofun

end

/-! ### Atoms and groups -/

/-- The signs of the groups that are printed. -/
def printedSigns : List GroupSign := [.capture, .plain, .fold, .dotAll]

/-- What is printed is of some kinds. -/
structure Prints (leafOk : Leaf → Option Pattern.Quantifier → Bool)
    (signOk : GroupSign → Option Pattern.Quantifier → Bool) : Prop where
  /-- Atoms are well-formed, and no references. -/
  atom : ∀ ⦃atom : Leaf⦄ ⦃quantifier⦄, atom.isValid → ¬ atom.isReference → ¬ atom.isAnchor →
    Pattern.Quantifier.IsPlain quantifier → leafOk atom quantifier
  /-- Assertions have no quantifier. -/
  anchor : ∀ kind, leafOk (.anchor kind) none
  /-- Groups look around nowhere, commit nowhere and have no names. -/
  group : ∀ sign ∈ printedSigns, ∀ ⦃quantifier⦄,
    Pattern.Quantifier.IsPlain quantifier → signOk sign quantifier

section

variable
  {leafOk : Leaf → Option Pattern.Quantifier → Bool}
  {signOk : GroupSign → Option Pattern.Quantifier → Bool}

theorem Prints.marked
    (prints : Prints leafOk signOk)
    {sign : GroupSign}
    (printed : sign ∈ printedSigns)
    (isMarked : Bool)
    (atom : Leaf)
    (valid : atom.isValid)
    (bare : ¬ atom.isReference)
    (moves : ¬ atom.isAnchor)
    {quantifier : Option Pattern.Quantifier}
    (plain : Pattern.Quantifier.IsPlain quantifier)
    {rest : Phrase}
    (others : rest.allOf leafOk signOk) :
    (Phrase.marked sign isMarked atom quantifier rest).allOf leafOk signOk := by
  rw [Phrase.marked]
  split
  · have inner := prints.atom valid bare moves Pattern.Quantifier.isPlain_none
    exact Phrase.allOf_group_iff.mpr
      ⟨prints.group sign printed plain, Phrase.allOf_leaf_iff.mpr ⟨inner, rfl⟩, others⟩
  · exact Phrase.allOf_leaf_iff.mpr ⟨prints.atom valid bare moves plain, others⟩

theorem Prints.grouped
    (prints : Prints leafOk signOk)
    {body rest : Phrase}
    (inner : body.allOf leafOk signOk)
    {quantifier : Option Pattern.Quantifier}
    (plain : Pattern.Quantifier.IsPlain quantifier)
    (others : rest.allOf leafOk signOk) :
    (Phrase.group .plain body quantifier rest).allOf leafOk signOk :=
  Phrase.allOf_group_iff.mpr ⟨prints.group .plain (by decide) plain, inner, others⟩

mutual

/-- The phrase that is printed is made of what is printed. -/
theorem allOf_phrase
    (prints : Prints leafOk signOk)
    (ast : Ast)
    (plain : ast.IsPlain classOf)
    (binding : Binding)
    {quantifier : Option Pattern.Quantifier}
    (counted : Pattern.Quantifier.IsPlain quantifier)
    {rest : Phrase}
    (others : rest.allOf leafOk signOk) :
    (ast.phrase classOf binding quantifier rest).allOf leafOk signOk := by
  cases ast with
  | empty => exact others
  | any newline =>
      exact prints.marked (by decide) newline .dot rfl nofun nofun counted others
  | literal char fold =>
      have valid : (Spelling.quoted isBacktrackingMeta char).isValid Pattern.outsideSpecial :=
        Spelling.isValid_quoted (fun _ => Pattern.isLinearMeta_of_isBacktrackingMeta) (by decide) char
      exact prints.marked (by decide) fold (.char _) valid nofun nofun counted others
  | assertion look => exact Phrase.allOf_leaf_iff.mpr ⟨prints.anchor _, others⟩
  | charClass text fold =>
      obtain ⟨isClass, valid, -⟩ := plain
      have bare : ¬ (classOf text).isReference ∧ ¬ (classOf text).isAnchor := by
        cases found : classOf text with
        | named kind => exact ⟨Bool.false_ne_true, Bool.false_ne_true⟩
        | bracket set => exact ⟨Bool.false_ne_true, Bool.false_ne_true⟩
        | _ => 
            rw [found] at isClass
            cases isClass
      exact prints.marked (by decide) fold (classOf text) valid bare.1 bare.2 counted others
  | sequence parts =>
      rw [phrase]
      split
      · exact prints.grouped (allOf_partsPhrase prints parts plain rfl) counted others
      · exact allOf_partsPhrase prints parts plain others
  | choice branches =>
      rw [phrase]
      split
      · exact allOf_branchesPhrase prints branches plain.2 others
      · exact prints.grouped (allOf_branchesPhrase prints branches plain.2 rfl) counted others
  | capture index body =>
      exact Phrase.allOf_group_iff.mpr ⟨prints.group .capture (by decide) counted,
        allOf_phrase prints body plain .loose Pattern.Quantifier.isPlain_none rfl, others⟩
  | repetition min max greedy body =>
      obtain ⟨⟨minFits, maxFits⟩, -, inner⟩ := plain
      have own := Pattern.Quantifier.isPlain_ofCounts minFits maxFits greedy
      rw [phrase]
      split
      · exact prints.grouped (allOf_phrase prints body inner .quantified own rfl) counted others
      · exact allOf_phrase prints body inner .quantified own others
  | _ => cases plain

theorem allOf_partsPhrase
    (prints : Prints leafOk signOk)
    (parts : List Ast)
    (plain : ArePlain classOf parts)
    {rest : Phrase}
    (others : rest.allOf leafOk signOk) :
    (partsPhrase classOf rest parts).allOf leafOk signOk := by
  cases parts with
  | nil => exact others
  | cons part parts =>
      exact allOf_phrase prints part plain.1 .part Pattern.Quantifier.isPlain_none
        (allOf_partsPhrase prints parts plain.2 others)

theorem allOf_branchesPhrase
    (prints : Prints leafOk signOk)
    (branches : List Ast)
    (plain : ArePlain classOf branches)
    {rest : Phrase}
    (others : rest.allOf leafOk signOk) :
    (branchesPhrase classOf rest branches).allOf leafOk signOk := by
  match branches with
  | [] => exact others
  | [branch] =>
      exact allOf_phrase prints branch plain.1 .branch Pattern.Quantifier.isPlain_none others
  | branch :: other :: branches =>
      exact allOf_phrase prints branch plain.1 .branch Pattern.Quantifier.isPlain_none
        (allOf_branchesPhrase prints (other :: branches) plain.2 others)

end

end

/-- What is printed is well-formed. -/
theorem isValid_phrase
    {ast : Ast}
    (plain : ast.IsPlain classOf)
    (binding : Binding)
    {rest : Phrase}
    (others : rest.isValid) :
    (ast.phrase classOf binding none rest).isValid := by
  refine allOf_phrase ?_ ast plain binding Pattern.Quantifier.isPlain_none others
  have counted {quantifier : Option Pattern.Quantifier}
      (plain : Pattern.Quantifier.IsPlain quantifier) : quantifier.all (·.counts.isValid) := by
    cases quantifier with
    | none => rfl
    | some own => exact (plain own rfl).1
  refine ⟨fun atom quantifier valid _ moves plain => ?_, fun kind => rfl,
    fun sign printed quantifier plain => ?_⟩
  · exact decide_eq_true ⟨valid, counted plain, .inr moves⟩
  · have signs : ∀ sign ∈ printedSigns, sign.isValid := by decide
    exact decide_eq_true ⟨signs sign printed, counted plain⟩

/-- Both dialects know what is printed. -/
theorem isCommon_phrase
    {ast : Ast}
    (plain : ast.IsPlain classOf)
    (binding : Binding)
    {rest : Phrase}
    (others : rest.isCommon) :
    (ast.phrase classOf binding none rest).isCommon := by
  refine allOf_phrase ?_ ast plain binding Pattern.Quantifier.isPlain_none others
  have free {quantifier : Option Pattern.Quantifier}
      (plain : Pattern.Quantifier.IsPlain quantifier) :
      quantifier.all fun quantifier => ¬ quantifier.possessive := by
    cases quantifier with
    | none => rfl
    | some own => simp [(plain own rfl).2]
  refine ⟨fun atom quantifier _ bare _ plain => ?_, fun kind => rfl,
    fun sign printed quantifier plain => ?_⟩
  · exact decide_eq_true ⟨bare, free plain⟩
  · have signs : ∀ sign ∈ printedSigns, sign.isCommon := by decide
    exact decide_eq_true ⟨signs sign printed, free plain⟩

/-- Whether the groups of a phrase are of kinds that are printed. -/
def arePrinted : Phrase → Bool :=
  Phrase.allOf (fun _ _ => true) (fun sign _ => sign ∈ printedSigns)

theorem arePrinted_phrase
    {ast : Ast}
    (plain : ast.IsPlain classOf)
    (binding : Binding)
    {rest : Phrase}
    (others : arePrinted rest) :
    arePrinted (ast.phrase classOf binding none rest) :=
  allOf_phrase ⟨fun _ _ _ _ _ _ => rfl, fun _ => rfl, fun _ printed _ _ => decide_eq_true printed⟩
    ast plain binding Pattern.Quantifier.isPlain_none others

/-- What is printed has no names. -/
theorem namedBy_of_arePrinted
    {phrase : Phrase}
    (printed : arePrinted phrase)
    (before : Nat) :
    phrase.NamedBy (fun _ => none) before := by
  induction phrase generalizing before with
  | done => trivial
  | leaf atom quantifier rest inductionHypothesis =>
      exact inductionHypothesis (Phrase.allOf_leaf_iff.mp printed).2 before
  | group sign body quantifier rest bodyHypothesis restHypothesis =>
      obtain ⟨own, inner, others⟩ := Phrase.allOf_group_iff.mp printed
      refine ⟨?_, bodyHypothesis inner _, restHypothesis others _⟩
      cases sign with
      | capture => rfl
      | named long name => simp [printedSigns] at own
      | _ => trivial
  | bar rest inductionHypothesis => exact inductionHypothesis printed before

end

mutual

/-- What is printed as a phrase is not hard. -/
theorem isHard_of_isPlain
    (ast : Ast)
    (plain : ast.IsPlain classOf) :
    ast.isHard = false := by
  cases ast with
  | assertion look => obtain rfl | rfl := plain <;> rfl
  | sequence parts => exact anyHard_of_arePlain parts plain
  | choice branches => exact anyHard_of_arePlain branches plain.2
  | capture index body => exact isHard_of_isPlain body plain
  | repetition min max greedy body => exact isHard_of_isPlain body plain.2.2
  | empty => rfl
  | any newline => rfl
  | literal char fold => rfl
  | charClass text fold => rfl
  | _ => cases plain

theorem anyHard_of_arePlain
    (parts : List Ast)
    (plain : ArePlain classOf parts) :
    anyHard parts = false := by
  cases parts with
  | nil => rfl
  | cons part parts =>
      refine decide_eq_false ?_
      rw [isHard_of_isPlain part plain.1, anyHard_of_arePlain parts plain.2]
      nofun

end

mutual

/-- What is printed has the groups of the pattern. -/
theorem captures_phrase
    (ast : Ast)
    (plain : ast.IsPlain classOf)
    (binding : Binding)
    (quantifier : Option Pattern.Quantifier)
    (rest : Phrase) :
    (ast.phrase classOf binding quantifier rest).captures = ast.captures.length + rest.captures := by
  have marked (sign : GroupSign) (plain : sign.captures = 0) (isMarked : Bool) (atom : Leaf) :
      (Phrase.marked sign isMarked atom quantifier rest).captures = 0 + rest.captures := by
    cases isMarked <;> simp [Phrase.marked, Phrase.captures, plain]
  have grouped (body : Phrase) : (Phrase.group .plain body quantifier rest).captures =
      body.captures + rest.captures := by
    simp [Phrase.captures, GroupSign.captures]
  cases ast with
  | empty => exact (Nat.zero_add _).symm
  | any newline => exact marked .dotAll rfl newline .dot
  | literal char fold => exact marked .fold rfl fold _
  | assertion look => exact (Nat.zero_add _).symm
  | charClass text fold => exact marked .fold rfl fold _
  | sequence parts =>
      rw [phrase, captures]
      split
      · rw [grouped, captures_partsPhrase parts plain .done]
        rfl
      · exact captures_partsPhrase parts plain rest
  | choice branches =>
      rw [phrase, captures]
      split
      · exact captures_branchesPhrase branches plain.2 rest
      · rw [grouped, captures_branchesPhrase branches plain.2 .done]
        rfl
  | capture index body =>
      rw [phrase, captures, Phrase.captures, captures_phrase body plain .loose none .done]
      simp [GroupSign.captures, Phrase.captures, Nat.add_comm]
  | repetition min max greedy body =>
      rw [phrase, captures]
      split
      · rw [grouped, captures_phrase body plain.2.2 .quantified _ .done]
        rfl
      · exact captures_phrase body plain.2.2 .quantified _ rest
  | _ => cases plain

theorem captures_partsPhrase
    (parts : List Ast)
    (plain : ArePlain classOf parts)
    (rest : Phrase) :
    (partsPhrase classOf rest parts).captures = (capturesOf parts).length + rest.captures := by
  cases parts with
  | nil => exact (Nat.zero_add _).symm
  | cons part parts =>
      rw [partsPhrase, capturesOf, captures_phrase part plain.1 .part none,
        captures_partsPhrase parts plain.2 rest, List.length_append, Nat.add_assoc]

theorem captures_branchesPhrase
    (branches : List Ast)
    (plain : ArePlain classOf branches)
    (rest : Phrase) :
    (branchesPhrase classOf rest branches).captures = (capturesOf branches).length + rest.captures := by
  match branches with
  | [] => exact (Nat.zero_add _).symm
  | [branch] =>
      rw [branchesPhrase, captures_phrase branch plain.1 .branch none]
      simp [capturesOf]
  | branch :: other :: branches =>
      rw [branchesPhrase, capturesOf, captures_phrase branch plain.1 .branch none, Phrase.captures,
        captures_branchesPhrase (other :: branches) plain.2 rest, List.length_append, Nat.add_assoc]
      nofun

end

end Backtracking.Ast
end LineExtraction
