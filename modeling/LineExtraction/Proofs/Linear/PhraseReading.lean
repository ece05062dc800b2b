import LineExtraction.Proofs.Linear.Composition
import LineExtraction.Proofs.Linear.Respelling

/-!
# Reading phrases in the linear dialect

The parser reads a phrase that both dialects know part by part: what it makes of the phrase
does not depend on what stands around it, but for the numbers of the groups and the names
that were given before.
-/

namespace LineExtraction
namespace Linear

open Pattern (Spelling NamedClass Anchor Leaf Counts Quantifier GroupSign Phrase Alternatives
  isClear isClear_cons isGroupName outsideSpecial)

/-! ## Levels -/

namespace Level

/-- The level behind parts of the current branch. -/
def read (level : Level) (parts : List Ast) : Level :=
  ⟨level.branches, parts.reverse ++ level.parts⟩

/-- The level behind parts with bars between them. -/
def extend (level : Level) (alternatives : Alternatives Ast) : Level :=
  alternatives.later.foldl (fun level parts => level.nextBranch.read parts)
    (level.read alternatives.here)

@[simp] theorem extend_nothing
    (level : Level) :
    level.extend .nothing = level := rfl

@[simp] theorem extend_cons
    (level : Level)
    (part : Ast)
    (rest : Alternatives Ast) :
    level.extend (rest.cons part) = (level.push part).extend rest := by
  simp [extend, Alternatives.cons, read, push]

@[simp] theorem extend_bar
    (level : Level)
    (rest : Alternatives Ast) :
    level.extend rest.bar = level.nextBranch.extend rest := rfl

theorem toAst_extend
    (level : Level)
    (alternatives : Alternatives Ast) :
    (level.extend alternatives).toAst =
      .ofBranches (level.branches.reverse ++
        (Ast.ofParts (level.parts.reverse ++ alternatives.here) ::
          alternatives.later.map Ast.ofParts)) := by
  obtain ⟨here, later⟩ := alternatives
  induction later generalizing level here with
  | nil => simp [extend, read, toAst]
  | cons next later inductionHypothesis =>
      have step : level.extend ⟨here, next :: later⟩ =
          ((level.read here).nextBranch).extend ⟨next, later⟩ := rfl
      rw [step, inductionHypothesis]
      simp [nextBranch, read]

/-- What is read of alternatives on a level of their own. -/
theorem toAst_extend_start
    (alternatives : Alternatives Ast) :
    (start.extend alternatives).toAst = .ofBranches (alternatives.branches.map Ast.ofParts) := by
  rw [toAst_extend]
  rfl

end Level

end Linear

/-! ## Atoms -/

/-- What the linear dialect reads an atom as. -/
def Pattern.Leaf.part? : Pattern.Leaf → Option Linear.Ast
  | char spelling => some (.literal spelling.literal)
  | dot => some .dot
  | named kind => some kind.primitive.toAst
  | bracket set =>
    (Linear.readBracketClass false set.body).toOption.map fun read =>
      .bracketed read.value.1 read.value.2
  | anchor kind => some (.assertion kind.assertion)
  | reference _ _ => none

/-! ## Quantifiers -/

/-- The least and the greatest count that the linear dialect reads. -/
def Pattern.Counts.bounds? : Pattern.Counts → Option (Nat × Option Nat)
  | optional => some (0, some 1)
  | star => some (0, none)
  | plus => some (1, none)
  | exactly digits => do
    let count ← (Linear.countOf digits).toOption
    return (count, some count)
  | atLeast digits => do
    let count ← (Linear.countOf digits).toOption
    return (count, none)
  | between least greatest => do
    let min ← (Linear.countOf least).toOption
    let max ← (Linear.countOf greatest).toOption
    if max < min then none else some (min, some max)

/-- What the linear dialect reads a quantifier as. -/
def Pattern.Quantifier.count? (quantifier : Pattern.Quantifier) : Option Linear.Repeat :=
  quantifier.counts.bounds?.map fun bounds => ⟨bounds.1, bounds.2, !quantifier.lazy⟩

/-- A part with its quantifier. -/
def Pattern.Quantifier.applied? : Option Pattern.Quantifier → Linear.Ast → Option Linear.Ast
  | none, part => some part
  | some quantifier, part => quantifier.count?.map fun count => .repetition count part

/-! ## Groups -/

namespace Pattern.GroupSign

open Linear (GroupKind GroupHeader)

/-- What the linear dialect reads the opening of a group as. -/
def header? : GroupSign → Option GroupHeader
  | capture => some .unnamed
  | named _ name => some (.named name)
  | plain => some (.plain [])
  | fold => some (.plain [.flag .caseInsensitive])
  | dotAll => some (.plain [.flag .dotMatchesNewLine])
  | atomic => none
  | look _ _ => none

/-- The kind of the group, given how many groups before it capture. -/
def kind? (before : Nat) : GroupSign → Option GroupKind
  | capture => some (.capture (before + 1) none)
  | named _ name => some (.capture (before + 1) (some name))
  | plain => some (.plain [])
  | fold => some (.plain [.flag .caseInsensitive])
  | dotAll => some (.plain [.flag .dotMatchesNewLine])
  | atomic => none
  | look _ _ => none

end Pattern.GroupSign

/-! ## Phrases -/

/-- The pattern of what stands between bars. -/
def Pattern.Alternatives.toAst (alternatives : Pattern.Alternatives Linear.Ast) : Linear.Ast :=
  .ofBranches (alternatives.branches.map Linear.Ast.ofParts)

/-- What the linear dialect reads a phrase as, given how many groups before it capture. -/
def Pattern.Phrase.linear (before : Nat) :
    Pattern.Phrase → Option (Pattern.Alternatives Linear.Ast)
  | done => some .nothing
  | leaf atom quantifier rest => do
    let whole ← Quantifier.applied? quantifier (← atom.part?)
    return (← rest.linear before).cons whole
  | group sign body quantifier rest => do
    let kind ← sign.kind? before
    let inner ← body.linear (before + sign.captures)
    let whole ← Quantifier.applied? quantifier (.group kind inner.toAst)
    return (← rest.linear (before + sign.captures + body.captures)).cons whole
  | bar rest => do
    return (← rest.linear before).bar

namespace Linear

open Pattern (Spelling NamedClass Anchor Leaf Bracket Counts Quantifier GroupSign Phrase
  Alternatives isClear isClear_cons isGroupName outsideSpecial)

/-- A class reads by itself as it does in front of more. -/
theorem yields_readBracketClass_append_iff
    {set : Bracket}
    (valid : set.isValid)
    (more : List Char)
    {value : Bool × ClassSet}
    {rest : List Char} :
    Yields (readBracketClass false (set.body ++ more)) value rest ↔
      (∃ read, readBracketClass false set.body = .ok read ∧ read.value = value) ∧ rest = more := by
  have ends {text rest : List Char} {value : Bool × ClassSet}
      (found : Yields (readBracketClass false (set.bodyAs false ++ text)) value rest) :
      rest = text ∧ ∃ read, readBracketClass false set.body = .ok read ∧ read.rest = [] := by
    have alone : rest = text ∧
        ∃ other, Yields (readBracketClass false (set.bodyAs false ++ [])) other [] := by
      obtain ⟨same, other, -, others⟩ := readBracketClass_respelled valid found
      exact ⟨same, _, others⟩
    rw [List.append_nil] at alone
    obtain ⟨same, other, shorter, others⟩ := alone
    exact ⟨same, _, others, rfl⟩
  constructor
  · intro found
    obtain ⟨same, read, alone, -⟩ := ends found
    obtain ⟨whole, longer, value, -⟩ := extends_readBracketClass false set.body more read alone
    exact ⟨⟨read, alone, value.symm.trans (found.unique longer).1⟩, same⟩
  · rintro ⟨⟨read, alone, rfl⟩, rfl⟩
    obtain ⟨whole, longer, value, -⟩ := extends_readBracketClass false set.body rest read alone
    have found : Yields (readBracketClass false (set.bodyAs false ++ rest)) read.value whole.rest := by
      rw [← value]
      exact ⟨whole.shorter, longer⟩
    rw [(ends found).1] at found
    exact found

/-! ## Atoms -/

theorem yields_readLexeme_escape
    {text more : List Char}
    {primitive : Primitive}
    (read : Yields (readEscape false text) primitive more) :
    Yields (readLexeme false '\\' text) (.part primitive.toAst) more :=
  read.map fun primitive => Lexeme.part primitive.toAst

/-- What an atom that is no reference is read as. -/
theorem yields_readLexeme_leaf_iff
    {atom : Leaf}
    (valid : atom.isValid)
    (plain : atom.isReference = false)
    {first : Char}
    {tail : List Char}
    (text : atom.text = first :: tail)
    {more : List Char}
    (clear : atom.isAnchor → isClear more)
    {lexeme : Lexeme}
    {rest : List Char} :
    Yields (readLexeme false first (tail ++ more)) lexeme rest ↔
      ∃ part, atom.part? = some part ∧ lexeme = .part part ∧ rest = more := by
  have known {part : Ast} (is : atom.part? = some part)
      (yields : Yields (readLexeme false first (tail ++ more)) (.part part) more) :
      Yields (readLexeme false first (tail ++ more)) lexeme rest ↔
        ∃ part, atom.part? = some part ∧ lexeme = .part part ∧ rest = more := by
    rw [yields.eq_iff, is]
    simp
  cases atom with
  | char spelling =>
      have spelled : spelling.isValid outsideSpecial := valid
      refine known rfl ?_
      cases spelling with
      | plain char =>
          obtain ⟨rfl, rfl⟩ := List.cons.inj text
          exact ⟨_, readLexeme_plain (of_decide_eq_true spelled) _⟩
      | _ =>
          obtain ⟨rfl, -⟩ := List.cons.inj text
          exact yields_readLexeme_escape (yields_readEscape_spelling spelled text (by decide) more)
  | named kind =>
      obtain rfl : '\\' = first := by
        cases kind <;> exact (List.cons.inj text).1
      exact known rfl (yields_readLexeme_escape (yields_readEscape_named valid text more))
  | bracket set =>
      obtain ⟨rfl, rfl⟩ := List.cons.inj text
      rw [readLexeme, yields_map_iff]
      simp only [yields_readBracketClass_append_iff (show set.isValid from valid) more]
      rw [Leaf.part?]
      cases readBracketClass false set.body with
      | error cause => simp [Except.toOption]
      | ok read =>
          constructor
          · rintro ⟨value, ⟨⟨_, ⟨⟩, rfl⟩, rfl⟩, rfl⟩
            exact ⟨_, rfl, rfl, rfl⟩
          · rintro ⟨part, same, rfl, rfl⟩
            obtain rfl := Option.some.inj same
            exact ⟨read.value, ⟨⟨read, rfl, rfl⟩, rfl⟩, rfl⟩
  | anchor kind =>
      cases kind with
      | wordBoundary =>
          obtain ⟨rfl, rfl⟩ := List.cons.inj text
          have bare : more.head? ≠ some '\x7b' := by
            cases more with
            | nil => exact Option.some_ne_none _ |>.symm
            | cons first more =>
                rintro ⟨⟩
                cases clear rfl
          have boundary : Yields (readWordBoundary false more) .wordBoundary more :=
            ⟨_, readWordBoundary_plain bare⟩
          have read : Yields (readEscape false ('b' :: more)) (.assertion .wordBoundary) more :=
            boundary.mapWeaken Primitive.assertion _
          exact known rfl (yields_readLexeme_escape read)
      | _ =>
          obtain ⟨rfl, rfl⟩ := List.cons.inj text
          exact known rfl ⟨_, rfl⟩
  | dot =>
      obtain ⟨rfl, rfl⟩ := List.cons.inj text
      exact known rfl ⟨_, rfl⟩
  | reference keyed name => cases plain

/-! ## Quantifiers -/

section
variable
  {text more : List Char} {value : Except SyntaxError Nat} {count : Repeat} {rest : List Char}

/-- What is read behind a number that may be none. -/
theorem yields_count_iff
    {next : Nat → Except SyntaxError (Read Repeat text)} :
    Yields (value >>= next) count rest ↔ ∃ number, value = .ok number ∧ Yields (next number) count rest := by
  cases value with
  | error cause =>
      constructor
      · rintro ⟨shorter, ⟨⟩⟩
      · rintro ⟨number, ⟨⟩, -⟩
  | ok number =>
      constructor
      · exact fun yields => ⟨number, rfl, yields⟩
      · rintro ⟨_, ⟨⟩, yields⟩
        exact yields

/-- A count in front of the closing brace. -/
theorem yields_readCounted_close_iff
    (low : ∃ shorter, readCount false text = ⟨value, '\x7d' :: more, shorter⟩) :
    Yields (readCounted false text) count rest ↔
      ∃ min, value = .ok min ∧
        Yields (readCountEnd false min (some min) ('\x7d' :: more)) count rest := by
  obtain ⟨shorter, low⟩ := low
  have lowRest : (readCount false (skipBlank false text)).rest = '\x7d' :: more :=
    congrArg Read.rest low
  have lowValue : (readCount false (skipBlank false text)).value = value :=
    congrArg Read.value low
  have nonempty : ¬ (skipBlank false text).isEmpty := by
    cases text with
    | nil => cases shorter
    | cons first text => nofun
  unfold readCounted
  rw [if_neg nonempty]
  simp only []
  split
  · next same => cases lowRest.symm.trans same
  · next same => cases lowRest.symm.trans same
  · next same =>
      obtain ⟨rfl, rfl⟩ := List.cons.inj (lowRest.symm.trans same)
      rw [lowValue, yields_count_iff]
      simp only [yields_weaken_iff]

/-- A count in front of a comma and the closing brace. -/
theorem yields_readCounted_open_iff
    (low : ∃ shorter, readCount false text = ⟨value, ',' :: '\x7d' :: more, shorter⟩) :
    Yields (readCounted false text) count rest ↔
      ∃ min, value = .ok min ∧ Yields (readCountEnd false min none ('\x7d' :: more)) count rest := by
  obtain ⟨shorter, low⟩ := low
  have lowRest : (readCount false (skipBlank false text)).rest = ',' :: '\x7d' :: more :=
    congrArg Read.rest low
  have lowValue : (readCount false (skipBlank false text)).value = value :=
    congrArg Read.value low
  have nonempty : ¬ (skipBlank false text).isEmpty := by
    cases text with
    | nil => cases shorter
    | cons first text => nofun
  unfold readCounted
  rw [if_neg nonempty]
  simp only []
  split
  · next same => cases lowRest.symm.trans same
  · next same =>
      obtain ⟨-, rfl⟩ := List.cons.inj (lowRest.symm.trans same)
      split
      · next left => cases left
      · next left =>
          obtain ⟨-, rfl⟩ := List.cons.inj left
          rw [lowValue, yields_count_iff]
          simp only [yields_weaken_iff]
      · next other left =>
          obtain ⟨rfl, rfl⟩ := List.cons.inj left
          exact absurd rfl other
  · next other same =>
      obtain ⟨rfl, rfl⟩ := List.cons.inj (lowRest.symm.trans same)
      exact absurd rfl other

/-- Two counts with a comma between them. -/
theorem yields_readCounted_both_iff
    {first : Char}
    {behind : List Char}
    {limit : Except SyntaxError Nat}
    (low : ∃ shorter, readCount false text = ⟨value, ',' :: first :: behind, shorter⟩)
    (apart : first ≠ '\x7d')
    (high : ∃ shorter, readCount false (first :: behind) = ⟨limit, '\x7d' :: more, shorter⟩) :
    Yields (readCounted false text) count rest ↔
      ∃ min, value = .ok min ∧ ∃ max, limit = .ok max ∧
        Yields (readCountEnd false min (some max) ('\x7d' :: more)) count rest := by
  obtain ⟨shorter, low⟩ := low
  have lowRest : (readCount false (skipBlank false text)).rest = ',' :: first :: behind :=
    congrArg Read.rest low
  have lowValue : (readCount false (skipBlank false text)).value = value :=
    congrArg Read.value low
  have nonempty : ¬ (skipBlank false text).isEmpty := by
    cases text with
    | nil => cases shorter
    | cons first text => nofun
  unfold readCounted
  rw [if_neg nonempty]
  simp only []
  split
  · next same => cases lowRest.symm.trans same
  · next same =>
      obtain ⟨-, rfl⟩ := List.cons.inj (lowRest.symm.trans same)
      split
      · next left => cases left
      · next left =>
          obtain ⟨rfl, -⟩ := List.cons.inj left
          exact absurd rfl apart
      · next other left =>
          obtain ⟨rfl, rfl⟩ := List.cons.inj left
          obtain ⟨highShorter, high⟩ := high
          rw [lowValue, yields_count_iff]
          simp only [high, yields_count_iff, yields_weaken_iff]
          exact exists_congr fun min => and_congr_right fun _ =>
            exists_congr fun max => and_congr_right fun _ => by rw [high]
  · next other same =>
      obtain ⟨rfl, rfl⟩ := List.cons.inj (lowRest.symm.trans same)
      exact absurd rfl other

end

theorem readCount_numeral
    {digits : List Char}
    (numeral : Counts.isNumeral digits)
    {stop : Char}
    (ends : stop ∈ [',', '\x7d'])
    (more : List Char) :
    ∃ shorter, readCount false (digits ++ stop :: more) =
      ⟨countOf digits, stop :: more, shorter⟩ := by
  obtain ⟨some, decimal, -⟩ := of_decide_eq_true numeral
  obtain ⟨notDigit, visible⟩ : stop.isDigit = false ∧ Unicode.isWhiteSpace stop = false := by
    have checked : [',', '\x7d'].all fun char =>
        char.isDigit = false ∧ Unicode.isWhiteSpace char = false := by
      decide
    exact of_decide_eq_true (List.all_eq_true.mp checked stop ends)
  have front : skipWhiteSpace (digits ++ stop :: more) = digits ++ stop :: more := by
    cases digits with
    | nil => exact absurd rfl some
    | cons digit digits =>
        have checked : ['0', '1', '2', '3', '4', '5', '6', '7', '8', '9'].all
            fun char => Unicode.isWhiteSpace char = false := by
          decide
        have shown : Unicode.isWhiteSpace digit = false :=
          of_decide_eq_true (List.all_eq_true.mp checked digit
            (mem_digits_of_isDigit (List.all_eq_true.mp decimal digit List.mem_cons_self)))
        rw [List.cons_append, skipWhiteSpace, List.dropWhile_cons_of_neg (by simp [shown])]
  obtain ⟨shorter, run⟩ := readRun_append_cons decimal stop notDigit more
  have behind : skipAround false (stop :: more) = stop :: more := by
    rw [skipAround, if_neg (by simp [visible])]
  have value : (readCount false (digits ++ stop :: more)).value = countOf digits := by
    show countOf (readRun false Char.isDigit (skipWhiteSpace (digits ++ stop :: more))).value = _
    rw [front, run]
  have rest : (readCount false (digits ++ stop :: more)).rest = stop :: more := by
    show skipAround false
      (readRun false Char.isDigit (skipWhiteSpace (digits ++ stop :: more))).rest = _
    rw [front, run, behind]
  generalize readCount false (digits ++ stop :: more) = read at value rest
  obtain ⟨found, left, shorter⟩ := read
  obtain rfl : found = _ := value
  obtain rfl : left = _ := rest
  exact ⟨shorter, rfl⟩

theorem readLaziness_lazy
    {more : List Char}
    (clear : isClear more)
    (lazy : Bool) :
    ∃ shorter, readLaziness ((if lazy then ['?'] else []) ++ more) = ⟨!lazy, more, shorter⟩ := by
  cases lazy with
  | true => exact ⟨_, rfl⟩
  | false =>
      refine ⟨Nat.le_refl _, ?_⟩
      show readLaziness more = _
      unfold readLaziness
      split
      · cases clear
      · rfl

theorem yields_readCountEnd_iff
    {more : List Char}
    (clear : isClear more)
    (min : Nat)
    (max : Option Nat)
    (lazy : Bool)
    {count : Repeat}
    {rest : List Char} :
    Yields (readCountEnd false min max ('\x7d' :: ((if lazy then ['?'] else []) ++ more)))
        count rest ↔
      max.any (· < min) = false ∧ count = ⟨min, max, !lazy⟩ ∧ rest = more := by
  obtain ⟨shorter, laziness⟩ := readLaziness_lazy clear lazy
  simp only [readCountEnd, skipBlank_false]
  cases disordered : max.any (· < min) with
  | true =>
      simp only [if_true]
      constructor
      · rintro ⟨_, ⟨⟩⟩
      · rintro ⟨⟨⟩, -⟩
  | false =>
      rw [if_neg Bool.false_ne_true, yields_ok_iff]
      simp only [laziness]
      simp [eq_comm]

/-- What the counts in braces are read as. -/
theorem yields_readCounted_iff
    {counts : Counts}
    (valid : counts.isValid)
    {tail : List Char}
    (text : counts.text = '\x7b' :: tail)
    {more : List Char}
    (clear : isClear more)
    (lazy : Bool)
    {count : Repeat}
    {rest : List Char} :
    Yields (readCounted false (tail ++ ((if lazy then ['?'] else []) ++ more))) count rest ↔
      ∃ bounds, counts.bounds? = some bounds ∧ count = ⟨bounds.1, bounds.2, !lazy⟩ ∧
        rest = more := by
  cases counts with
  | exactly digits =>
      obtain ⟨-, rfl⟩ := List.cons.inj text
      rw [List.append_eq, List.append_assoc, List.singleton_append,
        yields_readCounted_close_iff (readCount_numeral valid (by decide) _)]
      simp only [yields_readCountEnd_iff clear, Counts.bounds?]
      cases countOf digits with
      | error cause => simp [Except.toOption]
      | ok min => simp [Except.toOption]
  | atLeast digits =>
      obtain ⟨-, rfl⟩ := List.cons.inj text
      rw [List.append_eq, List.append_assoc, List.cons_append, List.singleton_append,
        yields_readCounted_open_iff (readCount_numeral valid (by decide) _)]
      simp only [yields_readCountEnd_iff clear, Counts.bounds?]
      cases countOf digits with
      | error cause => simp [Except.toOption]
      | ok min => simp [Except.toOption]
  | between least greatest =>
      obtain ⟨leastValid, greatestValid⟩ := of_decide_eq_true valid
      obtain ⟨-, rfl⟩ := List.cons.inj text
      cases greatest with
      | nil => cases greatestValid
      | cons digit digits =>
          have decimal : digit.isDigit := 
            List.all_eq_true.mp (of_decide_eq_true greatestValid).2.1 digit List.mem_cons_self
          have apart : digit ≠ '\x7d' := by
            rintro rfl
            cases decimal
          have low := readCount_numeral leastValid (by decide : ',' ∈ [',', '\x7d'])
            (digit :: (digits ++ '\x7d' :: ((if lazy then ['?'] else []) ++ more)))
          have high := readCount_numeral greatestValid (by decide : '\x7d' ∈ [',', '\x7d'])
            ((if lazy then ['?'] else []) ++ more)
          have same (rest : List Char) :
              (least ++ ',' :: digit :: digits) ++ ['\x7d'] ++ rest =
                least ++ ',' :: digit :: (digits ++ '\x7d' :: rest) := by
            simp
          rw [List.append_eq, List.append_eq, same, yields_readCounted_both_iff low apart high]
          simp only [yields_readCountEnd_iff clear, Counts.bounds?]
          cases countOf least with
          | error cause => simp [Except.toOption]
          | ok min => 
            cases countOf (digit :: digits) with
            | error cause => simp [Except.toOption]
            | ok max => 
              by_cases ordered : min ≤ max <;> simp [Except.toOption, ordered]
  | _ => cases text

/-- What a quantifier is read as. -/
theorem yields_readLexeme_quantifier_iff
    {quantifier : Quantifier}
    (valid : quantifier.counts.isValid)
    (plain : quantifier.possessive = false)
    {first : Char}
    {tail : List Char}
    (text : quantifier.text = first :: tail)
    {more : List Char}
    (clear : isClear more)
    {lexeme : Lexeme}
    {rest : List Char} :
    Yields (readLexeme false first (tail ++ more)) lexeme rest ↔
      ∃ count, quantifier.count? = some count ∧ lexeme = .repeats count ∧ rest = more := by
  obtain ⟨counts, lazy, possessive⟩ := quantifier
  obtain rfl : possessive = false := plain
  have written {sign : Char} (is : counts.text = [sign]) :
      first = sign ∧ tail ++ more = (if lazy then ['?'] else []) ++ more := by
    rw [Quantifier.text, is] at text
    obtain ⟨rfl, rfl⟩ := List.cons.inj text
    simp
  obtain ⟨shorter, laziness⟩ := readLaziness_lazy clear lazy
  have signed {sign : Char} {min : Nat} {max : Option Nat}
      (is : counts.text = [sign])
      (bounds : counts.bounds? = some (min, max))
      (found : ∀ text, readLexeme false sign text =
        .ok ((readLaziness text).map fun greedy => .repeats ⟨min, max, greedy⟩)) :
      Yields (readLexeme false first (tail ++ more)) lexeme rest ↔
        ∃ count, (Quantifier.mk counts lazy false).count? = some count ∧ lexeme = .repeats count ∧
          rest = more := by
    obtain ⟨rfl, same⟩ := written is
    rw [same, found, yields_ok_iff, Quantifier.count?, bounds]
    simp [Read.map, laziness, eq_comm]
  have braced {body : List Char} (is : counts.text = '\x7b' :: body) :
      Yields (readLexeme false first (tail ++ more)) lexeme rest ↔
        ∃ count, (Quantifier.mk counts lazy false).count? = some count ∧ lexeme = .repeats count ∧
          rest = more := by
    rw [Quantifier.text, is] at text
    obtain ⟨rfl, rfl⟩ := List.cons.inj text
    have same : (body.append (if lazy then ['?'] else [])).append (if false then ['+'] else []) ++
        more = body ++ ((if lazy then ['?'] else []) ++ more) := by
      simp
    rw [List.append_eq, List.append_eq] at *
    rw [same]
    show Yields (do return (← readCounted false _).map Lexeme.repeats) lexeme rest ↔ _
    rw [yields_map_iff, Quantifier.count?]
    simp only [yields_readCounted_iff valid is clear lazy]
    cases counts.bounds? with
    | none => simp
    | some bounds =>
        constructor
        · rintro ⟨_, ⟨_, ⟨⟩, rfl, rfl⟩, rfl⟩
          exact ⟨_, rfl, rfl, rfl⟩
        · rintro ⟨_, ⟨⟩, rfl, rfl⟩
          exact ⟨_, ⟨_, rfl, rfl, rfl⟩, rfl⟩
  cases counts with
  | optional => exact signed rfl rfl fun _ => rfl
  | star => exact signed rfl rfl fun _ => rfl
  | plus => exact signed rfl rfl fun _ => rfl
  | _ => exact braced rfl

/-! ## Groups -/

/-- What the opening of a group is read as. -/
theorem yields_readHeader_sign
    {sign : GroupSign}
    (valid : sign.isValid)
    {header : GroupHeader}
    (known : sign.header? = some header)
    {tail : List Char}
    (text : sign.text = '(' :: tail)
    {more : List Char}
    (clear : isClear more) :
    Yields (readHeader (tail ++ more)) header more := by
  cases sign with
  | capture =>
      obtain rfl := Option.some.inj known
      obtain ⟨-, rfl⟩ := List.cons.inj text
      refine ⟨_, readHeader_unnamed ?_⟩
      cases more with
      | nil => nofun
      | cons first more =>
          rintro ⟨⟩
          cases clear
  | named long name =>
      obtain rfl := Option.some.inj known
      have named : isGroupName name := valid
      cases name with
      | nil => cases named
      | cons first name =>
          obtain ⟨begins, -, others⟩ := of_decide_eq_true named
          have apart := isNameChar_apart begins
          have all : name.all (isNameChar false) := List.all_eq_true.mpr fun char member =>
            (of_decide_eq_true (List.all_eq_true.mp others char member)).1
          have read := yields_readGroupName begins all more
          cases long with
          | true =>
              obtain ⟨-, rfl⟩ := List.cons.inj text
              have same : '?' :: 'P' :: '<' :: (first :: name ++ ['>']) ++ more =
                  '?' :: 'P' :: '<' :: (first :: name ++ '>' :: more) := by
                simp
              show Yields (readHeader ('?' :: 'P' :: '<' :: (first :: name ++ ['>']) ++ more)) _ _
              rw [same]
              exact read.mapWeaken GroupHeader.named _
          | false =>
              obtain ⟨-, rfl⟩ := List.cons.inj text
              have same : '?' :: '<' :: (first :: name ++ ['>']) ++ more =
                  '?' :: '<' :: (first :: name ++ '>' :: more) := by
                simp
              show Yields (readHeader ('?' :: '<' :: (first :: name ++ ['>']) ++ more)) _ _
              rw [same, List.cons_append, readHeader_named ⟨by grind, by grind⟩]
              exact read.mapWeaken GroupHeader.named _
  | plain =>
      obtain rfl := Option.some.inj known
      obtain ⟨-, rfl⟩ := List.cons.inj text
      exact ⟨_, rfl⟩
  | fold =>
      obtain rfl := Option.some.inj known
      obtain ⟨-, rfl⟩ := List.cons.inj text
      exact ⟨_, rfl⟩
  | dotAll =>
      obtain rfl := Option.some.inj known
      obtain ⟨-, rfl⟩ := List.cons.inj text
      exact ⟨_, rfl⟩
  | atomic => cases known
  | look behind negative => cases known

/-! ## Tokens -/

theorem readTokens_cons_eq_ok_iff
    {state last : ParseState}
    (plain : state.verbose = false)
    {first : Char}
    {text : List Char} :
    readTokens state (first :: text) = .ok last ↔
      ∃ lexeme rest, Yields (readLexeme false first text) lexeme rest ∧
        ∃ next, state.take lexeme = .ok next ∧ readTokens next rest = .ok last := by
  have skipped : skipBlank state.verbose (first :: text) = first :: text := by
    rw [plain]
    rfl
  constructor
  · intro found
    obtain ⟨end', reads, blank⟩ := readTokens_eq_ok_iff.mp found
    cases reads with
    | refl => cases skipped.symm.trans blank
    | token skip read taken others =>
        obtain ⟨rfl, rfl⟩ := List.cons.inj (skipped.symm.trans skip)
        rw [plain] at read
        exact ⟨_, _, ⟨_, read⟩, _, taken, readTokens_eq_ok_iff.mpr ⟨end', others, blank⟩⟩
  · rintro ⟨lexeme, rest, ⟨shorter, read⟩, next, taken, others⟩
    rw [← plain] at read
    exact (readTokens_eq_ok_iff_of_lexeme skipped read).mpr ⟨next, taken, others⟩

theorem exists_text_leaf
    (atom : Leaf) :
    ∃ first tail, atom.text = first :: tail := by
  cases atom with
  | char spelling => cases spelling <;> exact ⟨_, _, rfl⟩
  | named kind => cases kind <;> exact ⟨_, _, rfl⟩
  | anchor kind => cases kind <;> exact ⟨_, _, rfl⟩
  | reference keyed name => cases keyed <;> exact ⟨_, _, rfl⟩
  | _ => exact ⟨_, _, rfl⟩

/-- An atom is read as a part. -/
theorem readTokens_leaf_iff
    {state last : ParseState}
    (plain : state.verbose = false)
    {atom : Leaf}
    (valid : atom.isValid)
    (common : atom.isReference = false)
    {more : List Char}
    (clear : atom.isAnchor → isClear more) :
    readTokens state (atom.text ++ more) = .ok last ↔
      ∃ part, atom.part? = some part ∧ readTokens (state.push part) more = .ok last := by
  obtain ⟨first, tail, text⟩ := exists_text_leaf atom
  rw [text, List.cons_append, readTokens_cons_eq_ok_iff plain]
  simp only [yields_readLexeme_leaf_iff valid common text clear]
  constructor
  · rintro ⟨_, _, ⟨part, is, rfl, rfl⟩, next, ⟨⟩, others⟩
    exact ⟨part, is, others⟩
  · rintro ⟨part, is, others⟩
    exact ⟨_, _, ⟨part, is, rfl, rfl⟩, _, rfl, others⟩

theorem exists_text_quantifier
    (quantifier : Quantifier) :
    ∃ first tail, quantifier.text = first :: tail := by
  obtain ⟨counts, lazy, possessive⟩ := quantifier
  cases counts <;> exact ⟨_, _, rfl⟩

/-- A part is repeated by the quantifier behind it. -/
theorem readTokens_quantified_iff
    {state last : ParseState}
    (plain : state.verbose = false)
    {part : Ast}
    (repeatable : (state.push part).canQuantify)
    {quantifier : Option Quantifier}
    (valid : quantifier.all (·.counts.isValid))
    (common : quantifier.all fun quantifier => ¬ quantifier.possessive)
    {more : List Char}
    (clear : isClear more) :
    readTokens (state.push part) (Quantifier.textOf quantifier ++ more) = .ok last ↔
      ∃ whole, Quantifier.applied? quantifier part = some whole ∧
        readTokens (state.push whole) more = .ok last := by
  cases quantifier with
  | none => simp [Quantifier.textOf, Quantifier.applied?]
  | some quantifier =>
      obtain ⟨first, tail, text⟩ := exists_text_quantifier quantifier
      have pushed : (state.push part).verbose = false := plain
      have greedy : quantifier.possessive = false := by
        simpa using common
      rw [Quantifier.textOf, text, List.cons_append, readTokens_cons_eq_ok_iff pushed]
      simp only [yields_readLexeme_quantifier_iff valid greedy text clear, Quantifier.applied?]
      have step (count : Repeat) : (state.push part).take (.repeats count) =
          .ok (state.push (.repetition count part)) := if_pos repeatable
      constructor
      · rintro ⟨_, _, ⟨count, is, rfl, rfl⟩, next, taken, others⟩
        obtain rfl := Except.ok.inj ((step count).symm.trans taken)
        exact ⟨_, by rw [is]; rfl, others⟩
      · rintro ⟨whole, is, others⟩
        obtain ⟨count, counted, rfl⟩ := Option.map_eq_some_iff.mp is
        exact ⟨_, _, ⟨count, counted, rfl, rfl⟩, _, step count, others⟩

theorem GroupSign.text_eq
    (sign : GroupSign) :
    ∃ tail, sign.text = '(' :: tail := by
  cases sign with
  | named long name => cases long <;> exact ⟨_, rfl⟩
  | look behind negative => cases behind <;> cases negative <;> exact ⟨_, rfl⟩
  | _ => exact ⟨_, rfl⟩

/-- The opening of a group is read as its header. -/
theorem readTokens_sign_iff
    {state last : ParseState}
    (plain : state.verbose = false)
    {sign : GroupSign}
    (valid : sign.isValid)
    {header : GroupHeader}
    (known : sign.header? = some header)
    {more : List Char}
    (clear : isClear more) :
    readTokens state (sign.text ++ more) = .ok last ↔
      ∃ next, state.enter header = .ok next ∧ readTokens next more = .ok last := by
  obtain ⟨tail, text⟩ := GroupSign.text_eq sign
  have lexeme : Yields (readLexeme false '(' (tail ++ more)) (.opens header) more :=
    ((yields_readHeader_sign valid known text clear).weaken (Nat.le_refl _)).map Lexeme.opens
  rw [text, List.cons_append, readTokens_cons_eq_ok_iff plain]
  simp only [lexeme.eq_iff]
  constructor
  · rintro ⟨_, _, ⟨rfl, rfl⟩, next, taken, others⟩
    exact ⟨next, taken, others⟩
  · rintro ⟨next, taken, others⟩
    exact ⟨_, _, ⟨rfl, rfl⟩, next, taken, others⟩

/-! ## Phrases -/

/-- The state behind the opening of a group. -/
def ParseState.opened (state : ParseState) (kind : GroupKind) (sign : GroupSign) : ParseState :=
  { state.openGroup kind false with
    captures := state.captures + sign.captures
    names := sign.names ++ state.names }

/-- The state behind a phrase. -/
def ParseState.past (state : ParseState) (phrase : Phrase) (alternatives : Alternatives Ast) :
    ParseState :=
  { state with
    level := state.level.extend alternatives
    captures := state.captures + phrase.captures
    names := phrase.names ++ state.names }

theorem enter_eq_ok_iff
    {state next : ParseState}
    (plain : state.verbose = false)
    {sign : GroupSign}
    {header : GroupHeader}
    (known : sign.header? = some header) :
    state.enter header = .ok next ↔
      (∀ name ∈ sign.names, name ∉ state.names) ∧
        ∃ kind, sign.kind? state.captures = some kind ∧ next = state.opened kind sign := by
  obtain ⟨verbose, level, groups, captures, names⟩ := state
  obtain rfl : verbose = false := plain
  cases sign with
  | named long name =>
      obtain rfl := Option.some.inj known
      by_cases taken : name ∈ names
      · simp [ParseState.enter, taken, GroupSign.names]
      · simp [ParseState.enter, taken, GroupSign.names, GroupSign.kind?, eq_comm]
        rfl
  | atomic => cases known
  | look behind negative => cases known
  | _ =>
      obtain rfl := Option.some.inj known
      simp [ParseState.enter, GroupSign.names, GroupSign.kind?, eq_comm]
      rfl

theorem readTokens_close_iff
    {state last : ParseState}
    (plain : state.verbose = false)
    {group : OpenGroup}
    {groups : List OpenGroup}
    (opened : state.groups = group :: groups)
    {more : List Char} :
    readTokens state (')' :: more) = .ok last ↔
      readTokens { state with
        verbose := group.verbose
        level := group.outer.push (.group group.kind state.level.toAst)
        groups } more = .ok last :=
  (reads_close plain opened more).readTokens_eq_ok

/-- A name in braces asks for a class. -/
theorem exists_classOfName
    (negated : Bool)
    (name : List Char) :
    ∃ sign query, classOfName negated name = .unicode sign query := by
  unfold classOfName
  split
  · exact ⟨_, _, rfl⟩
  · split
    · exact ⟨_, _, rfl⟩
    · exact ⟨_, _, rfl⟩

/-- A class by name is a class of one letter or a Unicode class. -/
theorem exists_primitive
    (kind : NamedClass) :
    (∃ negated perl, kind.primitive = .perl negated perl) ∨
      ∃ negated query, kind.primitive = .unicode negated query := by
  cases kind with
  | perl negated perl => exact .inl ⟨negated, perl, rfl⟩
  | short negated letter => exact .inr ⟨_, _, rfl⟩
  | long negated name => exact .inr (exists_classOfName negated name)

theorem canQuantify_part?
    {atom : Leaf}
    {part : Ast}
    (is : atom.part? = some part)
    (state : ParseState) :
    (state.push part).canQuantify := by
  cases atom with
  | bracket set =>
      obtain ⟨read, -, rfl⟩ := Option.map_eq_some_iff.mp is
      rfl
  | named kind =>
      obtain rfl := Option.some.inj is
      obtain ⟨negated, perl, same⟩ | ⟨negated, query, same⟩ := exists_primitive kind
      · rw [same]
        rfl
      · rw [same]
        rfl
  | reference keyed name => cases is
  | _ =>
      obtain rfl := Option.some.inj is
      rfl

theorem exists_header?
    {sign : GroupSign}
    (common : sign.isCommon) :
    ∃ header, sign.header? = some header := by
  cases sign with
  | atomic => cases common
  | look behind negative => cases common
  | _ => exact ⟨_, rfl⟩

theorem nodup_names
    (sign : GroupSign) :
    sign.names.Nodup := by
  cases sign with
  | named long name => exact List.nodup_cons.mpr ⟨List.not_mem_nil, List.nodup_nil⟩
  | _ => exact List.nodup_nil

/-- The state behind a group. -/
def ParseState.closed (state : ParseState) (sign : GroupSign) (body : Phrase) : ParseState :=
  { state with
    captures := state.captures + sign.captures + body.captures
    names := body.names ++ (sign.names ++ state.names) }

theorem readTokens_closed_iff
    {state last : ParseState}
    (kind : GroupKind)
    (sign : GroupSign)
    (body : Phrase)
    (inner : Alternatives Ast)
    (more : List Char) :
    readTokens ((state.opened kind sign).past body inner) (')' :: more) = .ok last ↔
      readTokens ((state.closed sign body).push (.group kind inner.toAst)) more = .ok last := by
  rw [readTokens_close_iff rfl rfl]
  have level : ((state.opened kind sign).past body inner).level.toAst = inner.toAst :=
    Level.toAst_extend_start inner
  rw [level]
  rfl

theorem linear_leaf_iff
    {atom : Leaf}
    {quantifier : Option Quantifier}
    {rest : Phrase}
    {before : Nat}
    {alternatives : Alternatives Ast} :
    (Phrase.leaf atom quantifier rest).linear before = some alternatives ↔
      ∃ part, atom.part? = some part ∧
        ∃ whole, Quantifier.applied? quantifier part = some whole ∧
          ∃ others, rest.linear before = some others ∧ others.cons whole = alternatives := by
  simp [Phrase.linear, Option.bind_eq_some_iff]

theorem linear_bar_iff
    {rest : Phrase}
    {before : Nat}
    {alternatives : Alternatives Ast} :
    (Phrase.bar rest).linear before = some alternatives ↔
      ∃ others, rest.linear before = some others ∧ others.bar = alternatives := by
  simp [Phrase.linear, Option.bind_eq_some_iff]

theorem linear_group_iff
    {sign : GroupSign}
    {quantifier : Option Quantifier}
    {body rest : Phrase}
    {before : Nat}
    {alternatives : Alternatives Ast} :
    (Phrase.group sign body quantifier rest).linear before = some alternatives ↔
      ∃ kind, sign.kind? before = some kind ∧
        ∃ inner, body.linear (before + sign.captures) = some inner ∧
          ∃ whole, Quantifier.applied? quantifier (.group kind inner.toAst) = some whole ∧
            ∃ others, rest.linear (before + sign.captures + body.captures) = some others ∧
              others.cons whole = alternatives := by
  simp [Phrase.linear, Option.bind_eq_some_iff]

theorem past_leaf
    (state : ParseState)
    (atom : Leaf)
    (quantifier : Option Quantifier)
    (rest : Phrase)
    (whole : Ast)
    (alternatives : Alternatives Ast) :
    (state.push whole).past rest alternatives =
      state.past (.leaf atom quantifier rest) (alternatives.cons whole) := by
  simp [ParseState.past, ParseState.push, Phrase.captures, Phrase.names]

/-- What the parser reads a phrase as depends on nothing around it but the groups and the
names in front of it. -/
def IsRead (phrase : Phrase) : Prop :=
  ∀ ⦃state last : ParseState⦄ ⦃more : List Char⦄,
    state.verbose = false → state.names.Nodup → isClear more →
      (readTokens state (phrase.text ++ more) = .ok last ↔
        (phrase.names ++ state.names).Nodup ∧
          ∃ alternatives, phrase.linear state.captures = some alternatives ∧
            readTokens (state.past phrase alternatives) more = .ok last)

theorem isRead_done : IsRead .done := by
  intro state last more plain distinct clear
  have stays : state.past .done .nothing = state := rfl
  simp [Phrase.text, Phrase.names, Phrase.linear, distinct, stays]

theorem isRead_bar
    {rest : Phrase}
    (read : IsRead rest) :
    IsRead (.bar rest) := by
  intro state last more plain distinct clear
  have lexeme : Yields (readLexeme false '|' (rest.text ++ more)) .branches (rest.text ++ more) :=
    ⟨_, rfl⟩
  have others : readTokens { state with level := state.level.nextBranch } (rest.text ++ more) =
      .ok last ↔ _ := read plain distinct clear
  rw [Phrase.text, List.cons_append, readTokens_cons_eq_ok_iff plain]
  simp only [lexeme.eq_iff]
  constructor
  · rintro ⟨_, _, ⟨rfl, rfl⟩, next, ⟨⟩, found⟩
    obtain ⟨distinct, alternatives, alone, found⟩ := others.mp found
    exact ⟨distinct, _, linear_bar_iff.mpr ⟨alternatives, alone, rfl⟩, found⟩
  · rintro ⟨distinct, _, whole, found⟩
    obtain ⟨alternatives, alone, rfl⟩ := linear_bar_iff.mp whole
    exact ⟨_, _, ⟨rfl, rfl⟩, _, rfl, others.mpr ⟨distinct, alternatives, alone, found⟩⟩

theorem isRead_leaf
    {atom : Leaf}
    {quantifier : Option Quantifier}
    {rest : Phrase}
    (valid : (Phrase.leaf atom quantifier rest).isValid)
    (common : (Phrase.leaf atom quantifier rest).isCommon)
    (read : IsRead rest) :
    IsRead (.leaf atom quantifier rest) := by
  intro state last more plain distinct clear
  obtain ⟨atomValid, restValid⟩ := Phrase.allOf_leaf_iff.mp valid
  obtain ⟨atomCommon, -⟩ := Phrase.allOf_leaf_iff.mp common
  obtain ⟨wellFormed, counted, free⟩ := of_decide_eq_true atomValid
  obtain ⟨noReference, greedy⟩ := of_decide_eq_true atomCommon
  have behind : isClear (rest.text ++ more) := Phrase.isClear_text_append restValid clear
  have unquantified (anchor : atom.isAnchor) :
      isClear (Quantifier.textOf quantifier ++ (rest.text ++ more)) := by
    obtain none | notAnchor := free
    · rw [Option.isNone_iff_eq_none.mp none]
      exact behind
    · exact absurd anchor notAnchor
  have repeated {part : Ast} (is : atom.part? = some part) :
      readTokens (state.push part) (Quantifier.textOf quantifier ++ (rest.text ++ more)) = .ok last ↔
        _ :=
    readTokens_quantified_iff plain (canQuantify_part? is state) counted greedy behind
  have pushed (whole : Ast) :
      readTokens (state.push whole) (rest.text ++ more) = .ok last ↔
        (rest.names ++ state.names).Nodup ∧
          ∃ others, rest.linear state.captures = some others ∧
            readTokens (state.past (.leaf atom quantifier rest) (others.cons whole)) more =
              .ok last := by
    simp only [← past_leaf]
    exact read plain distinct clear
  rw [Phrase.text, List.append_assoc, List.append_assoc,
    readTokens_leaf_iff plain wellFormed (Bool.not_eq_true _ ▸ noReference) unquantified]
  constructor
  · rintro ⟨part, is, found⟩
    obtain ⟨whole, applied, found⟩ := (repeated is).mp found
    obtain ⟨distinct, others, remaining, found⟩ := (pushed whole).mp found
    exact ⟨distinct, _, linear_leaf_iff.mpr ⟨part, is, whole, applied, others, remaining, rfl⟩, found⟩
  · rintro ⟨distinct, _, alone, found⟩
    obtain ⟨part, is, whole, applied, others, remaining, rfl⟩ := linear_leaf_iff.mp alone
    exact ⟨part, is, (repeated is).mpr
      ⟨whole, applied, (pushed whole).mpr ⟨distinct, others, remaining, found⟩⟩⟩

/-- What is read of a group whose sign has been read. -/
theorem readTokens_opened_iff
    {sign : GroupSign}
    {body rest : Phrase}
    {quantifier : Option Quantifier}
    (restValid : rest.isValid)
    (counted : quantifier.all (·.counts.isValid))
    (greedy : quantifier.all fun quantifier => ¬ quantifier.possessive)
    (bodyRead : IsRead body)
    (restRead : IsRead rest)
    {state last : ParseState}
    (plain : state.verbose = false)
    (fresh : (sign.names ++ state.names).Nodup)
    (kind : GroupKind)
    {more : List Char}
    (clear : isClear more) :
    readTokens (state.opened kind sign)
        (body.text ++ ')' :: (Quantifier.textOf quantifier ++ (rest.text ++ more))) = .ok last ↔
      ((Phrase.group sign body quantifier rest).names ++ state.names).Nodup ∧
        ∃ inner, body.linear (state.captures + sign.captures) = some inner ∧
        ∃ whole, Quantifier.applied? quantifier (.group kind inner.toAst) = some whole ∧
        ∃ others, rest.linear (state.captures + sign.captures + body.captures) = some others ∧
          readTokens (state.past (.group sign body quantifier rest) (others.cons whole)) more =
            .ok last := by
  have names : (Phrase.group sign body quantifier rest).names ++ state.names =
      rest.names ++ (body.names ++ (sign.names ++ state.names)) := by
    simp [Phrase.names]
  have passed (whole : Ast) (others : Alternatives Ast) :
      ((state.closed sign body).push whole).past rest others =
        state.past (.group sign body quantifier rest) (others.cons whole) := by
    simp [ParseState.past, ParseState.push, ParseState.closed, Phrase.captures, Phrase.names,
      Nat.add_assoc]
  have behind : isClear (rest.text ++ more) := Phrase.isClear_text_append restValid clear
  have closedPlain : (state.closed sign body).verbose = false := plain
  have repeated (inner : Alternatives Ast) :
      readTokens ((state.closed sign body).push (.group kind inner.toAst))
        (Quantifier.textOf quantifier ++ (rest.text ++ more)) = .ok last ↔ _ :=
    readTokens_quantified_iff closedPlain rfl counted greedy behind
  have pushed (whole : Ast) (distinct : (body.names ++ (sign.names ++ state.names)).Nodup) :
      readTokens ((state.closed sign body).push whole) (rest.text ++ more) = .ok last ↔
        (rest.names ++ (body.names ++ (sign.names ++ state.names))).Nodup ∧
          ∃ others, rest.linear (state.captures + sign.captures + body.captures) = some others ∧
            readTokens (state.past (.group sign body quantifier rest) (others.cons whole)) more =
              .ok last := by
    simp only [← passed]
    exact restRead plain distinct clear
  rw [bodyRead rfl fresh (isClear_cons (by decide) _), names]
  simp only [readTokens_closed_iff, repeated]
  constructor
  · rintro ⟨distinct, inner, alone, whole, applied, found⟩
    obtain ⟨distinct, others, remaining, found⟩ := (pushed whole distinct).mp found
    exact ⟨distinct, inner, alone, whole, applied, others, remaining, found⟩
  · rintro ⟨distinct, inner, alone, whole, applied, others, remaining, found⟩
    have before := (List.nodup_append.mp distinct).2.1
    exact ⟨before, inner, alone, whole, applied,
      (pushed whole before).mpr ⟨distinct, others, remaining, found⟩⟩

theorem isRead_group
    {sign : GroupSign}
    {body rest : Phrase}
    {quantifier : Option Quantifier}
    (valid : (Phrase.group sign body quantifier rest).isValid)
    (common : (Phrase.group sign body quantifier rest).isCommon)
    (bodyRead : IsRead body)
    (restRead : IsRead rest) :
    IsRead (.group sign body quantifier rest) := by
  intro state last more plain distinct clear
  obtain ⟨signValid, bodyValid, restValid⟩ := Phrase.allOf_group_iff.mp valid
  obtain ⟨signCommon, -, -⟩ := Phrase.allOf_group_iff.mp common
  obtain ⟨wellFormed, counted⟩ := of_decide_eq_true signValid
  obtain ⟨known, greedy⟩ := of_decide_eq_true signCommon
  obtain ⟨header, known⟩ := exists_header? known
  have inside : isClear
      (body.text ++ ')' :: (Quantifier.textOf quantifier ++ (rest.text ++ more))) :=
    Phrase.isClear_text_append bodyValid (isClear_cons (by decide) _)
  have same : (Phrase.group sign body quantifier rest).text ++ more = sign.text ++
      (body.text ++ ')' :: (Quantifier.textOf quantifier ++ (rest.text ++ more))) := by
    simp [Phrase.text]
  have opened (fresh : (sign.names ++ state.names).Nodup) (kind : GroupKind) :
      readTokens (state.opened kind sign)
        (body.text ++ ')' :: (Quantifier.textOf quantifier ++ (rest.text ++ more))) = .ok last ↔ _ :=
    readTokens_opened_iff restValid counted greedy bodyRead restRead plain fresh kind clear
  rw [same, readTokens_sign_iff plain wellFormed known inside]
  simp only [enter_eq_ok_iff plain known]
  constructor
  · rintro ⟨_, ⟨fresh, kind, is, rfl⟩, found⟩
    have fresh : (sign.names ++ state.names).Nodup :=
      List.nodup_append.mpr ⟨nodup_names sign, distinct, fun name member other taken same => 
        fresh name member (same ▸ taken)⟩
    obtain ⟨distinct, inner, alone, whole, applied, others, remaining, found⟩ :=
      (opened fresh kind).mp found
    exact ⟨distinct, _, linear_group_iff.mpr
      ⟨kind, is, inner, alone, whole, applied, others, remaining, rfl⟩, found⟩
  · rintro ⟨distinct, _, read, found⟩
    obtain ⟨kind, is, inner, alone, whole, applied, others, remaining, rfl⟩ :=
      linear_group_iff.mp read
    have names : (Phrase.group sign body quantifier rest).names ++ state.names =
        (rest.names ++ body.names) ++ (sign.names ++ state.names) := by
      simp [Phrase.names]
    have fresh : (sign.names ++ state.names).Nodup := (List.nodup_append.mp (names ▸ distinct)).2.1
    refine ⟨_, ⟨?_, kind, is, rfl⟩, (opened fresh kind).mpr
      ⟨distinct, inner, alone, whole, applied, others, remaining, found⟩⟩
    intro name member taken
    exact (List.nodup_append.mp fresh).2.2 name member name taken rfl

/-- What the parser reads a phrase as depends on nothing around it but the groups and the
names in front of it. -/
theorem isRead_phrase
    {phrase : Phrase}
    (valid : phrase.isValid)
    (common : phrase.isCommon) :
    IsRead phrase := by
  induction phrase with
  | done => exact isRead_done
  | leaf atom quantifier rest inductionHypothesis =>
      exact isRead_leaf valid common (inductionHypothesis (Phrase.allOf_leaf_iff.mp valid).2
        (Phrase.allOf_leaf_iff.mp common).2)
  | group sign body quantifier rest bodyHypothesis restHypothesis =>
      obtain ⟨-, bodyValid, restValid⟩ := Phrase.allOf_group_iff.mp valid
      obtain ⟨-, bodyCommon, restCommon⟩ := Phrase.allOf_group_iff.mp common
      exact isRead_group valid common (bodyHypothesis bodyValid bodyCommon)
        (restHypothesis restValid restCommon)
  | bar rest inductionHypothesis => exact isRead_bar (inductionHypothesis valid common)

/-- A phrase has a parse when no name stands twice in it and it is not nested too deeply. -/
theorem parse_phrase_eq_ok_iff
    {phrase : Phrase}
    (valid : phrase.isValid)
    (common : phrase.isCommon)
    {ast : Ast} :
    parse phrase.text = .ok ast ↔
      phrase.names.Nodup ∧ ∃ alternatives, phrase.linear 0 = some alternatives ∧
        ast = alternatives.toAst ∧ ast.depth ≤ nestLimit := by
  have read (last : ParseState) : readTokens .start (phrase.text ++ []) = .ok last ↔ _ :=
    isRead_phrase valid common rfl List.nodup_nil rfl
  have ends (alternatives : Alternatives Ast) (last : ParseState) :
      readTokens (ParseState.start.past phrase alternatives) [] = .ok last ↔
        ParseState.start.past phrase alternatives = last :=
    readTokens_eq_ok_iff_of_blank rfl
  have level (alternatives : Alternatives Ast) :
      (ParseState.start.past phrase alternatives).level.toAst = alternatives.toAst :=
    Level.toAst_extend_start alternatives
  rw [List.append_nil] at read
  rw [parse_eq_ok_iff]
  simp only [read, ends]
  constructor
  · rintro ⟨_, ⟨distinct, alternatives, alone, rfl⟩, -, rfl, shallow⟩
    exact ⟨List.append_nil phrase.names ▸ distinct, alternatives, alone, level alternatives, shallow⟩
  · rintro ⟨distinct, alternatives, alone, rfl, shallow⟩
    exact ⟨_, ⟨(List.append_nil phrase.names).symm ▸ distinct, alternatives, alone, rfl⟩, rfl,
      (level alternatives).symm, shallow⟩

end Linear
end LineExtraction
