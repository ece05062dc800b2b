import LineExtraction.Proofs.Backtracking.Naming
import LineExtraction.Proofs.Pattern.Phrase
import LineExtraction.Proofs.Text.Yields

/-!
# Reading backtracking patterns forward

What the parser does at a token whose text is known.  Outside of verbose mode nothing is
passed over in front of a clear text, and no quantifier is read from one.
-/

namespace LineExtraction
namespace Backtracking

open Pattern (isClear isClear_cons isBacktrackingMeta quoteWith)

/-! ## Clear text -/

theorem skipIgnored_of_not_comment
    {text : List Char}
    (apart : ∀ rest, text ≠ '(' :: '?' :: '#' :: rest) :
    skipIgnored false text = .ok ⟨(), text, Read.took_none text⟩ := by
  cases text with
  | nil => rfl
  | cons first rest =>
      unfold skipIgnored
      rw [skipFrom]
      · rfl
      · rintro more rfl rfl
        exact apart more rfl

theorem skipIgnored_of_isClear
    {text : List Char}
    (clear : isClear text) :
    skipIgnored false text = .ok ⟨(), text, Read.took_none text⟩ := by
  refine skipIgnored_of_not_comment ?_
  rintro rest rfl
  exact absurd clear (by simp [isClear])

theorem readQuantifierHead?_of_isClear
    {text : List Char}
    (clear : isClear text) :
    readQuantifierHead? false text = none := by
  unfold readQuantifierHead?
  split
  · cases clear
  · cases clear
  · cases clear
  · cases clear
  · rfl

theorem readQuantifier_of_isClear
    {text : List Char}
    (clear : isClear text)
    (swapGreed repeatable : Bool) :
    readQuantifier false swapGreed repeatable text = .ok ⟨none, text, Read.took_none text⟩ := by
  unfold readQuantifier
  rw [skipIgnored_of_isClear clear]
  simp only [bind, Except.bind]
  rw [readQuantifierHead?_of_isClear clear]
  rfl

namespace ParseState

/-- The state behind an atom that no quantifier follows. -/
def push (state : ParseState) (part : Ast) : ParseState :=
  { state with level := state.level.push part }

/-- The state behind parts that are not empty. -/
def pass (state : ParseState) (parts : List Ast) : ParseState :=
  { state with level := ⟨state.level.branches, parts.reverse ++ state.level.parts⟩ }

@[simp] theorem pass_nil
    (state : ParseState) :
    state.pass [] = state := rfl

theorem pass_cons
    {part : Ast}
    (some : part.isEmpty = false)
    (state : ParseState)
    (parts : List Ast) :
    state.pass (part :: parts) = (state.push part).pass parts := by
  simp [pass, push, Level.push, some]

end ParseState

theorem readBehind_of_isClear
    {state : ParseState}
    (plain : state.flags.verbose = false)
    {text : List Char}
    (clear : isClear text)
    (atom : Ast) :
    readBehind (.atom state atom) text = .ok ⟨state.push atom, text, Read.took_none text⟩ := by
  rw [readBehind, plain, readQuantifier_of_isClear clear]
  rfl

/-! ## Tokens -/

/-- An atom that no quantifier follows is pushed. -/
theorem reads_atom
    {state next : ParseState}
    {first : Char}
    {rest more : List Char}
    {atom : Ast}
    (plain : state.flags.verbose = false)
    (nextPlain : next.flags.verbose = false)
    (clear : isClear (first :: rest))
    (read : Yields (readToken state first rest) (.atom next atom) more)
    (clearBehind : isClear more) :
    Reads state (first :: rest) (next.push atom) more := by
  obtain ⟨shorter, read⟩ := read
  exact .token (plain ▸ skipIgnored_of_isClear clear) rfl read
    (readBehind_of_isClear nextPlain clearBehind atom) (.refl _ more)

/-- A group is opened by its header. -/
theorem reads_header
    {state next : ParseState}
    {text more : List Char}
    {header : GroupHeader}
    (plain : state.flags.verbose = false)
    (shallow : state.groups.length + 1 < nestLimit)
    (apart : ∀ rest, text ≠ '?' :: '#' :: rest)
    (visible : ∀ rest, text ≠ '(' :: '?' :: '#' :: rest)
    (read : Yields (readHeader state.scope state.flags text) header more)
    (entered : state.enter header more = .ok (.between next)) :
    Reads state ('(' :: text) next more := by
  obtain ⟨shorter, read⟩ := read
  have header : readGroupHeader state.scope state.flags text = .ok ⟨header, more, shorter⟩ := by
    rw [readGroupHeader, plain, skipIgnored_of_not_comment visible]
    exact Except.bind_eq_ok_iff.mpr ⟨_, rfl, Except.bind_eq_ok_iff.mpr ⟨_, read, rfl⟩⟩
  have token : readToken state '(' text = .ok ⟨.between next, more, shorter⟩ := by
    rw [readToken, if_neg (Nat.not_le.mpr shallow)]
    exact Except.bind_eq_ok_iff.mpr ⟨_, header, Except.bind_eq_ok_iff.mpr ⟨_, entered, rfl⟩⟩
  refine .token (plain ▸ skipIgnored_of_not_comment fun rest same => ?_) rfl token rfl (.refl _ more)
  exact apart rest (List.cons.inj same).2

/-! ## Groups that do not capture -/

theorem yields_readFlags_colon
    (whole : List Char)
    {flags : Flags}
    (plain : flags.verbose = false)
    (more : List Char) :
    Yields (readFlags whole flags false (':' :: more)) (.plain flags) more := by
  refine ⟨Nat.le_succ _, ?_⟩
  rw [readFlags, plain, skipIgnored_of_isClear (isClear_cons (by decide) more)]
  rfl

theorem yields_readFlags_cons
    {whole rest more : List Char}
    {flags next : Flags}
    {letter : Char}
    {header : GroupHeader}
    (plain : flags.verbose = false)
    (set : flags.set? letter true = some next)
    (clear : isClear (letter :: rest))
    (others : Yields (readFlags whole next false rest) header more) :
    Yields (readFlags whole flags false (letter :: rest)) header more := by
  obtain ⟨shorter, others⟩ := others
  refine ⟨Nat.le_succ_of_le shorter, ?_⟩
  rw [readFlags, plain, skipIgnored_of_isClear clear]
  simp only [bind, Except.bind]
  rw [if_neg fun both => Bool.false_ne_true both.2]
  simp [set, others]
  rfl

theorem reads_plainHeader
    {state : ParseState}
    (plain : state.flags.verbose = false)
    (shallow : state.groups.length + 1 < nestLimit)
    (more : List Char) :
    Reads state ('(' :: '?' :: ':' :: more) (state.openGroup (.plain state.flags)) more := by
  have header : Yields (readHeader state.scope state.flags ('?' :: ':' :: more))
      (.plain state.flags) more :=
    (yields_readFlags_colon _ plain more).weaken _
  exact reads_header plain shallow nofun nofun header rfl

/-- The end of a group that does not capture. -/
theorem reads_close
    {state : ParseState}
    {flags : Flags}
    {outer : Level}
    {groups : List OpenGroup}
    {body : Ast}
    (plain : state.flags.verbose = false)
    (outerPlain : flags.verbose = false)
    (opened : state.groups = ⟨.plain flags, outer⟩ :: groups)
    (ended : state.endLevel = .ok body)
    {more : List Char}
    (clear : isClear more) :
    Reads state (')' :: more)
      ({ state with level := outer, groups, flags }.push body) more := by
  refine reads_atom plain outerPlain (isClear_cons (by decide) _) ⟨Nat.le_refl _, ?_⟩ clear
  show (state.leave _ _ >>= _) = _
  rw [ParseState.leave, ended, opened]
  rfl

end Backtracking
end LineExtraction
