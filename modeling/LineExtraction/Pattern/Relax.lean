import LineExtraction.Pattern.Delimiter
import LineExtraction.Pattern.Wrap

/-!
# Relaxing a pattern for the discriminator

The discriminator reads the linear dialect and captures nothing.  A fragment of
either dialect is relaxed for it to a pattern that accepts at least what the
fragment accepts:

* capturing, named and atomic groups become `(?:`;
* look-around assertions become the empty group `(?:)`;
* back-references become a lazy run of any text;
* a possessive `+` behind a quantifier is dropped.

Everything else is copied.
-/

namespace LineExtraction
namespace Pattern

/-- Stands for a back-reference: any text, line breaks included. -/
def anyText : List Char := "(?s:.*?)".toList

/-- Opens a group that captures nothing. -/
def plainGroup : List Char := "(?:".toList

/-- Stands for a look-around assertion: a group that matches the empty text. -/
def emptyGroup : List Char := "(?:)".toList

/-- What the relaxing scan remembers of the characters before: whether the last
token was a quantifier, so that a `+` is possessive, and whether a counted
repetition is open. -/
structure RelaxScan where
  afterQuantifier : Bool
  inCounted : Bool
deriving DecidableEq, Repr

/-- One relaxed token: its new text, what is left to read, and the scan behind it. -/
structure RelaxedToken where
  text : List Char
  rest : List Char
  scan : RelaxScan
deriving DecidableEq, Repr

/-- Whether an escape with this letter has braces as part of the escape. -/
def takesBraces (letter : Char) : Bool :=
  letter ∈ ['x', 'u', 'U', 'p', 'P']

/-- Relax the escape whose backslash stands just before the text: the new text and
what is left. -/
def relaxEscape : List Char → List Char × List Char
  | [] => (['\\'], [])
  | letter :: rest =>
    if '1' ≤ letter ∧ letter ≤ '9' then (anyText, rest.dropWhile Char.isDigit)
    else
      match rest with
      | opening :: body =>
        if letter = 'k' ∧ opening = '<' then (anyText, (cutPast '>' body).left)
        else if takesBraces letter ∧ opening = '{' then
          (['\\', letter, '{'] ++ (cutPast '}' body).passed, (cutPast '}' body).left)
        else (['\\', letter], rest)
      | [] => (['\\', letter], rest)

/-- Relax the group opening whose `(` stands just before the text: the new text and
what is left. -/
def relaxGroup : List Char → List Char × List Char
  | '?' :: ':' :: rest => (plainGroup, rest)
  | '?' :: '>' :: rest => (plainGroup, rest)
  | '?' :: '=' :: rest => (emptyGroup, afterGroupBody 0 ('?' :: '=' :: rest))
  | '?' :: '!' :: rest => (emptyGroup, afterGroupBody 0 ('?' :: '!' :: rest))
  | '?' :: '<' :: '=' :: rest => (emptyGroup, afterGroupBody 0 ('?' :: '<' :: '=' :: rest))
  | '?' :: '<' :: '!' :: rest => (emptyGroup, afterGroupBody 0 ('?' :: '<' :: '!' :: rest))
  | '?' :: '<' :: rest => (plainGroup, (cutPast '>' rest).left)
  | '?' :: 'P' :: '<' :: rest => (plainGroup, (cutPast '>' rest).left)
  | '?' :: 'P' :: '=' :: rest => (anyText, afterGroupBody 0 ('?' :: 'P' :: '=' :: rest))
  | '?' :: rest => ("(?".toList, rest)
  | rest => (plainGroup, rest)

theorem length_relaxEscape_le (text : List Char) :
    (relaxEscape text).2.length ≤ text.length := by
  have dropped (rest : List Char) : (rest.dropWhile Char.isDigit).length ≤ rest.length :=
    (List.dropWhile_sublist _).length_le
  unfold relaxEscape
  split
  · simp
  · next letter rest =>
    split
    · have := dropped rest
      simp only [List.length_cons]
      omega
    · split
      · next opening body =>
        have nameShorter := length_cutPast_le '>' body
        have braceShorter := length_cutPast_le '}' body
        split <;> (try split) <;> simp only [List.length_cons] <;> omega
      · simp

theorem length_relaxGroup_le (text : List Char) :
    (relaxGroup text).2.length ≤ text.length := by
  have skipped := length_afterGroupBody_le 0
  have named := length_cutPast_le '>'
  unfold relaxGroup
  split
  case h_3 | h_4 | h_5 | h_6 | h_9 => exact skipped _
  case h_7 rest _ _ => have := named rest; simp only [List.length_cons]; omega
  case h_8 rest => have := named rest; simp only [List.length_cons]; omega
  all_goals (simp only [List.length_cons]; omega)

/-- Relax the token that starts with `head`. -/
def relaxToken (scan : RelaxScan) (head : Char) (tail : List Char) : RelaxedToken :=
  match head with
  | '\\' =>
    let (text, rest) := relaxEscape tail
    ⟨text, rest, { scan with afterQuantifier := false }⟩
  | '[' =>
    let cut := cutClass tail
    ⟨'[' :: cut.passed, cut.left, { scan with afterQuantifier := false }⟩
  | '(' =>
    let (text, rest) := relaxGroup tail
    ⟨text, rest, { scan with afterQuantifier := false }⟩
  | '{' => ⟨['{'], tail, ⟨false, tail.head?.any Char.isDigit⟩⟩
  | '}' => ⟨['}'], tail, ⟨scan.inCounted, false⟩⟩
  | '+' =>
    if scan.afterQuantifier then ⟨[], tail, { scan with afterQuantifier := false }⟩
    else ⟨['+'], tail, { scan with afterQuantifier := true }⟩
  | '*' => ⟨['*'], tail, { scan with afterQuantifier := true }⟩
  | '?' => ⟨['?'], tail, { scan with afterQuantifier := true }⟩
  | char => ⟨[char], tail, { scan with afterQuantifier := false }⟩

theorem length_relaxToken_le (scan : RelaxScan) (head : Char) (tail : List Char) :
    (relaxToken scan head tail).rest.length ≤ tail.length := by
  unfold relaxToken
  split
  · exact length_relaxEscape_le tail
  · exact length_cutClass_le tail
  · exact length_relaxGroup_le tail
  all_goals first
    | exact Nat.le_refl _
    | (split <;> exact Nat.le_refl _)

/-- Relax the text token by token, from `scan` on. -/
def relaxFrom (scan : RelaxScan) : List Char → List Char
  | [] => []
  | head :: tail =>
    let token := relaxToken scan head tail
    token.text ++ relaxFrom token.scan token.rest
termination_by text => text.length
decreasing_by
  have shorter := length_relaxToken_le scan head tail
  simp only [List.length_cons]
  omega

/-- The relaxed text of a whole fragment, not yet wrapped. -/
def relaxChars (fragment : List Char) : List Char :=
  relaxFrom ⟨false, false⟩ fragment

/-- The discriminator's pattern for a fragment: relaxed, then wrapped in a group. -/
def relax (fragment : String) : String :=
  String.ofList (wrapChars (relaxChars fragment.toList))

end Pattern
end LineExtraction
