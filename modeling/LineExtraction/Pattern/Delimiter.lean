/-!
# Delimited spans of pattern text

Pattern text nests in two ways: bracket classes, whose members may hold further
brackets, and parenthesised groups, whose bodies may hold both.  This module cuts
a text right behind the bracket or parenthesis that closes the span it starts in.
Both cuts read only characters, never the grammar, so they are defined on every
text, and a span that is never closed reaches to the end of the text.  The main
statements say that a cut loses nothing and that the remainder is never longer.
-/

namespace LineExtraction
namespace Pattern

/-- A text cut in two: the characters passed over and the characters left. -/
structure Cut where
  passed : List Char
  left : List Char
deriving DecidableEq, Repr

namespace Cut

/-- Put `lead` in front of the part that was passed over. -/
def extend (lead : List Char) (cut : Cut) : Cut :=
  { cut with passed := lead ++ cut.passed }

@[simp] theorem extend_left (lead : List Char) (cut : Cut) :
    (cut.extend lead).left = cut.left := rfl

@[simp] theorem extend_passed (lead : List Char) (cut : Cut) :
    (cut.extend lead).passed = lead ++ cut.passed := rfl

end Cut

/-! ## Bracket classes -/

/-- Cut behind the bracket that closes a class whose body starts here, `depth`
further classes deep.  An escape passes over the character that follows it. -/
def cutClassBody (depth : Nat) : List Char → Cut
  | [] => ⟨[], []⟩
  | '\\' :: [] => ⟨['\\'], []⟩
  | '\\' :: escaped :: rest => (cutClassBody depth rest).extend ['\\', escaped]
  | '[' :: rest => (cutClassBody (depth + 1) rest).extend ['[']
  | ']' :: rest =>
    match depth with
    | 0 => ⟨[']'], rest⟩
    | outer + 1 => (cutClassBody outer rest).extend [']']
  | char :: rest => (cutClassBody depth rest).extend [char]

/-- Cut behind the bracket that closes the class opened by `[` just before the
text.  A bracket right after the opening, or after its `^`, is a member. -/
def cutClass : List Char → Cut
  | '^' :: ']' :: rest => (cutClassBody 0 rest).extend ['^', ']']
  | '^' :: rest => (cutClassBody 0 rest).extend ['^']
  | ']' :: rest => (cutClassBody 0 rest).extend [']']
  | rest => cutClassBody 0 rest

theorem cutClassBody_append (depth : Nat) (text : List Char) :
    (cutClassBody depth text).passed ++ (cutClassBody depth text).left = text := by
  fun_induction cutClassBody depth text <;> simp_all

theorem cutClass_append (text : List Char) :
    (cutClass text).passed ++ (cutClass text).left = text := by
  fun_cases cutClass text <;> simp [cutClassBody_append]

theorem length_cutClassBody_le (depth : Nat) (text : List Char) :
    (cutClassBody depth text).left.length ≤ text.length := by
  have whole := congrArg List.length (cutClassBody_append depth text)
  simp only [List.length_append] at whole
  omega

theorem length_cutClass_le (text : List Char) :
    (cutClass text).left.length ≤ text.length := by
  have whole := congrArg List.length (cutClass_append text)
  simp only [List.length_append] at whole
  omega

/-! ## Parenthesised groups -/

/-- What is left behind the parenthesis that closes the group whose body starts
here, `depth` further groups deep.  Escapes and classes are passed over whole. -/
def afterGroupBody (depth : Nat) : List Char → List Char
  | [] => []
  | '\\' :: [] => []
  | '\\' :: _ :: rest => afterGroupBody depth rest
  | '[' :: rest => afterGroupBody depth (cutClass rest).left
  | '(' :: rest => afterGroupBody (depth + 1) rest
  | ')' :: rest =>
    match depth with
    | 0 => rest
    | outer + 1 => afterGroupBody outer rest
  | _ :: rest => afterGroupBody depth rest
termination_by text => text.length
decreasing_by
  all_goals simp_wf
  all_goals try have shorter := length_cutClass_le rest
  all_goals omega

theorem length_afterGroupBody_le (depth : Nat) (text : List Char) :
    (afterGroupBody depth text).length ≤ text.length := by
  fun_induction afterGroupBody depth text with
  | case4 depth rest inductionHypothesis =>
    have shorter := length_cutClass_le rest
    simp only [List.length_cons]
    omega
  | _ => simp_all <;> omega

/-! ## Runs up to a terminator -/

/-- Cut behind the first `terminator`, or at the end of the text. -/
def cutPast (terminator : Char) : List Char → Cut
  | [] => ⟨[], []⟩
  | char :: rest =>
    if char = terminator then ⟨[char], rest⟩
    else (cutPast terminator rest).extend [char]

theorem cutPast_append (terminator : Char) (text : List Char) :
    (cutPast terminator text).passed ++ (cutPast terminator text).left = text := by
  induction text with
  | nil => rfl
  | cons char rest inductionHypothesis =>
    by_cases found : char = terminator <;> simp [cutPast, found, inductionHypothesis]

theorem length_cutPast_le (terminator : Char) (text : List Char) :
    (cutPast terminator text).left.length ≤ text.length := by
  have whole := congrArg List.length (cutPast_append terminator text)
  simp only [List.length_append] at whole
  omega

end Pattern
end LineExtraction
