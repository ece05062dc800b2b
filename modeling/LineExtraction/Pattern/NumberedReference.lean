import LineExtraction.Pattern.Delimiter

/-!
# References to groups by number

Finds the first place where a pattern refers to a group by its number: a bare
`\1` to `\9`, or a back-reference or subroutine call whose bracketed target
starts with a digit or a sign, such as `\k<-1>` or `\g{2}`.
-/

namespace LineExtraction
namespace Pattern

/-- Whether a bracketed target that starts with `char` is a number. -/
def startsNumber (char : Char) : Bool :=
  char.isDigit ∨ char = '-' ∨ char = '+'

/-- The closing bracket of a reference that opens with `<` or `{`. -/
def closingOf (opening : Char) : Char :=
  if opening = '<' then '>' else '}'

/-- The numbered reference that a backslash followed by `text` starts, written out
with its backslash.  A bracketed target that is never closed runs to the end. -/
def numberedAt? : List Char → Option (List Char)
  | [] => none
  | letter :: rest =>
    if '1' ≤ letter ∧ letter ≤ '9' then some ['\\', letter]
    else if letter = 'k' ∨ letter = 'g' then
      match rest with
      | opening :: first :: target =>
        if (opening = '<' ∨ opening = '{') ∧ startsNumber first then
          some (['\\', letter, opening] ++ (cutPast (closingOf opening) (first :: target)).passed)
        else none
      | _ => none
    else none

/-- The first numbered reference in the text. -/
def firstNumbered? : List Char → Option (List Char)
  | [] => none
  | '[' :: rest => firstNumbered? (cutClass rest).left
  | '\\' :: rest =>
    match numberedAt? rest with
    | some reference => some reference
    | none =>
      match rest with
      | [] => none
      | _ :: rest => firstNumbered? rest
  | _ :: rest => firstNumbered? rest
termination_by text => text.length
decreasing_by
  all_goals simp_wf
  all_goals try have shorter := length_cutClass_le rest
  all_goals omega

/-- The source text of the first reference to a group by number, if there is one. -/
def numberedReference? (pattern : String) : Option String :=
  (firstNumbered? pattern.toList).map String.ofList

end Pattern
end LineExtraction
