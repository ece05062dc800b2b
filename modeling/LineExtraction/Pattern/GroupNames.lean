import LineExtraction.Pattern.Delimiter

/-!
# Names of capture groups

Lists the names that a pattern gives to its groups, written `(?P<name>` or
`(?<name>`, in the order the groups open.  Escapes and bracket classes are passed
over; the openers of look-behind share the `(?<` but name nothing.
-/

namespace LineExtraction
namespace Pattern

/-- The name, when `cut` ran up to the `>` that ends it or to the end of the text. -/
def nameOf (cut : Cut) : List Char :=
  cut.passed.takeWhile (· ≠ '>')

/-- What a `(?` followed by `text` names: the text behind the opening `<` of a
group name, or `none` when the group is not named. -/
def groupNameStart? : List Char → Option (List Char)
  | 'P' :: '<' :: rest => some rest
  | '<' :: char :: rest => if char = '=' ∨ char = '!' then none else some (char :: rest)
  | _ => none

theorem length_groupNameStart?_lt {text rest : List Char}
    (named : groupNameStart? text = some rest) : rest.length < text.length := by
  unfold groupNameStart? at named
  split at named
  · cases named
    simp only [List.length_cons]
    omega
  · split at named <;> cases named
    simp only [List.length_cons]
    omega
  · cases named

/-- The group names in the text, in opening order. -/
def groupNamesOf : List Char → List (List Char)
  | [] => []
  | '\\' :: [] => []
  | '\\' :: _ :: rest => groupNamesOf rest
  | '[' :: rest => groupNamesOf (cutClass rest).left
  | '(' :: '?' :: rest =>
    match _ : groupNameStart? rest with
    | some named => nameOf (cutPast '>' named) :: groupNamesOf (cutPast '>' named).left
    | none => groupNamesOf rest
  | _ :: rest => groupNamesOf rest
termination_by text => text.length
decreasing_by
  all_goals simp_wf
  all_goals try have shorter := length_cutClass_le rest
  all_goals try have shorterName := length_cutPast_le '>' named
  all_goals try have start := length_groupNameStart?_lt ‹_›
  all_goals omega

/-- The names of the named capture groups of `pattern`, in opening order. -/
def groupNames (pattern : String) : List String :=
  (groupNamesOf pattern.toList).map String.ofList

end Pattern
end LineExtraction
