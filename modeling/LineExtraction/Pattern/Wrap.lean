import LineExtraction.Pattern.Delimiter

/-!
# Wrapping a fragment as one group

A pattern fragment is made one unit by putting it in a non-capturing group.  In
verbose mode a `#` opens a comment that runs to the end of the line, and a comment
still open at the end of the fragment would hide the closing parenthesis.  Such a
fragment gets a line break before it.  The scan here keeps the verbose flag of
every open group and knows escapes, classes and flag headers.
-/

namespace LineExtraction
namespace Pattern

/-- What the verbose-mode scan knows: the flag of the innermost open group, the
flags of the groups around it, innermost first, and whether a comment is open. -/
structure VerboseScan where
  verbose : Bool
  enclosing : List Bool
  inComment : Bool
deriving DecidableEq, Repr

namespace VerboseScan

/-- The scan at the start of a fragment. -/
def start : VerboseScan := ⟨false, [], false⟩

/-- Enter a group in which the flag is `verbose`. -/
def enter (scan : VerboseScan) (verbose : Bool) : VerboseScan :=
  { scan with verbose, enclosing := scan.verbose :: scan.enclosing }

/-- Leave the innermost group.  The fragment itself is never left. -/
def leave (scan : VerboseScan) : VerboseScan :=
  match scan.enclosing with
  | [] => scan
  | outer :: enclosing => { scan with verbose := outer, enclosing }

end VerboseScan

/-- The letters of a flag header: the value given to the verbose flag, if any, and
the text behind the letters. -/
structure FlagHeader where
  verbose : Option Bool
  rest : List Char
deriving DecidableEq, Repr

/-- Whether `char` is an ASCII letter. -/
def isAsciiLetter (char : Char) : Bool :=
  ('a' ≤ char ∧ char ≤ 'z') ∨ ('A' ≤ char ∧ char ≤ 'Z')

/-- Read the flag letters that follow `(?`.  Letters after a `-` switch flags off. -/
def readFlagHeader (enable : Bool) (verbose : Option Bool) : List Char → FlagHeader
  | [] => ⟨verbose, []⟩
  | char :: rest =>
    if char = '-' then readFlagHeader false verbose rest
    else if char = 'x' then readFlagHeader enable (some enable) rest
    else if isAsciiLetter char then readFlagHeader enable verbose rest
    else ⟨verbose, char :: rest⟩

theorem length_readFlagHeader_le (enable : Bool) (verbose : Option Bool) (text : List Char) :
    (readFlagHeader enable verbose text).rest.length ≤ text.length := by
  fun_induction readFlagHeader enable verbose text <;> simp_all <;> omega

/-- The scan, and the text left, behind a `(?` whose continuation is `text`.
`(?x)` sets the flag for the rest of the enclosing group, `(?x:` for its own body. -/
def openQueryGroup (scan : VerboseScan) (text : List Char) : VerboseScan × List Char :=
  let header := readFlagHeader true none text
  match header.rest with
  | ')' :: rest => ({ scan with verbose := header.verbose.getD scan.verbose }, rest)
  | ':' :: rest => (scan.enter (header.verbose.getD scan.verbose), rest)
  | _ => (scan.enter scan.verbose, text)

theorem length_openQueryGroup_le (scan : VerboseScan) (text : List Char) :
    (openQueryGroup scan text).2.length ≤ text.length := by
  have shorter := length_readFlagHeader_le true none text
  simp only [openQueryGroup]
  split <;> simp_all <;> omega

/-- Whether the end of the text, scanned from `scan`, lies inside a comment. -/
def endsInComment (scan : VerboseScan) : List Char → Bool
  | [] => scan.inComment
  | char :: rest =>
    if scan.inComment then
      endsInComment { scan with inComment := char ≠ '\n' } rest
    else if char = '\\' then
      match rest with
      | [] => false
      | _ :: rest => endsInComment scan rest
    else if char = '[' then
      endsInComment scan (cutClass rest).left
    else if char = '#' ∧ scan.verbose then
      endsInComment { scan with inComment := true } rest
    else if char = '(' then
      match rest with
      | '?' :: rest =>
        endsInComment (openQueryGroup scan rest).1 (openQueryGroup scan rest).2
      | rest => endsInComment (scan.enter scan.verbose) rest
    else if char = ')' then
      endsInComment scan.leave rest
    else
      endsInComment scan rest
termination_by text => text.length
decreasing_by
  all_goals simp_wf
  all_goals try have shorter := length_cutClass_le rest
  all_goals try have shorterHeader := length_openQueryGroup_le scan rest
  all_goals omega

/-- Whether the end of a fragment lies inside a verbose-mode comment. -/
def endsInsideComment (fragment : List Char) : Bool :=
  endsInComment .start fragment

/-- The characters of `(?:fragment)`, with a line break where a comment is open. -/
def wrapChars (fragment : List Char) : List Char :=
  let closing := if endsInsideComment fragment then ['\n', ')'] else [')']
  ['(', '?', ':'] ++ fragment ++ closing

/-- Wrap a fragment in a non-capturing group, so that nothing in it can bind to
the pattern text around it. -/
def wrap (fragment : String) : String :=
  String.ofList (wrapChars fragment.toList)

end Pattern
end LineExtraction
