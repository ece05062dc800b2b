import LineExtraction.Proofs.Linear.Comments
import LineExtraction.Proofs.Linear.Naming
import LineExtraction.Proofs.Pattern.NameScan

/-!
# Scans for group names along the parser

The capturing groups of a parsed pattern stand in the order in which the parser opens them: first
those in front of the outermost open group, then that group itself, then those in front of the
next one, and so on inwards.  A token adds at most one group, at the end, and closing a group
changes nothing.  So the names of the groups are the names that the parser has met, in order.

The scan for group names knows escapes and bracket classes but neither comments nor blanks.  Token
by token it follows the parser all the same, as long as no comment holds what the scan takes for
the start of an escape, a class or a group, as it sees every class end where the parser does, and
as the header of every named group stands right behind its parenthesis.  Then it finds the names of
the groups of the parsed pattern in the order in which the groups open.
-/

namespace LineExtraction
namespace Linear

/-- The names of the groups of a parsed pattern that have one, in the order in which the groups
open. -/
def Ast.groupNames (ast : Ast) : List (List Char) :=
  ast.captures.filterMap (·.2)

/-! ## Groups in order -/

theorem Level.captures_toAst
    (level : Level) :
    level.toAst.captures =
      level.branches.reverse.flatMap Ast.captures ++ level.parts.reverse.flatMap Ast.captures := by
  rw [toAst, Ast.captures_ofBranches, List.reverse_cons, List.flatMap_append, List.flatMap_singleton,
    Ast.captures_ofParts]

theorem Level.captures_push
    (level : Level)
    (part : Ast) :
    (level.push part).toAst.captures = level.toAst.captures ++ part.captures := by
  simp [captures_toAst, push]

theorem Level.captures_nextBranch
    (level : Level) :
    level.nextBranch.toAst.captures = level.toAst.captures := by
  simp [captures_toAst, nextBranch, Ast.captures_ofParts]

/-- A group opens in front of what stands in it. -/
theorem Ast.captures_group
    (kind : GroupKind)
    (body : Ast) :
    (Ast.group kind body).captures = (Ast.group kind .empty).captures ++ body.captures := by
  cases kind <;> rfl

/-- The capturing groups that the parser has met in front of an open group, and the open group if
it captures, in order. -/
def OpenGroup.met (group : OpenGroup) : List Capture :=
  group.outer.toAst.captures ++ (Ast.group group.kind .empty).captures

/-- The capturing groups that the parser has met, in the order in which they opened. -/
def ParseState.met (state : ParseState) : List Capture :=
  state.groups.reverse.flatMap OpenGroup.met ++ state.level.toAst.captures

theorem ParseState.met_push
    (state : ParseState)
    {part : Ast}
    (bare : part.captures = []) :
    (state.push part).met = state.met := by
  rw [met, push, Level.captures_push, bare, List.append_nil]
  rfl

theorem ParseState.met_openGroup
    (state : ParseState)
    (kind : GroupKind)
    (verbose : Bool) :
    (state.openGroup kind verbose).met = state.met ++ (Ast.group kind .empty).captures := by
  simp [met, openGroup, OpenGroup.met, Level.captures_toAst, Level.start]

/-! ## Names in order -/

/-- The name that a token gives to the group that it opens, if it does. -/
def Lexeme.name? : Lexeme → Option (List Char)
  | .opens (.named name) => some name
  | _ => none

/-- A token adds its name to those that the parser knows, and a group to those that it has met. -/
theorem ParseState.names_take
    {state next : ParseState}
    {lexeme : Lexeme}
    (bare : lexeme.Bare)
    (taken : state.take lexeme = .ok next) :
    next.names = lexeme.name?.toList ++ state.names ∧
      ∃ added, next.met = state.met ++ added ∧
        added.filterMap (·.2) = lexeme.name?.toList := by
  cases lexeme with
  | opens header =>
      cases header with
      | unnamed =>
          obtain rfl := Except.ok.inj taken
          exact ⟨rfl, _, met_openGroup state (.capture (state.captures + 1) none) state.verbose, rfl⟩
      | named name =>
          simp only [take, enter] at taken
          split at taken
          · cases taken
          · obtain rfl := Except.ok.inj taken
            exact ⟨rfl, _,
              met_openGroup state (.capture (state.captures + 1) (some name)) state.verbose, rfl⟩
      | plain flags =>
          obtain rfl := Except.ok.inj taken
          exact ⟨rfl, _, met_openGroup state (.plain flags) _, rfl⟩
      | directive flags =>
          obtain rfl := Except.ok.inj taken
          refine ⟨rfl, [], ?_, rfl⟩
          rw [List.append_nil]
          exact state.met_push rfl
  | closes =>
      obtain ⟨verbose, level, groups, captures, names⟩ := state
      cases groups with
      | nil => cases taken
      | cons group groups =>
          obtain rfl := Except.ok.inj taken
          refine ⟨rfl, [], ?_, rfl⟩
          simp [met, Level.captures_push, Ast.captures_group group.kind level.toAst,
            OpenGroup.met]
  | branches =>
      obtain rfl := Except.ok.inj taken
      refine ⟨rfl, [], ?_, rfl⟩
      rw [met, Level.captures_nextBranch, List.append_nil]
      rfl
  | part part =>
      obtain rfl := Except.ok.inj taken
      refine ⟨rfl, [], ?_, rfl⟩
      rw [List.append_nil]
      exact state.met_push (Ast.captures_eq_nil_of_shift (bare 1))
  | repeats count =>
      simp only [take] at taken
      split at taken
      · obtain rfl := Except.ok.inj taken
        obtain ⟨verbose, ⟨branches, parts⟩, groups, captures, names⟩ := state
        cases parts with
        | nil => exact ⟨rfl, [], (List.append_nil _).symm, rfl⟩
        | cons part parts =>
            refine ⟨rfl, [], ?_, rfl⟩
            simp [met, quantify, Level.captures_toAst, Ast.captures]
      · cases taken

/-- The names that the parser knows are those of the groups that it has met, the last one first. -/
theorem Reads.names_eq
    {state last : ParseState}
    {text rest : List Char}
    (reads : Reads state text last rest)
    (ordered : state.met.filterMap (·.2) = state.names.reverse) :
    last.met.filterMap (·.2) = last.names.reverse := by
  induction reads with
  | refl => exact ordered
  | token _ read taken _ inductionHypothesis =>
      apply inductionHypothesis
      obtain ⟨names, added, opened, own⟩ := ParseState.names_take (bare_readLexeme read) taken
      have once (name? : Option (List Char)) : name?.toList.reverse = name?.toList := by
        cases name? <;> rfl
      rw [names, opened, List.filterMap_append, own, ordered, List.reverse_append, once]

/-- The names of the groups of a pattern are those that the parser knows at its end. -/
theorem groupNames_of_readTokens
    {text : List Char}
    {last : ParseState}
    (read : readTokens .start text = .ok last)
    (closed : last.groups = []) :
    last.level.toAst.groupNames = last.names.reverse := by
  obtain ⟨rest, reads, -⟩ := readTokens_eq_ok_iff.mp read
  have ordered := reads.names_eq rfl
  rwa [ParseState.met, closed] at ordered

open Pattern (Lacks nameMarks groupNamesOf groupNameStart? cutClass groupNamesOf_cons
  groupNamesOf_lacking groupNamesOf_query groupNamesOf_named groupNamesOf_bare)

/-! ## Comments -/

/-- The characters that stand in comments of a text, from inside of a comment or from outside. -/
def remarks (verbose inComment : Bool) : List Char → List Char
  | [] => []
  | char :: rest =>
    if inComment then char :: remarks verbose (char ≠ '\n') rest
    else remarks verbose (char = '#' ∧ verbose) rest

/-- A text without landmarks outside of comments holds a mark of names only in a comment. -/
theorem lacks_of_remarks
    {verbose inComment behind : Bool}
    {text : List Char}
    (passed : commentBehind? verbose inComment text = some behind)
    (quiet : Lacks nameMarks (remarks verbose inComment text)) :
    Lacks nameMarks text := by
  have fewer : nameMarks ⊆ landmarks := by decide
  induction text generalizing inComment with
  | nil => exact nofun
  | cons char text inductionHypothesis =>
      rw [commentBehind?] at passed
      rw [remarks] at quiet
      split at passed
      · next comment =>
          rw [if_pos comment] at quiet
          obtain ⟨first, others⟩ := List.forall_mem_cons.mp quiet
          exact List.forall_mem_cons.mpr ⟨first, inductionHypothesis passed others⟩
      next outside =>
        rw [if_neg outside] at quiet
        split at passed
        · cases passed
        next plain =>
          exact List.forall_mem_cons.mpr
            ⟨fun mark => plain (fewer mark), inductionHypothesis passed quiet⟩

/-- Whether no comment in what a reader takes off a text holds a mark of names. -/
def isQuiet (verbose : Bool) (text rest : List Char) : Bool :=
  Lacks nameMarks (remarks verbose false (text.take (text.length - rest.length)))

section

variable {verbose : Bool} {text rest : List Char}

/-- The scan for names goes on behind what a scan for comments passes over. -/
theorem Passes.groupNamesOf_eq
    (passes : Passes verbose text rest)
    (quiet : isQuiet verbose text rest) :
    groupNamesOf text = groupNamesOf rest := by
  obtain ⟨front, inComment, rfl, passed, -⟩ := passes
  have taken : (front ++ rest).take ((front ++ rest).length - rest.length) = front := by
    rw [List.length_append, Nat.add_sub_cancel, List.take_left]
  have lacks := of_decide_eq_true quiet
  rw [taken] at lacks
  exact groupNamesOf_lacking (lacks_of_remarks passed lacks) rest

end

/-! ## Group headers -/

/-- A name ends where its bracket stands. -/
theorem not_mem_of_readNameChars
    {first : Bool}
    {text : List Char}
    {name : Read (List Char) text}
    (read : readNameChars first text = .ok name) :
    '>' ∉ name.value := by
  induction text generalizing first with
  | nil => cases read
  | cons char rest inductionHypothesis =>
      rw [readNameChars] at read
      split at read
      · obtain rfl := Except.ok.inj read
        exact List.not_mem_nil
      next goesOn =>
        split at read
        · obtain ⟨inner, innerFound, made⟩ := Except.bind_eq_ok_iff.mp read
          obtain rfl := Except.ok.inj made
          exact List.not_mem_cons_of_ne_of_not_mem (fun same => goesOn same.symm)
            (inductionHypothesis innerFound)
        · cases read

theorem not_mem_of_readGroupName
    {text : List Char}
    {name : Read (List Char) text}
    (read : readGroupName text = .ok name) :
    '>' ∉ name.value := by
  obtain ⟨found, foundRead, made⟩ := Except.bind_eq_ok_iff.mp read
  dsimp only at made
  split at made
  · cases made
  · obtain rfl := Except.ok.inj made
    exact not_mem_of_readNameChars foundRead

/-- No mark of names stands among flags. -/
theorem exists_lacking_of_readFlags
    {items : List FlagItem}
    {text : List Char}
    {header : Read GroupHeader text}
    (read : readFlags items text = .ok header) :
    ∃ front, text = front ++ header.rest ∧ Lacks nameMarks front := by
  induction text generalizing items with
  | nil => cases read
  | cons char rest inductionHypothesis =>
      have goesOn {item : FlagItem}
          {shorter : rest.length ≤ (char :: rest).length}
          (plain : char ∉ nameMarks)
          (read : (do return (← readFlags (item :: items) rest).weaken shorter) = .ok header) :
          ∃ front, char :: rest = front ++ header.rest ∧ Lacks nameMarks front := by
        obtain ⟨inner, innerFound, made⟩ := Except.bind_eq_ok_iff.mp read
        obtain rfl := Except.ok.inj made
        obtain ⟨front, same, lacks⟩ := inductionHypothesis innerFound
        exact ⟨char :: front, congrArg (char :: ·) same, List.forall_mem_cons.mpr ⟨plain, lacks⟩⟩
      rw [readFlags] at read
      split at read
      · next ends =>
          have lacks : Lacks nameMarks [char] := by
            obtain rfl | rfl := ends <;> decide
          split at read
          · cases read
          split at read
          · obtain rfl := Except.ok.inj read
            exact ⟨[char], rfl, lacks⟩
          split at read
          · cases read
          · obtain rfl := Except.ok.inj read
            exact ⟨[char], rfl, lacks⟩
      · split at read
        · next negates =>
            split at read
            · cases read
            · exact goesOn (negates ▸ by decide) read
        · split at read
          · cases read
          next letter =>
            split at read
            · cases read
            · refine goesOn (fun mark => ?_) read
              have checked : nameMarks.all fun char => (flagOf? char).isNone := by decide
              have unknown := List.all_eq_true.mp checked char mark
              rw [letter] at unknown
              cases unknown

/-- No mark of names stands in a header without a name. -/
theorem exists_lacking_of_readHeader
    {text : List Char}
    {header : Read GroupHeader text}
    (read : readHeader text = .ok header)
    (nameless : (Lexeme.opens header.value).name? = none) :
    ∃ front, text = front ++ header.rest ∧ Lacks nameMarks front := by
  unfold readHeader at read
  split at read
  case h_5 | h_6 =>
    obtain ⟨name, -, made⟩ := Except.bind_eq_ok_iff.mp read
    obtain rfl := Except.ok.inj made
    cases nameless
  case h_8 =>
    obtain ⟨found, flagsRead, made⟩ := Except.bind_eq_ok_iff.mp read
    obtain rfl := Except.ok.inj made
    obtain ⟨front, same, lacks⟩ := exists_lacking_of_readFlags flagsRead
    exact ⟨'?' :: front, congrArg ('?' :: ·) same, List.forall_mem_cons.mpr ⟨by decide, lacks⟩⟩
  case h_9 =>
    obtain rfl := Except.ok.inj read
    exact ⟨[], rfl, nofun⟩
  all_goals cases read

/-- The name that a header gives to its group, if it does. -/
theorem groupNamesOf_header
    {text : List Char}
    {header : Read GroupHeader text}
    (read : readHeader text = .ok header)
    (query : text.head? = some '?') :
    groupNamesOf ('(' :: text) =
      (Lexeme.opens header.value).name?.toList ++ groupNamesOf header.rest := by
  unfold readHeader at read
  split at read
  case h_5 rest =>
    obtain ⟨name, nameRead, made⟩ := Except.bind_eq_ok_iff.mp read
    obtain rfl := Except.ok.inj made
    exact groupNamesOf_named (not_mem_of_readGroupName nameRead)
      (congrArg some (eq_of_readGroupName nameRead))
  case h_6 rest notEqual notNegated =>
    obtain ⟨name, nameRead, made⟩ := Except.bind_eq_ok_iff.mp read
    obtain rfl := Except.ok.inj made
    have start : groupNameStart? ('<' :: rest) = some rest := by
      cases rest with
      | nil => cases nameRead
      | cons char rest =>
          refine if_neg ?_
          rintro (rfl | rfl)
          · exact notEqual rest rfl
          · exact notNegated rest rfl
    exact groupNamesOf_named (not_mem_of_readGroupName nameRead)
      (start.trans (congrArg some (eq_of_readGroupName nameRead)))
  case h_8 rest _ _ notEqual notNegated notLong notShort _ =>
    obtain ⟨found, flagsRead, made⟩ := Except.bind_eq_ok_iff.mp read
    obtain rfl := Except.ok.inj made
    obtain ⟨front, same, lacks⟩ := exists_lacking_of_readFlags flagsRead
    have unnamed : groupNameStart? rest = none := by
      unfold groupNameStart?
      split
      · exact absurd rfl (notLong _)
      · exact absurd rfl (notShort _)
      · rfl
    have nameless : (Lexeme.opens found.value).name? = none := by
      obtain ⟨flags, -, ⟨value, -⟩ | ⟨value, -⟩⟩ := seesFlags_of_readFlags flagsRead
      · rw [value]
        rfl
      · rw [value]
        rfl
    have passed := groupNamesOf_query front (same ▸ unnamed) lacks
    rw [← same] at passed
    show groupNamesOf ('(' :: '?' :: rest) =
      (Lexeme.opens found.value).name?.toList ++ groupNamesOf found.rest
    rw [nameless, passed]
    rfl
  case h_9 notQuery =>
    obtain ⟨rest, same⟩ := List.head?_eq_some_iff.mp query
    exact absurd same (notQuery rest)
  all_goals cases read

/-! ## Tokens -/

/-- Whether the scan for names can follow a token: the comments in it hold no mark of names, a
class ends where the scan cuts it, and a header with a name stands right behind its parenthesis. -/
def Lexeme.isSurveyed (verbose : Bool) (first : Char) (lexeme : Lexeme) (text rest : List Char) :
    Bool :=
  match first with
  | '\\' => isQuiet verbose text.tail rest
  | '[' => (cutClass text).left = rest
  | '(' =>
    if lexeme.name?.isSome then text.head? = some '?'
    else isQuiet verbose text (skipBlank verbose text)
  | _ => isQuiet verbose text rest

/-- Only a parenthesis opens a group with a name. -/
theorem name?_readLexeme
    {verbose : Bool}
    {first : Char}
    {text : List Char}
    {lexeme : Read Lexeme text}
    (read : readLexeme verbose first text = .ok lexeme)
    (other : first ≠ '(') :
    lexeme.value.name? = none := by
  have mapped {α : Type} {reader : Except SyntaxError (Read α text)} {change : α → Lexeme}
      (nameless : ∀ value, (change value).name? = none)
      (found : (do return (← reader).map change) = .ok lexeme) : lexeme.value.name? = none := by
    obtain ⟨inner, -, found⟩ := Except.bind_eq_ok_iff.mp found
    obtain rfl := Except.ok.inj found
    exact nameless inner.value
  unfold readLexeme at read
  split at read
  case h_1 => exact absurd rfl other
  case h_4 | h_5 => exact mapped (fun _ => rfl) read
  case h_9 =>
    split at read
    · exact mapped (fun _ => rfl) read
    · obtain rfl := Except.ok.inj read
      rfl
  all_goals
    obtain rfl := Except.ok.inj read
    rfl

theorem groupNamesOf_parenthesis
    {verbose : Bool}
    {text : List Char}
    {header : Read GroupHeader text}
    (read : readGroupHeader verbose text = .ok header)
    (surveyed : (Lexeme.opens header.value).isSurveyed verbose '(' text header.rest) :
    groupNamesOf ('(' :: text) =
      (Lexeme.opens header.value).name?.toList ++ groupNamesOf header.rest := by
  obtain ⟨inner, innerFound, made⟩ := Except.bind_eq_ok_iff.mp read
  obtain rfl := Except.ok.inj made
  by_cases query : text.head? = some '?'
  · obtain ⟨rest, shape⟩ := List.head?_eq_some_iff.mp query
    have skipped : skipBlank verbose text = text := by rw [shape, skipBlank_query]
    exact (congrArg (fun rest => groupNamesOf ('(' :: rest)) skipped.symm).trans
      (groupNamesOf_header innerFound (skipped.symm ▸ query))
  · have nameless : (Lexeme.opens inner.value).name? = none := by
      cases name : (Lexeme.opens inner.value).name? with
      | none => rfl
      | some given =>
          have near : (if (Lexeme.opens inner.value).name?.isSome then
            decide (text.head? = some '?') else _) = true := surveyed
          rw [name] at near
          exact absurd (of_decide_eq_true near) query
    have quiet : (if (Lexeme.opens inner.value).name?.isSome then
      _ else isQuiet verbose text (skipBlank verbose text)) = true := surveyed
    rw [nameless] at quiet
    obtain ⟨front, same, lacks⟩ := exists_lacking_of_readHeader innerFound nameless
    have passed := groupNamesOf_lacking lacks inner.rest
    rw [← same] at passed
    show _ = (Lexeme.opens inner.value).name?.toList ++ groupNamesOf inner.rest
    rw [groupNamesOf_bare query, (passes_skipBlank verbose text).groupNamesOf_eq quiet, passed,
      nameless]
    rfl

/-- The scan for names follows the parser over a token. -/
theorem groupNamesOf_readLexeme
    {verbose : Bool}
    {first : Char}
    {text : List Char}
    {lexeme : Read Lexeme text}
    (read : readLexeme verbose first text = .ok lexeme)
    (surveyed : lexeme.value.isSurveyed verbose first text lexeme.rest)
    (plain : lexeme.value.IsPlain) :
    groupNamesOf (first :: text) = lexeme.value.name?.toList ++ groupNamesOf lexeme.rest := by
  by_cases opens : first = '('
  · subst opens
    obtain ⟨header, found, made⟩ := Except.bind_eq_ok_iff.mp read
    obtain rfl := Except.ok.inj made
    exact groupNamesOf_parenthesis found surveyed
  rw [name?_readLexeme read opens]
  by_cases escapes : first = '\\'
  · subst escapes
    cases text with
    | nil => cases read
    | cons letter body =>
        obtain ⟨escape, found, made⟩ := Except.bind_eq_ok_iff.mp read
        obtain rfl := Except.ok.inj made
        rw [groupNamesOf]
        exact (passes_readEscape found (isPlain_toAst_iff.mp plain)).groupNamesOf_eq surveyed
  by_cases brackets : first = '['
  · subst brackets
    have ends : (cutClass text).left = lexeme.rest := of_decide_eq_true surveyed
    rw [groupNamesOf, ends]
    rfl
  rw [groupNamesOf_cons (by simp [nameMarks, opens, escapes, brackets])]
  have quiet : isQuiet verbose text lexeme.rest := by
    unfold Lexeme.isSurveyed at surveyed
    split at surveyed
    · exact absurd rfl escapes
    · exact absurd rfl brackets
    · exact absurd rfl opens
    · exact surveyed
  by_cases closes : first = ')'
  · subst closes
    obtain rfl := Except.ok.inj read
    rfl
  · have plain : first ∉ landmarks := by simp [landmarks, opens, escapes, brackets, closes]
    exact (skims_readLexeme plain text lexeme read).groupNamesOf_eq quiet

/-! ## Runs -/

/-- Whether the scan for names can follow every token that the parser reads from a state on, and
the blanks between them. -/
def isSurveyedFrom (state : ParseState) (text : List Char) : Bool :=
  isQuiet state.verbose text (skipBlank state.verbose text) &&
    match skipped : skipBlank state.verbose text with
    | [] => true
    | first :: rest =>
      match readLexeme state.verbose first rest with
      | .error _ => true
      | .ok lexeme =>
        have : lexeme.rest.length < text.length :=
          Nat.lt_of_le_of_lt lexeme.shorter (length_lt_of_skipBlank skipped)
        match state.take lexeme.value with
        | .error _ => true
        | .ok next =>
          lexeme.value.isSurveyed state.verbose first rest lexeme.rest &&
            isSurveyedFrom next lexeme.rest
termination_by text.length

/-- Whether the scan for names can follow every token that the parser reads off a pattern. -/
def isSurveyed (pattern : List Char) : Bool :=
  isSurveyedFrom .start pattern

theorem isSurveyedFrom_blank
    {state : ParseState}
    {text : List Char}
    (surveyed : isSurveyedFrom state text) :
    isQuiet state.verbose text (skipBlank state.verbose text) := by
  rw [isSurveyedFrom, Bool.and_eq_true] at surveyed
  exact surveyed.1

theorem isSurveyedFrom_token
    {state next : ParseState}
    {first : Char}
    {text rest : List Char}
    {lexeme : Read Lexeme rest}
    (surveyed : isSurveyedFrom state text)
    (skipped : skipBlank state.verbose text = first :: rest)
    (read : readLexeme state.verbose first rest = .ok lexeme)
    (taken : state.take lexeme.value = .ok next) :
    lexeme.value.isSurveyed state.verbose first rest lexeme.rest ∧
      isSurveyedFrom next lexeme.rest := by
  rw [isSurveyedFrom, Bool.and_eq_true] at surveyed
  obtain ⟨-, surveyed⟩ := surveyed
  split at surveyed
  · next ended => cases ended.symm.trans skipped
  next same =>
    obtain ⟨rfl, rfl⟩ := List.cons.inj (same.symm.trans skipped)
    simpa only [read, taken, Bool.and_eq_true] using surveyed

/-- Where the scan for names can follow the parser, it finds the names that the parser comes to
know. -/
theorem Reads.groupNamesOf_eq
    {state last : ParseState}
    {text rest : List Char}
    (reads : Reads state text last rest)
    (blank : skipBlank last.verbose rest = [])
    (plain : last.IsPlain)
    (surveyed : isSurveyedFrom state text) :
    state.names.reverse ++ groupNamesOf text = last.names.reverse := by
  induction reads with
  | refl state text =>
      rw [(passes_skipBlank state.verbose text).groupNamesOf_eq (isSurveyedFrom_blank surveyed),
        blank, groupNamesOf, List.append_nil]
  | @token state next last text behind rest first lexeme skipped read taken others
      inductionHypothesis =>
      obtain ⟨own, onwards⟩ := isSurveyedFrom_token surveyed skipped read taken
      obtain ⟨lexemePlain, -⟩ := ParseState.isPlain_of_take taken (others.isPlain plain)
      have known : next.names.reverse = state.names.reverse ++ lexeme.value.name?.toList := by
        rw [(ParseState.names_take (bare_readLexeme read) taken).1, List.reverse_append]
        cases lexeme.value.name? <;> rfl
      rw [(passes_skipBlank state.verbose text).groupNamesOf_eq (isSurveyedFrom_blank surveyed),
        skipped, groupNamesOf_readLexeme read own lexemePlain, ← List.append_assoc, ← known]
      exact inductionHypothesis blank plain onwards

end Linear

/-! ## Accepted patterns -/

open Linear

/-- The scan for group names finds the names of the named groups of an accepted pattern, in the
order in which the groups open, if it can follow the tokens of the pattern. -/
theorem Pattern.groupNames_eq_of_treeOf
    {pattern : String}
    {tree : Tree}
    (accepted : Regex.treeOf pattern = .ok tree)
    (surveyed : isSurveyed pattern.toList) :
    ∃ ast, parse pattern.toList = .ok ast ∧
      Pattern.groupNames pattern = ast.groupNames.map String.ofList := by
  obtain ⟨last, read, closed, plain, parsed⟩ := Regex.exists_read_of_treeOf accepted
  obtain ⟨rest, reads, blank⟩ := readTokens_eq_ok_iff.mp read
  refine ⟨_, parsed, ?_⟩
  have found : [] ++ groupNamesOf pattern.toList = _ := reads.groupNamesOf_eq blank plain surveyed
  rw [Pattern.groupNames, groupNames_of_readTokens read closed, ← found, List.nil_append]

/-- Named groups among a class, a comment and an escape. -/
def annotatedChoice : String := "(?x)(?P<a>x) [(?<c>] # one of two\n | \\((?<b>y)"

theorem Pattern.groupNames_eq_of_treeOf_annotatedChoice :
    ∃ tree ast, Regex.treeOf annotatedChoice = .ok tree ∧ parse annotatedChoice.toList = .ok ast ∧
      Pattern.groupNames annotatedChoice = ast.groupNames.map String.ofList ∧
      ast.groupNames = [['a'], ['b']] := by
  obtain ⟨tree, accepted, -⟩ : ∃ tree, Regex.treeOf annotatedChoice = .ok tree ∧ true :=
    Except.exists_ok_of_decide (by decide +kernel)
  obtain ⟨ast, parsed, names⟩ :
      ∃ ast, parse annotatedChoice.toList = .ok ast ∧
        decide (ast.groupNames = [['a'], ['b']]) :=
    Except.exists_ok_of_decide (by decide +kernel)
  obtain ⟨same, sameParsed, found⟩ :=
    Pattern.groupNames_eq_of_treeOf accepted (by decide +kernel)
  obtain rfl := Except.ok.inj (parsed.symm.trans sameParsed)
  exact ⟨tree, ast, accepted, parsed, found, of_decide_eq_true names⟩

/-- A comment that holds what would be a named group. -/
def remarkedGroup : String := "(?x)#(?<n>a)"

/-- The scan finds the name of a group that stands in a comment, where the parser reads none. -/
theorem Pattern.groupNames_remarkedGroup :
    ∃ tree ast, Regex.treeOf remarkedGroup = .ok tree ∧ parse remarkedGroup.toList = .ok ast ∧
      ast.groupNames = [] ∧ Pattern.groupNames remarkedGroup = ["n"] := by
  obtain ⟨tree, accepted, -⟩ : ∃ tree, Regex.treeOf remarkedGroup = .ok tree ∧ true :=
    Except.exists_ok_of_decide (by decide +kernel)
  obtain ⟨ast, parsed, names⟩ :
      ∃ ast, parse remarkedGroup.toList = .ok ast ∧ decide (ast.groupNames = []) :=
    Except.exists_ok_of_decide (by decide +kernel)
  exact ⟨tree, ast, accepted, parsed, of_decide_eq_true names, by decide +kernel⟩

end LineExtraction
