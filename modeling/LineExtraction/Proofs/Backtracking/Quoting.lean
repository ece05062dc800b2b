import LineExtraction.Proofs.Backtracking.Reading
import LineExtraction.Proofs.Linear.Parts
import LineExtraction.Proofs.Linear.Composition

/-!
# Quoted text in the backtracking dialect

Quoted text between the two ends of the line is read as its characters one after the
other.  Nothing in that is hard, so it is written out again for the linear engine, where it
matches the lines that are that text.
-/

namespace LineExtraction
namespace Backtracking

open Pattern (isClear isClear_cons isBacktrackingMeta quoteWith)

/-! ## Reading quoted text -/

/-- What quoted text is read as. -/
def Ast.literals (text : List Char) : List Ast := text.map (.literal · false)

theorem readEscape_quoted
    {char : Char}
    (special : isBacktrackingMeta char)
    (scope : Scope)
    (fold : Bool)
    (rest : List Char) :
    readEscape scope fold false (char :: rest) =
      .ok ⟨.of (.literal char false), rest, Nat.le_succ _⟩ := by
  have member : char ∈ ['\\', '.', '+', '*', '?', '(', ')', '|', '[', ']', '\x7b', '\x7d', '^',
      '$', '#'] := of_decide_eq_true special
  simp only [List.mem_cons, List.not_mem_nil, or_false] at member
  rcases member with
    rfl | rfl | rfl | rfl | rfl | rfl | rfl | rfl | rfl | rfl | rfl | rfl | rfl | rfl | rfl
  all_goals rfl

theorem isClear_quoted
    (text : List Char)
    {more : List Char}
    (clear : isClear more) :
    isClear (quoteWith isBacktrackingMeta text ++ more) := by
  cases text with
  | nil => exact clear
  | cons char rest =>
      rw [quoteWith]
      split
      · exact isClear_cons (by decide) _
      · next ordinary =>
          refine isClear_cons (fun member => ordinary ?_) _
          exact decide_eq_true (List.Subset.trans (by decide) (List.Subset.refl _) member)

/-- Outside of verbose mode and without case folding, quoted text is read character by
character. -/
theorem reads_quoted
    {state : ParseState}
    (plain : state.flags.verbose = false)
    (sharp : state.flags.fold = false)
    (text : List Char)
    {more : List Char}
    (clear : isClear more) :
    Reads state (quoteWith isBacktrackingMeta text ++ more)
      (state.pass (Ast.literals text)) more := by
  induction text generalizing state with
  | nil => exact .refl state more
  | cons char rest inductionHypothesis =>
      have others : Reads (state.push (.literal char false)) _ _ more :=
        inductionHypothesis plain sharp
      rw [← ParseState.pass_cons rfl] at others
      have behind := isClear_quoted rest clear
      have here := isClear_quoted (char :: rest) clear
      rw [quoteWith] at here ⊢
      by_cases special : isBacktrackingMeta char
      · rw [if_pos special, List.cons_append, List.cons_append] at here ⊢
        refine Reads.trans (reads_atom plain plain here ⟨Nat.le_succ _, ?_⟩ behind) others
        show (readEscape state.scope state.flags.fold false _ >>= _) = _
        rw [readEscape_quoted special]
        rfl
      · rw [if_neg special, List.cons_append] at here ⊢
        have apart : ∀ known, isBacktrackingMeta known → char ≠ known := by
          rintro _ known rfl
          exact special known
        refine Reads.trans (reads_atom plain plain here ⟨Nat.le_refl _, ?_⟩ behind) others
        rw [readToken]
        · rw [sharp]
        all_goals exact apart _ rfl

/-! ## Whole patterns -/

/-- What quoted text between the two ends of the line is read as. -/
def Ast.anchoredLiterals (text : List Char) : Ast :=
  .sequence (.assertion .startText ::
    ((if text.isEmpty then [] else [Ast.ofParts (Ast.literals text)]) ++ [.assertion .endText]))

theorem finish_anchored_literals
    (bytes : Nat)
    (text : List Char) :
    ((((ParseState.start bytes).push (.assertion .startText)).push
        (.ofParts (Ast.literals text))).push (.assertion .endText)).finish =
      .ok (.anchoredLiterals text) := by
  match text with
  | [] => rfl
  | [_] => rfl
  | _ :: _ :: _ => rfl

theorem parse_anchored_quoted
    (text : List Char) :
    parse ('\\' :: 'A' :: '(' :: '?' :: ':' ::
        (quoteWith isBacktrackingMeta text ++ [')', '\\', 'z'])) =
      .ok ⟨.anchoredLiterals text, 0, [], false⟩ := by
  let quoted := quoteWith isBacktrackingMeta text ++ [')', '\\', 'z']
  let whole := '\\' :: 'A' :: '(' :: '?' :: ':' :: quoted
  let start := ParseState.start (Line.byteLength whole)
  let front := start.push (.assertion .startText)
  let inside := front.openGroup (.plain front.flags)
  let body := Ast.ofParts (Ast.literals text)
  have starts : Reads start whole front ('(' :: '?' :: ':' :: quoted) :=
    reads_atom rfl rfl (isClear_cons (by decide) _) ⟨Nat.le_succ _, rfl⟩ rfl
  have shallow : front.groups.length + 1 < nestLimit := show 0 + 1 < 64 by decide
  have opens : Reads front ('(' :: '?' :: ':' :: quoted) inside quoted :=
    reads_plainHeader rfl shallow quoted
  have reads : Reads inside quoted (inside.pass (Ast.literals text)) [')', '\\', 'z'] :=
    reads_quoted rfl rfl text rfl
  have level : (inside.pass (Ast.literals text)).endLevel = .ok body := by
    simp [ParseState.endLevel, inside, front, start, ParseState.pass, ParseState.openGroup,
      ParseState.push, ParseState.start, Level.toAst, Level.start, Level.branch, body,
      Ast.ofBranches]
  have closes : Reads (inside.pass (Ast.literals text)) [')', '\\', 'z']
      (front.push body) ['\\', 'z'] :=
    reads_close rfl rfl rfl level rfl
  have ends : Reads (front.push body) ['\\', 'z']
      ((front.push body).push (.assertion .endText)) [] :=
    reads_atom rfl rfl rfl ⟨Nat.le_succ _, rfl⟩ rfl
  have read := (((starts.trans opens).trans reads).trans closes).trans ends
  have last : readTokens start whole = .ok ((front.push body).push (.assertion .endText)) := by
    rw [read.readTokens_eq_ok, readTokens]
    rfl
  have finish : ((front.push body).push (.assertion .endText)).finish =
      .ok (.anchoredLiterals text) :=
    finish_anchored_literals _ text
  exact Except.bind_eq_ok_iff.mpr ⟨_, last, Except.bind_eq_ok_iff.mpr ⟨_, finish, rfl⟩⟩

/-! ## Writing quoted text out again -/

namespace Ast

@[simp] theorem anyHard_cons
    (part : Ast)
    (parts : List Ast) :
    anyHard (part :: parts) = (part.isHard || anyHard parts) := by
  simp [anyHard, Bool.decide_or]

@[simp] theorem anyHard_append
    (front back : List Ast) :
    anyHard (front ++ back) = (anyHard front || anyHard back) := by
  induction front with
  | nil => rfl
  | cons part parts inductionHypothesis => simp [inductionHypothesis, Bool.or_assoc]

@[simp] theorem isHard_ofParts
    (parts : List Ast) :
    (ofParts parts).isHard = anyHard parts := by
  match parts with
  | [] => rfl
  | [part] => simp [ofParts, anyHard]
  | _ :: _ :: _ => rfl

@[simp] theorem partsText_append
    (front back : List Ast) :
    partsText (front ++ back) = partsText front ++ partsText back := by
  induction front with
  | nil => rfl
  | cons part parts inductionHypothesis => simp [partsText, inductionHypothesis]

@[simp] theorem anyHard_literals
    (text : List Char) :
    anyHard (literals text) = false := by
  induction text with
  | nil => rfl
  | cons char rest inductionHypothesis => simpa [literals, isHard] using inductionHypothesis

@[simp] theorem partsText_literals
    (text : List Char) :
    partsText (literals text) = quoteWith isBacktrackingMeta text := by
  induction text with
  | nil => rfl
  | cons char rest inductionHypothesis =>
      show toText .part (.literal char false) ++ partsText (literals rest) = _
      rw [inductionHypothesis, toText, foldedWhen, if_neg Bool.false_ne_true,
        ← Pattern.quoteWith_append]
      rfl

end Ast

theorem isHard_anchoredLiterals
    (text : List Char) :
    (Ast.anchoredLiterals text).isHard = false := by
  unfold Ast.anchoredLiterals
  split <;> simp [Ast.isHard, isHardLook, Ast.anyHard]

/-- What the linear engine is given to match quoted text between the ends of the line. -/
def quotedBody (text : List Char) : List Char :=
  if 2 ≤ text.length then grouped (quoteWith isBacktrackingMeta text)
  else quoteWith isBacktrackingMeta text

theorem toText_anchoredLiterals
    (text : List Char) :
    (Ast.anchoredLiterals text).toText .loose = '^' :: (quotedBody text ++ ['$']) := by
  have sequence (parts : List Ast) : (Ast.sequence parts).toText .loose = Ast.partsText parts := rfl
  have body : Ast.partsText (if text.isEmpty then [] else [Ast.ofParts (Ast.literals text)]) =
      quotedBody text := by
    match text with
    | [] => rfl
    | [char] => exact Ast.partsText_literals [char]
    | first :: second :: rest =>
        have written := Ast.partsText_literals (first :: second :: rest)
        have many : 2 ≤ (first :: second :: rest).length := Nat.le_add_left _ _
        rw [quotedBody, if_pos many, ← written]
        exact List.append_nil _
  rw [Ast.anchoredLiterals, sequence, Ast.partsText, Ast.partsText_append, body]
  rfl

end Backtracking
end LineExtraction
