import LineExtraction.Backtracking.Reader.BracketClass
import LineExtraction.Proofs.Backtracking.Reader.Escape
import LineExtraction.Proofs.Backtracking.Trimming
import LineExtraction.Proofs.Linear.Respelling

/-!
# Reading bracket classes

A bracket class is kept as the text of the class that is spelled with as few escapes as the
linear dialect allows.
-/

namespace LineExtraction

/-- The text that a bracket class is kept as. -/
def Pattern.Bracket.respelled (bracket : Pattern.Bracket) : List Char :=
  '[' :: bracket.bodyAs true

namespace Backtracking

open Pattern (Spelling NamedClass Member Bracket isLinearMeta quoteWith insideSpecial)

section

variable {scope : Scope} {fold : Bool} {depth : Nat} {text written more : List Char}

theorem yields_readClassMembers_char
    {char : Char}
    (plain : char ∉ insideSpecial)
    (others : Yields (readClassMembers scope fold depth text) written more) :
    Yields (readClassMembers scope fold depth (char :: text)) (char :: written) more := by
  simp only [insideSpecial, List.mem_cons, List.not_mem_nil, or_false, not_or] at plain
  obtain ⟨opens, closes, backslash⟩ := plain
  rw [readClassMembers]
  · exact others.mapWeaken _ _
  · exact backslash
  · exact opens
  · exact closes

theorem yields_readClassMembers_run
    {run : List Char}
    (plain : ∀ char ∈ run, char ∉ insideSpecial)
    (others : Yields (readClassMembers scope fold depth text) written more) :
    Yields (readClassMembers scope fold depth (run ++ text)) (run ++ written) more := by
  induction run with
  | nil => exact others
  | cons char run inductionHypothesis =>
      obtain ⟨here, later⟩ := List.forall_mem_cons.mp plain
      exact yields_readClassMembers_char here (inductionHypothesis later)

theorem yields_readClassMembers_opening
    (others : Yields (readClassMembers scope fold (depth + 1) text) written more) :
    Yields (readClassMembers scope fold depth ('[' :: text)) ('[' :: written) more := by
  rw [readClassMembers]
  exact others.mapWeaken _ _

theorem yields_readClassMembers_closing
    (others : Yields (readClassMembers scope fold depth text) written more) :
    Yields (readClassMembers scope fold (depth + 1) (']' :: text)) (']' :: written) more := by
  rw [readClassMembers]
  exact others.mapWeaken _ _

theorem yields_readClassMembers_escape
    {tail front : List Char}
    {escape : Escape}
    (read : Yields (readEscape scope fold true (tail ++ text)) escape text)
    (kept : escape.inClass = .ok front)
    (others : Yields (readClassMembers scope fold depth text) written more) :
    Yields (readClassMembers scope fold depth ('\\' :: (tail ++ text))) (front ++ written) more := by
  rw [readClassMembers]
  refine read.bind fun shorter => ?_
  rw [kept]
  exact others.mapWeaken _ _

end

/-- The members of a class are kept in the spelling with few escapes. -/
theorem yields_readClassMembers
    {depth : Nat}
    {members : List Member}
    (valid : Member.areValid depth members)
    (scope : Scope)
    (fold : Bool)
    (more : List Char) :
    Yields (readClassMembers scope fold depth (Member.textUpTo false members more))
      (members.flatMap (Member.textAs true) ++ [']']) more := by
  induction members generalizing depth with
  | nil =>
      obtain rfl : depth = 0 := of_decide_eq_true valid
      have closes : Yields (readClassMembers scope fold 0 (']' :: more)) [']'] more :=
        ⟨Nat.le_succ _, by rw [readClassMembers]⟩
      exact closes
  | cons member members inductionHypothesis =>
      rw [Member.textUpTo_cons, List.flatMap_cons, List.append_assoc]
      cases member with
      | closing =>
          cases depth with
          | zero => cases valid
          | succ depth => exact yields_readClassMembers_closing (inductionHypothesis valid)
      | opening negated =>
          obtain ⟨-, inner⟩ : members.head?.any (Member.mayNest negated) ∧
              Member.areValid (depth + 1) members := by
            simpa [Member.areValid] using valid
          have others := inductionHypothesis inner
          have caret : ∀ char ∈ Member.caret negated, char ∉ insideSpecial := by
            cases negated <;> decide
          exact yields_readClassMembers_opening (yields_readClassMembers_run caret others)
      | ascii negated kind =>
          have others := inductionHypothesis (show Member.areValid depth members by
            simpa [Member.areValid, Member.isValid] using valid)
          have name : ∀ char ∈ ':' :: (Member.caret negated ++ Member.asciiName kind ++ [':']),
              char ∉ insideSpecial := by
            cases negated <;> cases kind <;> decide
          have text (more : List Char) : (Member.ascii negated kind).text ++ more =
              '[' :: ((':' :: (Member.caret negated ++ Member.asciiName kind ++ [':'])) ++
                ']' :: more) := by
            simp [Member.text]
          show Yields (readClassMembers scope fold depth ((Member.ascii negated kind).text ++ _))
            ((Member.ascii negated kind).text ++ _) more
          rw [text, text]
          exact yields_readClassMembers_opening (yields_readClassMembers_run name
            (yields_readClassMembers_closing others))
      | named kind =>
          obtain ⟨here, later⟩ := Linear.areValid_of_single
            (show (Member.named kind).primitiveAs true = some kind.primitive from rfl) valid
          obtain ⟨tail, text⟩ : ∃ tail, kind.text = '\\' :: tail := by
            cases kind <;> exact ⟨_, rfl⟩
          have read := yields_readEscape_named here text scope fold true
            (Member.textUpTo false members more)
          have others := yields_readClassMembers_escape read rfl (inductionHypothesis later)
          show Yields (readClassMembers scope fold depth (kind.text ++ _)) _ more
          rw [text]
          exact others
      | char spelling =>
          obtain ⟨here, later⟩ := Linear.areValid_of_char valid
          have escaped {tail : List Char} (text : spelling.text = '\\' :: tail)
              (kept : Member.respelled (.char spelling) = quoteWith isLinearMeta [spelling.char]) :
              Yields (readClassMembers scope fold depth
                (spelling.text ++ Member.textUpTo false members more))
                (Member.respelled (.char spelling) ++
                  (members.flatMap (Member.textAs true) ++ [']'])) more := by
            have read := yields_readEscape_spelling here text (by decide) scope fold true
              (Member.textUpTo false members more)
            rw [text, kept]
            exact yields_readClassMembers_escape read rfl (inductionHypothesis later)
          cases spelling with
          | plain char =>
              exact yields_readClassMembers_char (of_decide_eq_true here) (inductionHypothesis later)
          | _ => exact escaped rfl rfl

theorem readOptional_caret
    {negated : Bool}
    {text : List Char}
    (plain : negated = false → text.head? ≠ some '^') :
    ∃ shorter, readOptional '^' (Member.caret negated ++ text) =
      ⟨Member.caret negated, text, shorter⟩ := by
  cases negated with
  | true => exact ⟨Nat.le_succ _, rfl⟩
  | false =>
      cases text with
      | nil => exact ⟨_, rfl⟩
      | cons first rest => exact ⟨_, if_neg fun same => plain rfl (congrArg some same)⟩

theorem yields_readBracketClass_of
    {scope : Scope}
    {fold : Bool}
    {text behindCaret behindBracket caret bracket members more : List Char}
    (caretRead : ∃ shorter, readOptional '^' text = ⟨caret, behindCaret, shorter⟩)
    (bracketRead : ∃ shorter, readOptional ']' behindCaret = ⟨bracket, behindBracket, shorter⟩)
    (membersRead : Yields (readClassMembers scope fold 0 behindBracket) members more) :
    Yields (readBracketClass scope fold text) ('[' :: caret ++ bracket ++ members) more := by
  obtain ⟨caretShorter, caretRead⟩ := caretRead
  obtain ⟨bracketShorter, bracketRead⟩ := bracketRead
  have caretRest : (readOptional '^' text).rest = behindCaret := congrArg Read.rest caretRead
  have caretValue : (readOptional '^' text).value = caret := congrArg Read.value caretRead
  have bracketRest : (readOptional ']' (readOptional '^' text).rest).rest = behindBracket := by
    rw [caretRest, bracketRead]
  have bracketValue : (readOptional ']' (readOptional '^' text).rest).value = bracket := by
    rw [caretRest, bracketRead]
  have membersRead : Yields
      (readClassMembers scope fold 0 (readOptional ']' (readOptional '^' text).rest).rest)
      members more :=
    bracketRest ▸ membersRead
  refine membersRead.bind fun shorter => yields_ok_iff.mpr ⟨?_, rfl⟩
  dsimp only
  rw [caretValue, bracketValue]

/-- A bracket class is read as the text that it is kept as. -/
theorem yields_readBracketClass
    {bracket : Bracket}
    (valid : bracket.isValid)
    (scope : Scope)
    (fold : Bool)
    (more : List Char) :
    Yields (readBracketClass scope fold (bracket.body ++ more)) bracket.respelled more := by
  obtain ⟨opens, listed, -⟩ := of_decide_eq_true valid
  obtain ⟨negated, bracketFirst, members⟩ := bracket
  have membersRead := yields_readClassMembers listed scope fold more
  cases bracketFirst with
  | true =>
      have text : (Pattern.Bracket.mk negated true members).body ++ more =
          Member.caret negated ++ ']' :: Member.textUpTo false members more := by
        simp [Bracket.body, Member.textUpTo]
        rfl
      have kept : (Pattern.Bracket.mk negated true members).respelled =
          '[' :: Member.caret negated ++ [']'] ++ (members.flatMap (Member.textAs true) ++ [']']) := by
        simp [Bracket.respelled, Bracket.bodyAs]
      rw [text, kept]
      have caret : negated = false → (']' :: Member.textUpTo false members more).head? ≠ some '^' := by
        intro _ same
        cases same
      exact yields_readBracketClass_of (readOptional_caret caret) ⟨Nat.le_succ _, rfl⟩ membersRead
  | false =>
      have text : (Pattern.Bracket.mk negated false members).body ++ more =
          Member.caret negated ++ Member.textUpTo false members more := by
        simp [Bracket.body, Member.textUpTo]
        rfl
      have kept : (Pattern.Bracket.mk negated false members).respelled =
          '[' :: Member.caret negated ++ [] ++ (members.flatMap (Member.textAs true) ++ [']']) := by
        simp [Bracket.respelled, Bracket.bodyAs]
      obtain ⟨caret, closing⟩ := Linear.head_textUpTo_of_mayOpen false listed
        (opens.resolve_left Bool.false_ne_true) more
      rw [text, kept]
      exact yields_readBracketClass_of (readOptional_caret caret) (readOptional_of_ne closing)
        membersRead

end Backtracking
end LineExtraction
