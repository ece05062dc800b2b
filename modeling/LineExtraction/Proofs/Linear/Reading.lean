import LineExtraction.Linear.Parser
import LineExtraction.Proofs.Outcome

/-!
# Reading a pattern token by token

A token is read off the text by the mode alone, and then taken up by the state of the
parser.  The two are told apart here, and a run of the parser becomes a chain of tokens
that can be cut and put together at any of its states.
-/

namespace LineExtraction
namespace Linear

/-! ## Lexemes -/

/-- What a token asks the parser to do. -/
inductive Lexeme where
  | opens (header : GroupHeader)
  | closes
  | branches
  | part (part : Ast)
  | repeats (count : Repeat)

/-- The lexeme that starts with `first`. -/
def readLexeme (verbose : Bool) (first : Char) (text : List Char) :
    Except SyntaxError (Read Lexeme text) :=
  match first with
  | '(' => do return (← readGroupHeader verbose text).map .opens
  | ')' => .ok ⟨.closes, text, Nat.le_refl _⟩
  | '|' => .ok ⟨.branches, text, Nat.le_refl _⟩
  | '[' => do
    return (← readBracketClass verbose text).map fun parsed =>
      .part (.bracketed parsed.1 parsed.2)
  | '\\' => do
    return (← readEscape verbose text).map fun primitive => .part primitive.toAst
  | '.' => .ok ⟨.part .dot, text, Nat.le_refl _⟩
  | '^' => .ok ⟨.part (.assertion .startLine), text, Nat.le_refl _⟩
  | '$' => .ok ⟨.part (.assertion .endLine), text, Nat.le_refl _⟩
  | first =>
    match readQuantifier? verbose first text with
    | some quantifier => do return (← quantifier).map .repeats
    | none => .ok ⟨.part (.literal ⟨first, false⟩), text, Nat.le_refl _⟩

namespace ParseState

/-- The state behind a lexeme. -/
def take (state : ParseState) : Lexeme → Except SyntaxError ParseState
  | .opens header => state.enter header
  | .closes => state.leave
  | .branches => .ok { state with level := state.level.nextBranch }
  | .part part => .ok (state.push part)
  | .repeats count => if state.canQuantify then .ok (state.quantify count) else .error .repetitionMissing

end ParseState

/-- A token is a lexeme that the state takes up. -/
theorem readToken_eq_ok_iff
    {state next : ParseState}
    {first : Char}
    {text rest : List Char} :
    (∃ token, readToken state first text = .ok token ∧ token.value = next ∧ token.rest = rest) ↔
      ∃ lexeme, readLexeme state.verbose first text = .ok lexeme ∧
        state.take lexeme.value = .ok next ∧ lexeme.rest = rest := by
  have single : ∀ (lexeme : Lexeme) (taken : ParseState), state.take lexeme = .ok taken →
      ((∃ token, (.ok ⟨taken, text, Nat.le_refl _⟩ : Except SyntaxError (Read ParseState text)) =
          .ok token ∧ token.value = next ∧ token.rest = rest) ↔
        ∃ read, (.ok ⟨lexeme, text, Nat.le_refl _⟩ : Except SyntaxError (Read Lexeme text)) =
          .ok read ∧ state.take read.value = .ok next ∧ read.rest = rest) := by
    intro lexeme taken takes
    constructor
    · rintro ⟨_, ⟨⟩, rfl, rfl⟩
      exact ⟨_, rfl, takes, rfl⟩
    · rintro ⟨_, ⟨⟩, same, rfl⟩
      exact ⟨_, rfl, Except.ok.inj (takes.symm.trans same), rfl⟩
  have mapped : ∀ {α : Type} (reader : Except SyntaxError (Read α text)) (change : α → Lexeme)
      (taken : α → ParseState), (∀ value, state.take (change value) = .ok (taken value)) →
      ((∃ token, (do return (← reader).map taken) = .ok token ∧
          token.value = next ∧ token.rest = rest) ↔
        ∃ read, (do return (← reader).map change) = .ok read ∧
          state.take read.value = .ok next ∧ read.rest = rest) := by
    intro α reader change taken takes
    constructor
    · rintro ⟨token, found, rfl, rfl⟩
      obtain ⟨read, readFound, found⟩ := Except.bind_eq_ok_iff.mp found
      obtain rfl := Except.ok.inj found
      exact ⟨_, Except.bind_eq_ok_iff.mpr ⟨read, readFound, rfl⟩, takes read.value, rfl⟩
    · rintro ⟨lexeme, found, same, rfl⟩
      obtain ⟨read, readFound, found⟩ := Except.bind_eq_ok_iff.mp found
      obtain rfl := Except.ok.inj found
      exact ⟨_, Except.bind_eq_ok_iff.mpr ⟨read, readFound, rfl⟩,
        Except.ok.inj ((takes read.value).symm.trans same), rfl⟩
  unfold readToken
  dsimp only
  split
  · constructor
    · rintro ⟨token, found, rfl, rfl⟩
      obtain ⟨header, headerFound, found⟩ := Except.bind_eq_ok_iff.mp found
      obtain ⟨entered, enteredFound, found⟩ := Except.bind_eq_ok_iff.mp found
      obtain rfl := Except.ok.inj found
      exact ⟨_, Except.bind_eq_ok_iff.mpr ⟨header, headerFound, rfl⟩, enteredFound, rfl⟩
    · rintro ⟨lexeme, found, taken, rfl⟩
      obtain ⟨header, headerFound, found⟩ := Except.bind_eq_ok_iff.mp found
      obtain rfl := Except.ok.inj found
      exact ⟨_, Except.bind_eq_ok_iff.mpr ⟨header, headerFound,
        Except.bind_eq_ok_iff.mpr ⟨next, taken, rfl⟩⟩, rfl, rfl⟩
  · constructor
    · rintro ⟨token, found, rfl, rfl⟩
      obtain ⟨left, leftFound, found⟩ := Except.bind_eq_ok_iff.mp found
      obtain rfl := Except.ok.inj found
      exact ⟨_, rfl, leftFound, rfl⟩
    · rintro ⟨lexeme, found, taken, rfl⟩
      obtain rfl := Except.ok.inj found
      exact ⟨_, Except.bind_eq_ok_iff.mpr ⟨next, taken, rfl⟩, rfl, rfl⟩
  · exact single .branches _ rfl
  · exact mapped (readBracketClass state.verbose text)
      (fun parsed => .part (.bracketed parsed.1 parsed.2)) _ fun _ => rfl
  · exact mapped (readEscape state.verbose text) (fun primitive => .part primitive.toAst) _
      fun _ => rfl
  · exact single (.part .dot) _ rfl
  · exact single (.part (.assertion .startLine)) _ rfl
  · exact single (.part (.assertion .endLine)) _ rfl
  · have plain : readLexeme state.verbose first text =
        match readQuantifier? state.verbose first text with
        | some quantifier => do return (← quantifier).map .repeats
        | none => .ok ⟨.part (.literal ⟨first, false⟩), text, Nat.le_refl _⟩ := by
      rw [readLexeme] <;> assumption
    split
    · next quantifier found =>
        rw [found] at plain
        rw [plain]
        by_cases repeats : state.canQuantify
        · rw [readQuantified, if_pos repeats]
          exact mapped quantifier .repeats state.quantify fun count => if_pos repeats
        · rw [readQuantified, if_neg repeats]
          constructor
          · rintro ⟨token, found, -⟩
            cases found
          · rintro ⟨lexeme, found, taken, -⟩
            obtain ⟨count, -, found⟩ := Except.bind_eq_ok_iff.mp found
            obtain rfl := Except.ok.inj found
            cases (if_neg repeats).symm.trans taken
    · next found =>
        rw [found] at plain
        rw [plain]
        exact single (.part (.literal ⟨first, false⟩)) _ rfl

/-! ## Chains of tokens -/

/-- Whether the parser comes from one state and text to another, token by token. -/
inductive Reads : ParseState → List Char → ParseState → List Char → Prop
  | refl (state : ParseState) (text : List Char) : Reads state text state text
  | token
      {state next last : ParseState}
      {text rest end' : List Char}
      {first : Char}
      {lexeme : Read Lexeme rest}
      (skipped : skipBlank state.verbose text = first :: rest)
      (read : readLexeme state.verbose first rest = .ok lexeme)
      (taken : state.take lexeme.value = .ok next)
      (others : Reads next lexeme.rest last end') :
      Reads state text last end'

namespace Reads

variable {state middle last : ParseState} {text rest end' : List Char}

theorem trans
    (front : Reads state text middle rest)
    (back : Reads middle rest last end') :
    Reads state text last end' := by
  induction front with
  | refl => exact back
  | token skipped read taken _ inductionHypothesis =>
      exact .token skipped read taken (inductionHypothesis back)

end Reads

/-- Parsing succeeds where a chain of tokens leaves nothing but blanks. -/
theorem readTokens_eq_ok_iff
    {state last : ParseState}
    {text : List Char} :
    readTokens state text = .ok last ↔
      ∃ rest, Reads state text last rest ∧ skipBlank last.verbose rest = [] := by
  constructor
  · intro found
    induction size : text.length using Nat.strongRecOn generalizing state text with
    | ind size inductionHypothesis =>
        unfold readTokens at found
        split at found
        · next skipped =>
            obtain rfl := Except.ok.inj found
            exact ⟨text, .refl state text, skipped⟩
        · next first rest skipped =>
            obtain ⟨token, tokenFound, found⟩ := Except.bind_eq_ok_iff.mp found
            have bound := length_skipBlank_le state.verbose text
            rw [skipped, List.length_cons] at bound
            have := token.shorter
            obtain ⟨end', others, blank⟩ := inductionHypothesis token.rest.length (by omega) found rfl
            obtain ⟨lexeme, read, taken, same⟩ :=
              readToken_eq_ok_iff.mp ⟨token, tokenFound, rfl, rfl⟩
            exact ⟨end', .token skipped read taken (same ▸ others), blank⟩
  · rintro ⟨end', reads, blank⟩
    induction reads with
    | refl state text =>
        unfold readTokens
        split
        · rfl
        · next skipped => cases blank.symm.trans skipped
    | token skipped read taken others inductionHypothesis =>
        obtain ⟨token, tokenFound, rfl, same⟩ :=
          readToken_eq_ok_iff.mpr ⟨_, read, taken, rfl⟩
        unfold readTokens
        split
        · next none => cases none.symm.trans skipped
        · next skipped' =>
            obtain ⟨rfl, rfl⟩ := List.cons.inj (skipped.symm.trans skipped')
            refine Except.bind_eq_ok_iff.mpr ⟨token, tokenFound, ?_⟩
            show readTokens token.value token.rest = .ok _
            rw [same]
            exact inductionHypothesis blank

/-- A lexeme that is read off the text leaves it to the state whether there is a token. -/
theorem readToken_of_lexeme
    {state : ParseState}
    {first : Char}
    {text : List Char}
    {lexeme : Read Lexeme text}
    (read : readLexeme state.verbose first text = .ok lexeme) :
    readToken state first text =
      (state.take lexeme.value).map fun next => ⟨next, lexeme.rest, lexeme.shorter⟩ := by
  have single : ∀ value : Lexeme, Except.ok ⟨value, text, Nat.le_refl _⟩ = Except.ok lexeme →
      lexeme = ⟨value, text, Nat.le_refl _⟩ :=
    fun value found => (@Except.ok.inj SyntaxError _ _ _ found).symm
  have mapped : ∀ {α : Type} (reader : Except SyntaxError (Read α text)) (change : α → Lexeme),
      (do return (← reader).map change) = Except.ok lexeme →
      ∃ inner, reader = .ok inner ∧ lexeme = inner.map change := by
    intro α reader change found
    obtain ⟨inner, innerFound, made⟩ := Except.bind_eq_ok_iff.mp found
    exact ⟨inner, innerFound, (Except.ok.inj made).symm⟩
  unfold readToken
  dsimp only
  split
  · obtain ⟨header, found, rfl⟩ := mapped (readGroupHeader state.verbose text) .opens read
    rw [found]
    show (state.enter header.value >>= _) = Except.map _ (state.enter header.value)
    cases state.enter header.value <;> rfl
  · obtain rfl := single .closes read
    show (state.leave >>= _) = Except.map _ state.leave
    cases state.leave <;> rfl
  · obtain rfl := single .branches read
    rfl
  · obtain ⟨parsed, found, rfl⟩ := mapped (readBracketClass state.verbose text)
      (fun parsed => .part (.bracketed parsed.1 parsed.2)) read
    rw [found]
    rfl
  · obtain ⟨primitive, found, rfl⟩ := mapped (readEscape state.verbose text)
      (fun primitive => .part primitive.toAst) read
    rw [found]
    rfl
  · obtain rfl := single (.part .dot) read
    rfl
  · obtain rfl := single (.part (.assertion .startLine)) read
    rfl
  · obtain rfl := single (.part (.assertion .endLine)) read
    rfl
  · have plain : readLexeme state.verbose first text =
        match readQuantifier? state.verbose first text with
        | some quantifier => do return (← quantifier).map .repeats
        | none => .ok ⟨.part (.literal ⟨first, false⟩), text, Nat.le_refl _⟩ := by
      rw [readLexeme] <;> assumption
    rw [plain] at read
    split
    · next quantifier found =>
        rw [found] at read
        obtain ⟨count, countFound, rfl⟩ := mapped quantifier .repeats read
        rw [readQuantified, countFound]
        show _ = Except.map _ (if state.canQuantify then _ else _)
        split <;> rfl
    · next found =>
        rw [found] at read
        obtain rfl := single (.part (.literal ⟨first, false⟩)) read
        rfl

/-- Parsing goes on behind a lexeme that the state takes up. -/
theorem readTokens_of_lexeme
    {state : ParseState}
    {text rest : List Char}
    {first : Char}
    {lexeme : Read Lexeme rest}
    (skipped : skipBlank state.verbose text = first :: rest)
    (read : readLexeme state.verbose first rest = .ok lexeme) :
    readTokens state text = (state.take lexeme.value >>= (readTokens · lexeme.rest)) := by
  rw [readTokens]
  split
  · next none => cases none.symm.trans skipped
  · next skipped' =>
      obtain ⟨rfl, rfl⟩ := List.cons.inj (skipped.symm.trans skipped')
      rw [readToken_of_lexeme read]
      cases state.take lexeme.value <;> rfl

theorem readTokens_eq_ok_iff_of_lexeme
    {state last : ParseState}
    {text rest : List Char}
    {first : Char}
    {lexeme : Read Lexeme rest}
    (skipped : skipBlank state.verbose text = first :: rest)
    (read : readLexeme state.verbose first rest = .ok lexeme) :
    readTokens state text = .ok last ↔
      ∃ next, state.take lexeme.value = .ok next ∧ readTokens next lexeme.rest = .ok last := by
  rw [readTokens_of_lexeme skipped read]
  exact Except.bind_eq_ok_iff

/-- Parsing ends where no text is left. -/
theorem readTokens_eq_ok_iff_of_blank
    {state last : ParseState}
    {text : List Char}
    (blank : skipBlank state.verbose text = []) :
    readTokens state text = .ok last ↔ state = last := by
  constructor
  · intro found
    obtain ⟨end', reads, -⟩ := readTokens_eq_ok_iff.mp found
    cases reads with
    | refl => rfl
    | token skipped _ _ _ => cases blank.symm.trans skipped
  · rintro rfl
    exact readTokens_eq_ok_iff.mpr ⟨text, .refl state text, blank⟩

/-- Parsing comes to the same end from any state of a chain. -/
theorem Reads.readTokens_eq
    {state middle : ParseState}
    {text rest : List Char}
    (reads : Reads state text middle rest) :
    readTokens state text = readTokens middle rest := by
  induction reads with
  | refl => rfl
  | token skipped read taken others inductionHypothesis =>
      rw [readTokens_of_lexeme skipped read, taken, ← inductionHypothesis]
      rfl

theorem Reads.readTokens_eq_ok
    {state middle last : ParseState}
    {text rest : List Char}
    (reads : Reads state text middle rest) :
    readTokens state text = .ok last ↔ readTokens middle rest = .ok last := by
  rw [reads.readTokens_eq]

/-- What the parser makes of a text whose tokens close every group that they open. -/
theorem parse_of_readTokens
    {text : List Char}
    {last : ParseState}
    (read : readTokens .start text = .ok last)
    (closed : last.groups = []) :
    parse text =
      if nestLimit < last.level.toAst.depth then .error .nestLimitExceeded
      else .ok last.level.toAst := by
  have finished : last.finish = .ok last.level.toAst := by
    rw [ParseState.finish, if_pos (List.isEmpty_iff.mpr closed)]
  rw [parse, read]
  show (last.finish >>= _) = _
  rw [finished]
  rfl

/-- A text has a parse when its tokens close every group that they open and nest not too
deep. -/
theorem parse_eq_ok_iff
    {text : List Char}
    {ast : Ast} :
    parse text = .ok ast ↔
      ∃ last, readTokens .start text = .ok last ∧ last.groups = [] ∧ ast = last.level.toAst ∧
        ast.depth ≤ nestLimit := by
  constructor
  · intro found
    obtain ⟨last, read, found⟩ := Except.bind_eq_ok_iff.mp found
    obtain ⟨whole, finished, found⟩ := Except.bind_eq_ok_iff.mp found
    rw [ParseState.finish] at finished
    split at finished
    · next closed =>
        obtain rfl := Except.ok.inj finished
        split at found
        · cases found
        · next shallow =>
            obtain rfl := Except.ok.inj found
            exact ⟨last, read, List.isEmpty_iff.mp closed, rfl, Nat.le_of_not_lt shallow⟩
    · cases finished
  · rintro ⟨last, read, closed, rfl, shallow⟩
    rw [parse_of_readTokens read closed, if_neg (Nat.not_lt.mpr shallow)]

end Linear
end LineExtraction
