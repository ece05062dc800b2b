import LineExtraction.Proofs.Linear.Reading

/-!
# How group names are spelled

The names that the parser meets are made of name characters.
-/

namespace LineExtraction
namespace Linear

/-- Whether a name is made of characters that may stand in group names. -/
def IsSpelled (name : List Char) : Prop :=
  ∀ char ∈ name, isNameChar false char

/-- Whether the name in a header, if it has one, is made of name characters. -/
def GroupHeader.Spelled : GroupHeader → Prop
  | named name => IsSpelled name
  | _ => True

theorem isNameChar_of_first
    {first : Bool}
    {char : Char}
    (isName : isNameChar first char) :
    isNameChar false char := by
  simp only [isNameChar, decide_eq_true_eq] at isName ⊢
  rcases isName with underscore | alphabetic | ⟨-, others⟩
  · exact .inl underscore
  · exact .inr (.inl alphabetic)
  · exact .inr (.inr ⟨Bool.false_ne_true, others⟩)

theorem isSpelled_readNameChars
    {first : Bool}
    {text : List Char}
    {name : Read (List Char) text}
    (read : readNameChars first text = .ok name) :
    IsSpelled name.value := by
  induction text generalizing first with
  | nil => cases read
  | cons char rest inductionHypothesis =>
      rw [readNameChars] at read
      split at read
      · obtain rfl := Except.ok.inj read
        exact List.forall_mem_nil _
      · split at read
        · next isName =>
            obtain ⟨others, othersRead, made⟩ := Except.bind_eq_ok_iff.mp read
            obtain rfl := Except.ok.inj made
            exact List.forall_mem_cons.mpr ⟨isNameChar_of_first isName,
              inductionHypothesis othersRead⟩
        · cases read

theorem isSpelled_readGroupName
    {text : List Char}
    {name : Read (List Char) text}
    (read : readGroupName text = .ok name) :
    IsSpelled name.value := by
  obtain ⟨found, foundRead, made⟩ := Except.bind_eq_ok_iff.mp read
  dsimp only at made
  split at made
  · cases made
  · obtain rfl := Except.ok.inj made
    exact isSpelled_readNameChars foundRead

theorem spelled_readFlags
    {items : List FlagItem}
    {text : List Char}
    {header : Read GroupHeader text}
    (read : readFlags items text = .ok header) :
    header.value.Spelled := by
  induction text generalizing items with
  | nil => cases read
  | cons char rest inductionHypothesis =>
      have onward : ∀ {items}, (do return (← readFlags items rest).weaken (Read.took_one rest)) =
          Except.ok header → header.value.Spelled := by
        intro items found
        obtain ⟨others, othersRead, made⟩ := Except.bind_eq_ok_iff.mp found
        obtain rfl := Except.ok.inj made
        exact inductionHypothesis othersRead
      rw [readFlags] at read
      split at read
      · split at read
        · cases read
        · split at read
          · obtain rfl := Except.ok.inj read
            trivial
          · split at read
            · cases read
            · obtain rfl := Except.ok.inj read
              trivial
      · split at read
        · split at read
          · cases read
          · exact onward read
        · split at read
          · cases read
          · split at read
            · cases read
            · exact onward read

theorem spelled_readHeader
    {text : List Char}
    {header : Read GroupHeader text}
    (read : readHeader text = .ok header) :
    header.value.Spelled := by
  unfold readHeader at read
  split at read
  case h_5 | h_6 =>
    obtain ⟨name, nameRead, made⟩ := Except.bind_eq_ok_iff.mp read
    obtain rfl := Except.ok.inj made
    exact isSpelled_readGroupName nameRead
  case h_8 =>
    obtain ⟨flags, flagsRead, made⟩ := Except.bind_eq_ok_iff.mp read
    obtain rfl := Except.ok.inj made
    have spelled := spelled_readFlags flagsRead
    exact spelled
  case h_9 =>
    obtain rfl := Except.ok.inj read
    trivial
  all_goals cases read

/-- Whether the name that a lexeme gives, if it gives one, is made of name characters. -/
def Lexeme.Spelled : Lexeme → Prop
  | opens header => header.Spelled
  | _ => True

theorem spelled_readLexeme
    {verbose : Bool}
    {first : Char}
    {text : List Char}
    {lexeme : Read Lexeme text}
    (read : readLexeme verbose first text = .ok lexeme) :
    lexeme.value.Spelled := by
  have mapped : ∀ {α : Type} {reader : Except SyntaxError (Read α text)} (change : α → Lexeme),
      (∀ value, (change value).Spelled) → (do return (← reader).map change) = .ok lexeme →
      lexeme.value.Spelled := by
    intro α reader change spelled found
    obtain ⟨inner, -, found⟩ := Except.bind_eq_ok_iff.mp found
    obtain rfl := Except.ok.inj found
    exact spelled inner.value
  unfold readLexeme at read
  split at read
  case h_1 =>
    obtain ⟨header, headerRead, made⟩ := Except.bind_eq_ok_iff.mp read
    obtain rfl := Except.ok.inj made
    obtain ⟨found, foundRead, made⟩ := Except.bind_eq_ok_iff.mp headerRead
    obtain rfl := Except.ok.inj made
    have spelled := spelled_readHeader foundRead
    exact spelled
  case h_4 =>
    exact mapped (fun (parsed : Bool × ClassSet) => .part (.bracketed parsed.1 parsed.2))
      (fun _ => trivial) read
  case h_5 =>
    exact mapped (fun (primitive : Primitive) => .part primitive.toAst) (fun _ => trivial) read
  case h_9 =>
    split at read
    · exact mapped .repeats (fun _ => trivial) read
    · obtain rfl := Except.ok.inj read
      trivial
  all_goals
    obtain rfl := Except.ok.inj read
    trivial

theorem ParseState.isSpelled_take
    {state next : ParseState}
    {lexeme : Lexeme}
    (lexemeSpelled : lexeme.Spelled)
    (spelled : ∀ name ∈ state.names, IsSpelled name)
    (taken : state.take lexeme = .ok next) :
    ∀ name ∈ next.names, IsSpelled name := by
  cases lexeme with
  | opens header =>
      cases header with
      | named name =>
          simp only [take, enter] at taken
          split at taken
          · cases taken
          · obtain rfl := Except.ok.inj taken
            exact List.forall_mem_cons.mpr ⟨lexemeSpelled, spelled⟩
      | _ =>
          obtain rfl := Except.ok.inj taken
          exact spelled
  | closes =>
      obtain ⟨verbose, level, groups, captures, names⟩ := state
      cases groups with
      | nil => cases taken
      | cons group groups =>
          obtain rfl := Except.ok.inj taken
          exact spelled
  | repeats count =>
      simp only [take] at taken
      split at taken
      · obtain rfl := Except.ok.inj taken
        rw [quantify]
        split <;> exact spelled
      · cases taken
  | _ =>
      obtain rfl := Except.ok.inj taken
      exact spelled

/-- The names that a run of the parser adds are made of name characters. -/
theorem Reads.isSpelled
    {state last : ParseState}
    {text rest : List Char}
    (reads : Reads state text last rest)
    (spelled : ∀ name ∈ state.names, IsSpelled name) :
    ∀ name ∈ last.names, IsSpelled name := by
  induction reads with
  | refl => exact spelled
  | token _ read taken _ inductionHypothesis =>
      exact inductionHypothesis (ParseState.isSpelled_take (spelled_readLexeme read) spelled taken)

end Linear
end LineExtraction
