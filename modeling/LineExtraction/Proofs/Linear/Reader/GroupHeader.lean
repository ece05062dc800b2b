import LineExtraction.Linear.Reader.GroupHeader
import LineExtraction.Proofs.Linear.Continuation
import LineExtraction.Proofs.Pattern.NameCharacter
import LineExtraction.Proofs.Text.Yields

/-!
# Group headers in a longer text

A group header reads the same whatever stands behind the text that it ends in.
-/

namespace LineExtraction
namespace Linear

theorem extends_readFlags
    (items : List FlagItem)
    (text suffix : List Char) :
    Extends suffix (readFlags items text) (readFlags items (text ++ suffix)) := by
  induction text generalizing items with
  | nil => exact extends_error
  | cons char rest inductionHypothesis =>
      rw [List.cons_append, readFlags, readFlags]
      split
      · split
        · exact extends_error
        · split
          · exact extends_ok rfl rfl
          · split
            · exact extends_error
            · exact extends_ok rfl rfl
      · split
        · split
          · exact extends_error
          · exact (inductionHypothesis _).weaken _ _
        · split
          · exact extends_error
          · split
            · exact extends_error
            · exact (inductionHypothesis _).weaken _ _

theorem extends_readNameChars
    (first : Bool)
    (text suffix : List Char) :
    Extends suffix (readNameChars first text) (readNameChars first (text ++ suffix)) := by
  induction text generalizing first with
  | nil => exact extends_error
  | cons char rest inductionHypothesis =>
      rw [List.cons_append, readNameChars, readNameChars]
      split
      · exact extends_ok rfl rfl
      · split
        · exact (inductionHypothesis false).mapWeaken _ _ _
        · exact extends_error

theorem extends_readGroupName
    (text suffix : List Char) :
    Extends suffix (readGroupName text) (readGroupName (text ++ suffix)) := by
  have checked : ∀ {text : List Char} (name : Read (List Char) text),
      readNameChars true text = .ok name →
        readGroupName text =
          if name.value.isEmpty then .error .groupNameEmpty else .ok name := by
    intro text name found
    rw [readGroupName, found]
    show (if name.value.isEmpty then _ else _) = _
    split <;> rfl
  intro changed found
  obtain ⟨name, nameFound, -⟩ := Except.bind_eq_ok_iff.mp found
  rw [checked name nameFound] at found
  split at found
  · cases found
  next named =>
    obtain rfl := Except.ok.inj found
    obtain ⟨more, moreFound, value, rest⟩ := extends_readNameChars true text suffix name nameFound
    exact ⟨more, by rw [checked more moreFound, value, if_neg named], value, rest⟩

/-- What ends a name, or stands where one could, is no part of one. -/
theorem isNameChar_apart
    {first : Bool}
    {char : Char}
    (named : isNameChar first char) :
    char ∉ ['>', '=', '!'] := by
  intro member
  have ascii : ['>', '=', '!'].all fun char => char.toNat < 128 ∧
      ¬ (char = '_' ∨ char.isAlpha ∨
        (char = '.' ∨ char = '[' ∨ char = ']' ∨ char.isDigit)) := by
    decide
  obtain ⟨small, apart⟩ := of_decide_eq_true (List.all_eq_true.mp ascii char member)
  exact apart (((isNameChar_iff_of_ascii small first).mp named).imp_right (Or.imp_right And.right))

theorem yields_readNameChars_cons
    {first : Bool}
    {char : Char}
    (named : isNameChar first char)
    {rest name more : List Char}
    (others : Yields (readNameChars false rest) name more) :
    Yields (readNameChars first (char :: rest)) (char :: name) more := by
  have apart : char ≠ '>' := by
    rintro rfl
    exact isNameChar_apart named List.mem_cons_self
  rw [readNameChars, if_neg apart, if_pos named]
  exact others.mapWeaken (char :: ·) _

theorem yields_readNameChars
    {name : List Char}
    (named : name.all (isNameChar false))
    (more : List Char) :
    Yields (readNameChars false (name ++ '>' :: more)) name more := by
  induction name with
  | nil => exact ⟨_, rfl⟩
  | cons char name inductionHypothesis =>
      rw [List.all_cons, Bool.and_eq_true] at named
      exact yields_readNameChars_cons named.1 (inductionHypothesis named.2)

/-- A name is read up to the sign that ends it. -/
theorem yields_readGroupName
    {first : Char}
    {name : List Char}
    (begins : isNameChar true first)
    (named : name.all (isNameChar false))
    (more : List Char) :
    Yields (readGroupName (first :: name ++ '>' :: more)) (first :: name) more :=
  (yields_readNameChars_cons begins (yields_readNameChars named more)).bind fun _ => ⟨_, rfl⟩

theorem readHeader_unnamed
    {text : List Char}
    (unnamed : text.head? ≠ some '?') :
    readHeader text = .ok ⟨.unnamed, text, Nat.le_refl _⟩ := by
  unfold readHeader
  split
  case h_9 => rfl
  all_goals exact absurd rfl unnamed

theorem readHeader_named
    {first : Char}
    {rest : List Char}
    (name : first ≠ '=' ∧ first ≠ '!') :
    readHeader ('?' :: '<' :: first :: rest) = do
      return ((← readGroupName (first :: rest)).map .named).weaken
        (by simp only [List.length_cons]; omega) := by
  rw [readHeader]
  · intro rest same
    exact name.1 (List.cons.inj same).1
  · intro rest same
    exact name.2 (List.cons.inj same).1

theorem readHeader_flags
    {first : Char}
    {rest : List Char}
    (flag : first ≠ '=' ∧ first ≠ '!' ∧ first ≠ '<' ∧ (first = 'P' → rest.head? ≠ some '<')) :
    readHeader ('?' :: first :: rest) = do
      return (← readFlags [] (first :: rest)).weaken (Nat.le_succ _) := by
  obtain ⟨notAhead, notNegated, notBehind, notNamed⟩ := flag
  rw [readHeader]
  all_goals intros; grind

/-- A header that starts with a question mark is read up to its own end. -/
theorem extends_readHeader
    (rest suffix : List Char) :
    Extends suffix (readHeader ('?' :: rest)) (readHeader ('?' :: (rest ++ suffix))) := by
  cases rest with
  | nil => exact extends_error
  | cons first rest =>
      rw [List.cons_append]
      by_cases look : first = '=' ∨ first = '!'
      · obtain rfl | rfl := look
        · exact extends_error
        · exact extends_error
      obtain ⟨notAhead, notNegated⟩ := not_or.mp look
      by_cases angle : first = '<'
      · subst angle
        cases rest with
        | nil => exact extends_error
        | cons first rest =>
            by_cases look : first = '=' ∨ first = '!'
            · obtain rfl | rfl := look
              · exact extends_error
              · exact extends_error
            · rw [List.cons_append, readHeader_named (not_or.mp look),
                readHeader_named (not_or.mp look)]
              exact (extends_readGroupName (first :: rest) suffix).mapWeaken _ _ _
      by_cases named : first = 'P' ∧ rest.head? = some '<'
      · obtain ⟨rfl, bracket⟩ := named
        cases rest with
        | nil => cases bracket
        | cons bracket' rest =>
            obtain rfl := Option.some.inj bracket
            exact (extends_readGroupName rest suffix).mapWeaken _ _ _
      rw [readHeader_flags ⟨notAhead, notNegated, angle, fun same next => named ⟨same, next⟩⟩]
      by_cases unknown : first = 'P'
      · subst unknown
        exact extends_error
      · rw [readHeader_flags ⟨notAhead, notNegated, angle, fun same => absurd same unknown⟩]
        exact (extends_readFlags [] (first :: rest) suffix).weaken _ _

theorem continues_readHeader
    {verbose : Bool}
    (text suffix : List Char) :
    Continues verbose suffix (readHeader text) (readHeader (text ++ suffix)) := by
  by_cases query : text.head? = some '?'
  · obtain ⟨rest, rfl⟩ : ∃ rest, text = '?' :: rest := by
      cases text with
      | nil => cases query
      | cons first rest => exact ⟨rest, by rw [Option.some.inj query]⟩
    exact (extends_readHeader rest suffix).continues
  · intro read found room
    rw [readHeader_unnamed query] at found
    obtain rfl := Except.ok.inj found
    have behind : Behind verbose suffix text (text ++ suffix) := behind_append suffix text
    exact ⟨_, readHeader_unnamed (behind.head?_ne room (by decide) query), rfl, behind⟩

theorem continues_readGroupHeader
    (verbose : Bool)
    (text suffix : List Char) :
    Continues verbose suffix (readGroupHeader verbose text) (readGroupHeader verbose (text ++ suffix)) := by
  have behind := behind_skipBlank verbose text suffix
  have header : Continues verbose suffix (readHeader (skipBlank verbose text))
      (readHeader (skipBlank verbose (text ++ suffix))) := by
    by_cases ended : skipBlank verbose text = []
    · intro read found room
      have unnamed : (skipBlank verbose text).head? ≠ some '?' := by rw [ended]; exact nofun
      rw [readHeader_unnamed unnamed] at found
      obtain rfl := Except.ok.inj found
      have longer := behind.head?_ne room (by decide) unnamed
      exact ⟨_, readHeader_unnamed longer, rfl, behind⟩
    · rw [behind.eq_append ended]
      exact continues_readHeader _ suffix
  exact header.weaken _ _

end Linear
end LineExtraction
