import LineExtraction.Linear.Reader.BracketClass
import LineExtraction.Proofs.Linear.Reader.Escape

/-!
# Bracket classes in a longer text

A bracket class reads the same whatever stands behind its closing bracket.  Two of its
readers look ahead: the one for ASCII classes, for the `:]` at the end of a name, and the
one for ranges, for what follows a hyphen.  Both see the same as long as the class closes.
-/

namespace LineExtraction
namespace Linear

/-! ## ASCII classes -/

theorem bracket_notMem_of_asciiClassNamed?
    {name : List Char}
    {kind : AsciiClass}
    (named : asciiClassNamed? name = some kind) :
    ']' ∉ name := by
  have known : String.ofList name ∈ ["alnum", "alpha", "ascii", "blank", "cntrl", "digit",
      "graph", "lower", "print", "punct", "space", "upper", "word", "xdigit"] := by
    unfold asciiClassNamed? at named
    split at named
    case h_15 => cases named
    all_goals next same => rw [same]; decide
  have letters : ∀ text ∈ ["alnum", "alpha", "ascii", "blank", "cntrl", "digit",
      "graph", "lower", "print", "punct", "space", "upper", "word", "xdigit"],
      ']' ∉ text.toList := by
    decide
  have bare := letters _ known
  rwa [String.toList_ofList] at bare

/-- The value and the rest that a reader finds, if it finds any. -/
def found?
    {α : Type}
    {text : List Char}
    (read? : Option (Read α text)) : Option (α × List Char) :=
  read?.map fun read => (read.value, read.rest)

theorem found?_readAsciiName?
    (negated : Bool)
    (text : List Char) :
    found? (readAsciiName? negated text) =
      match text.dropWhile (· ≠ ':') with
      | ':' :: ']' :: rest =>
        (asciiClassNamed? (text.takeWhile (· ≠ ':'))).map fun kind => (.ascii negated kind, rest)
      | _ => none := by
  unfold found? readAsciiName?
  split
  · next rest dropped =>
      rw [Option.map_map]
      split
      · next same =>
          obtain rfl := (List.cons.inj (List.cons.inj (dropped.symm.trans same)).2).2
          rfl
      · next other => exact absurd dropped (other rest)
  · next other =>
      split
      · next rest dropped => exact absurd dropped (other rest)
      · rfl

theorem found?_readAsciiName?_of_unnamed
    {negated : Bool}
    {text : List Char}
    (unnamed : ']' ∈ text.takeWhile (· ≠ ':')) :
    found? (readAsciiName? negated text) = none := by
  have none : asciiClassNamed? (text.takeWhile (· ≠ ':')) = none :=
    Option.eq_none_iff_forall_ne_some.mpr fun _ named =>
      bracket_notMem_of_asciiClassNamed? named unnamed
  rw [found?_readAsciiName?, none]
  split <;> rfl

/-- Where the text holds a closing bracket, a longer text has the same ASCII name. -/
theorem found?_readAsciiName?_append
    (negated : Bool)
    {text : List Char}
    (suffix : List Char)
    (inside : ']' ∈ text) :
    found? (readAsciiName? negated (text ++ suffix)) =
      (found? (readAsciiName? negated text)).map fun read => (read.1, read.2 ++ suffix) := by
  have whole := List.takeWhile_append_dropWhile (p := (· ≠ ':')) (l := text)
  by_cases unnamed : ']' ∈ text.takeWhile (· ≠ ':')
  · rw [found?_readAsciiName?_of_unnamed unnamed, found?_readAsciiName?_of_unnamed]
    · rfl
    · rw [List.takeWhile_append]
      split
      · exact List.mem_append_left _ inside
      · exact unnamed
  have member : ']' ∈ text.dropWhile (· ≠ ':') := by
    rw [← whole] at inside
    exact (List.mem_append.mp inside).resolve_left unnamed
  cases dropped : text.dropWhile (· ≠ ':') with
  | nil =>
      rw [dropped] at member
      cases member
  | cons colon rest =>
      have shorter : (text.takeWhile (· ≠ ':')).length ≠ text.length := by
        intro same
        have total := congrArg List.length whole
        rw [List.length_append, same, dropped, List.length_cons] at total
        omega
      have dropped' : (text ++ suffix).dropWhile (· ≠ ':') = colon :: (rest ++ suffix) := by
        rw [List.dropWhile_append, dropped]
        rfl
      rw [found?_readAsciiName?, found?_readAsciiName?, dropped', dropped, List.takeWhile_append,
        if_neg shorter]
      cases rest with
      | nil =>
          obtain rfl : ']' = colon := by rw [dropped] at member; simpa using member
          rfl
      | cons next rest =>
          by_cases closes : colon = ':' ∧ next = ']'
          · obtain ⟨rfl, rfl⟩ := closes
            cases asciiClassNamed? (text.takeWhile (· ≠ ':')) <;> rfl
          · split
            · next same => cases same; exact absurd ⟨rfl, rfl⟩ closes
            · split
              · next same => cases same; exact absurd ⟨rfl, rfl⟩ closes
              · rfl

theorem found?_weaken
    {α : Type}
    {text longer : List Char}
    {read? : Option (Read α text)}
    {bound : text.length ≤ longer.length} :
    found? (read?.map (·.weaken bound)) = found? read? := by
  cases read? <;> rfl

theorem found?_readAsciiClass?_append
    {text : List Char}
    (suffix : List Char)
    (inside : ']' ∈ text) :
    found? (readAsciiClass? (text ++ suffix)) =
      (found? (readAsciiClass? text)).map fun read => (read.1, read.2 ++ suffix) := by
  cases text with
  | nil => cases inside
  | cons colon name =>
      by_cases colonFirst : colon = ':'
      · subst colonFirst
        have member : ']' ∈ name := by simpa using inside
        cases name with
        | nil => cases member
        | cons caret name =>
            by_cases negated : caret = '^'
            · subst negated
              have member : ']' ∈ name := by simpa using member
              exact found?_weaken.trans ((found?_readAsciiName?_append true suffix member).trans
                (congrArg _ found?_weaken.symm))
            · have plain : ∀ rest, readAsciiClass? (':' :: caret :: rest) =
                  (readAsciiName? false (caret :: rest)).map (·.weaken (Nat.le_succ _)) := by
                intro rest
                rw [readAsciiClass?]
                intro rest same
                exact negated (List.cons.inj same).1
              rw [List.cons_append, List.cons_append, plain, plain]
              exact found?_weaken.trans ((found?_readAsciiName?_append false suffix member).trans
                (congrArg _ found?_weaken.symm))
      · have none : ∀ rest, readAsciiClass? (colon :: rest) = none := by
          intro rest
          rw [readAsciiClass?]
          · intro _ same
            exact colonFirst (List.cons.inj same).1
          · intro _ same
            exact colonFirst (List.cons.inj same).1
        rw [List.cons_append, none, none]
        rfl

theorem suffix_of_readAsciiName?
    {negated : Bool}
    {text : List Char}
    {read : Read ClassSet text}
    (found : readAsciiName? negated text = some read) :
    ']' ∈ text ∧ read.rest <:+ text := by
  have pair := found?_readAsciiName? negated text
  rw [found] at pair
  split at pair
  · next rest dropped =>
      obtain ⟨kind, -, same⟩ := Option.map_eq_some_iff.mp pair.symm
      obtain rfl : rest = read.rest := (Prod.ext_iff.mp same).2
      have inside : ':' :: ']' :: read.rest <:+ text := dropped ▸ List.dropWhile_suffix _
      refine ⟨inside.mem (List.mem_cons_of_mem _ List.mem_cons_self), ?_⟩
      exact (List.suffix_cons _ _).trans ((List.suffix_cons _ _).trans inside)
  · cases pair

theorem suffix_of_readAsciiClass?
    {text : List Char}
    {read : Read ClassSet text}
    (found : readAsciiClass? text = some read) :
    ']' ∈ text ∧ read.rest <:+ text := by
  unfold readAsciiClass? at found
  split at found
  · next name =>
      obtain ⟨inner, innerFound, rfl⟩ := Option.map_eq_some_iff.mp found
      obtain ⟨member, inside⟩ := suffix_of_readAsciiName? innerFound
      have around := (List.suffix_cons '^' name).trans (List.suffix_cons ':' _)
      exact ⟨around.mem member, inside.trans around⟩
  · next name _ =>
      obtain ⟨inner, innerFound, rfl⟩ := Option.map_eq_some_iff.mp found
      obtain ⟨member, inside⟩ := suffix_of_readAsciiName? innerFound
      have around := List.suffix_cons ':' name
      exact ⟨around.mem member, inside.trans around⟩
  · cases found

/-! ## Members and ranges -/

theorem peekPastBlank_append
    {inComment : Bool}
    {text : List Char}
    {char : Char}
    (suffix : List Char)
    (peeked : peekPastBlank inComment text = some char) :
    peekPastBlank inComment (text ++ suffix) = some char := by
  fun_induction peekPastBlank inComment text with
  | case1 => cases peeked
  | case2 inComment first rest blank inductionHypothesis =>
      rw [List.cons_append, peekPastBlank, if_pos blank]
      exact inductionHypothesis peeked
  | case3 inComment first rest notBlank hash inductionHypothesis =>
      rw [List.cons_append, peekPastBlank, if_neg notBlank, if_pos hash]
      exact inductionHypothesis peeked
  | case4 inComment first rest notBlank notHash =>
      rw [List.cons_append, peekPastBlank, if_neg notBlank, if_neg notHash]
      exact peeked

/-- Where nothing is to be seen past the blanks, only blanks are left. -/
theorem skipComments_of_peekPastBlank
    {inComment : Bool}
    {text : List Char}
    (unseen : peekPastBlank inComment text = none)
    (skipping : Bool)
    (comment : skipping → inComment) :
    skipComments skipping text = [] := by
  fun_induction peekPastBlank inComment text generalizing skipping with
  | case1 => cases skipping <;> rfl
  | case2 inComment first rest blank inductionHypothesis =>
      rw [skipComments]
      split
      · next skips => exact inductionHypothesis unseen _ fun _ => comment skips
      · exact inductionHypothesis unseen _ fun skips => absurd skips Bool.false_ne_true
  | case3 inComment first rest notBlank hash inductionHypothesis =>
      rw [skipComments, if_neg fun skips => hash.2 (comment skips), if_neg notBlank, if_pos hash.1]
      exact inductionHypothesis unseen _ fun _ => rfl
  | case4 => cases unseen

theorem peekBlank_append
    (verbose : Bool)
    (text suffix : List Char)
    (left : skipBlank verbose text ≠ []) :
    peekBlank verbose (text ++ suffix) = peekBlank verbose text := by
  cases verbose with
  | false =>
      cases text with
      | nil => exact absurd rfl left
      | cons first rest => rfl
  | true =>
      cases peeked : peekPastBlank false text with
      | none => exact absurd (skipComments_of_peekPastBlank peeked false nofun) left
      | some char =>
          simp only [peekBlank, peeked, peekPastBlank_append suffix peeked, if_true]
          rfl

/-- What a class may hold behind a hyphen that is a member is seen in a longer text. -/
theorem peekBlank_append_of_eq
    {verbose : Bool}
    {text : List Char}
    {char : Char}
    (suffix : List Char)
    (visible : ¬ Unicode.isWhiteSpace char ∧ char ≠ '#')
    (peeked : peekBlank verbose text = some char) :
    peekBlank verbose (text ++ suffix) = some char := by
  have headed : text.head? = some char → (text ++ suffix).head? = some char := by
    intro head
    cases text with
    | nil => cases head
    | cons first rest => exact head
  cases verbose with
  | false => exact headed peeked
  | true =>
      cases seen : peekPastBlank false text with
      | some other =>
          simp only [peekBlank, seen, peekPastBlank_append suffix seen, if_true] at peeked ⊢
          exact peeked
      | none =>
          simp only [peekBlank, seen, if_true] at peeked
          obtain ⟨rest, rfl⟩ : ∃ rest, text = char :: rest := by
            cases text with
            | nil => cases peeked
            | cons first rest => exact ⟨rest, by rw [Option.some.inj peeked]⟩
          rw [peekPastBlank, if_neg visible.1, if_neg fun hash => visible.2 hash.1] at seen
          cases seen

theorem continues_readMember
    (verbose : Bool)
    (first : Char)
    (text suffix : List Char) :
    Continues verbose suffix (readMember verbose first text) (readMember verbose first (text ++ suffix)) := by
  rw [readMember, readMember]
  split
  · exact continues_readEscape verbose text suffix
  · exact continues_ok rfl (behind_append _ _)

theorem trims_readMember
    (verbose : Bool)
    (first : Char)
    (text : List Char) :
    Trims (readMember verbose first text) := by
  rw [readMember]
  split
  · exact trims_readEscape verbose text
  · exact trims_ok List.suffix_rfl

theorem continues_readMemberOrRange
    (verbose : Bool)
    (first : Char)
    (text suffix : List Char) :
    Continues verbose suffix (readMemberOrRange verbose first text)
      (readMemberOrRange verbose first (text ++ suffix)) := by
  refine (continues_readMember verbose first text suffix).bind ?_ ?_
  · intro start changed found ended
    have none : skipBlank verbose start.rest = [] := by rw [ended, skipBlank_nil]
    split at found
    · cases found
    · grind
    · grind
  · intro start more value behind _
    have longer : ∀ {next rest}, skipBlank verbose start.rest = next :: rest →
        skipBlank verbose more.rest = next :: (rest ++ suffix) := by
      intro next rest skipped
      rw [behind.eq_append, skipBlank_append suffix skipped]
      intro ended
      rw [ended, skipBlank_nil] at skipped
      cases skipped
    dsimp only
    split
    · exact continues_error
    · next rest skipped =>
        have skipped' := longer skipped
        split
        · next peeked =>
            split
            · grind
            · next same =>
                obtain ⟨-, rfl⟩ := List.cons.inj (skipped'.symm.trans same)
                rw [if_pos]
                · exact continues_bind (by rw [value]) fun _ _ =>
                    continues_ok rfl (behind_append suffix ('-' :: rest))
                · exact peeked.imp (peekBlank_append_of_eq suffix (by decide))
                    (peekBlank_append_of_eq suffix (by decide))
            · grind
        next unpeeked =>
          split
          · exact continues_error
          · next last behind' skippedBehind =>
              have skippedBehind' := skipBlank_append suffix skippedBehind
              have peeked := peekBlank_append verbose rest suffix
                (by rw [skippedBehind]; exact List.cons_ne_nil _ _)
              split
              · grind
              · next same =>
                  obtain ⟨-, rfl⟩ := List.cons.inj (skipped'.symm.trans same)
                  rw [if_neg (by rw [peeked]; exact unpeeked)]
                  split
                  · grind
                  · next same =>
                      obtain ⟨rfl, rfl⟩ := List.cons.inj (skippedBehind'.symm.trans same)
                      refine (continues_readMember verbose last behind' suffix).bind ?_ ?_
                      · intro stop changed found ended
                        obtain ⟨lower, -, found⟩ := Except.bind_eq_ok_iff.mp found
                        obtain ⟨upper, -, found⟩ := Except.bind_eq_ok_iff.mp found
                        split at found
                        · cases found
                        · obtain rfl := Except.ok.inj found
                          exact ended
                      · intro stop more' value' behind'' _
                        refine continues_bind (by rw [value]) fun lower _ =>
                          continues_bind (by rw [value']) fun upper _ => ?_
                        split
                        · exact continues_error
                        · exact continues_ok rfl behind''
              · grind
    · next next rest _ skipped =>
        have skipped' := longer skipped
        split
        · grind
        · grind
        · next same =>
            obtain ⟨rfl, rfl⟩ := List.cons.inj (skipped'.symm.trans same)
            exact continues_bind (by rw [value]) fun _ _ =>
              continues_ok rfl (behind_append suffix (next :: rest))

theorem trims_readMemberOrRange
    (verbose : Bool)
    (first : Char)
    (text : List Char) :
    Trims (readMemberOrRange verbose first text) := by
  refine trims_bind fun start found => ?_
  have inside := trims_readMember verbose first text start found
  dsimp only
  split
  · exact trims_error
  · next behind skipped =>
      split
      · exact trims_bind fun _ _ =>
          trims_ok ((skipped ▸ skipBlank_suffix verbose start.rest).trans inside)
      split
      · exact trims_error
      · next last rest skippedBehind =>
          refine trims_bind fun stop stopFound => trims_bind fun _ _ => trims_bind fun _ _ => ?_
          have stopInside := trims_readMember verbose last rest stop stopFound
          split
          · exact trims_error
          · exact trims_ok (stopInside.trans ((suffix_of_skipBlank_eq_cons skippedBehind).trans
              ((suffix_of_skipBlank_eq_cons skipped).trans inside)))
  · next next behind _ skipped =>
      exact trims_bind fun _ _ =>
        trims_ok ((skipped ▸ skipBlank_suffix verbose start.rest).trans inside)

/-! ## Opening a class -/

/-- The text of a class behind its bracket and the sign that negates it. -/
def openingBody (verbose : Bool) (text : List Char) : List Char :=
  if (skipBlank verbose text).head? = some '^' then
    skipBlank verbose ((skipBlank verbose text).drop 1)
  else skipBlank verbose text

theorem openingBody_suffix
    (verbose : Bool)
    (text : List Char) :
    openingBody verbose text <:+ text := by
  have start := skipBlank_suffix verbose text
  rw [openingBody]
  split
  · exact (skipBlank_suffix verbose _).trans ((List.drop_suffix 1 _).trans start)
  · exact start

theorem openingBody_append
    (verbose : Bool)
    (text suffix : List Char)
    (left : openingBody verbose text ≠ []) :
    (skipBlank verbose (text ++ suffix)).head? = (skipBlank verbose text).head? ∧
      openingBody verbose (text ++ suffix) = openingBody verbose text ++ suffix := by
  cases skipped : skipBlank verbose text with
  | nil =>
      rw [openingBody, skipped] at left
      exact absurd rfl left
  | cons first rest =>
      have skipped' := skipBlank_append suffix skipped
      refine ⟨by rw [skipped']; rfl, ?_⟩
      rw [openingBody, skipped] at left
      rw [openingBody, openingBody, skipped', skipped]
      by_cases negated : first = '^'
      · subst negated
        exact (behind_skipBlank verbose rest suffix).eq_append left
      · have plain : ∀ rest, (first :: rest).head? ≠ some '^' :=
          fun rest same => negated (Option.some.inj same)
        rw [if_neg (plain _), if_neg (plain _)]
        rfl

/-- The hyphens at the front of a class that goes on behind them. -/
theorem readHyphens_append
    {verbose : Bool}
    {text rest : List Char}
    {next : Char}
    (suffix : List Char)
    (ends : (readHyphens verbose (openingBody verbose text)).rest = next :: rest) :
    (skipBlank verbose (text ++ suffix)).head? = (skipBlank verbose text).head? ∧
      (readHyphens verbose (openingBody verbose (text ++ suffix))).value =
        (readHyphens verbose (openingBody verbose text)).value ∧
      (readHyphens verbose (openingBody verbose (text ++ suffix))).rest =
        next :: (rest ++ suffix) := by
  have left : (readRun verbose (· = '-') (openingBody verbose text)).rest ≠ [] := by
    intro ended
    exact nomatch ends.symm.trans ended
  obtain ⟨head, body⟩ := openingBody_append verbose text suffix
    (by intro ended; rw [ended, readRun_nil] at left; exact left rfl)
  obtain ⟨value, rest'⟩ := readRun_append verbose (· = '-') _ suffix left
  rw [← body] at value rest'
  exact ⟨head, congrArg (List.map _) value, rest'.trans (congrArg (· ++ suffix) ends)⟩

/-- A class that goes on behind its hyphens. -/
theorem readClassOpening_of_next
    {verbose : Bool}
    {text rest : List Char}
    {next : Char}
    (other : next ≠ ']' ∨ ¬ (readHyphens verbose (openingBody verbose text)).value.isEmpty)
    (ends : (readHyphens verbose (openingBody verbose text)).rest = next :: rest) :
    ∃ read, readClassOpening verbose text = .ok read ∧
      read.value = (decide ((skipBlank verbose text).head? = some '^'),
        (readHyphens verbose (openingBody verbose text)).value) ∧
      read.rest = next :: rest := by
  generalize opened : readClassOpening verbose text = result
  unfold readClassOpening at opened
  dsimp only at opened
  split at opened
  · next ended => exact nomatch ended.symm.trans ends
  · next closes =>
      obtain ⟨rfl, rfl⟩ := List.cons.inj (ends.symm.trans closes)
      have hyphens := other.resolve_left fun differs => differs rfl
      rw [openingBody] at hyphens
      rw [if_neg hyphens] at opened
      exact ⟨_, opened.symm, rfl, rfl⟩
  · next closes =>
      obtain ⟨rfl, rfl⟩ := List.cons.inj (ends.symm.trans closes)
      exact ⟨_, opened.symm, rfl, rfl⟩

/-- A class whose first character is a closing bracket holds that bracket. -/
theorem readClassOpening_of_bracket
    {verbose : Bool}
    {text rest : List Char}
    (bare : (readHyphens verbose (openingBody verbose text)).value.isEmpty)
    (ends : (readHyphens verbose (openingBody verbose text)).rest = ']' :: rest) :
    (skipBlank verbose rest = [] ∧ readClassOpening verbose text = .error .classUnclosed) ∨
      skipBlank verbose rest ≠ [] ∧ ∃ read, readClassOpening verbose text = .ok read ∧
        read.value = (decide ((skipBlank verbose text).head? = some '^'), [.literal ⟨']', false⟩]) ∧
        read.rest = skipBlank verbose rest := by
  generalize opened : readClassOpening verbose text = result
  unfold readClassOpening at opened
  dsimp only at opened
  split at opened
  · next ended => exact nomatch ended.symm.trans ends
  · next closes =>
      obtain ⟨-, rfl⟩ := List.cons.inj (ends.symm.trans closes)
      rw [openingBody] at bare
      rw [if_pos bare] at opened
      by_cases ended : (skipBlank verbose rest).isEmpty
      · rw [if_pos ended] at opened
        exact .inl ⟨List.isEmpty_iff.mp ended, opened.symm⟩
      · rw [if_neg ended] at opened
        exact .inr ⟨fun none => ended (List.isEmpty_iff.mpr none), _, opened.symm, rfl, rfl⟩
  · next notClosing closes =>
      exact absurd (List.cons.inj (ends.symm.trans closes)).1.symm notClosing

theorem readClassOpening_of_end
    {verbose : Bool}
    {text : List Char}
    (ends : (readHyphens verbose (openingBody verbose text)).rest = []) :
    readClassOpening verbose text = .error .classUnclosed := by
  unfold readClassOpening
  dsimp only
  split
  · rfl
  · next closes => exact nomatch ends.symm.trans closes
  · next closes => exact nomatch ends.symm.trans closes

theorem continues_readClassOpening
    (verbose : Bool)
    (text suffix : List Char) :
    Continues verbose suffix (readClassOpening verbose text)
      (readClassOpening verbose (text ++ suffix)) := by
  cases ends : (readHyphens verbose (openingBody verbose text)).rest with
  | nil =>
      rw [readClassOpening_of_end ends]
      exact continues_error
  | cons next rest =>
      obtain ⟨head, value, ends'⟩ := readHyphens_append suffix ends
      intro read found room
      by_cases bracket :
          next = ']' ∧ (readHyphens verbose (openingBody verbose text)).value.isEmpty
      · obtain ⟨rfl, bare⟩ := bracket
        obtain ⟨-, same⟩ | ⟨left, same, sameFound, sameValue, sameRest⟩ :=
          readClassOpening_of_bracket bare ends
        · cases same.symm.trans found
        obtain rfl := Except.ok.inj (sameFound.symm.trans found)
        have longer := (behind_skipBlank verbose rest suffix).eq_append left
        rw [← value] at bare
        obtain ⟨ended, -⟩ | ⟨-, more, moreFound, moreValue, moreRest⟩ :=
          readClassOpening_of_bracket bare ends'
        · rw [longer] at ended
          exact absurd (List.append_eq_nil_iff.mp ended).1 left
        · refine ⟨more, moreFound, ?_, ?_⟩
          · rw [moreValue, sameValue, head]
          · rw [moreRest, sameRest, longer]
            exact behind_append _ _
      · have other := Decidable.or_iff_not_imp_left.mpr fun (same : ¬ next ≠ ']') bare =>
          bracket ⟨Decidable.not_not.mp same, bare⟩
        obtain ⟨same, sameFound, sameValue, sameRest⟩ := readClassOpening_of_next other ends
        obtain rfl := Except.ok.inj (sameFound.symm.trans found)
        rw [← value] at other
        obtain ⟨more, moreFound, moreValue, moreRest⟩ := readClassOpening_of_next other ends'
        refine ⟨more, moreFound, ?_, ?_⟩
        · rw [moreValue, sameValue, head, value]
        · rw [moreRest, sameRest]
          exact behind_append suffix (next :: rest)

theorem trims_readClassOpening
    (verbose : Bool)
    (text : List Char) :
    Trims (readClassOpening verbose text) := by
  intro read found
  have inside := (readRun_suffix verbose (· = '-') (openingBody verbose text)).trans
    (openingBody_suffix verbose text)
  cases ends : (readHyphens verbose (openingBody verbose text)).rest with
  | nil =>
      rw [readClassOpening_of_end ends] at found
      cases found
  | cons next rest =>
      have whole : next :: rest <:+ text := ends ▸ inside
      by_cases bracket :
          next = ']' ∧ (readHyphens verbose (openingBody verbose text)).value.isEmpty
      · obtain ⟨rfl, bare⟩ := bracket
        obtain ⟨-, same⟩ | ⟨-, same, sameFound, -, sameRest⟩ :=
          readClassOpening_of_bracket bare ends
        · cases same.symm.trans found
        obtain rfl := Except.ok.inj (sameFound.symm.trans found)
        rw [sameRest]
        exact (skipBlank_suffix verbose rest).trans ((List.suffix_cons _ _).trans whole)
      · have other := Decidable.or_iff_not_imp_left.mpr fun (same : ¬ next ≠ ']') bare =>
          bracket ⟨Decidable.not_not.mp same, bare⟩
        obtain ⟨same, sameFound, -, sameRest⟩ := readClassOpening_of_next other ends
        obtain rfl := Except.ok.inj (sameFound.symm.trans found)
        rw [sameRest]
        exact whole

/-! ## Whole classes -/

theorem trims_readClassBody
    (verbose : Bool)
    (frames : List ClassFrame)
    (members : List ClassSet)
    (text : List Char) :
    Trims (readClassBody verbose frames members text) := by
  induction size : text.length using Nat.strongRecOn generalizing frames members text with
  | ind size inductionHypothesis =>
      have goesOn : ∀ frames members (rest : List Char) (bound : rest.length ≤ text.length),
          rest.length < text.length → rest <:+ text →
          Trims (do return (← readClassBody verbose frames members rest).weaken bound) :=
        fun frames members rest _ shorter inside =>
          (inductionHypothesis rest.length (by omega) frames members rest rfl).change inside
            fun _ => rfl
      unfold readClassBody
      split
      · exact trims_error
      · next rest skipped =>
          have inside := suffix_of_skipBlank_eq_cons skipped
          have bound := length_skipBlank_le verbose text
          rw [skipped, List.length_cons] at bound
          split
          · next item found =>
              have := item.shorter
              exact goesOn _ _ _ _ (by omega) ((suffix_of_readAsciiClass? found).2.trans inside)
          · refine trims_bind fun opening opened => ?_
            have := opening.shorter
            refine goesOn _ _ _ _ (by omega) ?_
            exact (trims_readClassOpening verbose rest opening opened).trans inside
      · next rest skipped =>
          have inside := suffix_of_skipBlank_eq_cons skipped
          have bound := length_skipBlank_le verbose text
          rw [skipped, List.length_cons] at bound
          dsimp only
          split
          · split
            · exact trims_ok inside
            · exact goesOn _ _ _ _ (by omega) inside
          · exact trims_error
      · next first rest _ _ skipped =>
          have inside := suffix_of_skipBlank_eq_cons skipped
          have bound := length_skipBlank_le verbose text
          rw [skipped, List.length_cons] at bound
          split
          · refine goesOn _ _ _ _ ?_ ((List.drop_suffix 1 rest).trans inside)
            rw [List.length_drop]
            omega
          · refine trims_bind fun item found => ?_
            have := item.shorter
            refine goesOn _ _ _ _ (by omega) ?_
            exact (trims_readMemberOrRange verbose first rest item found).trans inside

theorem bracket_mem_of_readClassBody
    {verbose : Bool}
    {frames : List ClassFrame}
    {members : List ClassSet}
    {text : List Char}
    {read : Read (Bool × ClassSet) text}
    (found : readClassBody verbose frames members text = .ok read) :
    ']' ∈ text := by
  induction size : text.length using Nat.strongRecOn generalizing frames members text with
  | ind size inductionHypothesis =>
      have goesOn : ∀ frames members (rest : List Char) (bound : rest.length ≤ text.length),
          rest.length < text.length → rest <:+ text →
          (do return (← readClassBody verbose frames members rest).weaken bound) = .ok read →
          ']' ∈ text := by
        intro frames members rest _ shorter inside found
        obtain ⟨inner, innerFound, -⟩ := Except.bind_eq_ok_iff.mp found
        exact inside.mem (inductionHypothesis rest.length (by omega) innerFound rfl)
      unfold readClassBody at found
      split at found
      · cases found
      · next rest skipped =>
          have inside := suffix_of_skipBlank_eq_cons skipped
          have bound := length_skipBlank_le verbose text
          rw [skipped, List.length_cons] at bound
          split at found
          · next item itemFound =>
              exact inside.mem (suffix_of_readAsciiClass? itemFound).1
          · obtain ⟨opening, opened, found⟩ := Except.bind_eq_ok_iff.mp found
            have := opening.shorter
            refine goesOn _ _ _ _ (by omega) ?_ found
            exact (trims_readClassOpening verbose rest opening opened).trans inside
      · next rest skipped =>
          exact (skipped ▸ skipBlank_suffix verbose text).mem List.mem_cons_self
      · next first rest _ _ skipped =>
          have inside := suffix_of_skipBlank_eq_cons skipped
          have bound := length_skipBlank_le verbose text
          rw [skipped, List.length_cons] at bound
          split at found
          · refine goesOn _ _ _ _ ?_ ((List.drop_suffix 1 rest).trans inside) found
            rw [List.length_drop]
            omega
          · obtain ⟨item, itemFound, found⟩ := Except.bind_eq_ok_iff.mp found
            have := item.shorter
            refine goesOn _ _ _ _ (by omega) ?_ found
            exact (trims_readMemberOrRange verbose first rest item itemFound).trans inside

/-- Where nothing is left, no class closes. -/
theorem readClassBody_ne_ok
    {verbose : Bool}
    {frames : List ClassFrame}
    {members : List ClassSet}
    {text : List Char}
    {read : Read (Bool × ClassSet) text}
    (ended : text = []) :
    readClassBody verbose frames members text ≠ .ok read := by
  intro found
  have member := bracket_mem_of_readClassBody found
  rw [ended] at member
  cases member

theorem operatorOf?_append
    (first : Char)
    {rest : List Char}
    (suffix : List Char)
    (left : rest ≠ []) :
    operatorOf? first (rest ++ suffix) = operatorOf? first rest := by
  cases rest with
  | nil => exact absurd rfl left
  | cons next rest => rfl

section

variable {verbose : Bool} {frames : List ClassFrame} {members : List ClassSet}
variable {text rest : List Char}

theorem readClassBody_of_ascii
    {item : Read ClassSet rest}
    (skipped : skipBlank verbose text = '[' :: rest)
    (ascii : readAsciiClass? rest = some item)
    (bound : item.rest.length ≤ text.length) :
    readClassBody verbose frames members text = do
      return (← readClassBody verbose frames (item.value :: members) item.rest).weaken bound := by
  rw [readClassBody]
  split
  · next same => cases skipped.symm.trans same
  · next same =>
      obtain ⟨-, rfl⟩ := List.cons.inj (skipped.symm.trans same)
      split
      · next same =>
          obtain rfl := Option.some.inj (ascii.symm.trans same)
          rfl
      · next same => cases ascii.symm.trans same
  · next same => cases (List.cons.inj (skipped.symm.trans same)).1
  · next notOpening _ same =>
      exact absurd (List.cons.inj (skipped.symm.trans same)).1.symm notOpening

theorem readClassBody_of_nested
    (skipped : skipBlank verbose text = '[' :: rest)
    (plain : readAsciiClass? rest = none)
    (bound : ∀ {shorter : List Char}, shorter.length ≤ rest.length →
      shorter.length ≤ text.length) :
    readClassBody verbose frames members text = do
      let opening ← readClassOpening verbose rest
      return (← readClassBody verbose (.opened members opening.value.1 :: frames)
        opening.value.2 opening.rest).weaken (bound opening.shorter) := by
  rw [readClassBody]
  split
  · next same => cases skipped.symm.trans same
  · next same =>
      obtain ⟨-, rfl⟩ := List.cons.inj (skipped.symm.trans same)
      split
      · next same => cases plain.symm.trans same
      · rfl
  · next same => cases (List.cons.inj (skipped.symm.trans same)).1
  · next notOpening _ same =>
      exact absurd (List.cons.inj (skipped.symm.trans same)).1.symm notOpening

theorem readClassBody_of_close
    {set : ClassSet}
    {waiting : List ClassFrame}
    (skipped : skipBlank verbose text = ']' :: rest)
    (bound : rest.length ≤ text.length) :
    applyOperation (.ofItems members.reverse) frames = (set, waiting) →
      readClassBody verbose frames members text =
        match waiting with
        | .opened outer negated :: enclosing =>
          if enclosing.isEmpty then .ok ⟨(negated, set), rest, bound⟩
          else do
            return (← readClassBody verbose enclosing
              (.bracketed negated set :: outer) rest).weaken bound
        | _ => .error .classUnclosed := by
  intro applied
  rw [readClassBody]
  split
  · next same => cases skipped.symm.trans same
  · next same => cases (List.cons.inj (skipped.symm.trans same)).1
  · next same =>
      obtain ⟨-, rfl⟩ := List.cons.inj (skipped.symm.trans same)
      generalize applyOperation (.ofItems members.reverse) frames = folded at applied ⊢
      cases applied
      rfl
  · next notClosing same =>
      exact absurd (List.cons.inj (skipped.symm.trans same)).1.symm notClosing

theorem readClassBody_of_operator
    {first : Char}
    {operator : SetOperator}
    {left : ClassSet}
    {waiting : List ClassFrame}
    (skipped : skipBlank verbose text = first :: rest)
    (bare : first ≠ '[' ∧ first ≠ ']')
    (found : operatorOf? first rest = some operator)
    (applied : applyOperation (.ofItems members.reverse) frames = (left, waiting))
    (bound : (rest.drop 1).length ≤ text.length) :
    readClassBody verbose frames members text = do
      return (← readClassBody verbose (.operation operator left :: waiting) []
        (rest.drop 1)).weaken bound := by
  rw [readClassBody]
  split
  · next same => cases skipped.symm.trans same
  · next same => exact absurd (List.cons.inj (skipped.symm.trans same)).1 bare.1
  · next same => exact absurd (List.cons.inj (skipped.symm.trans same)).1 bare.2
  · next same =>
      obtain ⟨rfl, rfl⟩ := List.cons.inj (skipped.symm.trans same)
      split
      · next same =>
          obtain rfl := Option.some.inj (found.symm.trans same)
          generalize applyOperation (.ofItems members.reverse) frames = folded at applied ⊢
          cases applied
          rfl
      · next same => cases found.symm.trans same

theorem readClassBody_of_item
    {first : Char}
    (skipped : skipBlank verbose text = first :: rest)
    (bare : first ≠ '[' ∧ first ≠ ']')
    (plain : operatorOf? first rest = none)
    (bound : ∀ {shorter : List Char}, shorter.length ≤ rest.length →
      shorter.length ≤ text.length) :
    readClassBody verbose frames members text = do
      let item ← readMemberOrRange verbose first rest
      return (← readClassBody verbose frames (item.value :: members) item.rest).weaken
        (bound item.shorter) := by
  rw [readClassBody]
  split
  · next same => cases skipped.symm.trans same
  · next same => exact absurd (List.cons.inj (skipped.symm.trans same)).1 bare.1
  · next same => exact absurd (List.cons.inj (skipped.symm.trans same)).1 bare.2
  · next same =>
      obtain ⟨rfl, rfl⟩ := List.cons.inj (skipped.symm.trans same)
      split
      · next same => cases plain.symm.trans same
      · rfl

end

/-- A class ends with its bracket, so a longer text has the same class. -/
theorem extends_readClassBody
    (verbose : Bool)
    (frames : List ClassFrame)
    (members : List ClassSet)
    (text suffix : List Char) :
    Extends suffix (readClassBody verbose frames members text)
      (readClassBody verbose frames members (text ++ suffix)) := by
  induction size : text.length using Nat.strongRecOn generalizing frames members text with
  | ind size inductionHypothesis =>
      have goesOn : ∀ frames members {inner outer : List Char}
          (bound : inner.length ≤ text.length) (bound' : outer.length ≤ (text ++ suffix).length),
          outer = inner ++ suffix → inner.length < text.length →
          Extends suffix
            (do return (← readClassBody verbose frames members inner).weaken bound)
            (do return (← readClassBody verbose frames members outer).weaken bound') := by
        rintro frames members inner _ _ _ rfl shorter
        exact (inductionHypothesis inner.length (by omega) frames members inner rfl).weaken _ _
      have needs : ∀ {α : Type} {short : List Char} (read : Read α short) {frames members}
          {bound : read.rest.length ≤ text.length} {changed : Read (Bool × ClassSet) text},
          (do return (← readClassBody verbose frames members read.rest).weaken bound) =
            .ok changed → read.rest ≠ [] := by
        intro α short read frames members bound changed found ended
        obtain ⟨body, found, -⟩ := Except.bind_eq_ok_iff.mp found
        exact absurd found (readClassBody_ne_ok ended)
      cases skipped : skipBlank verbose text with
      | nil =>
          rw [readClassBody]
          split
          · exact extends_error
          · next same => cases skipped.symm.trans same
          · next same => cases skipped.symm.trans same
          · next same => cases skipped.symm.trans same
      | cons first rest =>
          have skipped' := skipBlank_append suffix skipped
          have bound := length_skipBlank_le verbose text
          rw [skipped, List.length_cons] at bound
          have bound' : (rest ++ suffix).length + 1 ≤ (text ++ suffix).length := by
            simp only [List.length_append]
            omega
          by_cases opens : first = '['
          · subst opens
            by_cases inside : ']' ∈ rest
            · have ascii' := found?_readAsciiClass?_append suffix inside
              cases ascii : readAsciiClass? rest with
              | some item =>
                  rw [ascii] at ascii'
                  obtain ⟨more, moreFound, same⟩ := Option.map_eq_some_iff.mp ascii'
                  obtain ⟨value, restSame⟩ := Prod.ext_iff.mp same
                  have := item.shorter
                  have := more.shorter
                  rw [readClassBody_of_ascii skipped ascii (by omega),
                    readClassBody_of_ascii skipped' moreFound (by omega),
                    show more.value = item.value from value]
                  exact goesOn _ _ _ _ restSame (by omega)
              | none =>
                  rw [ascii] at ascii'
                  have plain := Option.map_eq_none_iff.mp ascii'
                  rw [readClassBody_of_nested skipped ascii (by omega),
                    readClassBody_of_nested skipped' plain (by omega)]
                  refine (continues_readClassOpening verbose rest suffix).bindExtends ?_ ?_
                  · exact fun opening changed found => needs opening found
                  · intro opening more value behind
                    have := opening.shorter
                    rw [value]
                    exact goesOn _ _ _ _ behind (by omega)
            · intro read found
              have plain : readAsciiClass? rest = none :=
                Option.eq_none_iff_forall_ne_some.mpr fun item found =>
                  inside (suffix_of_readAsciiClass? found).1
              rw [readClassBody_of_nested skipped plain (by omega)] at found
              obtain ⟨opening, opened, found⟩ := Except.bind_eq_ok_iff.mp found
              obtain ⟨body, found, -⟩ := Except.bind_eq_ok_iff.mp found
              exact absurd ((trims_readClassOpening verbose rest opening opened).mem
                (bracket_mem_of_readClassBody found)) inside
          by_cases closes : first = ']'
          · subst closes
            generalize applied : applyOperation (.ofItems members.reverse) frames = result
            obtain ⟨set, waiting⟩ := result
            rw [readClassBody_of_close skipped (by omega) applied,
              readClassBody_of_close skipped' (by omega) applied]
            split
            · split
              · exact extends_ok rfl rfl
              · exact goesOn _ _ _ _ rfl (by omega)
            · exact extends_error
          by_cases ended : rest = []
          · intro read found
            have plain : operatorOf? first rest = none := by
              subst ended
              rfl
            rw [readClassBody_of_item skipped ⟨opens, closes⟩ plain (by omega)] at found
            obtain ⟨item, itemFound, found⟩ := Except.bind_eq_ok_iff.mp found
            obtain ⟨body, found, -⟩ := Except.bind_eq_ok_iff.mp found
            have inside := trims_readMemberOrRange verbose first rest item itemFound
            have none : item.rest = [] := by
              subst ended
              exact List.suffix_nil.mp inside
            exact absurd found (readClassBody_ne_ok none)
          cases operator : operatorOf? first rest with
          | some found =>
              generalize applied : applyOperation (.ofItems members.reverse) frames = result
              obtain ⟨left, waiting⟩ := result
              have operator' : operatorOf? first (rest ++ suffix) = some found := by
                rw [operatorOf?_append first suffix ended, operator]
              have dropped : (rest ++ suffix).drop 1 = rest.drop 1 ++ suffix :=
                List.drop_append_of_le_length (List.length_pos_iff.mpr ended)
              have shorter : (rest.drop 1).length < text.length := by
                rw [List.length_drop]
                omega
              rw [readClassBody_of_operator skipped ⟨opens, closes⟩ operator applied (by omega),
                readClassBody_of_operator skipped' ⟨opens, closes⟩ operator' applied
                  (by rw [List.length_drop]; omega)]
              exact goesOn _ _ _ _ dropped shorter
          | none =>
              have plain : operatorOf? first (rest ++ suffix) = none := by
                rw [operatorOf?_append first suffix ended, operator]
              rw [readClassBody_of_item skipped ⟨opens, closes⟩ operator (by omega),
                readClassBody_of_item skipped' ⟨opens, closes⟩ plain (by omega)]
              refine (continues_readMemberOrRange verbose first rest suffix).bindExtends ?_ ?_
              · exact fun item changed found => needs item found
              · intro item more value behind
                have := item.shorter
                rw [value]
                exact goesOn _ _ _ _ behind (by omega)

theorem extends_readBracketClass
    (verbose : Bool)
    (text suffix : List Char) :
    Extends suffix (readBracketClass verbose text)
      (readBracketClass verbose (text ++ suffix)) := by
  refine (continues_readClassOpening verbose text suffix).bindExtends ?_ ?_
  · intro opening changed found ended
    obtain ⟨body, found, -⟩ := Except.bind_eq_ok_iff.mp found
    exact absurd found (readClassBody_ne_ok ended)
  · rintro opening ⟨value, rest, shorter⟩ rfl rfl
    exact (extends_readClassBody verbose [.opened [] opening.value.1] opening.value.2
      opening.rest suffix).weaken _ _

theorem continues_readBracketClass
    (verbose : Bool)
    (text suffix : List Char) :
    Continues verbose suffix (readBracketClass verbose text)
      (readBracketClass verbose (text ++ suffix)) :=
  (extends_readBracketClass verbose text suffix).continues

end Linear
end LineExtraction
