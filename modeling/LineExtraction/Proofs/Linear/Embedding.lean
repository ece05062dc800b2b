import LineExtraction.Proofs.Linear.Reader.BracketClass
import LineExtraction.Proofs.Linear.Reader.GroupHeader
import LineExtraction.Proofs.Linear.Reader.Quantifier
import LineExtraction.Proofs.Linear.Reading

/-!
# Patterns read inside others

A pattern that has a parse of its own is read in the same way where it stands in a group
of a longer pattern: the parser takes the same steps on top of what waits around that
group.  Only the numbers of its groups move up, and its group names must be new.
-/

namespace LineExtraction
namespace Linear

/-! ## Lexemes in a longer text -/

theorem continues_readLexeme
    (verbose : Bool)
    (first : Char)
    (text suffix : List Char) :
    Continues verbose suffix (readLexeme verbose first text)
      (readLexeme verbose first (text ++ suffix)) := by
  unfold readLexeme
  split
  · exact (continues_readGroupHeader verbose text suffix).map _
  · exact continues_ok rfl (behind_append suffix text)
  · exact continues_ok rfl (behind_append suffix text)
  · exact (continues_readBracketClass verbose text suffix).map _
  · exact (continues_readEscape verbose text suffix).map _
  · exact continues_ok rfl (behind_append suffix text)
  · exact continues_ok rfl (behind_append suffix text)
  · exact continues_ok rfl (behind_append suffix text)
  · obtain ⟨same, continues⟩ := continues_readQuantifier? verbose first text suffix
    split
    · next quantifier found =>
        rw [found] at same continues
        obtain ⟨long, longFound⟩ := Option.isSome_iff_exists.mp same
        rw [longFound]
        exact (continues quantifier rfl long longFound).map _
    · next found =>
        rw [found] at same
        split
        · next longFound =>
            rw [longFound] at same
            cases same
        · exact continues_ok rfl (behind_append suffix text)

/-! ## Shifted patterns -/

namespace Ast

/-- The pattern with its groups numbered from `offset` on. -/
def shift (offset : Nat) : Ast → Ast
  | repetition count body => repetition count (body.shift offset)
  | group (.capture index name) body => group (.capture (index + offset) name) (body.shift offset)
  | group (.plain items) body => group (.plain items) (body.shift offset)
  | concat first rest => concat (first.shift offset) (rest.shift offset)
  | alternation first rest => alternation (first.shift offset) (rest.shift offset)
  | ast => ast

@[simp] theorem shift_zero
    (ast : Ast) :
    ast.shift 0 = ast := by
  induction ast with
  | group kind body inductionHypothesis =>
      cases kind <;> simp [shift, inductionHypothesis]
  | _ => simp_all [shift]

theorem shift_ofParts
    (offset : Nat)
    (parts : List Ast) :
    (ofParts parts).shift offset = ofParts (parts.map (shift offset)) := by
  fun_induction ofParts parts with
  | case1 => rfl
  | case2 => rfl
  | case3 part parts more inductionHypothesis =>
      cases parts with
      | nil => exact absurd rfl (more ·)
      | cons next parts => exact congrArg (concat (part.shift offset)) inductionHypothesis

theorem shift_ofBranches
    (offset : Nat)
    (branches : List Ast) :
    (ofBranches branches).shift offset = ofBranches (branches.map (shift offset)) := by
  fun_induction ofBranches branches with
  | case1 => rfl
  | case2 => rfl
  | case3 branch branches more inductionHypothesis =>
      cases branches with
      | nil => exact absurd rfl (more ·)
      | cons next branches => exact congrArg (alternation (branch.shift offset)) inductionHypothesis

end Ast

namespace Level

/-- The level with its groups numbered from `offset` on. -/
def shift (offset : Nat) (level : Level) : Level :=
  ⟨level.branches.map (Ast.shift offset), level.parts.map (Ast.shift offset)⟩

theorem shift_toAst
    (offset : Nat)
    (level : Level) :
    (level.shift offset).toAst = level.toAst.shift offset := by
  rw [toAst, toAst, Ast.shift_ofBranches, List.map_reverse, List.map_cons, Ast.shift_ofParts,
    List.map_reverse]
  rfl

theorem shift_push
    (offset : Nat)
    (level : Level)
    (part : Ast) :
    (level.push part).shift offset = (level.shift offset).push (part.shift offset) := rfl

theorem shift_nextBranch
    (offset : Nat)
    (level : Level) :
    level.nextBranch.shift offset = (level.shift offset).nextBranch := by
  rw [nextBranch, nextBranch, shift, List.map_cons, Ast.shift_ofParts, List.map_reverse]
  rfl

end Level

/-- The kind of a group with groups numbered from `offset` on. -/
def GroupKind.shift (offset : Nat) : GroupKind → GroupKind
  | capture index name => capture (index + offset) name
  | plain items => plain items

theorem Ast.shift_group
    (offset : Nat)
    (kind : GroupKind)
    (body : Ast) :
    (Ast.group kind body).shift offset = .group (kind.shift offset) (body.shift offset) := by
  cases kind <;> rfl

/-- The open group with its groups numbered from `offset` on. -/
def OpenGroup.shift (offset : Nat) (group : OpenGroup) : OpenGroup :=
  ⟨group.kind.shift offset, group.outer.shift offset, group.verbose⟩

/-! ## States on top of others -/

namespace ParseState

/-- The state of a pattern that is read where `host` is, right behind the header of a
group. -/
def within (host state : ParseState) : ParseState where
  verbose := state.verbose
  level := state.level.shift host.captures
  groups := state.groups.map (OpenGroup.shift host.captures) ++ host.groups
  captures := state.captures + host.captures
  names := state.names ++ host.names

theorem within_push
    (host state : ParseState)
    {part : Ast}
    (bare : part.shift host.captures = part) :
    host.within (state.push part) = (host.within state).push part := by
  rw [within, push, Level.shift_push, bare]
  rfl

theorem within_openCapture
    (host state : ParseState)
    (name : Option (List Char)) :
    host.within (state.openCapture name) = (host.within state).openCapture name := by
  have next : state.captures + 1 + host.captures = state.captures + host.captures + 1 := by omega
  simp only [openCapture, openGroup, within, List.map_cons, List.cons_append, OpenGroup.shift,
    GroupKind.shift, next, List.append_assoc]
  rfl

@[simp] theorem within_verbose
    (host state : ParseState) :
    (host.within state).verbose = state.verbose := rfl

theorem canQuantify_within
    (host state : ParseState) :
    (host.within state).canQuantify = state.canQuantify := by
  obtain ⟨verbose, ⟨branches, parts⟩, groups, captures, names⟩ := state
  cases parts with
  | nil => rfl
  | cons part parts =>
      cases part with
      | group kind body => cases kind <;> rfl
      | _ => rfl

theorem within_quantify
    (host state : ParseState)
    (count : Repeat) :
    host.within (state.quantify count) = (host.within state).quantify count := by
  obtain ⟨verbose, ⟨branches, parts⟩, groups, captures, names⟩ := state
  cases parts <;> rfl

end ParseState

/-! ## Steps on top of others -/

/-- Whether a lexeme holds no group. -/
def Lexeme.Bare : Lexeme → Prop
  | .part ast => ∀ offset, ast.shift offset = ast
  | _ => True

theorem bare_readLexeme
    {verbose : Bool}
    {first : Char}
    {text : List Char}
    {lexeme : Read Lexeme text}
    (read : readLexeme verbose first text = .ok lexeme) :
    lexeme.value.Bare := by
  have mapped : ∀ {α : Type} {reader : Except SyntaxError (Read α text)} (change : α → Lexeme),
      (∀ value, (change value).Bare) → (do return (← reader).map change) = .ok lexeme →
      lexeme.value.Bare := by
    intro α reader change bare found
    obtain ⟨inner, -, found⟩ := Except.bind_eq_ok_iff.mp found
    obtain rfl := Except.ok.inj found
    exact bare inner.value
  unfold readLexeme at read
  split at read
  · exact mapped .opens (fun _ => trivial) read
  · obtain rfl := Except.ok.inj read
    trivial
  · obtain rfl := Except.ok.inj read
    trivial
  · exact mapped (fun (parsed : Bool × ClassSet) => .part (.bracketed parsed.1 parsed.2))
      (fun _ _ => rfl) read
  · exact mapped (fun (primitive : Primitive) => .part primitive.toAst)
      (fun primitive _ => by cases primitive <;> rfl) read
  · obtain rfl := Except.ok.inj read
    exact fun _ => rfl
  · obtain rfl := Except.ok.inj read
    exact fun _ => rfl
  · obtain rfl := Except.ok.inj read
    exact fun _ => rfl
  · split at read
    · exact mapped .repeats (fun _ => trivial) read
    · obtain rfl := Except.ok.inj read
      exact fun _ => rfl

namespace ParseState

/-- A lexeme does to a state inside another what it does to the state alone, as long as no
group is named as one outside is. -/
theorem take_within
    (host : ParseState)
    {state next : ParseState}
    {lexeme : Lexeme}
    (bare : lexeme.Bare)
    (distinct : (state.names ++ host.names).Nodup)
    (taken : state.take lexeme = .ok next) :
    state.names <:+ next.names ∧
      if (next.names ++ host.names).Nodup then
        (host.within state).take lexeme = .ok (host.within next)
      else (host.within state).take lexeme = .error .groupNameDuplicate := by
  cases lexeme with
  | opens header =>
      cases header with
      | unnamed =>
          obtain rfl := Except.ok.inj taken
          rw [within_openCapture]
          exact ⟨List.suffix_rfl, (if_pos distinct).mpr rfl⟩
      | named name =>
          simp only [take, enter] at taken ⊢
          split at taken
          · cases taken
          · obtain rfl := Except.ok.inj taken
            refine ⟨List.suffix_cons name state.names, ?_⟩
            have fresh : (name :: state.names ++ host.names).Nodup ↔
                name ∉ state.names ++ host.names :=
              List.nodup_cons.trans (and_iff_left distinct)
            rw [within_openCapture]
            show if (name :: state.names ++ host.names).Nodup then _ else _
            split
            · next apart => exact if_neg (fresh.mp apart)
            · next shared => exact if_pos (Decidable.of_not_not (mt fresh.mpr shared))
      | plain flags =>
          obtain rfl := Except.ok.inj taken
          exact ⟨List.suffix_rfl, (if_pos distinct).mpr rfl⟩
      | directive flags =>
          obtain rfl := Except.ok.inj taken
          exact ⟨List.suffix_rfl, (if_pos distinct).mpr rfl⟩
  | closes =>
      obtain ⟨verbose, level, groups, captures, names⟩ := state
      cases groups with
      | nil => cases taken
      | cons group groups =>
          obtain rfl := Except.ok.inj taken
          refine ⟨List.suffix_rfl, (if_pos distinct).mpr (congrArg Except.ok ?_)⟩
          simp only [within, Level.shift_push, Ast.shift_group, ← Level.shift_toAst]
          rfl
  | branches =>
      obtain rfl := Except.ok.inj taken
      refine ⟨List.suffix_rfl, (if_pos distinct).mpr (congrArg Except.ok ?_)⟩
      simp only [within, Level.shift_nextBranch]
  | part part =>
      obtain rfl := Except.ok.inj taken
      rw [within_push host state (bare _)]
      exact ⟨List.suffix_rfl, (if_pos distinct).mpr rfl⟩
  | repeats count =>
      simp only [take] at taken ⊢
      rw [canQuantify_within]
      split at taken
      · next repeats =>
          obtain rfl := Except.ok.inj taken
          rw [if_pos repeats, within_quantify]
          have names : (state.quantify count).names = state.names := by
            rw [quantify]
            split <;> rfl
          rw [names]
          exact ⟨List.suffix_rfl, (if_pos distinct).mpr rfl⟩
      · cases taken

/-- Whether the parser comes from one state and text to another if no group name would then
stand twice, and refuses the text if one would. -/
def Arrives (state : ParseState) (text : List Char) (next : ParseState) (rest : List Char) :
    Prop :=
  if next.names.Nodup then Reads state text next rest
  else readTokens state text = .error .groupNameDuplicate

theorem Arrives.trans
    {state middle last : ParseState}
    {text rest end' : List Char}
    (front : state.Arrives text middle rest)
    (back : middle.names.Nodup → middle.Arrives rest last end')
    (grows : middle.names <:+ last.names) :
    state.Arrives text last end' := by
  unfold Arrives at front back ⊢
  by_cases first : middle.names.Nodup
  · have back := back first
    rw [if_pos first] at front
    split
    · next both =>
        rw [if_pos both] at back
        exact front.trans back
    · next shared =>
        rw [if_neg shared] at back
        rw [front.readTokens_eq, back]
  · rw [if_neg first] at front
    rw [if_neg fun both => first (both.sublist grows.sublist)]
    exact front

theorem arrives_of_reads
    {state next : ParseState}
    {text rest : List Char}
    (distinct : next.names.Nodup)
    (reads : Reads state text next rest) :
    state.Arrives text next rest :=
  (if_pos distinct).mpr reads

theorem readTokens_within_eq_ok_iff
    (host : ParseState)
    {state last : ParseState}
    {text rest : List Char}
    {first : Char}
    {lexeme : Read Lexeme rest}
    (skipped : skipBlank state.verbose text = first :: rest)
    (read : readLexeme state.verbose first rest = .ok lexeme) :
    readTokens (host.within state) text = .ok last ↔
      ∃ next, (host.within state).take lexeme.value = .ok next ∧
        readTokens next lexeme.rest = .ok last :=
  @readTokens_eq_ok_iff_of_lexeme (host.within state) last text rest first lexeme skipped read

/-- The state behind the header of a plain group. -/
def inside (outer : ParseState) : ParseState := outer.openGroup (.plain []) false

/-- The state behind a plain group around a pattern of its own. -/
def around (outer inner : ParseState) : ParseState :=
  { outer.push (.group (.plain []) (inner.level.toAst.shift outer.captures)) with
    captures := inner.captures + outer.captures
    names := inner.names ++ outer.names }

theorem inside_within_start
    (outer : ParseState) :
    outer.inside.within .start = outer.inside := by
  rw [within, inside]
  simp only [start, openGroup, Nat.zero_add]
  rfl

/-- A state inside a group has that group open. -/
theorem groups_inside_within
    (outer state : ParseState) :
    (outer.inside.within state).groups ≠ [] := by
  rw [within]
  exact fun none => List.cons_ne_nil _ _ (List.append_eq_nil_iff.mp none).2

theorem leave_inside_within
    (outer : ParseState)
    {inner : ParseState}
    (closed : inner.groups = []) :
    (outer.inside.within inner).leave = .ok (outer.around inner) := by
  rw [leave, within, closed]
  simp only [around, ← Level.shift_toAst]
  rfl

end ParseState

/-! ## A pattern in a group of a longer pattern -/

theorem head_ne_of_skipBlank
    {text rest : List Char}
    {first : Char}
    (skipped : skipBlank true text = first :: rest) :
    ¬ Unicode.isWhiteSpace first := by
  have visible : ∀ inComment text, skipComments inComment text = first :: rest →
      ¬ Unicode.isWhiteSpace first := by
    intro inComment text skipped
    fun_induction skipComments inComment text with
    | case1 => cases skipped
    | case2 _ _ inductionHypothesis => exact inductionHypothesis skipped
    | case3 _ _ _ _ _ inductionHypothesis => exact inductionHypothesis skipped
    | case4 _ _ _ _ inductionHypothesis => exact inductionHypothesis skipped
    | case5 inComment char rest _ notBlank _ =>
        obtain ⟨rfl, -⟩ := List.cons.inj skipped
        exact notBlank
  exact visible false text skipped

/-- What closes a group behind a pattern: its parenthesis, with or without a line break in
front of it. -/
def IsClosing (closing : List Char) : Prop :=
  closing = [')'] ∨ closing = ['\n', ')']

theorem IsClosing.end_cases
    {closing rest : List Char}
    {first : Char}
    (closes : IsClosing closing)
    (ends : first :: rest <:+ closing) :
    first = ')' ∧ rest = [] ∨ first = '\n' ∧ rest = [')'] ∧ closing = ['\n', ')'] := by
  rcases closes with rfl | rfl
  · rcases List.suffix_cons_iff.mp ends with same | inside
    · obtain ⟨rfl, rfl⟩ := List.cons.inj same
      exact .inl ⟨rfl, rfl⟩
    · cases List.suffix_nil.mp inside
  · rcases List.suffix_cons_iff.mp ends with same | inside
    · obtain ⟨rfl, rfl⟩ := List.cons.inj same
      exact .inr ⟨rfl, rfl, rfl⟩
    · rcases List.suffix_cons_iff.mp inside with same | inside
      · obtain ⟨rfl, rfl⟩ := List.cons.inj same
        exact .inl ⟨rfl, rfl⟩
      · cases List.suffix_nil.mp inside

/-- The step that closes the group around a pattern. -/
theorem reads_closing
    (outer : ParseState)
    {inner : ParseState}
    {text rest : List Char}
    (closed : inner.groups = [])
    (skipped : skipBlank inner.verbose text = ')' :: rest) :
    Reads (outer.inside.within inner) text (outer.around inner) rest :=
  .token skipped rfl (outer.leave_inside_within closed) (.refl _ rest)

/-- The step that takes a line break for a character. -/
theorem reads_lineBreak
    (outer : ParseState)
    {inner : ParseState}
    (plain : inner.verbose = false)
    (rest : List Char) :
    Reads (outer.inside.within inner) ('\n' :: rest)
      (outer.inside.within (inner.push (.literal ⟨'\n', false⟩))) rest := by
  have skipped : skipBlank (outer.inside.within inner).verbose ('\n' :: rest) = '\n' :: rest := by
    rw [ParseState.within, plain]
    rfl
  have read : readLexeme (outer.inside.within inner).verbose '\n' rest =
      .ok ⟨.part (.literal ⟨'\n', false⟩), rest, Nat.le_refl _⟩ := rfl
  rw [ParseState.within_push _ _ (by rfl)]
  exact .token skipped read rfl (.refl _ rest)

/-- A pattern of its own in a group of a longer pattern: the group is closed where the
pattern ends, and the parser stands behind it as behind one part, if it knows no name of the
pattern from before.  The line break may be left in the pattern as a character. -/
theorem arrives_around
    {state last : ParseState}
    {text end' longer closing : List Char}
    (reads : Reads state text last end')
    (closed : last.groups = [])
    (blank : skipBlank last.verbose end' = [])
    (closes : IsClosing closing)
    (behind : Behind true closing text longer)
    {single : ParseState}
    (distinct : state.names.Nodup)
    (alone : readTokens (ParseState.start.inside.within state) longer = .ok single)
    (singleClosed : single.groups = []) :
    ∃ inner : ParseState, inner.groups = [] ∧ single = ParseState.start.around inner ∧
      (inner = last ∨ closing = ['\n', ')'] ∧ last.verbose = false ∧
        inner = last.push (.literal ⟨'\n', false⟩)) ∧
      state.names <:+ inner.names ∧
      ∀ (outer : ParseState) (more : List Char), (state.names ++ outer.names).Nodup →
        (outer.inside.within state).Arrives (longer ++ more) (outer.around inner) more := by
  induction reads generalizing longer with
  | refl state text =>
      have ends : skipBlank state.verbose longer <:+ closing := by
        rcases behind with rfl | ended
        · have behind := behind_skipBlank state.verbose text closing
          rw [blank] at behind
          exact behind.suffix
        · have none := ended.2.1
          subst none
          exact (skipBlank_suffix state.verbose longer).trans (Behind.suffix (.inr ended))
      cases skipped : skipBlank state.verbose longer with
      | nil =>
          rw [← ParseState.within_verbose ParseState.start.inside state] at skipped
          obtain rfl := (readTokens_eq_ok_iff_of_blank skipped).mp alone
          exact absurd singleClosed (ParseState.groups_inside_within _ _)
      | cons first rest =>
          rw [skipped] at ends
          rcases closes.end_cases ends with ⟨rfl, rfl⟩ | ⟨rfl, rfl, rfl⟩
          · have closing := (reads_closing .start closed skipped).readTokens_eq_ok.mp alone
            obtain rfl := (readTokens_eq_ok_iff_of_blank (skipBlank_nil _)).mp closing
            exact ⟨state, closed, rfl, .inl rfl, List.suffix_rfl, fun outer more apart =>
              ParseState.arrives_of_reads apart
                (reads_closing outer closed (skipBlank_append more skipped))⟩
          · have plain : state.verbose = false := by
              cases verbose : state.verbose with
              | false => rfl
              | true =>
                  rw [verbose] at skipped
                  exact absurd (by decide) (head_ne_of_skipBlank skipped)
            rw [plain] at skipped
            obtain rfl : longer = ['\n', ')'] := skipped
            have reads : ∀ (outer : ParseState) more,
                Reads (outer.inside.within state) ('\n' :: ')' :: more)
                  (outer.around (state.push (.literal ⟨'\n', false⟩))) more := by
              intro outer more
              refine (reads_lineBreak outer plain _).trans (reads_closing outer closed ?_)
              rw [ParseState.push, plain]
              rfl
            have closing := (reads .start []).readTokens_eq_ok.mp alone
            obtain rfl := (readTokens_eq_ok_iff_of_blank (skipBlank_nil _)).mp closing
            exact ⟨state.push (.literal ⟨'\n', false⟩), closed, rfl, .inr ⟨rfl, plain, rfl⟩,
              List.suffix_rfl, fun outer more apart =>
                ParseState.arrives_of_reads apart (reads outer more)⟩
  | @token state next last text rest end' first lexeme skipped read taken others
      inductionHypothesis =>
      have longerSame : longer = text ++ closing := by
        refine behind.eq_append ?_
        rintro rfl
        rw [skipBlank_nil] at skipped
        cases skipped
      subst longerSame
      have skippedLonger := skipBlank_append closing skipped
      have inert : Closing closing := by
        rcases closes with rfl | rfl
        · exact closing_of_forall_mem (by simp)
        · exact closing_of_forall_mem (by simp)
      obtain ⟨lexeme', read', value', behind'⟩ :=
        continues_readLexeme state.verbose first rest closing lexeme read (.inr inert)
      have takes : ∀ host : ParseState, (state.names ++ host.names).Nodup →
          state.names <:+ next.names ∧
            if (next.names ++ host.names).Nodup then
              (host.within state).take lexeme'.value = .ok (host.within next)
            else (host.within state).take lexeme'.value = .error .groupNameDuplicate := by
        rw [value']
        exact fun host apart => ParseState.take_within host (bare_readLexeme read) apart taken
      have aloneApart : (state.names ++ ParseState.start.inside.names).Nodup := by
        simpa [ParseState.inside, ParseState.openGroup, ParseState.start] using distinct
      obtain ⟨grows, aloneTakes⟩ := takes _ aloneApart
      obtain ⟨reached, reachedTaken, alone⟩ :=
        (ParseState.readTokens_within_eq_ok_iff _ skippedLonger read').mp alone
      split at aloneTakes
      case isFalse => cases aloneTakes.symm.trans reachedTaken
      next nextApart =>
      obtain rfl := Except.ok.inj (aloneTakes.symm.trans reachedTaken)
      have left : lexeme'.rest ≠ [] := by
        intro ended
        rw [ended] at alone
        obtain rfl := (readTokens_eq_ok_iff_of_blank (skipBlank_nil _)).mp alone
        exact absurd singleClosed (ParseState.groups_inside_within _ _)
      have nextDistinct : next.names.Nodup := by
        simpa [ParseState.inside, ParseState.openGroup, ParseState.start] using nextApart
      obtain ⟨inner, innerClosed, singleSame, final, innerGrows, goesOn⟩ :=
        inductionHypothesis closed blank behind'.loosen nextDistinct alone
      refine ⟨inner, innerClosed, singleSame, final, grows.trans innerGrows,
        fun outer more apart => ?_⟩
      have skippedComposed := skipBlank_append more skippedLonger
      obtain ⟨lexeme'', read'', value'', behind''⟩ :=
        continues_readLexeme state.verbose first (rest ++ closing) more lexeme' read' (.inl left)
      have rest'' := behind''.eq_append left
      obtain ⟨-, outerTakes⟩ := takes outer.inside apart
      rw [← value''] at outerTakes
      split at outerTakes
      · next outerApart =>
          have first : (outer.inside.within state).Arrives (text ++ closing ++ more)
              (outer.inside.within next) (lexeme'.rest ++ more) :=
            ParseState.arrives_of_reads outerApart
              (.token skippedComposed read'' outerTakes (rest'' ▸ .refl _ _))
          refine first.trans (fun _ => goesOn outer more outerApart) ?_
          obtain ⟨added, same⟩ := innerGrows
          show next.names ++ outer.names <:+ inner.names ++ outer.names
          rw [← same, List.append_assoc]
          exact List.suffix_append _ _
      · next shared =>
          have larger : ¬ (inner.names ++ outer.names).Nodup := fun both =>
            shared (both.sublist (innerGrows.sublist.append (List.Sublist.refl _)))
          refine (if_neg larger).mpr ?_
          have stuck : readTokens (outer.inside.within state) (text ++ closing ++ more) = _ :=
            readTokens_of_lexeme skippedComposed read''
          rw [stuck, outerTakes]
          rfl

end Linear
end LineExtraction
