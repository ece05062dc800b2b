import LineExtraction.Linear.Reader.Escape
import LineExtraction.Proofs.Linear.Continuation

/-!
# Escapes in a longer text

An escape reads the same whatever stands behind the text that it ends in.
-/

namespace LineExtraction
namespace Linear

theorem continues_readHexDigits
    (verbose : Bool)
    (count : Nat)
    {text longer suffix : List Char}
    (behind : Behind verbose suffix text longer) :
    Continues verbose suffix (readHexDigits verbose count text) (readHexDigits verbose count longer) := by
  induction count generalizing text longer with
  | zero => exact continues_ok rfl behind
  | succ count inductionHypothesis =>
      cases text with
      | nil => exact continues_error
      | cons char rest =>
          obtain rfl : longer = char :: rest ++ suffix := behind.eq_append (List.cons_ne_nil _ _)
          rw [List.cons_append, readHexDigits, readHexDigits]
          split
          · exact (inductionHypothesis (behind_skipBlank verbose rest suffix)).change
              (fun _ _ value => congrArg (char :: ·) value) (fun _ => rfl) (fun _ => rfl)
          · exact continues_error

theorem continues_readBracedHex
    (verbose : Bool)
    (text suffix : List Char) :
    Continues verbose suffix (readBracedHex verbose text) (readBracedHex verbose (text ++ suffix)) := by
  unfold readBracedHex
  dsimp only
  split
  · exact continues_error
  · next behind ends =>
      obtain ⟨value, ends'⟩ := readRun_skipBlank_append suffix ends
      split
      · exact continues_error
      next digits =>
        split
        · grind
        · next same =>
            obtain ⟨-, rfl⟩ := List.cons.inj (ends'.symm.trans same)
            rw [if_neg (by rw [value]; exact digits)]
            exact continues_bind (by rw [value]) fun char _ =>
              continues_ok rfl (behind_skipBlank verbose behind suffix)
        · grind
  · exact continues_error

theorem continues_readHex
    (verbose : Bool)
    (count : Nat)
    (text suffix : List Char) :
    Continues verbose suffix (readHex verbose count text) (readHex verbose count (text ++ suffix)) := by
  unfold readHex
  split
  · exact continues_error
  · next body skipped =>
      have skipped' := skipBlank_append suffix skipped
      split
      · grind
      · next same =>
          obtain ⟨-, rfl⟩ := List.cons.inj (skipped'.symm.trans same)
          exact (continues_readBracedHex verbose body suffix).weaken _ _
      · grind
  · next first body _ skipped =>
      have skipped' := skipBlank_append suffix skipped
      split
      · grind
      · grind
      · next same =>
          obtain ⟨rfl, rfl⟩ := List.cons.inj (skipped'.symm.trans same)
          refine (continues_readHexDigits verbose count (behind_append suffix _)).bind ?_ ?_
          · intro digits changed found ended
            obtain ⟨char, -, found⟩ := Except.bind_eq_ok_iff.mp found
            obtain rfl := Except.ok.inj found
            exact ended
          · intro digits more value behind _
            exact continues_bind (by rw [value]) fun char _ => continues_ok rfl behind

theorem continues_readUnicodeClass
    (verbose negated : Bool)
    (text suffix : List Char) :
    Continues verbose suffix (readUnicodeClass verbose negated text)
      (readUnicodeClass verbose negated (text ++ suffix)) := by
  unfold readUnicodeClass
  split
  · exact continues_error
  · next body skipped =>
      have skipped' := skipBlank_append suffix skipped
      dsimp only
      split
      · exact continues_error
      · next ends =>
          obtain ⟨value, ends'⟩ := readRun_skipBlank_append suffix ends
          split
          · grind
          · next same =>
              obtain ⟨-, rfl⟩ := List.cons.inj (skipped'.symm.trans same)
              split
              · grind
              · next same =>
                  obtain ⟨rfl, rfl⟩ := List.cons.inj (ends'.symm.trans same)
                  exact continues_ok (congrArg (classOfName negated) value) (behind_append _ _)
          · grind
          · grind
  · exact continues_error
  · next letter rest _ _ skipped =>
      have skipped' := skipBlank_append suffix skipped
      split
      · grind
      · grind
      · grind
      · next same =>
          obtain ⟨rfl, rfl⟩ := List.cons.inj (skipped'.symm.trans same)
          exact continues_ok rfl (behind_append _ _)

theorem readWordBoundary_plain
    {verbose : Bool}
    {text : List Char}
    (plain : text.head? ≠ some '\x7b') :
    readWordBoundary verbose text = .ok ⟨.wordBoundary, text, Nat.le_refl _⟩ := by
  unfold readWordBoundary
  split
  · exact absurd rfl plain
  · rfl

theorem continues_readWordBoundary
    (verbose : Bool)
    (text suffix : List Char) :
    Continues verbose suffix (readWordBoundary verbose text) (readWordBoundary verbose (text ++ suffix)) := by
  by_cases brace : text.head? = some '\x7b'
  · obtain ⟨body, rfl⟩ : ∃ body, text = '\x7b' :: body := by
      cases text with
      | nil => cases brace
      | cons first rest => exact ⟨rest, by rw [Option.some.inj brace]⟩
    rw [List.cons_append]
    simp only [readWordBoundary]
    split
    · exact continues_error
    next started =>
      obtain ⟨first, rest, skipped⟩ := List.exists_cons_of_ne_nil
        (show skipBlank verbose body ≠ [] by simpa using started)
      have skipped' := skipBlank_append suffix skipped
      have started' : ¬ (skipBlank verbose (body ++ suffix)).isEmpty := by simp [skipped']
      rw [if_neg started']
      split
      · next bare =>
          have left : (readRun verbose isBoundaryChar (skipBlank verbose body)).rest =
              first :: rest := by
            rw [← skipped]
            exact readRun_rest_of_isEmpty bare
          rw [if_pos (by rw [(readRun_skipBlank_append suffix left).1]; exact bare)]
          exact continues_ok rfl (behind_append suffix ('\x7b' :: body))
      next named =>
        split
        · next behind ends =>
            obtain ⟨value, ends'⟩ := readRun_skipBlank_append suffix ends
            rw [if_neg (by rw [value]; exact named)]
            split
            · next same =>
                split
                · next same' =>
                    obtain ⟨-, rfl⟩ := List.cons.inj (ends'.symm.trans same')
                    rw [value, same]
                    exact continues_ok rfl (behind_append suffix behind)
                · grind
            · exact continues_error
        · exact continues_error
  · intro read found room
    rw [readWordBoundary_plain brace] at found
    obtain rfl := Except.ok.inj found
    have behind : Behind verbose suffix text (text ++ suffix) := behind_append suffix text
    exact ⟨_, readWordBoundary_plain (behind.head?_ne room (by decide) brace), rfl, behind⟩

theorem continues_readEscape
    (verbose : Bool)
    (text suffix : List Char) :
    Continues verbose suffix (readEscape verbose text) (readEscape verbose (text ++ suffix)) := by
  cases text with
  | nil => exact continues_error
  | cons letter rest =>
      rw [List.cons_append]
      simp only [readEscape]
      split
      · exact continues_error
      split
      · exact (continues_readHex verbose 2 rest suffix).mapWeaken _ _ _
      split
      · exact (continues_readHex verbose 4 rest suffix).mapWeaken _ _ _
      split
      · exact (continues_readHex verbose 8 rest suffix).mapWeaken _ _ _
      split
      · exact (continues_readUnicodeClass verbose _ rest suffix).weaken _ _
      split
      · exact (continues_readWordBoundary verbose rest suffix).mapWeaken _ _ _
      split
      · exact continues_ok rfl (behind_append _ _)
      · exact continues_error

/-! ## What escapes leave -/

theorem trims_readHexDigits
    (verbose : Bool)
    (count : Nat)
    (text : List Char) :
    Trims (readHexDigits verbose count text) := by
  induction count generalizing text with
  | zero => exact trims_ok List.suffix_rfl
  | succ count inductionHypothesis =>
      cases text with
      | nil => exact trims_error
      | cons char rest =>
          rw [readHexDigits]
          split
          · exact (inductionHypothesis _).change
              ((skipBlank_suffix verbose rest).trans (List.suffix_cons char rest)) fun _ => rfl
          · exact trims_error

theorem trims_readBracedHex
    (verbose : Bool)
    (text : List Char) :
    Trims (readBracedHex verbose text) := by
  unfold readBracedHex
  dsimp only
  split
  · exact trims_error
  · next behind ends =>
      split
      · exact trims_error
      · exact trims_bind fun char _ => trims_ok
          ((skipBlank_suffix verbose behind).trans (suffix_of_readRun_eq_cons ends))
  · exact trims_error

theorem trims_readHex
    (verbose : Bool)
    (count : Nat)
    (text : List Char) :
    Trims (readHex verbose count text) := by
  unfold readHex
  split
  · exact trims_error
  · next body skipped =>
      exact (trims_readBracedHex verbose body).change (suffix_of_skipBlank_eq_cons skipped)
        fun _ => rfl
  · next first body _ skipped =>
      refine trims_bind fun digits found => trims_bind fun char _ => trims_ok ?_
      exact (trims_readHexDigits verbose count _ digits found).trans
        (skipped ▸ skipBlank_suffix verbose text)

theorem trims_readUnicodeClass
    (verbose negated : Bool)
    (text : List Char) :
    Trims (readUnicodeClass verbose negated text) := by
  unfold readUnicodeClass
  split
  · exact trims_error
  · next body skipped =>
      dsimp only
      split
      · exact trims_error
      · next ends =>
          exact trims_ok ((suffix_of_readRun_eq_cons ends).trans
            (suffix_of_skipBlank_eq_cons skipped))
  · exact trims_error
  · next letter rest _ _ skipped => exact trims_ok (suffix_of_skipBlank_eq_cons skipped)

theorem trims_readWordBoundary
    (verbose : Bool)
    (text : List Char) :
    Trims (readWordBoundary verbose text) := by
  unfold readWordBoundary
  split
  · dsimp only
    split
    · exact trims_error
    split
    · exact trims_ok List.suffix_rfl
    split
    · next ends =>
        split
        · exact trims_ok ((suffix_of_readRun_eq_cons ends).trans (List.suffix_cons _ _))
        · exact trims_error
    · exact trims_error
  · exact trims_ok List.suffix_rfl

theorem trims_readEscape
    (verbose : Bool)
    (text : List Char) :
    Trims (readEscape verbose text) := by
  cases text with
  | nil => exact trims_error
  | cons letter rest =>
      have inside := List.suffix_cons letter rest
      simp only [readEscape]
      split
      · exact trims_error
      split
      · exact (trims_readHex verbose 2 rest).change inside fun _ => rfl
      split
      · exact (trims_readHex verbose 4 rest).change inside fun _ => rfl
      split
      · exact (trims_readHex verbose 8 rest).change inside fun _ => rfl
      split
      · exact (trims_readUnicodeClass verbose _ rest).change inside fun _ => rfl
      split
      · exact (trims_readWordBoundary verbose rest).change inside fun _ => rfl
      split
      · exact trims_ok inside
      · exact trims_error

end Linear
end LineExtraction
