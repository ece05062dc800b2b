import LineExtraction.Linear.Reader.Quantifier
import LineExtraction.Proofs.Linear.Continuation

/-!
# Quantifiers in a longer text

A quantifier reads the same whatever stands behind the text that it ends in.
-/

namespace LineExtraction
namespace Linear

theorem skipAround_nil
    (verbose : Bool) :
    skipAround verbose [] = [] := by
  rw [skipAround]

theorem skipAround_append
    (verbose : Bool)
    (text suffix : List Char)
    (left : skipAround verbose text ≠ []) :
    skipAround verbose (text ++ suffix) = skipAround verbose text ++ suffix := by
  fun_induction skipAround verbose text with
  | case1 => exact absurd rfl left
  | case2 char rest blank inductionHypothesis =>
      have more : skipBlank verbose rest ≠ [] := by
        intro ended
        rw [ended, skipAround_nil] at left
        exact left rfl
      rw [List.cons_append, skipAround, if_pos blank,
        (behind_skipBlank verbose rest suffix).eq_append more]
      exact inductionHypothesis left
  | case3 char rest notBlank =>
      rw [List.cons_append, skipAround, if_neg notBlank]

theorem readCount_append
    (verbose : Bool)
    (text suffix : List Char)
    (left : (readCount verbose text).rest ≠ []) :
    (readCount verbose (text ++ suffix)).value = (readCount verbose text).value ∧
      (readCount verbose (text ++ suffix)).rest = (readCount verbose text).rest ++ suffix := by
  have behindDigits :
      (readRun verbose Char.isDigit (skipWhiteSpace text)).rest ≠ [] := by
    intro ended
    refine left ?_
    show skipAround verbose (readRun verbose Char.isDigit (skipWhiteSpace text)).rest = []
    rw [ended, skipAround_nil]
  have behindBlank : text.dropWhile Unicode.isWhiteSpace ≠ [] := by
    intro ended
    refine behindDigits ?_
    rw [skipWhiteSpace, ended, readRun_nil]
  obtain ⟨value, rest⟩ :=
    readRun_append verbose Char.isDigit (skipWhiteSpace text) suffix behindDigits
  rw [skipWhiteSpace, ← dropWhile_append _ suffix behindBlank] at value rest
  refine ⟨congrArg countOf value, ?_⟩
  exact (congrArg (skipAround verbose) rest).trans
    (skipAround_append verbose _ suffix left)

theorem behind_readLaziness
    {verbose : Bool}
    {text longer suffix : List Char}
    (behind : Behind verbose suffix text longer)
    (room : (readLaziness text).rest ≠ [] ∨ Closing suffix) :
    (readLaziness longer).value = (readLaziness text).value ∧
      Behind verbose suffix (readLaziness text).rest (readLaziness longer).rest := by
  by_cases lazy : text.head? = some '?'
  · obtain ⟨rest, rfl⟩ : ∃ rest, text = '?' :: rest := by
      cases text with
      | nil => cases lazy
      | cons first rest => exact ⟨rest, by rw [Option.some.inj lazy]⟩
    obtain rfl : longer = '?' :: rest ++ suffix := behind.eq_append (List.cons_ne_nil _ _)
    exact ⟨rfl, behind_append suffix rest⟩
  · have greedy : ∀ {rest : List Char}, rest.head? ≠ some '?' →
        readLaziness rest = ⟨true, rest, Nat.le_refl _⟩ := by
      intro rest other
      unfold readLaziness
      split
      · exact absurd rfl other
      · rfl
    rw [greedy lazy] at room ⊢
    rw [greedy (behind.head?_ne room (by decide) lazy)]
    exact ⟨rfl, behind⟩

theorem continues_readCountEnd
    (verbose : Bool)
    (min : Nat)
    (max : Option Nat)
    (text suffix : List Char) :
    Continues verbose suffix (readCountEnd verbose min max text)
      (readCountEnd verbose min max (text ++ suffix)) := by
  cases text with
  | nil => exact continues_error
  | cons first rest =>
      by_cases closes : first = '}'
      · subst closes
        rw [List.cons_append]
        simp only [readCountEnd]
        split
        · exact continues_error
        · intro read found room
          obtain rfl := Except.ok.inj found
          obtain ⟨value, behind⟩ :=
            behind_readLaziness (behind_skipBlank verbose rest suffix) room
          exact ⟨_, rfl, by rw [value], behind⟩
      · rw [readCountEnd]
        · exact continues_error
        · intro rest same
          exact closes (List.cons.inj same).1

theorem readCountEnd_ne_ok
    {verbose : Bool}
    {min : Nat}
    {max : Option Nat}
    {text : List Char}
    (ended : text = [])
    {read : Read Repeat text} :
    readCountEnd verbose min max text ≠ .ok read := by
  subst ended
  exact nofun

theorem continues_readCounted
    (verbose : Bool)
    (text suffix : List Char) :
    Continues verbose suffix (readCounted verbose text) (readCounted verbose (text ++ suffix)) := by
  unfold readCounted
  split
  · exact continues_error
  next started =>
    have start : skipBlank verbose (text ++ suffix) = skipBlank verbose text ++ suffix :=
      (behind_skipBlank verbose text suffix).eq_append (by simpa using started)
    have lowCount := readCount_append verbose (skipBlank verbose text) suffix
    rw [← start] at lowCount
    rw [if_neg (by rw [start]; simpa using fun ended => absurd ended (by simpa using started))]
    dsimp only
    split
    · exact continues_error
    · next behind lowRest =>
        obtain ⟨lowValue, lowLonger⟩ := lowCount (by rw [lowRest]; exact List.cons_ne_nil _ _)
        rw [lowRest] at lowLonger
        split
        · exact continues_error
        · next rest closes =>
            have closes' := skipBlank_append suffix closes
            split
            · grind
            · next lowRest' =>
                obtain ⟨-, rfl⟩ := List.cons.inj (lowLonger.symm.trans lowRest')
                split
                · grind
                · next closes'' =>
                    obtain ⟨-, rfl⟩ := List.cons.inj (closes'.symm.trans closes'')
                    exact continues_bind lowValue fun min _ =>
                      (continues_readCountEnd verbose min none ('}' :: rest) suffix).weaken _ _
                · grind
            · grind
        · next first rest notClosing next =>
            have next' := skipBlank_append suffix next
            split
            · grind
            · next lowRest' =>
                obtain ⟨-, rfl⟩ := List.cons.inj (lowLonger.symm.trans lowRest')
                split
                · grind
                · grind
                · next next'' =>
                    obtain ⟨rfl, rfl⟩ := List.cons.inj (next'.symm.trans next'')
                    refine continues_bind lowValue fun min _ => ?_
                    by_cases ended : (readCount verbose (first :: rest)).rest = []
                    · intro read found
                      obtain ⟨max, -, found⟩ := Except.bind_eq_ok_iff.mp found
                      obtain ⟨read, found, -⟩ := Except.bind_eq_ok_iff.mp found
                      exact absurd found (readCountEnd_ne_ok ended)
                    · obtain ⟨highValue, highRest⟩ :=
                        readCount_append verbose (first :: rest) suffix ended
                      refine continues_bind highValue fun max _ => ?_
                      have ends := continues_readCountEnd verbose min (some max)
                        (readCount verbose (first :: rest)).rest suffix
                      rw [← highRest] at ends
                      exact ends.weaken _ _
            · grind
    · next first rest notComma lowRest =>
        obtain ⟨lowValue, lowLonger⟩ := lowCount (by rw [lowRest]; exact List.cons_ne_nil _ _)
        rw [lowRest] at lowLonger
        split
        · grind
        · grind
        · next lowRest' =>
            obtain ⟨rfl, rfl⟩ := List.cons.inj (lowLonger.symm.trans lowRest')
            exact continues_bind lowValue fun min _ =>
              (continues_readCountEnd verbose min (some min) (_ :: _) suffix).weaken _ _

theorem continues_readQuantifier?
    (verbose : Bool)
    (first : Char)
    (text suffix : List Char) :
    (readQuantifier? verbose first (text ++ suffix)).isSome =
        (readQuantifier? verbose first text).isSome ∧
      ∀ short ∈ readQuantifier? verbose first text,
        ∀ long ∈ readQuantifier? verbose first (text ++ suffix), Continues verbose suffix short long := by
  have lazily : ∀ min max, Continues verbose suffix
      (.ok ((readLaziness text).map fun greedy => ⟨min, max, greedy⟩))
      (.ok ((readLaziness (text ++ suffix)).map fun greedy => (⟨min, max, greedy⟩ : Repeat))) := by
    intro min max read found room
    obtain rfl := Except.ok.inj found
    obtain ⟨value, behind⟩ := behind_readLaziness (behind_append suffix text) room
    exact ⟨_, rfl, congrArg (Repeat.mk min max) value, behind⟩
  unfold readQuantifier?
  split
  · refine ⟨rfl, ?_⟩
    rintro _ ⟨⟩ _ ⟨⟩
    exact lazily _ _
  · refine ⟨rfl, ?_⟩
    rintro _ ⟨⟩ _ ⟨⟩
    exact lazily _ _
  · refine ⟨rfl, ?_⟩
    rintro _ ⟨⟩ _ ⟨⟩
    exact lazily _ _
  · refine ⟨rfl, ?_⟩
    rintro _ ⟨⟩ _ ⟨⟩
    exact continues_readCounted verbose text suffix
  · exact ⟨rfl, nofun⟩

end Linear
end LineExtraction
