import LineExtraction.Proofs.Backtracking.Reading

/-!
# Reading quantifiers

The quantifier of a phrase is read back with its counts and its signs, where the pattern in
front of it may repeat.
-/

namespace LineExtraction

/-- The least and the greatest count that the backtracking dialect reads. -/
def Pattern.Counts.limits : Pattern.Counts → Backtracking.Counts
  | optional => (0, some 1)
  | star => (0, none)
  | plus => (1, none)
  | exactly digits => (decimalValue digits, Backtracking.boundOf (decimalValue digits))
  | atLeast digits => (decimalValue digits, none)
  | between least greatest =>
    (decimalValue least, Backtracking.boundOf (decimalValue greatest))

/-- What the backtracking dialect reads a quantifier as. -/
def Pattern.Quantifier.backtracking (quantifier : Pattern.Quantifier) : Backtracking.Quantifier :=
  ⟨quantifier.counts.limits.1, quantifier.counts.limits.2, !quantifier.lazy,
    quantifier.possessive⟩

namespace Backtracking

open Pattern (isClear)

theorem skipIgnored?_of_ne
    {first : Char}
    (apart : first ≠ '(')
    (rest : List Char) :
    skipIgnored? false (first :: rest) = some ⟨(), first :: rest, Nat.le_refl _⟩ := by
  rw [skipIgnored?, skipIgnored_of_not_comment]
  · rfl
  · rintro more ⟨⟩
    exact apart rfl

theorem readWhile_append_cons
    {accepts : Char → Bool}
    {run : List Char}
    (accepted : run.all accepts)
    {stop : Char}
    (refused : accepts stop = false)
    (more : List Char) :
    ∃ shorter, readWhile accepts (run ++ stop :: more) = ⟨run, stop :: more, shorter⟩ := by
  have all : ∀ char ∈ run, accepts char := List.all_eq_true.mp accepted
  have taken : (run ++ stop :: more).takeWhile accepts = run := by
    rw [List.takeWhile_append_of_pos all, List.takeWhile_cons_of_neg (by simp [refused]),
      List.append_nil]
  have dropped : (run ++ stop :: more).dropWhile accepts = stop :: more := by
    rw [List.dropWhile_append_of_pos all, List.dropWhile_cons_of_neg (by simp [refused])]
  have read : ∀ (value rest : List Char) (shorter : rest.length ≤ (run ++ stop :: more).length),
      value = run → rest = stop :: more →
      ∃ bound, (⟨value, rest, shorter⟩ : Read (List Char) _) = ⟨run, stop :: more, bound⟩ := by
    rintro _ _ shorter rfl rfl
    exact ⟨shorter, rfl⟩
  exact read _ _ _ taken dropped

theorem readNumber?_numeral
    {digits : List Char}
    (numeral : Pattern.Counts.isNumeral digits)
    {stop : Char}
    (ends : stop.isDigit = false)
    (more : List Char) :
    ∃ shorter, readNumber? (digits ++ stop :: more) =
      some ⟨decimalValue digits, stop :: more, shorter⟩ := by
  obtain ⟨some, decimal, small⟩ := of_decide_eq_true numeral
  obtain ⟨shorter, run⟩ := readWhile_append_cons decimal ends more
  have number : numberOf? maximalNumber digits = .some (decimalValue digits) :=
    if_pos ⟨by simpa using some, decimal, small⟩
  refine ⟨shorter, ?_⟩
  rw [readNumber?, run]
  simp only [number]
  rfl

theorem exists_numeral
    {digits : List Char}
    (numeral : Pattern.Counts.isNumeral digits) :
    ∃ digit rest, digits = digit :: rest ∧ digit ∉ ['(', ',', '\x7d'] := by
  obtain ⟨some, decimal, -⟩ := of_decide_eq_true numeral
  cases digits with
  | nil => exact absurd rfl some
  | cons digit rest =>
      refine ⟨digit, rest, rfl, fun member => ?_⟩
      have checked : ['(', ',', '\x7d'].all fun char => char.isDigit = false := by decide +kernel
      have other := of_decide_eq_true (List.all_eq_true.mp checked digit member)
      exact Bool.false_ne_true
        (other.symm.trans (List.all_eq_true.mp decimal digit List.mem_cons_self))

theorem skipIgnored?_numeral
    {digits : List Char}
    (numeral : Pattern.Counts.isNumeral digits)
    (more : List Char) :
    skipIgnored? false (digits ++ more) = some ⟨(), digits ++ more, Nat.le_refl _⟩ := by
  obtain ⟨digit, rest, rfl, apart⟩ := exists_numeral numeral
  exact skipIgnored?_of_ne (List.ne_of_not_mem_cons apart) _

theorem readLeastCount?_numeral
    {digits : List Char}
    (numeral : Pattern.Counts.isNumeral digits)
    {stop : Char}
    (ends : stop.isDigit = false)
    (more : List Char) :
    ∃ shorter, readLeastCount? (digits ++ stop :: more) =
      some ⟨decimalValue digits, stop :: more, shorter⟩ := by
  obtain ⟨shorter, read⟩ := readNumber?_numeral numeral ends more
  obtain ⟨digit, rest, rfl, apart⟩ := exists_numeral numeral
  refine ⟨shorter, ?_⟩
  rw [← read, List.cons_append, readLeastCount?]
  rintro _ same
  obtain ⟨rfl, -⟩ := List.cons.inj same
  exact apart (List.mem_cons_of_mem _ List.mem_cons_self)

theorem readGreatestCount_numeral
    {digits : List Char}
    (numeral : Pattern.Counts.isNumeral digits)
    (more : List Char) :
    ∃ shorter, readGreatestCount (digits ++ '\x7d' :: more) =
      ⟨boundOf (decimalValue digits), '\x7d' :: more, shorter⟩ := by
  obtain ⟨shorter, read⟩ := readNumber?_numeral numeral (by decide : '\x7d'.isDigit = false) more
  refine ⟨shorter, ?_⟩
  rw [readGreatestCount, read]
  rfl

/-- A count in front of the closing brace. -/
theorem readCounts?_exactly
    {digits : List Char}
    (numeral : Pattern.Counts.isNumeral digits)
    (more : List Char) :
    ∃ shorter, readCounts? false (digits ++ '\x7d' :: more) =
      some ⟨(decimalValue digits, boundOf (decimalValue digits)), more, shorter⟩ := by
  obtain ⟨shorter, least⟩ :=
    readLeastCount?_numeral numeral (by decide : '\x7d'.isDigit = false) more
  refine ⟨Nat.le_of_succ_le shorter, ?_⟩
  rw [readCounts?, skipIgnored?_numeral numeral]
  simp only [bind, Option.bind]
  rw [least]
  rfl

/-- A count in front of a comma and the closing brace. -/
theorem readCounts?_atLeast
    {digits : List Char}
    (numeral : Pattern.Counts.isNumeral digits)
    (more : List Char) :
    ∃ shorter, readCounts? false (digits ++ ',' :: '\x7d' :: more) =
      some ⟨(decimalValue digits, none), more, shorter⟩ := by
  obtain ⟨shorter, least⟩ :=
    readLeastCount?_numeral numeral (by decide : ','.isDigit = false) ('\x7d' :: more)
  refine ⟨Nat.le_of_succ_le (Nat.le_of_succ_le shorter), ?_⟩
  rw [readCounts?, skipIgnored?_numeral numeral]
  simp only [bind, Option.bind]
  rw [least]
  rfl

/-- Two counts with a comma between them. -/
theorem readCounts?_between
    {least greatest : List Char}
    (leastNumeral : Pattern.Counts.isNumeral least)
    (greatestNumeral : Pattern.Counts.isNumeral greatest)
    (more : List Char) :
    ∃ shorter, readCounts? false (least ++ ',' :: (greatest ++ '\x7d' :: more)) =
      some ⟨(decimalValue least, boundOf (decimalValue greatest)), more, shorter⟩ := by
  obtain ⟨shorter, low⟩ := readLeastCount?_numeral leastNumeral (by decide : ','.isDigit = false)
    (greatest ++ '\x7d' :: more)
  obtain ⟨highShorter, high⟩ := readGreatestCount_numeral greatestNumeral more
  have bound : more.length ≤ (least ++ ',' :: (greatest ++ '\x7d' :: more)).length := by
    simp only [List.length_append, List.length_cons]
    omega
  refine ⟨bound, ?_⟩
  rw [readCounts?, skipIgnored?_numeral leastNumeral]
  simp only [bind, Option.bind]
  rw [low]
  simp only [skipIgnored?_of_ne (show ',' ≠ '(' by decide), skipIgnored?_numeral greatestNumeral]
  have brace : ∃ read, readBrace? false
      (decimalValue least, (readGreatestCount (greatest ++ '\x7d' :: more)).value)
      (readGreatestCount (greatest ++ '\x7d' :: more)).rest = some read ∧
      read.value = (decimalValue least, boundOf (decimalValue greatest)) ∧ read.rest = more := by
    rw [high]
    exact ⟨_, rfl, rfl, rfl⟩
  obtain ⟨⟨value, rest, shorter⟩, found, rfl, left⟩ := brace
  obtain rfl : rest = more := left
  rw [found]
  rfl

/-! ## Quantifiers -/

/-- The counts of a quantifier are read whatever stands behind them. -/
theorem readQuantifierHead?_counts
    {counts : Pattern.Counts}
    (valid : counts.isValid)
    (more : List Char) :
    ∃ shorter, readQuantifierHead? false (counts.text ++ more) =
      some ⟨counts.limits, more, shorter⟩ := by
  have braces {text : List Char} {limits : Backtracking.Counts}
      (read : ∃ shorter, readCounts? false text = some ⟨limits, more, shorter⟩) :
      ∃ shorter, readQuantifierHead? false ('\x7b' :: text) = some ⟨limits, more, shorter⟩ := by
    obtain ⟨shorter, read⟩ := read
    exact ⟨Nat.le_succ_of_le shorter, by rw [readQuantifierHead?, read]; rfl⟩
  cases counts with
  | exactly digits =>
      rw [show (Pattern.Counts.exactly digits).text ++ more =
        '\x7b' :: (digits ++ '\x7d' :: more) by simp [Pattern.Counts.text]]
      exact braces (readCounts?_exactly valid more)
  | atLeast digits =>
      rw [show (Pattern.Counts.atLeast digits).text ++ more =
        '\x7b' :: (digits ++ ',' :: '\x7d' :: more) by simp [Pattern.Counts.text]]
      exact braces (readCounts?_atLeast valid more)
  | between least greatest =>
      obtain ⟨low, high⟩ := of_decide_eq_true valid
      rw [show (Pattern.Counts.between least greatest).text ++ more =
        '\x7b' :: (least ++ ',' :: (greatest ++ '\x7d' :: more)) by simp [Pattern.Counts.text]]
      exact braces (readCounts?_between low high more)
  | _ => exact ⟨_, rfl⟩

theorem readMark_optional
    (wanted : Char)
    (wants : Bool)
    {more : List Char}
    (apart : ∀ rest, more ≠ wanted :: rest) :
    ∃ shorter, readMark wanted ((if wants then [wanted] else []) ++ more) =
      ⟨wants, more, shorter⟩ := by
  cases wants with
  | true => exact ⟨_, if_pos rfl⟩
  | false =>
      cases more with
      | nil => exact ⟨_, rfl⟩
      | cons first rest =>
          have other : first ≠ wanted := by
            rintro rfl
            exact apart rest rfl
          exact ⟨_, if_neg other⟩

theorem skipIgnored_signs
    (lazy possessive : Bool)
    {more : List Char}
    (clear : isClear more) :
    skipIgnored false ((if lazy then ['?'] else []) ++ ((if possessive then ['+'] else []) ++ more)) =
      .ok ⟨(), _, Nat.le_refl _⟩ := by
  refine skipIgnored_of_not_comment ?_
  cases lazy with
  | true => rintro rest ⟨⟩
  | false =>
      cases possessive with
      | true => rintro rest ⟨⟩
      | false =>
          rintro rest rfl
          cases clear

/-- The quantifier of a phrase is read back behind what may repeat. -/
theorem yields_readQuantifier
    {quantifier : Pattern.Quantifier}
    (valid : quantifier.counts.isValid)
    {more : List Char}
    (clear : isClear more) :
    Yields (readQuantifier false false true (quantifier.text ++ more))
      (some quantifier.backtracking) more := by
  obtain ⟨counts, lazy, possessive⟩ := quantifier
  let signs := (if lazy then ['?'] else []) ++ ((if possessive then ['+'] else []) ++ more)
  have text : (Pattern.Quantifier.mk counts lazy possessive).text ++ more = counts.text ++ signs := by
    simp [Pattern.Quantifier.text, signs]
  rw [text]
  obtain ⟨shorter, head⟩ := readQuantifierHead?_counts valid signs
  have front : skipIgnored false (counts.text ++ signs) =
      .ok ⟨(), counts.text ++ signs, Nat.le_refl _⟩ := by
    refine skipIgnored_of_not_comment ?_
    cases counts <;> rintro rest ⟨⟩
  have notPlus : ∀ rest, more ≠ '+' :: rest := by
    rintro rest rfl
    cases clear
  have notMark : ∀ rest, (if possessive then ['+'] else []) ++ more ≠ '?' :: rest := by
    cases possessive with
    | true => rintro rest ⟨⟩
    | false =>
        rintro rest rfl
        cases clear
  obtain ⟨lazyShorter, lazyRead⟩ := readMark_optional '?' lazy notMark
  obtain ⟨possessiveShorter, possessiveRead⟩ := readMark_optional '+' possessive notPlus
  rw [yields_iff]
  unfold readQuantifier
  rw [front]
  simp only [bind, Except.bind]
  rw [head]
  simp only [not_true_eq_false, if_false, pure, Except.pure, signs,
    skipIgnored_signs lazy possessive clear]
  have behind : (readMark '?' signs).rest = (if possessive then ['+'] else []) ++ more :=
    congrArg Read.rest lazyRead
  refine ⟨_, rfl, ?_, ?_⟩
  · dsimp only [signs] at behind ⊢
    rw [behind, possessiveRead, lazyRead, beq_false]
    rfl
  · dsimp only [signs] at behind ⊢
    rw [behind, possessiveRead]

/-- Behind what may not repeat a quantifier is refused. -/
theorem readQuantifier_eq_error
    {quantifier : Pattern.Quantifier}
    (valid : quantifier.counts.isValid)
    (more : List Char) :
    readQuantifier false false false (quantifier.text ++ more) = .error .targetNotRepeatable := by
  obtain ⟨counts, lazy, possessive⟩ := quantifier
  have text : (Pattern.Quantifier.mk counts lazy possessive).text ++ more =
      counts.text ++ ((if lazy then ['?'] else []) ++ ((if possessive then ['+'] else []) ++ more)) := by
    simp [Pattern.Quantifier.text]
  rw [text]
  obtain ⟨shorter, head⟩ := readQuantifierHead?_counts valid
    ((if lazy then ['?'] else []) ++ ((if possessive then ['+'] else []) ++ more))
  have front : skipIgnored false
      (counts.text ++ ((if lazy then ['?'] else []) ++ ((if possessive then ['+'] else []) ++ more))) =
        .ok ⟨(), _, Nat.le_refl _⟩ :=
    skipIgnored_of_not_comment (by cases counts <;> rintro rest ⟨⟩)
  unfold readQuantifier
  rw [front]
  simp only [bind, Except.bind]
  rw [head]
  rfl

end Backtracking
end LineExtraction
