import LineExtraction.Proofs.Unicode.OrderedSet
import LineExtraction.Unicode.ClassName

/-!
# Named sets are ordered

Every set of characters that can be asked for by name is in the form that the operations
on sets rely on, and so is every set closed under case.  For the tables that is checked
range by range; for the rest it follows from the operations.
-/

namespace LineExtraction
namespace Unicode

open CodePointSet

/-- Whether ranges of scalar values ascend from `least` on with a gap between any two. -/
def ascendsFrom (least : Nat) : List CodePointRange → Bool
  | [] => true
  | range :: rest =>
    least.ble range.first && range.first.ble range.last &&
      range.last.ble CodePointRange.maximum &&
      (range.last.blt CodePointRange.surrogates.first ||
        CodePointRange.surrogates.last.blt range.first) &&
      ascendsFrom (range.last + 2) rest

theorem apart_of_ascendsFrom
    {least : Nat}
    {ranges : List CodePointRange}
    (checked : ascendsFrom least ranges = true) :
    Apart ranges ∧ (∀ range ∈ ranges, least ≤ range.first) ∧
      ∀ codePoint, Holds ranges codePoint → codePoint.isValidChar := by
  induction ranges generalizing least with
  | nil => exact ⟨⟨List.Pairwise.nil, nofun⟩, nofun, fun codePoint member => by simp [Holds] at member⟩
  | cons range rest inductionHypothesis =>
      simp only [ascendsFrom, Bool.and_eq_true, Bool.or_eq_true, Nat.ble_eq, Nat.blt_eq]
        at checked
      obtain ⟨⟨⟨⟨low, proper⟩, bounded⟩, clear⟩, others⟩ := checked
      obtain ⟨apart, restLow, valid⟩ := inductionHypothesis others
      refine ⟨⟨List.pairwise_cons.mpr ⟨fun other member => ?_, apart.gap⟩, ?_⟩, ?_, ?_⟩
      · have := restLow other member
        omega
      · intro other member
        rcases List.mem_cons.mp member with rfl | later
        · exact proper
        · exact apart.proper other later
      · intro other member
        rcases List.mem_cons.mp member with rfl | later
        · exact low
        · have := restLow other later
          omega
      · intro codePoint member
        rcases (holds_cons ..).mp member with ⟨above, below⟩ | later
        · simp only [CodePointRange.surrogates, CodePointRange.maximum] at clear bounded
          rw [Nat.isValidChar]
          omega
        · exact valid codePoint later

/-- A set whose ranges pass the check is ordered. -/
theorem ordered_of_ascends
    {set : CodePointSet}
    (checked : ascendsFrom 0 set.ranges = true) :
    set.Ordered := by
  obtain ⟨apart, -, valid⟩ := apart_of_ascendsFrom checked
  exact ⟨apart, fun codePoint member => valid codePoint ((contains_iff _ _).mp member)⟩

/-! ## The tables -/

/-- The tables of the general categories, of words and of letters. -/
def categoryTables : List (List CodePointRange) :=
  [GeneralCategoryTable.uppercaseLetter, GeneralCategoryTable.lowercaseLetter,
    GeneralCategoryTable.titlecaseLetter, GeneralCategoryTable.modifierLetter,
    GeneralCategoryTable.otherLetter, GeneralCategoryTable.nonspacingMark,
    GeneralCategoryTable.spacingMark, GeneralCategoryTable.enclosingMark,
    GeneralCategoryTable.decimalNumber, GeneralCategoryTable.letterNumber,
    GeneralCategoryTable.otherNumber, GeneralCategoryTable.connectorPunctuation,
    GeneralCategoryTable.dashPunctuation, GeneralCategoryTable.openPunctuation,
    GeneralCategoryTable.closePunctuation, GeneralCategoryTable.initialPunctuation,
    GeneralCategoryTable.finalPunctuation, GeneralCategoryTable.otherPunctuation,
    GeneralCategoryTable.mathSymbol, GeneralCategoryTable.currencySymbol,
    GeneralCategoryTable.modifierSymbol, GeneralCategoryTable.otherSymbol,
    GeneralCategoryTable.spaceSeparator, GeneralCategoryTable.lineSeparator,
    GeneralCategoryTable.paragraphSeparator, GeneralCategoryTable.control,
    GeneralCategoryTable.format, GeneralCategoryTable.privateUse, WordTable.word,
    WordTable.letter]

/-- The tables of exceptions among the changes of case and the boundaries. -/
def exceptionTables : List (List CodePointRange) :=
  [CaseChange.lonelyCapitals, CaseChange.symbolCapitals, CaseChange.lonelySmalls,
    CaseChange.ownTitles, CaseChange.digraphCapitals, CaseChange.foldingTargets,
    CaseChange.foldedSmalls, GraphemeBreak.reservedControls, [GraphemeBreak.skinColours],
    GraphemeBreak.looseSpacingMarks, WordBreak.unspaced, WordBreak.wordModifiers,
    SentenceBreak.otherClosings]

/-- All tables of ranges, and the Hangul syllables. -/
def rangeTables : List (List CodePointRange) :=
  categoryTables ++ (exceptionTables ++ (PropertyTable.all.map (·.ranges) ++
    (ScriptTable.all.map (·.ranges) ++ (AgeTable.versions.map (·.added) ++
      [GraphemeBreak.leadVowel.ranges, GraphemeBreak.leadVowelTail.ranges]))))

/-- All tables of ranges pass the check, and the other tables hold code points only. -/
theorem tables_checked :
    rangeTables.all (ascendsFrom 0) ∧
      (∀ entry ∈ ScriptExtensionTable.entries, entry.1.last ≤ CodePointRange.maximum) ∧
      ∀ codePoints ∈ CaseTable.classes, ∀ codePoint ∈ codePoints,
        codePoint ≤ CodePointRange.maximum := by
  decide +kernel

theorem ordered_table
    {ranges : List CodePointRange}
    (member : ranges ∈ rangeTables) :
    (CodePointSet.mk ranges).Ordered :=
  ordered_of_ascends (List.all_eq_true.mp tables_checked.1 _ member)

theorem ordered_category
    {ranges : List CodePointRange}
    (member : ranges ∈ categoryTables) :
    (CodePointSet.mk ranges).Ordered :=
  ordered_table (List.mem_append_left _ member)

theorem ordered_exception
    {ranges : List CodePointRange}
    (member : ranges ∈ exceptionTables) :
    (CodePointSet.mk ranges).Ordered :=
  ordered_table (List.mem_append_right _ (List.mem_append_left _ member))

theorem ordered_property
    {property : BinaryProperty}
    (member : property ∈ PropertyTable.all) :
    (CodePointSet.mk property.ranges).Ordered :=
  ordered_table (List.mem_append_right _ (List.mem_append_right _
    (List.mem_append_left _ (List.mem_map_of_mem member))))

theorem ordered_script
    {script : Script}
    (member : script ∈ ScriptTable.all) :
    (CodePointSet.mk script.ranges).Ordered :=
  ordered_table (List.mem_append_right _ (List.mem_append_right _ (List.mem_append_right _
    (List.mem_append_left _ (List.mem_map_of_mem member)))))

theorem ordered_version
    {version : DatabaseVersion}
    (member : version ∈ AgeTable.versions) :
    (CodePointSet.mk version.added).Ordered :=
  ordered_table (List.mem_append_right _ (List.mem_append_right _ (List.mem_append_right _
    (List.mem_append_right _ (List.mem_append_left _ (List.mem_map_of_mem member))))))

/-- The Hangul syllables are ordered. -/
theorem ordered_syllables
    {ranges : List CodePointRange}
    (member : ranges ∈ [GraphemeBreak.leadVowel.ranges, GraphemeBreak.leadVowelTail.ranges]) :
    (CodePointSet.mk ranges).Ordered :=
  ordered_table (List.mem_append_right _ (List.mem_append_right _ (List.mem_append_right _
    (List.mem_append_right _ (List.mem_append_right _ member)))))

theorem ordered_unionOf
    {tables : List (List CodePointRange)}
    (ordered : ∀ ranges ∈ tables, (CodePointSet.mk ranges).Ordered) :
    (unionOf tables).Ordered := by
  have grows (set : CodePointSet) (setOrdered : set.Ordered) :
      (tables.foldl (fun set ranges => set.union ⟨ranges⟩) set).Ordered := by
    induction tables generalizing set with
    | nil => exact setOrdered
    | cons ranges tables inductionHypothesis =>
        exact inductionHypothesis (fun other member => ordered other (by simp [member])) _
          (setOrdered.union (ordered ranges List.mem_cons_self))
  exact grows _ ordered_empty

/-- The union of tables of categories. -/
theorem ordered_unionOf_categories
    {tables : List (List CodePointRange)}
    (members : ∀ ranges ∈ tables, ranges ∈ categoryTables) :
    (unionOf tables).Ordered :=
  ordered_unionOf fun ranges member => ordered_category (members ranges member)

/-! ## Categories -/

namespace GeneralCategory

open GeneralCategoryTable

theorem ordered_casedLetter : casedLetter.Ordered := ordered_unionOf_categories (by simp [categoryTables])

theorem ordered_letter : letter.Ordered := ordered_category (by simp [categoryTables])

theorem ordered_mark : mark.Ordered := ordered_unionOf_categories (by simp [categoryTables])

theorem ordered_number : number.Ordered := ordered_unionOf_categories (by simp [categoryTables])

theorem ordered_punctuation : punctuation.Ordered := ordered_unionOf_categories (by simp [categoryTables])

theorem ordered_symbol : symbol.Ordered := ordered_unionOf_categories (by simp [categoryTables])

theorem ordered_separator : separator.Ordered := ordered_unionOf_categories (by simp [categoryTables])

/-- The characters that print nothing and the private ones. -/
theorem ordered_unprinted :
    (unionOf [control, GeneralCategoryTable.format, privateUse]).Ordered :=
  ordered_unionOf_categories (by simp [categoryTables])

theorem ordered_assigned : assigned.Ordered :=
  ((ordered_letter.union ordered_mark).union ordered_number).union
    (((ordered_punctuation.union ordered_symbol).union ordered_separator).union
      ordered_unprinted)

theorem ordered_other : other.Ordered := ordered_assigned.complement.union ordered_unprinted

theorem ordered_named?
    {name : String}
    {set : CodePointSet}
    (found : named? name = some set) :
    set.Ordered := by
  unfold named? at found
  split at found
  all_goals cases found
  all_goals first
    | with_reducible exact ordered_empty.complement
    | with_reducible exact ordered_assigned
    | with_reducible exact ordered_assigned.complement
    | with_reducible exact ordered_casedLetter
    | with_reducible exact ordered_letter
    | with_reducible exact ordered_mark
    | with_reducible exact ordered_number
    | with_reducible exact ordered_punctuation
    | with_reducible exact ordered_symbol
    | with_reducible exact ordered_separator
    | with_reducible exact ordered_other
    | with_reducible exact ordered_ofRange _ _ (by decide)
    | exact ordered_category (by simp [categoryTables])

end GeneralCategory

/-! ## Changes of case -/

namespace CaseChange

open GeneralCategoryTable

theorem ordered_lowercased : lowercased.Ordered :=
  ((ordered_unionOf_categories (by simp [categoryTables])).difference
    (ordered_exception (by simp [exceptionTables]))).union (ordered_exception (by simp [exceptionTables]))

theorem ordered_uppercased : uppercased.Ordered := by
  refine (ordered_unionOf fun ranges member => ?_).difference (ordered_exception (by simp [exceptionTables]))
  rcases List.mem_cons.mp member with rfl | member
  · exact ordered_property (by simp [PropertyTable.all])
  · rw [List.mem_singleton.mp member]
    exact ordered_category (by simp [categoryTables])

theorem ordered_titlecased : titlecased.Ordered :=
  (ordered_uppercased.difference (ordered_exception (by simp [exceptionTables]))).union
    (ordered_exception (by simp [exceptionTables]))

theorem ordered_casefolded : casefolded.Ordered :=
  (ordered_lowercased.difference (ordered_exception (by simp [exceptionTables]))).union
    (ordered_exception (by simp [exceptionTables]))

theorem ordered_casemapped : casemapped.Ordered :=
  (ordered_lowercased.union ordered_uppercased).union ordered_titlecased

theorem ordered_named?
    {name : String}
    {set : CodePointSet}
    (found : named? name = some set) :
    set.Ordered := by
  unfold named? at found
  split at found
  all_goals cases found
  all_goals first
    | with_reducible exact ordered_lowercased
    | with_reducible exact ordered_uppercased
    | with_reducible exact ordered_titlecased
    | with_reducible exact ordered_casefolded
    | with_reducible exact ordered_casemapped

end CaseChange

/-! ## Boundaries -/

namespace GraphemeBreak

open GeneralCategoryTable

theorem ordered_graphemeExtend : graphemeExtend.Ordered := by
  refine ordered_unionOf fun ranges member => ?_
  simp only [List.mem_cons, List.not_mem_nil, or_false] at member
  rcases member with rfl | rfl | rfl
  · exact ordered_category (by simp [categoryTables])
  · exact ordered_category (by simp [categoryTables])
  · exact ordered_property (by simp [PropertyTable.all])

theorem ordered_graphemeBase : graphemeBase.Ordered :=
  GeneralCategory.ordered_assigned.difference
    ((ordered_unionOf_categories (by simp [categoryTables])).union ordered_graphemeExtend)

theorem ordered_graphemeLink : graphemeLink.Ordered := ordered_ofRanges _ (by decide)

theorem ordered_prependedMarks :
    (CodePointSet.mk PropertyTable.prependedConcatenationMark.ranges).Ordered :=
  ordered_property (by simp [PropertyTable.all])

theorem ordered_numberSigns : numberSigns.Ordered :=
  ordered_prependedMarks.difference (ordered_ofRange _ _ (by decide))

theorem ordered_joiner : joiner.Ordered := ordered_ofRange _ _ (by decide)

theorem ordered_extend : extend.Ordered :=
  ordered_graphemeExtend.union (ordered_exception (by simp [exceptionTables]))

theorem ordered_prepended : prepended.Ordered :=
  ordered_prependedMarks.union (ordered_ofRanges _ (by decide))

theorem ordered_controls : controls.Ordered := by
  refine (ordered_unionOf fun ranges member => ?_).difference
    (((ordered_prepended.union ordered_extend).union ordered_joiner).union
      (ordered_ofRanges _ (by decide)))
  simp only [List.mem_cons, List.not_mem_nil, or_false] at member
  rcases member with rfl | rfl | rfl | rfl | rfl
  case inr.inr.inr.inr => exact ordered_exception (by simp [exceptionTables])
  all_goals exact ordered_category (by simp [categoryTables])

theorem ordered_spacingMarks : spacingMarks.Ordered :=
  ((ordered_category (by simp [categoryTables])).difference
    (ordered_graphemeExtend.union (ordered_exception (by simp [exceptionTables])))).union
      (ordered_ofRanges _ (by decide))

theorem ordered_leadVowel : leadVowel.Ordered :=
  ordered_syllables List.mem_cons_self

theorem ordered_leadVowelTail : leadVowelTail.Ordered :=
  ordered_syllables (List.mem_cons_of_mem _ List.mem_cons_self)

theorem ordered_vowels : vowels.Ordered := ordered_ofRanges _ (by decide)

theorem ordered_property?
    {name : String}
    {set : CodePointSet}
    (found : property? name = some set) :
    set.Ordered := by
  unfold property? at found
  split at found
  all_goals cases found
  all_goals first
    | with_reducible exact ordered_graphemeExtend
    | with_reducible exact ordered_graphemeBase
    | with_reducible exact ordered_graphemeLink

theorem ordered_named?
    {name : String}
    {set : CodePointSet}
    (found : named? name = some set) :
    set.Ordered := by
  unfold named? at found
  split at found
  all_goals cases found
  all_goals first
    | with_reducible exact ordered_controls
    | with_reducible exact ordered_extend
    | with_reducible exact ordered_prepended
    | with_reducible exact ordered_spacingMarks
    | with_reducible exact ordered_joiner
    | with_reducible exact ordered_ofRange _ _ (by decide)
    | with_reducible exact ordered_ofRanges _ (by decide)
    | with_reducible exact ordered_leadVowel
    | with_reducible exact ordered_leadVowelTail
    | with_reducible exact ordered_vowels
    | exact ordered_property (by simp [PropertyTable.all])

end GraphemeBreak

namespace WordBreak

open GeneralCategoryTable

theorem ordered_katakana : katakana.Ordered := ordered_ofRanges _ (by decide)

theorem ordered_hebrewLetter : hebrewLetter.Ordered := ordered_ofRanges _ (by decide)

theorem ordered_extend : extend.Ordered :=
  GraphemeBreak.ordered_extend.union (ordered_category (by simp [categoryTables]))

theorem ordered_letter : letter.Ordered := by
  refine Ordered.union (Ordered.difference (ordered_property (by simp [PropertyTable.all])) ?_)
    (Ordered.union (ordered_exception (by simp [exceptionTables])) (ordered_ofRange _ _ (by decide)))
  exact ((ordered_extend.union (ordered_property (by simp [PropertyTable.all]))).union
    (ordered_katakana.union ordered_hebrewLetter)).union (ordered_exception (by simp [exceptionTables]))

theorem ordered_formats : formats.Ordered :=
  Ordered.difference (ordered_category (by simp [categoryTables]))
    (GraphemeBreak.ordered_prependedMarks.union (ordered_ofRanges _ (by decide)))

theorem ordered_numeric : numeric.Ordered :=
  (Ordered.union (ordered_category (by simp [categoryTables])) (ordered_ofRange _ _ (by decide))).union
    (GraphemeBreak.ordered_numberSigns.union (ordered_ofRange _ _ (by decide)))

theorem ordered_segmentSpace : segmentSpace.Ordered :=
  Ordered.difference (ordered_category (by simp [categoryTables])) (ordered_ofRanges _ (by decide))

theorem ordered_named?
    {name : String}
    {set : CodePointSet}
    (found : named? name = some set) :
    set.Ordered := by
  unfold named? at found
  split at found
  all_goals cases found
  all_goals first
    | with_reducible exact ordered_letter
    | with_reducible exact ordered_extend
    | with_reducible exact ordered_formats
    | with_reducible exact ordered_hebrewLetter
    | with_reducible exact ordered_katakana
    | with_reducible exact ordered_numeric
    | with_reducible exact ordered_segmentSpace
    | with_reducible exact GraphemeBreak.ordered_joiner
    | with_reducible exact ordered_ofRange _ _ (by decide)
    | with_reducible exact ordered_ofRanges _ (by decide)
    | exact ordered_property (by simp [PropertyTable.all])

end WordBreak

namespace SentenceBreak

open GeneralCategoryTable

theorem ordered_extend : extend.Ordered :=
  (GraphemeBreak.ordered_graphemeExtend.union (ordered_category (by simp [categoryTables]))).union GraphemeBreak.ordered_joiner

theorem ordered_lower : lower.Ordered :=
  Ordered.difference (ordered_property (by simp [PropertyTable.all]))
    (GraphemeBreak.ordered_graphemeExtend.union (ordered_ofRanges _ (by decide)))

theorem ordered_upper : upper.Ordered := by
  refine (ordered_unionOf fun ranges member => ?_).difference (ordered_ofRanges _ (by decide))
  rcases List.mem_cons.mp member with rfl | member
  · exact ordered_property (by simp [PropertyTable.all])
  · rw [List.mem_singleton.mp member]
    exact ordered_category (by simp [categoryTables])

theorem ordered_otherLetter : otherLetter.Ordered :=
  (Ordered.difference (ordered_property (by simp [PropertyTable.all]))
    ((ordered_lower.union ordered_upper).union ordered_extend)).union
      (ordered_ofRange _ _ (by decide))

theorem ordered_formats : formats.Ordered :=
  Ordered.difference (ordered_category (by simp [categoryTables]))
    (GraphemeBreak.ordered_numberSigns.union (ordered_ofRanges _ (by decide)))

theorem ordered_numeric : numeric.Ordered :=
  (Ordered.union (ordered_category (by simp [categoryTables])) (ordered_ofRange _ _ (by decide))).union
    (GraphemeBreak.ordered_numberSigns.union (ordered_ofRange _ _ (by decide)))

theorem ordered_ambiguousTerminal : ambiguousTerminal.Ordered := ordered_ofRanges _ (by decide)

theorem ordered_terminal : terminal.Ordered :=
  Ordered.difference (ordered_property (by simp [PropertyTable.all])) ordered_ambiguousTerminal

theorem ordered_close : close.Ordered := by
  refine ordered_unionOf fun ranges member => ?_
  simp only [List.mem_cons, List.not_mem_nil, or_false] at member
  rcases member with rfl | rfl | rfl | rfl | rfl
  case inr.inr.inr.inr => exact ordered_exception (by simp [exceptionTables])
  all_goals exact ordered_category (by simp [categoryTables])

theorem ordered_separator : separator.Ordered := ordered_ofRanges _ (by decide)

theorem ordered_space : space.Ordered :=
  Ordered.difference (ordered_property (by simp [PropertyTable.all]))
    (ordered_separator.union (ordered_ofRanges _ (by decide)))

theorem ordered_named?
    {name : String}
    {set : CodePointSet}
    (found : named? name = some set) :
    set.Ordered := by
  unfold named? at found
  split at found
  all_goals cases found
  all_goals first
    | with_reducible exact ordered_ambiguousTerminal
    | with_reducible exact ordered_close
    | with_reducible exact ordered_extend
    | with_reducible exact ordered_formats
    | with_reducible exact ordered_lower
    | with_reducible exact ordered_numeric
    | with_reducible exact ordered_otherLetter
    | with_reducible exact ordered_terminal
    | with_reducible exact ordered_separator
    | with_reducible exact ordered_space
    | with_reducible exact ordered_upper
    | with_reducible exact ordered_ofRange _ _ (by decide)
    | with_reducible exact ordered_ofRanges _ (by decide)

end SentenceBreak

/-! ## Classes -/

theorem ordered_wordSet : wordSet.Ordered := ordered_category (by simp [categoryTables])

theorem ordered_digitSet : digitSet.Ordered := ordered_category (by simp [categoryTables])

theorem ordered_spaceSet : spaceSet.Ordered := ordered_property (by simp [PropertyTable.all])

theorem ordered_scriptNamed?
    {name : String}
    {set : CodePointSet}
    (found : scriptNamed? name = some set) :
    set.Ordered := by
  obtain ⟨script, listed, rfl⟩ := Option.map_eq_some_iff.mp found
  exact ordered_script (List.mem_of_find?_eq_some listed)

theorem ordered_scriptExtensionNamed?
    {name : String}
    {set : CodePointSet}
    (found : scriptExtensionNamed? name = some set) :
    set.Ordered := by
  obtain ⟨script, listed, rfl⟩ := Option.map_eq_some_iff.mp found
  refine Ordered.union (Ordered.difference (ordered_script (List.mem_of_find?_eq_some listed))
    (ordered_ofRanges _ ?_)) (ordered_ofRanges _ ?_)
  · intro range member
    obtain ⟨entry, inTable, rfl⟩ := List.mem_map.mp member
    exact tables_checked.2.1 entry inTable
  · intro range member
    obtain ⟨entry, inFiltered, rfl⟩ := List.mem_map.mp member
    exact tables_checked.2.1 entry (List.mem_filter.mp inFiltered).1

theorem ordered_ageNamed?
    {name : String}
    {set : CodePointSet}
    (found : ageNamed? name = some set) :
    set.Ordered := by
  obtain ⟨index, -, rfl⟩ := Option.map_eq_some_iff.mp found
  refine ordered_unionOf fun ranges member => ?_
  obtain ⟨version, taken, rfl⟩ := List.mem_map.mp member
  exact ordered_version (List.mem_of_mem_take taken)

theorem ordered_propertyNamed?
    {name : String}
    {set : CodePointSet}
    (found : propertyNamed? name = some set) :
    set.Ordered := by
  simp only [propertyNamed?, Option.orElse_eq_orElse, Option.orElse_eq_or,
    Option.or_eq_some_iff] at found
  rcases found with table | ⟨-, change | ⟨-, boundary⟩⟩
  · obtain ⟨property, member, rfl⟩ := Option.map_eq_some_iff.mp table
    exact ordered_property (List.mem_of_find?_eq_some member)
  · exact CaseChange.ordered_named? change
  · exact GraphemeBreak.ordered_property? boundary

theorem ValuedProperty.ordered_valueNamed?
    {property : ValuedProperty}
    {name : String}
    {set : CodePointSet}
    (found : property.valueNamed? name = some set) :
    set.Ordered := by
  cases property with
  | generalCategory => exact GeneralCategory.ordered_named? found
  | script => exact ordered_scriptNamed? found
  | scriptExtensions => exact ordered_scriptExtensionNamed? found
  | age => exact ordered_ageNamed? found
  | graphemeBreak => exact GraphemeBreak.ordered_named? found
  | wordBreak => exact WordBreak.ordered_named? found
  | sentenceBreak => exact SentenceBreak.ordered_named? found

/-- The class of a single name is ordered. -/
theorem ordered_classNamed
    {name : List Char}
    {set : CodePointSet}
    (found : classNamed name = .ok set) :
    set.Ordered := by
  have category (listed : (GeneralCategory.named? (matchingForm name)).or
      (scriptNamed? (matchingForm name)) = some set) : set.Ordered := by
    rcases Option.or_eq_some_iff.mp listed with named | ⟨-, script⟩
    · exact GeneralCategory.ordered_named? named
    · exact ordered_scriptNamed? script
  simp only [classNamed] at found
  split at found
  · next other same =>
      obtain rfl := Except.ok.inj found
      split at same
      · exact category same
      · split at same
        · next property =>
            obtain rfl := Option.some.inj same
            exact ordered_propertyNamed? property
        · split at same
          · exact nomatch same
          · exact category same
  · split at found <;> exact nomatch found

/-- The class of the characters for which a property has a value is ordered. -/
theorem ordered_classValued
    {property value : List Char}
    {set : CodePointSet}
    (found : classValued property value = .ok set) :
    set.Ordered := by
  simp only [classValued] at found
  split at found
  · split at found
    · next listed =>
        obtain rfl := Except.ok.inj found
        exact ValuedProperty.ordered_valueNamed? listed
    · exact nomatch found
  · split at found <;> exact nomatch found

/-! ## Closing under case -/

theorem CaseVariants.mem_within
    (entries : List CaseVariants)
    (ranges : List CodePointRange)
    {codePoint : Nat}
    (member : codePoint ∈ within entries ranges) :
    ∃ entry ∈ entries, codePoint ∈ entry.variants := by
  fun_induction within entries ranges with
  | case1 => exact absurd member List.not_mem_nil
  | case2 => exact absurd member List.not_mem_nil
  | case3 entry entries range ranges _ inductionHypothesis =>
      obtain ⟨other, listed, varies⟩ := inductionHypothesis member
      exact ⟨other, List.mem_cons_of_mem _ listed, varies⟩
  | case4 entry entries range ranges _ _ inductionHypothesis =>
      rcases List.mem_append.mp member with here | later
      · exact ⟨entry, List.mem_cons_self, here⟩
      · obtain ⟨other, listed, varies⟩ := inductionHypothesis later
        exact ⟨other, List.mem_cons_of_mem _ listed, varies⟩
  | case5 entry entries range ranges _ _ inductionHypothesis => exact inductionHypothesis member

theorem CodePointSet.Ordered.foldCase
    {set : CodePointSet}
    (ordered : set.Ordered) :
    set.foldCase.Ordered := by
  refine ordered.union (ordered_ofRanges _ fun range member => ?_)
  obtain ⟨codePoint, listed, rfl⟩ := List.mem_map.mp member
  obtain ⟨entry, inTable, varies⟩ := CaseVariants.mem_within _ _ listed
  rw [CaseVariants.all, List.mem_mergeSort] at inTable
  obtain ⟨codePoints, inClasses, made⟩ := List.mem_flatMap.mp inTable
  obtain ⟨other, -, rfl⟩ := List.mem_map.mp made
  exact tables_checked.2.2 codePoints inClasses codePoint (List.mem_filter.mp varies).1

theorem CodePointSet.Ordered.foldAsciiCase
    {set : CodePointSet}
    (ordered : set.Ordered) :
    set.foldAsciiCase.Ordered := by
  have last_le (first last : Nat) (small : last ≤ 0x7F) (range : CodePointRange)
      (member : range ∈ (set.inter (.ofRange first last)).ranges) : range.last ≤ last := by
    have bounded : last ≤ CodePointRange.maximum := Nat.le_trans small (by decide)
    have letters := ordered_ofRange first last bounded
    have proper := (ordered.inter letters).apart.proper range member
    have inside := (ordered.contains_inter letters range.last).mp
      ((contains_iff _ _).mpr ⟨range, member, proper, Nat.le_refl _⟩)
    obtain ⟨part, listed, -, below⟩ := (contains_iff _ _).mp inside.2
    simp only [ofRange, CodePointRange.scalars, CodePointRange.surrogates, List.mem_filter,
      List.mem_cons, List.not_mem_nil, or_false] at listed
    rcases listed with ⟨rfl | rfl, -⟩
    · exact Nat.le_trans below (Nat.min_le_left _ _)
    · exact below
  refine ordered.union (ordered_ofRanges _ fun range member => ?_)
  rcases List.mem_append.mp member with lower | upper
  · obtain ⟨letters, listed, rfl⟩ := List.mem_map.mp lower
    have := last_le _ _ (by decide) letters listed
    simp only [CodePointRange.maximum]
    have : 'z'.toNat = 0x7A := rfl
    omega
  · obtain ⟨letters, listed, rfl⟩ := List.mem_map.mp upper
    have := last_le _ _ (by decide) letters listed
    simp only [CodePointRange.maximum]
    have : 'Z'.toNat = 0x5A := rfl
    omega

end Unicode
end LineExtraction
