import LineExtraction.Unicode.ClassName

/-!
# How classes are named

Classes have names of small ASCII letters, digits and dots.  Loose matching ignores some
characters of a name that is asked for, and the case of letters, but nothing else.
-/

namespace LineExtraction
namespace Unicode

/-- Whether a code is that of a small letter, a digit or the dot. -/
def isWordCode (code : Nat) : Bool :=
  (0x61 ≤ code ∧ code ≤ 0x7A) ∨ (0x30 ≤ code ∧ code ≤ 0x39) ∨ code = 0x2E

/-- Whether a name is made of small letters, digits and dots, which are single bytes. -/
def IsWord (name : String) : Prop :=
  name.toByteArray.data.toList.all fun byte => isWordCode byte.toNat

instance (name : String) : Decidable (IsWord name) :=
  inferInstanceAs (Decidable ((name.toByteArray.data.toList.all _) = true))

theorem isWordCode_of_isWord
    {chars : List Char}
    (word : IsWord (String.ofList chars))
    {char : Char}
    (member : char ∈ chars)
    (ascii : char.toNat < 0x80) :
    isWordCode char.toNat := by
  have single : char.utf8Size = 1 := by
    rw [Char.utf8Size_eq_one_iff, UInt32.le_iff_toNat_le]
    exact Nat.le_of_lt_succ ascii
  have byte : char.val.toUInt8 ∈ (String.ofList chars).toByteArray.data.toList := by
    rw [String.toByteArray_ofList, List.utf8Encode, List.data_toByteArray, List.mem_flatMap]
    refine ⟨char, member, ?_⟩
    rw [String.utf8EncodeChar_eq_singleton single]
    exact List.mem_singleton_self _
  have small : char.val.toUInt8.toNat = char.toNat :=
    Nat.mod_eq_of_lt (Nat.lt_trans ascii (by decide))
  have found := List.all_eq_true.mp word _ byte
  rwa [small] at found

/-! ## Names in the tables -/

theorem isWord_tables :
    (∀ script ∈ ScriptTable.all, ∀ name ∈ script.names, IsWord name) ∧
      (∀ property ∈ PropertyTable.all, ∀ name ∈ property.names, IsWord name) ∧
      ∀ version ∈ AgeTable.versions, ∀ name ∈ version.names, IsWord name := by
  decide +kernel

section

variable {name : String} {set : CodePointSet}

theorem GeneralCategory.isWord_of_named?
    (found : named? name = some set) :
    IsWord name := by
  unfold named? at found
  split at found
  all_goals cases found
  all_goals decide

theorem CaseChange.isWord_of_named?
    (found : named? name = some set) :
    IsWord name := by
  unfold named? at found
  split at found
  all_goals cases found
  all_goals decide

theorem GraphemeBreak.isWord_of_property?
    (found : property? name = some set) :
    IsWord name := by
  unfold property? at found
  split at found
  all_goals cases found
  all_goals decide

theorem GraphemeBreak.isWord_of_named?
    (found : named? name = some set) :
    IsWord name := by
  unfold named? at found
  split at found
  all_goals cases found
  all_goals decide

theorem WordBreak.isWord_of_named?
    (found : named? name = some set) :
    IsWord name := by
  unfold named? at found
  split at found
  all_goals cases found
  all_goals decide

theorem SentenceBreak.isWord_of_named?
    (found : named? name = some set) :
    IsWord name := by
  unfold named? at found
  split at found
  all_goals cases found
  all_goals decide

theorem isWord_of_script
    {script : Script}
    (found : ScriptTable.all.find? (name ∈ ·.names) = some script) :
    IsWord name := by
  have named : name ∈ script.names := by simpa using List.find?_some found
  exact isWord_tables.1 script (List.mem_of_find?_eq_some found) name named

theorem isWord_of_scriptNamed?
    (found : scriptNamed? name = some set) :
    IsWord name := by
  obtain ⟨script, listed, -⟩ := Option.map_eq_some_iff.mp found
  exact isWord_of_script listed

theorem isWord_of_scriptExtensionNamed?
    (found : scriptExtensionNamed? name = some set) :
    IsWord name := by
  obtain ⟨script, listed, -⟩ := Option.map_eq_some_iff.mp found
  exact isWord_of_script listed

theorem isWord_of_ageNamed?
    (found : ageNamed? name = some set) :
    IsWord name := by
  obtain ⟨index, listed, -⟩ := Option.map_eq_some_iff.mp found
  obtain ⟨inside, isNamed, -⟩ := List.findIdx?_eq_some_iff_getElem.mp listed
  exact isWord_tables.2.2 _ (List.getElem_mem inside) name (of_decide_eq_true isNamed)

theorem isWord_of_propertyNamed?
    (found : propertyNamed? name = some set) :
    IsWord name := by
  simp only [propertyNamed?, Option.orElse_eq_orElse, Option.orElse_eq_or,
    Option.or_eq_some_iff] at found
  rcases found with table | ⟨-, change | ⟨-, boundary⟩⟩
  · obtain ⟨property, listed, rfl⟩ := Option.map_eq_some_iff.mp table
    have named : name ∈ property.names := by simpa using List.find?_some listed
    exact isWord_tables.2.1 property (List.mem_of_find?_eq_some listed) name named
  · exact CaseChange.isWord_of_named? change
  · exact GraphemeBreak.isWord_of_property? boundary

theorem ValuedProperty.isWord_of_named?
    {property : ValuedProperty}
    (found : named? name = some property) :
    IsWord name := by
  unfold named? at found
  split at found
  all_goals cases found
  all_goals decide

theorem ValuedProperty.isWord_of_valueNamed?
    {property : ValuedProperty}
    (found : property.valueNamed? name = some set) :
    IsWord name := by
  cases property with
  | generalCategory => exact GeneralCategory.isWord_of_named? found
  | script => exact isWord_of_scriptNamed? found
  | scriptExtensions => exact isWord_of_scriptExtensionNamed? found
  | age => exact isWord_of_ageNamed? found
  | graphemeBreak => exact GraphemeBreak.isWord_of_named? found
  | wordBreak => exact WordBreak.isWord_of_named? found
  | sentenceBreak => exact SentenceBreak.isWord_of_named? found

end

/-! ## Names that are asked for -/

/-- Whether a character may stand in a name that is asked for: what loose matching ignores, or
what stands for a character of a name in matching form. -/
def isLooseChar (char : Char) : Bool :=
  (char = ' ' ∨ char = '_' ∨ char = '-' ∨ 0x80 ≤ char.toNat) ∨ isWordCode char.toLower.toNat

theorem isLooseChar_of_mem
    {chars : List Char}
    (word : ∀ char ∈ looseChars chars, char.toNat < 0x80 → isWordCode char.toNat) :
    ∀ char ∈ chars, isLooseChar char := by
  induction chars with
  | nil => exact nofun
  | cons char rest inductionHypothesis =>
      rw [looseChars] at word
      split at word
      · next ignored =>
          exact List.forall_mem_cons.mpr ⟨decide_eq_true (.inl ignored), inductionHypothesis word⟩
      · next counts =>
          obtain ⟨first, others⟩ := List.forall_mem_cons.mp word
          have checked : ∀ code < 0x80, (Char.ofNat code).toLower.toNat < 0x80 := by decide
          have small : char.toNat < 0x80 :=
            Nat.lt_of_not_le fun large => counts (.inr (.inr (.inr large)))
          have ascii : char.toLower.toNat < 0x80 := Char.ofNat_toNat char ▸ checked _ small
          exact List.forall_mem_cons.mpr ⟨decide_eq_true (.inr (first ascii)),
            inductionHypothesis others⟩

/-- A name whose matching form is a word holds nothing but what may stand in it. -/
theorem isLooseChar_of_isWord
    {name : List Char}
    (word : IsWord (matchingForm name)) :
    ∀ char ∈ name, isLooseChar char := by
  have whole (word : IsWord (String.ofList (looseChars name))) : ∀ char ∈ name, isLooseChar char :=
    isLooseChar_of_mem fun char member ascii => isWordCode_of_isWord word member ascii
  unfold matchingForm at word
  split at word
  · next first second rest =>
      split at word
      · next starts =>
          have letters : isLooseChar first ∧ isLooseChar second := by
            simp [isLooseChar, starts, isWordCode]
          have others : ∀ char ∈ rest, isLooseChar char := by
            refine isLooseChar_of_mem fun char member ascii => ?_
            dsimp only at word
            split at word
            · next single =>
                rw [single] at member
                rw [List.mem_singleton.mp member]
                decide
            · exact isWordCode_of_isWord word member ascii
          exact List.forall_mem_cons.mpr ⟨letters.1, List.forall_mem_cons.mpr ⟨letters.2, others⟩⟩
      · exact whole word
  · exact whole word

theorem isLooseChar_of_classNamed
    {name : List Char}
    {set : CodePointSet}
    (found : classNamed name = .ok set) :
    ∀ char ∈ name, isLooseChar char := by
  have category (listed : (GeneralCategory.named? (matchingForm name)).or
      (scriptNamed? (matchingForm name)) = some set) : IsWord (matchingForm name) := by
    rcases Option.or_eq_some_iff.mp listed with named | ⟨-, script⟩
    · exact GeneralCategory.isWord_of_named? named
    · exact isWord_of_scriptNamed? script
  refine isLooseChar_of_isWord ?_
  simp only [classNamed] at found
  split at found
  · next other same =>
      obtain rfl := Except.ok.inj found
      split at same
      · exact category same
      · split at same
        · next property =>
            obtain rfl := Option.some.inj same
            exact isWord_of_propertyNamed? property
        · split at same
          · exact nomatch same
          · exact category same
  · split at found <;> exact nomatch found

theorem isLooseChar_of_classValued
    {property value : List Char}
    {set : CodePointSet}
    (found : classValued property value = .ok set) :
    ∀ char ∈ property ++ value, isLooseChar char := by
  simp only [classValued] at found
  split at found
  · next valued isProperty =>
      split at found
      · next listed =>
          intro char member
          rcases List.mem_append.mp member with front | back
          · exact isLooseChar_of_isWord (ValuedProperty.isWord_of_named? isProperty) char front
          · exact isLooseChar_of_isWord (ValuedProperty.isWord_of_valueNamed? listed) char back
      · exact nomatch found
  · split at found <;> exact nomatch found

end Unicode
end LineExtraction
