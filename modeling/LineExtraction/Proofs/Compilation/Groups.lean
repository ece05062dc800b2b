import LineExtraction.Compilation.Dialect
import LineExtraction.Proofs.Outcome
import LineExtraction.Text.Numeral
import Mathlib.Data.List.Nodup

/-!
# Finding the groups of expressions

A unit looks for the group of an expression by name, from the number that the name writes
down.  Of several groups whose names write down the same number the last one is taken.
-/

namespace LineExtraction

/-! ## Names of expressions' groups -/

/-- The characters of the name of an expression's group. -/
def expressionName (ordinal : Nat) : List Char :=
  (Dialect.expressionGroup ordinal).toList

theorem expressionName_eq
    (ordinal : Nat) :
    expressionName ordinal = '_' :: 'e' :: (toString ordinal).toList := by
  rw [expressionName, Dialect.expressionGroup, String.toList_append]
  rfl

theorem isDigit_of_mem_toString
    {ordinal : Nat}
    {char : Char}
    (member : char ∈ (toString ordinal).toList) :
    char.isDigit := by
  rw [show toString ordinal = ordinal.repr from rfl, Nat.toList_repr] at member
  exact Nat.isDigit_of_mem_toDigits (by decide) (by decide) member

/-- The digits of a number write it down. -/
theorem decimalValue_toString
    (ordinal : Nat) :
    decimalValue (toString ordinal).toList = ordinal := by
  rw [show toString ordinal = ordinal.repr from rfl, Nat.toList_repr]
  exact Nat.ofDigitChars_eq_foldl.symm.trans Nat.ofDigitChars_ten_toDigits

theorem expressionName_injective
    {left right : Nat}
    (same : expressionName left = expressionName right) :
    left = right := by
  rw [expressionName_eq, expressionName_eq] at same
  obtain ⟨-, same⟩ := List.cons.inj same
  obtain ⟨-, same⟩ := List.cons.inj same
  rw [← decimalValue_toString left, same, decimalValue_toString]

/-- There are ten digits. -/
theorem mem_digits_of_isDigit
    {char : Char}
    (digit : char.isDigit) :
    char ∈ ['0', '1', '2', '3', '4', '5', '6', '7', '8', '9'] := by
  have low : 48 ≤ char.toNat ∧ char.toNat ≤ 57 := by
    simpa [Char.isDigit, Char.le_def, UInt32.le_iff_toNat_le] using digit
  have same : ∀ code, char.toNat = code → char = Char.ofNat code := by
    rintro _ rfl
    exact (Char.ofNat_toNat char).symm
  obtain h | h | h | h | h | h | h | h | h | h :
      char.toNat = 48 ∨ char.toNat = 49 ∨ char.toNat = 50 ∨ char.toNat = 51 ∨ char.toNat = 52 ∨
        char.toNat = 53 ∨ char.toNat = 54 ∨ char.toNat = 55 ∨ char.toNat = 56 ∨
        char.toNat = 57 := by
    omega
  all_goals
    rw [same _ h]
    decide

namespace Dialect

theorem ordinalOfDigits?_of_isDigit
    {text : List Char}
    (some : text ≠ [])
    (digits : ∀ char ∈ text, char.isDigit)
    (small : decimalValue text ≤ maximalOrdinal) :
    ordinalOfDigits? text = .some (decimalValue text) := by
  have noSign : ∀ rest, text ≠ '+' :: rest := by
    rintro rest rfl
    cases digits '+' List.mem_cons_self
  have all : ¬ text.isEmpty ∧ text.all Char.isDigit := by
    rw [List.isEmpty_iff, List.all_eq_true]
    exact ⟨some, digits⟩
  rw [ordinalOfDigits?]
  · rw [if_pos all]
    exact if_pos small
  · exact fun rest => noSign rest

/-- The name of an expression's group writes down the ordinal of the expression. -/
theorem ordinalOf?_expressionGroup
    {ordinal : Nat}
    (small : ordinal ≤ maximalOrdinal) :
    ordinalOf? (expressionGroup ordinal) = some ordinal := by
  have value := decimalValue_toString ordinal
  have some : (toString ordinal).toList ≠ [] := by
    rw [show toString ordinal = ordinal.repr from rfl, Nat.toList_repr]
    exact Nat.toDigits_ne_nil
  rw [← value] at small
  have found := ordinalOfDigits?_of_isDigit some (fun _ => isDigit_of_mem_toString) small
  rw [value] at found
  have name := expressionName_eq ordinal
  rw [expressionName] at name
  rw [ordinalOf?, name]
  exact found

/-- The name of an expression's group is reserved. -/
theorem isReservedName_expressionName
    (ordinal : Nat) :
    isReservedName (String.ofList (expressionName ordinal)) := by
  have some : (toString ordinal).toList ≠ [] := by
    rw [show toString ordinal = ordinal.repr from rfl, Nat.toList_repr]
    exact Nat.toDigits_ne_nil
  have digits : (toString ordinal).toList.all Char.isDigit :=
    List.all_eq_true.mpr fun _ => isDigit_of_mem_toString
  rw [isReservedName, String.toList_ofList, expressionName_eq]
  exact decide_eq_true ⟨fun empty => some (List.isEmpty_iff.mp empty), digits⟩

/-- A name that writes down an ordinal is reserved, unless it has a sign. -/
theorem isReservedName_of_ordinalOf?
    {name : String}
    {ordinal : Nat}
    (found : ordinalOf? name = some ordinal)
    (unsigned : '+' ∉ name.toList) :
    isReservedName name := by
  rw [ordinalOf?] at found
  rw [isReservedName]
  split at found
  · next digits same =>
      rw [same] at unsigned
      rw [ordinalOfDigits?] at found
      · split at found
        · next valid => exact decide_eq_true valid
        · cases found
      · rintro rest rfl
        exact unsigned (List.mem_cons_of_mem _ (List.mem_cons_of_mem _ List.mem_cons_self))
  · cases found

/-- No name writes down a larger ordinal than the largest. -/
theorem le_maximalOrdinal_of_ordinalOf?
    {name : String}
    {ordinal : Nat}
    (found : ordinalOf? name = some ordinal) :
    ordinal ≤ maximalOrdinal := by
  have bounded : ∀ digits, (if ¬ digits.isEmpty ∧ digits.all Char.isDigit then
      if decimalValue digits ≤ maximalOrdinal then some (decimalValue digits) else none
      else none) = some ordinal → ordinal ≤ maximalOrdinal := by
    intro digits isValue
    split at isValue
    · split at isValue
      · next small =>
          obtain rfl := Option.some.inj isValue
          exact small
      · cases isValue
    · cases isValue
  rw [ordinalOf?] at found
  split at found
  · exact bounded _ found
  · cases found

/-! ## The last group with a name -/

/-- Whether the group with a number has a name that writes down an ordinal. -/
def NamesOrdinal (names : List (Option String)) (ordinal group : Nat) : Prop :=
  ∃ name, names[group]? = some (some name) ∧ ordinalOf? name = some ordinal

/-- Whether a group is the last one whose name writes down an ordinal. -/
structure IsLastNamed (names : List (Option String)) (ordinal group : Nat) : Prop where
  /-- Its name writes down the ordinal. -/
  named : NamesOrdinal names ordinal group
  /-- No later name does. -/
  last : ∀ later, group < later → ¬ NamesOrdinal names ordinal later

section

variable {name : Option String} {names : List (Option String)} {ordinal : Nat}

theorem namesOrdinal_zero_iff :
    NamesOrdinal (name :: names) ordinal 0 ↔ name.bind ordinalOf? = some ordinal := by
  rw [Option.bind_eq_some_iff]
  simp [NamesOrdinal]

theorem isLastNamed_zero_iff :
    IsLastNamed (name :: names) ordinal 0 ↔
      name.bind ordinalOf? = some ordinal ∧ ∀ group, ¬ NamesOrdinal names ordinal group := by
  constructor
  · rintro ⟨named, last⟩
    exact ⟨namesOrdinal_zero_iff.mp named, fun group => last (group + 1) (Nat.succ_pos group)⟩
  · rintro ⟨named, none⟩
    refine ⟨namesOrdinal_zero_iff.mpr named, fun later beyond => ?_⟩
    obtain ⟨previous, rfl⟩ := Nat.exists_eq_add_one_of_ne_zero (Nat.ne_zero_of_lt beyond)
    exact none previous

theorem isLastNamed_succ_iff
    (group : Nat) :
    IsLastNamed (name :: names) ordinal (group + 1) ↔ IsLastNamed names ordinal group := by
  constructor
  · rintro ⟨named, last⟩
    exact ⟨named, fun later beyond => last (later + 1) (Nat.succ_lt_succ beyond)⟩
  · rintro ⟨named, last⟩
    refine ⟨named, fun later beyond => ?_⟩
    obtain ⟨previous, rfl⟩ := Nat.exists_eq_add_one_of_ne_zero (Nat.ne_zero_of_lt beyond)
    exact last previous (Nat.lt_of_succ_lt_succ beyond)

end

/-- No group is found when no name writes down the ordinal. -/
theorem groupOf?_eq_none_iff
    (names : List (Option String))
    (ordinal slot : Nat) :
    groupOf? ordinal slot names = none ↔ ∀ group, ¬ NamesOrdinal names ordinal group := by
  induction names generalizing slot with
  | nil =>
      refine iff_of_true rfl fun group isNamed => ?_
      obtain ⟨name, found, -⟩ := isNamed
      simp at found
  | cons name names inductionHypothesis =>
      rw [groupOf?]
      split
      · next later found =>
          refine ⟨nofun, fun none => ?_⟩
          have missing := (inductionHypothesis (slot + 1)).mpr fun group => none (group + 1)
          cases missing.symm.trans found
      · next missing =>
          have rest := (inductionHypothesis (slot + 1)).mp missing
          split
          · next isNamed =>
              exact ⟨nofun, fun none => absurd (namesOrdinal_zero_iff.mpr isNamed) (none 0)⟩
          · next unnamed =>
              refine iff_of_true rfl fun group => ?_
              cases group with
              | zero => exact fun isNamed => unnamed (namesOrdinal_zero_iff.mp isNamed)
              | succ group => exact rest group

theorem le_of_groupOf?
    {names : List (Option String)}
    {ordinal slot group : Nat}
    (found : groupOf? ordinal slot names = some group) :
    slot ≤ group := by
  induction names generalizing slot with
  | nil => cases found
  | cons name names inductionHypothesis =>
      rw [groupOf?] at found
      split at found
      · next later laterFound =>
          obtain rfl := Option.some.inj found
          exact Nat.le_of_succ_le (inductionHypothesis laterFound)
      · split at found
        · exact Nat.le_of_eq (Option.some.inj found)
        · cases found

/-- The group that is found is the last one whose name writes down the ordinal. -/
theorem groupOf?_eq_some_iff
    (names : List (Option String))
    (ordinal slot group : Nat) :
    groupOf? ordinal slot names = some (slot + group) ↔ IsLastNamed names ordinal group := by
  induction names generalizing slot group with
  | nil =>
      refine ⟨nofun, fun isLast => ?_⟩
      obtain ⟨name, found, -⟩ := isLast.named
      simp at found
  | cons name names inductionHypothesis =>
      have shifted : ∀ offset, groupOf? ordinal (slot + 1) names = some (slot + (offset + 1)) ↔
          IsLastNamed names ordinal offset := by
        intro offset
        rw [← inductionHypothesis (slot + 1) offset, Nat.add_right_comm, Nat.add_assoc]
      rw [groupOf?]
      cases group with
      | zero =>
          rw [isLastNamed_zero_iff, ← groupOf?_eq_none_iff names ordinal (slot + 1)]
          split
          · next later found =>
              rw [found]
              refine iff_of_false (fun same => ?_) nofun
              have beyond := le_of_groupOf? found
              rw [Option.some.inj same] at beyond
              exact absurd beyond (Nat.not_succ_le_self slot)
          · next missing => simp [missing]
      | succ group =>
          rw [isLastNamed_succ_iff, ← shifted]
          split
          · next later found => rw [found]
          · next missing =>
              rw [missing]
              split
              · simp
              · exact Iff.rfl

/-- Each expression gets the last group whose name writes down its ordinal. -/
theorem getElem?_groupsFrom
    {names : List (Option String)}
    {ordinal count : Nat}
    {groups : List Nat}
    (found : groupsFrom names ordinal count = .ok groups) :
    groups.length = count ∧ ∀ offset < count, ∀ group,
      groups[offset]? = some group ↔ IsLastNamed names (ordinal + offset) group := by
  induction count generalizing ordinal groups with
  | zero =>
      obtain rfl := Except.ok.inj found
      exact ⟨rfl, fun offset inside => absurd inside (Nat.not_lt_zero offset)⟩
  | succ count inductionHypothesis =>
      rw [groupsFrom] at found
      split at found
      · cases found
      · next first firstFound =>
          obtain ⟨rest, restFound, made⟩ := Except.bind_eq_ok_iff.mp found
          obtain rfl := Except.ok.inj made
          obtain ⟨length, each⟩ := inductionHypothesis restFound
          refine ⟨congrArg (· + 1) length, fun offset inside group => ?_⟩
          cases offset with
          | zero =>
              rw [← groupOf?_eq_some_iff names (ordinal + 0) 0 group, Nat.zero_add, Nat.add_zero,
                firstFound]
              rfl
          | succ offset =>
              rw [← Nat.add_assoc, Nat.add_right_comm,
                ← each offset (Nat.lt_of_succ_lt_succ inside) group]
              rfl

/-- All expressions get groups if each ordinal is written down by a name. -/
theorem exists_groupsFrom
    {names : List (Option String)}
    {ordinal count : Nat}
    (named : ∀ offset < count, ∃ group, NamesOrdinal names (ordinal + offset) group) :
    ∃ groups, groupsFrom names ordinal count = .ok groups := by
  induction count generalizing ordinal with
  | zero => exact ⟨[], rfl⟩
  | succ count inductionHypothesis =>
      have others : ∀ offset < count, ∃ group, NamesOrdinal names (ordinal + 1 + offset) group := by
        intro offset inside
        rw [Nat.add_assoc, Nat.add_comm 1]
        exact named (offset + 1) (Nat.succ_lt_succ inside)
      obtain ⟨groups, found⟩ := inductionHypothesis others
      rw [groupsFrom]
      split
      · next missing =>
          obtain ⟨group, isNamed⟩ := named 0 (Nat.succ_pos count)
          exact absurd isNamed ((groupOf?_eq_none_iff names ordinal 0).mp missing group)
      · next slot _ => exact ⟨slot :: groups, Except.bind_eq_ok_iff.mpr ⟨groups, found, rfl⟩⟩

/-- Groups are missing just where an ordinal is written down by no name, and the error is about the
first such ordinal. -/
theorem groupsFrom_eq_error_iff
    {names : List (Option String)}
    {ordinal count : Nat}
    {cause : String} :
    groupsFrom names ordinal count = .error cause ↔
      ∃ offset < count,
        (∀ group, ¬ NamesOrdinal names (ordinal + offset) group) ∧
        (∀ earlier < offset, ∃ group, NamesOrdinal names (ordinal + earlier) group) ∧
        cause = "no capture group for expression #" ++ toString (ordinal + offset) := by
  induction count generalizing ordinal with
  | zero => exact ⟨nofun, fun ⟨_, beyond, _⟩ => absurd beyond (Nat.not_lt_zero _)⟩
  | succ count inductionHypothesis =>
      have shifted (offset : Nat) : ordinal + 1 + offset = ordinal + (offset + 1) := by omega
      rw [groupsFrom]
      split
      · next missing =>
          have unnamed := (groupOf?_eq_none_iff names ordinal 0).mp missing
          constructor
          · rintro ⟨⟩
            exact ⟨0, Nat.succ_pos count, unnamed, fun _ beyond => absurd beyond (Nat.not_lt_zero _),
              rfl⟩
          · rintro ⟨offset, -, -, named, rfl⟩
            cases offset with
            | zero => rfl
            | succ offset =>
                obtain ⟨group, isNamed⟩ := named 0 (Nat.succ_pos offset)
                exact absurd isNamed (unnamed group)
      · next slot found =>
          have isNamed : NamesOrdinal names ordinal slot := by
            rw [← Nat.zero_add slot] at found
            exact ((groupOf?_eq_some_iff names ordinal 0 slot).mp found).named
          rw [Except.bind_eq_error_iff, inductionHypothesis]
          constructor
          · rintro (⟨offset, inside, unnamed, named, rfl⟩ | ⟨_, _, ⟨⟩⟩)
            rw [shifted] at unnamed ⊢
            refine ⟨offset + 1, Nat.succ_lt_succ inside, unnamed, fun earlier before => ?_, rfl⟩
            cases earlier with
            | zero => exact ⟨slot, isNamed⟩
            | succ earlier => exact shifted earlier ▸ named earlier (Nat.lt_of_succ_lt_succ before)
          · rintro ⟨offset, inside, unnamed, named, rfl⟩
            cases offset with
            | zero => exact absurd isNamed (unnamed slot)
            | succ offset =>
                refine .inl ⟨offset, Nat.lt_of_succ_lt_succ inside, ?_, fun earlier before => ?_, ?_⟩
                · rwa [shifted]
                · rw [shifted]
                  exact named (earlier + 1) (Nat.succ_lt_succ before)
                · rw [shifted]

/-! ## Names with numerals -/

/-- A name is `_e` with a decimal numeral of a value behind it, with or without a plus. -/
def NumeralName (name : String) (value : Nat) : Prop :=
  ∃ sign digits : List Char,
    name.toList = '_' :: 'e' :: (sign ++ digits) ∧ (sign = [] ∨ sign = ['+']) ∧
      digits ≠ [] ∧ (∀ digit ∈ digits, digit.isDigit) ∧ decimalValue digits = value

theorem ordinalOfDigits?_eq_some_iff
    {text : List Char}
    {ordinal : Nat} :
    ordinalOfDigits? text = some ordinal ↔
      ∃ sign digits : List Char, text = sign ++ digits ∧ (sign = [] ∨ sign = ['+']) ∧
        digits ≠ [] ∧ (∀ digit ∈ digits, digit.isDigit) ∧ decimalValue digits = ordinal ∧
        ordinal ≤ maximalOrdinal := by
  have unsigned (digits : List Char) :
      (if ¬ digits.isEmpty ∧ digits.all Char.isDigit then
          if decimalValue digits ≤ maximalOrdinal then some (decimalValue digits) else none
        else none) = some ordinal ↔
      digits ≠ [] ∧ (∀ digit ∈ digits, digit.isDigit) ∧ decimalValue digits = ordinal ∧
        ordinal ≤ maximalOrdinal := by
    rw [Option.ite_none_right_eq_some, Option.ite_none_right_eq_some, List.isEmpty_iff,
      List.all_eq_true, Option.some.injEq, and_assoc]
    refine and_congr_right fun _ => and_congr_right fun _ => ?_
    constructor
    · rintro ⟨small, rfl⟩
      exact ⟨rfl, small⟩
    · rintro ⟨rfl, small⟩
      exact ⟨small, rfl⟩
  by_cases signed : ∃ rest, text = '+' :: rest
  · obtain ⟨rest, rfl⟩ := signed
    rw [ordinalOfDigits?]
    refine (unsigned rest).trans ⟨fun valid => ⟨['+'], rest, rfl, .inr rfl, valid⟩, ?_⟩
    rintro ⟨sign, digits, same, rfl | rfl, valid⟩
    · obtain rfl : '+' :: rest = digits := same
      cases valid.2.1 '+' List.mem_cons_self
    · obtain rfl : rest = digits := (List.cons.inj same).2
      exact valid
  · rw [ordinalOfDigits?]
    · refine (unsigned text).trans ⟨fun valid => ⟨[], text, rfl, .inl rfl, valid⟩, ?_⟩
      rintro ⟨sign, digits, rfl, rfl | rfl, valid⟩
      · exact valid
      · exact absurd ⟨digits, rfl⟩ signed
    · exact fun rest same => signed ⟨rest, same⟩

/-- A name is read as an ordinal just if it has a numeral of that value, as far as a machine word
goes. -/
theorem ordinalOf?_eq_some_iff
    {name : String}
    {ordinal : Nat} :
    ordinalOf? name = some ordinal ↔ NumeralName name ordinal ∧ ordinal ≤ maximalOrdinal := by
  rw [ordinalOf?, NumeralName]
  split
  · next text same =>
      rw [ordinalOfDigits?_eq_some_iff]
      constructor
      · rintro ⟨sign, digits, rfl, signed, some, all, value, small⟩
        exact ⟨⟨sign, digits, same, signed, some, all, value⟩, small⟩
      · rintro ⟨⟨sign, digits, given, signed, some, all, value⟩, small⟩
        obtain rfl : text = sign ++ digits := by
          rw [same] at given
          exact List.cons.inj (List.cons.inj given).2 |>.2
        exact ⟨sign, digits, rfl, signed, some, all, value, small⟩
  · next apart =>
      refine iff_of_false nofun ?_
      rintro ⟨⟨sign, digits, same, -⟩, -⟩
      exact apart _ same

/-- Whether the group with a number has a name with a numeral of a value. -/
def HasNumeral (names : List (Option String)) (value group : Nat) : Prop :=
  ∃ name, names[group]? = some (some name) ∧ NumeralName name value

theorem namesOrdinal_iff_hasNumeral
    {names : List (Option String)}
    {ordinal : Nat}
    (small : ordinal ≤ maximalOrdinal)
    (group : Nat) :
    NamesOrdinal names ordinal group ↔ HasNumeral names ordinal group := by
  simp only [NamesOrdinal, HasNumeral, ordinalOf?_eq_some_iff, small, and_true]

section

variable {names : List (Option String)} {count : Nat}

/-- Groups are found for all expressions just if each ordinal stands as a numeral in some name. -/
theorem exists_groupsOfExpressions_iff
    (small : count ≤ maximalOrdinal + 1) :
    (∃ groups, groupsOfExpressions names count = .ok groups) ↔
      ∀ ordinal < count, ∃ group, HasNumeral names ordinal group := by
  constructor
  · rintro ⟨groups, found⟩ ordinal inside
    obtain ⟨length, each⟩ := getElem?_groupsFrom found
    have present := List.getElem?_eq_getElem (length.symm ▸ inside)
    have isNamed := ((each ordinal inside _).mp present).named
    rw [Nat.zero_add] at isNamed
    exact ⟨_, (namesOrdinal_iff_hasNumeral (by omega) _).mp isNamed⟩
  · intro named
    refine exists_groupsFrom fun ordinal inside => ?_
    obtain ⟨group, isNamed⟩ := named ordinal inside
    rw [Nat.zero_add]
    exact ⟨group, (namesOrdinal_iff_hasNumeral (by omega) group).mpr isNamed⟩

/-- An expression gets the last group with its ordinal. -/
theorem hasNumeral_of_groupsOfExpressions
    (small : count ≤ maximalOrdinal + 1)
    {groups : List Nat}
    (found : groupsOfExpressions names count = .ok groups)
    {ordinal : Nat}
    (inside : ordinal < count) :
    ∃ group, groups[ordinal]? = some group ∧ HasNumeral names ordinal group ∧
      ∀ later, group < later → ¬ HasNumeral names ordinal later := by
  obtain ⟨length, each⟩ := getElem?_groupsFrom found
  have present := List.getElem?_eq_getElem (length.symm ▸ inside)
  obtain ⟨named, last⟩ := (each ordinal inside _).mp present
  rw [Nat.zero_add] at named last
  have read (group : Nat) : NamesOrdinal names ordinal group ↔ HasNumeral names ordinal group :=
    namesOrdinal_iff_hasNumeral (by omega) group
  exact ⟨_, present, (read _).mp named, fun later beyond isNamed =>
    last later beyond ((read later).mpr isNamed)⟩

/-- Where groups are missing, the error is about the first ordinal that stands in no name. -/
theorem groupsOfExpressions_eq_error_iff
    (small : count ≤ maximalOrdinal + 1)
    {cause : String} :
    groupsOfExpressions names count = .error cause ↔
      ∃ missing < count,
        (∀ group, ¬ HasNumeral names missing group) ∧
        (∀ ordinal < missing, ∃ group, HasNumeral names ordinal group) ∧
        cause = "no capture group for expression #" ++ toString missing := by
  have read (ordinal : Nat) (inside : ordinal < count) (group : Nat) :
      NamesOrdinal names (0 + ordinal) group ↔ HasNumeral names ordinal group := by
    rw [Nat.zero_add]
    exact namesOrdinal_iff_hasNumeral (by omega) group
  rw [groupsOfExpressions, groupsFrom_eq_error_iff]
  refine exists_congr fun missing => and_congr_right fun inside => ?_
  have earlier : (∀ ordinal < missing, ∃ group, NamesOrdinal names (0 + ordinal) group) ↔
      ∀ ordinal < missing, ∃ group, HasNumeral names ordinal group :=
    forall₂_congr fun ordinal before =>
      exists_congr (read ordinal (Nat.lt_trans before inside))
  rw [forall_congr' fun group => not_congr (read missing inside group), earlier, Nat.zero_add]

/-- Where each expression has one group with its name and all other names are plainly of another
kind, a name is read as the ordinal of an expression only if it is the name of its group. -/
theorem namesOrdinal_iff_of_apart
    (small : count ≤ maximalOrdinal + 1)
    (apart : ∀ name, some name ∈ names →
      (∃ ordinal < count, name = expressionGroup ordinal) ∨
        '+' ∉ name.toList ∧ ¬ isReservedName name)
    {ordinal : Nat}
    (inside : ordinal < count)
    (group : Nat) :
    NamesOrdinal names ordinal group ↔ names[group]? = some (some (expressionGroup ordinal)) := by
  constructor
  · rintro ⟨name, found, written⟩
    obtain ⟨other, known, rfl⟩ | ⟨unsigned, unreserved⟩ := apart name (List.mem_of_getElem? found)
    · rw [ordinalOf?_expressionGroup (by omega)] at written
      rwa [Option.some.inj written] at found
    · exact absurd (isReservedName_of_ordinalOf? written unsigned) unreserved
  · exact fun found => ⟨_, found, ordinalOf?_expressionGroup (by omega)⟩

/-- Where each expression has one group with its name and all other names are plainly of another
kind, each expression gets the group with its name, and no two get the same one. -/
theorem groupsOfExpressions_of_apart
    (small : count ≤ maximalOrdinal + 1)
    (alone : ∀ ordinal < count, ∃ group : Nat, ∀ slot : Nat,
      names[slot]? = some (some (expressionGroup ordinal)) ↔ slot = group)
    (apart : ∀ name, some name ∈ names →
      (∃ ordinal < count, name = expressionGroup ordinal) ∨
        '+' ∉ name.toList ∧ ¬ isReservedName name) :
    ∃ groups, groupsOfExpressions names count = .ok groups ∧ groups.Nodup ∧
      ∀ ordinal < count, ∃ group, groups[ordinal]? = some group ∧
        ∀ slot, names[slot]? = some (some (expressionGroup ordinal)) ↔ slot = group := by
  obtain ⟨groups, found⟩ : ∃ groups, groupsOfExpressions names count = .ok groups := by
    refine exists_groupsFrom fun ordinal inside => ?_
    obtain ⟨group, only⟩ := alone ordinal inside
    rw [Nat.zero_add]
    exact ⟨group, (namesOrdinal_iff_of_apart small apart inside group).mpr ((only group).mpr rfl)⟩
  obtain ⟨length, each⟩ := getElem?_groupsFrom found
  have named {ordinal group : Nat} (present : groups[ordinal]? = some group) :
      ordinal < count ∧ names[group]? = some (some (expressionGroup ordinal)) := by
    obtain ⟨inside, -⟩ := List.getElem?_eq_some_iff.mp present
    rw [length] at inside
    have isNamed := ((each ordinal inside group).mp present).named
    rw [Nat.zero_add] at isNamed
    exact ⟨inside, (namesOrdinal_iff_of_apart small apart inside group).mp isNamed⟩
  refine ⟨groups, found, ?_, fun ordinal inside => ?_⟩
  · refine List.nodup_iff_getElem?_ne_getElem?.mpr fun first second before beyond same => ?_
    have present := List.getElem?_eq_getElem beyond
    have names := (named (same.trans present)).2.symm.trans (named present).2
    have equal := expressionName_injective (congrArg String.toList
      (Option.some.inj (Option.some.inj names)))
    omega
  · have present := List.getElem?_eq_getElem (length.symm ▸ inside)
    obtain ⟨group, only⟩ := alone ordinal inside
    obtain rfl := (only _).mp (named present).2
    exact ⟨_, present, only⟩

end

/-- The groups of the first expressions, as many as a machine word counts, are found just if each
of their ordinals stands as a numeral in some name.  Each expression then gets the last of the
groups with its ordinal; else the error is about the first ordinal that is missing.  A name without
a plus that is read as an ordinal is reserved.  So if each expression has one group with its name,
and the other names have no plus and are not reserved, each expression gets the group with its
name, and no two get the same one. -/
theorem groupsOfExpressions_finds_last
    (names : List (Option String))
    (count : Nat)
    (small : count ≤ maximalOrdinal + 1) :
    ((∃ groups, groupsOfExpressions names count = .ok groups) ↔
      ∀ ordinal < count, ∃ group, HasNumeral names ordinal group) ∧
    (∀ groups, groupsOfExpressions names count = .ok groups →
      groups.length = count ∧
        ∀ ordinal < count, ∃ group, groups[ordinal]? = some group ∧
          HasNumeral names ordinal group ∧
          ∀ later, group < later → ¬ HasNumeral names ordinal later) ∧
    (∀ cause, groupsOfExpressions names count = .error cause ↔
      ∃ missing < count,
        (∀ group, ¬ HasNumeral names missing group) ∧
        (∀ ordinal < missing, ∃ group, HasNumeral names ordinal group) ∧
        cause = "no capture group for expression #" ++ toString missing) ∧
    (∀ name ordinal, ordinalOf? name = some ordinal → '+' ∉ name.toList → isReservedName name) ∧
    ((∀ ordinal < count, ∃ group : Nat, ∀ slot : Nat,
        names[slot]? = some (some (expressionGroup ordinal)) ↔ slot = group) →
      (∀ name, some name ∈ names →
        (∃ ordinal < count, name = expressionGroup ordinal) ∨
          '+' ∉ name.toList ∧ ¬ isReservedName name) →
      ∃ groups, groupsOfExpressions names count = .ok groups ∧ groups.Nodup ∧
        ∀ ordinal < count, ∃ group, groups[ordinal]? = some group ∧
          ∀ slot, names[slot]? = some (some (expressionGroup ordinal)) ↔ slot = group) := by
  refine ⟨exists_groupsOfExpressions_iff small, fun groups found => ?_,
    fun cause => groupsOfExpressions_eq_error_iff small,
    fun name ordinal => isReservedName_of_ordinalOf?, groupsOfExpressions_of_apart small⟩
  exact ⟨(getElem?_groupsFrom found).1, fun ordinal =>
    hasNumeral_of_groupsOfExpressions small found⟩

/-- Names of groups that do not stand in the order of the expressions. -/
def unorderedNames : List (Option String) := [none, some "_e1", some "user", some "_e0"]

theorem groupsOfExpressions_finds_last_unorderedNames :
    2 ≤ maximalOrdinal + 1 ∧
    (∀ ordinal < 2, ∃ group : Nat, ∀ slot : Nat,
      unorderedNames[slot]? = some (some (expressionGroup ordinal)) ↔ slot = group) ∧
    (∀ name, some name ∈ unorderedNames →
      (∃ ordinal < 2, name = expressionGroup ordinal) ∨
        '+' ∉ name.toList ∧ ¬ isReservedName name) ∧
    groupsOfExpressions unorderedNames 2 = .ok [3, 1] ∧
    ∃ groups, groupsOfExpressions unorderedNames 2 = .ok groups ∧ groups.Nodup ∧
      ∀ ordinal < 2, ∃ group, groups[ordinal]? = some group ∧
        ∀ slot, unorderedNames[slot]? = some (some (expressionGroup ordinal)) ↔ slot = group := by
  have small : 2 ≤ maximalOrdinal + 1 := by decide
  have first : expressionGroup 0 = "_e0" := by decide
  have second : expressionGroup 1 = "_e1" := by decide
  have alone : ∀ ordinal < 2, ∃ group : Nat, ∀ slot : Nat,
      unorderedNames[slot]? = some (some (expressionGroup ordinal)) ↔ slot = group := by
    intro ordinal inside
    obtain rfl | rfl : ordinal = 0 ∨ ordinal = 1 := by omega
    · refine ⟨3, fun slot => ?_⟩
      rw [first]
      rcases slot with _ | _ | _ | _ | slot <;> simp [unorderedNames]
    · refine ⟨1, fun slot => ?_⟩
      rw [second]
      rcases slot with _ | _ | _ | _ | slot <;> simp [unorderedNames]
  have apart : ∀ name, some name ∈ unorderedNames →
      (∃ ordinal < 2, name = expressionGroup ordinal) ∨
        '+' ∉ name.toList ∧ ¬ isReservedName name := by
    intro name member
    obtain rfl | rfl | rfl : name = "_e1" ∨ name = "user" ∨ name = "_e0" := by
      simpa [unorderedNames] using member
    · exact .inl ⟨1, by decide, second.symm⟩
    · exact .inr (by decide)
    · exact .inl ⟨0, by decide, first.symm⟩
  have found : groupsOfExpressions unorderedNames 2 = .ok [3, 1] :=
    Except.toOption_eq_some_iff.mp (by decide)
  exact ⟨small, alone, apart, found,
    (groupsOfExpressions_finds_last unorderedNames 2 small).2.2.2.2 alone apart⟩

/-- Of several names with the same value the last one counts, however it is written. -/
example :
    (groupsOfExpressions [none, some "_e00", some "_e+1", some "_e000", some "_e"] 2).toOption =
      some [3, 2] := by
  decide

end Dialect
end LineExtraction
