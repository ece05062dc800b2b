import LineExtraction.Proofs.Json.Scalars

/-!
# Reading written values

The text of a value is read as the document of that value, whatever the value holds, as
long as its numbers are natural numbers of 64 bits.
-/

namespace LineExtraction
namespace Json

open Decoding (Stream)

/-! ## The documents of values -/

/-- The natural number that a number is, if it is one. -/
def Number.toNat : Number → Nat
  | .integer value => value.toNat
  | .float _ => 0

namespace Node

mutual

/-- The node that stands for a value whose numbers are natural numbers. -/
def ofValue : Value → Node
  | .null => .null
  | .bool value => .bool value
  | .number value => .number (.ofNat value.toNat)
  | .text value => .text (.ok value)
  | .list items => .list (ofItems items)
  | .map entries => .map (ofEntries entries)

/-- The nodes of the items of a list. -/
def ofItems : List Value → Stream Node
  | [] => .done
  | item :: items => .next (ofValue item) (ofItems items)

/-- The nodes of the entries of a map. -/
def ofEntries : List (String × Value) → Stream (Node × Node)
  | [] => .done
  | (name, value) :: entries => .next (.text (.ok name), ofValue value) (ofEntries entries)

end

end Node

namespace Value

mutual

/-- Whether all numbers in a value are natural numbers of 64 bits. -/
def IsPlain : Value → Prop
  | .number value => ∃ number ≤ maximalInteger, value = .integer (number : Nat)
  | .list items => ArePlain items
  | .map entries => HasPlainEntries entries
  | _ => True

/-- Whether all numbers in the items of a list are natural numbers of 64 bits. -/
def ArePlain : List Value → Prop
  | [] => True
  | item :: items => item.IsPlain ∧ ArePlain items

/-- Whether all numbers in the entries of a map are natural numbers of 64 bits. -/
def HasPlainEntries : List (String × Value) → Prop
  | [] => True
  | (_, value) :: entries => value.IsPlain ∧ HasPlainEntries entries

end

theorem isPlain_of_mem
    {items : List Value}
    (plain : ArePlain items) :
    ∀ item ∈ items, item.IsPlain := by
  induction items with
  | nil => exact fun _ member => absurd member (List.not_mem_nil)
  | cons item items inductionHypothesis =>
      exact List.forall_mem_cons.mpr ⟨plain.1, inductionHypothesis plain.2⟩

/-- The text of a plain value starts with no blank and with no closing bracket. -/
theorem exists_write_eq_cons
    {value : Value}
    (plain : value.IsPlain) :
    ∃ first more, value.write = first :: more ∧ isBlank first = false ∧ first ≠ ']' := by
  cases value with
  | null => exact ⟨'n', _, rfl, by decide, by decide⟩
  | bool flag =>
      cases flag with
      | true => exact ⟨'t', _, rfl, by decide, by decide⟩
      | false => exact ⟨'f', _, rfl, by decide, by decide⟩
  | number value =>
      obtain ⟨number, -, rfl⟩ := plain
      obtain ⟨first, more, written, isDigit, -⟩ := exists_toString_eq_cons number
      refine ⟨first, more, written, ?_, ?_⟩
      · refine Bool.eq_false_iff.mpr fun blank => ?_
        rcases of_decide_eq_true blank with rfl | rfl | rfl | rfl <;>
          exact absurd isDigit (by decide)
      · rintro rfl
        exact absurd isDigit (by decide)
  | text content => exact ⟨'"', _, rfl, by decide, by decide⟩
  | list items => exact ⟨'[', _, rfl, by decide, by decide⟩
  | map entries => exact ⟨'\x7b', _, rfl, by decide, by decide⟩

theorem writeItems_cons_cons
    (item next : Value)
    (items : List Value) :
    writeItems (item :: next :: items) = item.write ++ ',' :: writeItems (next :: items) := rfl

theorem writeEntries_cons_cons
    (name : String)
    (value : Value)
    (next : String × Value)
    (entries : List (String × Value)) :
    writeEntries ((name, value) :: next :: entries) =
      writeText name ++ ':' :: value.write ++ ',' :: writeEntries (next :: entries) := rfl

theorem exists_writeItems_eq_cons
    {item : Value}
    (plain : item.IsPlain)
    (items : List Value) :
    ∃ first more, writeItems (item :: items) = first :: more ∧ isBlank first = false ∧
      first ≠ ']' := by
  obtain ⟨first, more, written, apart⟩ := exists_write_eq_cons plain
  cases items with
  | nil => exact ⟨first, more, written, apart⟩
  | cons next items =>
      refine ⟨first, more ++ ',' :: writeItems (next :: items), ?_, apart⟩
      rw [writeItems_cons_cons, written, List.cons_append]

theorem exists_writeEntries_eq_cons
    (entry : String × Value)
    (entries : List (String × Value)) :
    ∃ more, writeEntries (entry :: entries) = '"' :: more := by
  cases entries with
  | nil => exact ⟨_, rfl⟩
  | cons next entries => exact ⟨_, rfl⟩

end Value

/-! ## Partial readings -/

/-- Reading gives a value and leaves a rest. -/
def Partial.Gives
    {α : Type}
    {text : List Char}
    (part : Partial α text)
    (value : α)
    (rest : List Char) : Prop :=
  ∃ shorter, part = ⟨value, some ⟨rest, shorter⟩⟩

section

variable {α β : Type} {text longer rest : List Char} {part : Partial α text} {value : α}

theorem Partial.Gives.weaken
    (gives : part.Gives value rest)
    (bound : text.length ≤ longer.length) :
    (part.weaken bound).Gives value rest := by
  obtain ⟨shorter, rfl⟩ := gives
  exact ⟨Nat.le_trans shorter bound, rfl⟩

theorem Partial.Gives.map
    (gives : part.Gives value rest)
    (change : α → β) :
    (part.map change).Gives (change value) rest := by
  obtain ⟨shorter, rfl⟩ := gives
  exact ⟨shorter, rfl⟩

end

/-! ## Texts of values -/

theorem skipBlanks_cons
    {first : Char}
    (apart : isBlank first = false)
    (more : List Char) :
    skipBlanks (first :: more) = first :: more :=
  List.dropWhile_cons_of_neg (Bool.eq_false_iff.mp apart)

/-- A list or a map goes on behind its closing bracket. -/
theorem endsNumber_cons
    {char : Char}
    (apart : char = ',' ∨ char = ']' ∨ char = '\x7d')
    (rest : List Char) :
    EndsNumber (char :: rest) := by
  rintro _ ⟨⟩
  rcases apart with rfl | rfl | rfl <;> decide

section

variable {text rest : List Char}

theorem gives_nodeOf_readWord
    (word : List Char)
    (toNode : Unit → Node) :
    (nodeOf toNode (readWord word (word ++ rest))).Gives (toNode ()) rest := by
  have read : Yields (readWord word (word ++ rest)) () rest := by
    induction word with
    | nil => exact yields_ok_iff.mpr ⟨rfl, rfl⟩
    | cons char word inductionHypothesis =>
        rw [List.cons_append, readWord, if_pos rfl]
        exact inductionHypothesis.weaken _
  obtain ⟨shorter, read⟩ := read
  rw [read]
  exact ⟨shorter, rfl⟩

theorem gives_readValue_digits
    {number : Nat}
    (ends : EndsNumber rest) :
    (readValue ((toString number).toList ++ rest)).Gives (.number (.ofNat number)) rest := by
  obtain ⟨shorter, read⟩ := yields_readNumeral number ends
  obtain ⟨first, more, written, isDigit, -⟩ := exists_toString_eq_cons number
  have apart {other : Char} (noDigit : other.isDigit = false) : first ≠ other := by
    rintro rfl
    exact absurd isDigit (Bool.eq_false_iff.mp noDigit)
  have given : readValue ((toString number).toList ++ rest) =
      numberNode (readNumeral ((toString number).toList ++ rest)) := by
    rw [written, List.cons_append, readValue, if_neg (apart (by decide)),
      if_neg (apart (by decide)), if_neg (apart (by decide)), if_neg (apart (by decide)),
      if_neg (apart (by decide)), if_neg (apart (by decide)), if_pos (.inr isDigit)]
  rw [given, read]
  exact ⟨shorter, rfl⟩

theorem gives_readValue_text
    (content : String) :
    (readValue (Value.writeText content ++ rest)).Gives (.text (.ok content)) rest := by
  obtain ⟨shorter, read⟩ := readString_writeText content rest
  rw [Value.writeText, List.cons_append, List.cons_append, List.append_assoc,
    List.singleton_append, readValue, if_neg (by decide), if_neg (by decide), if_pos rfl]
  exact .weaken ⟨shorter, read⟩ _

theorem gives_readMoreItems_done :
    (readMoreItems (']' :: rest)).Gives .done rest := by
  rw [readMoreItems]
  split
  · next nothing => cases nothing
  · next first more found =>
      rw [skipBlanks_cons (by decide)] at found
      obtain ⟨rfl, rfl⟩ := List.cons.inj found
      exact ⟨_, rfl⟩

theorem gives_readMoreItems_next
    {items : Stream Node}
    (more : (readItem (skipBlanks text)).Gives items rest) :
    (readMoreItems (',' :: text)).Gives items rest := by
  rw [readMoreItems]
  split
  · next nothing => cases nothing
  · next first behind found =>
      rw [skipBlanks_cons (by decide)] at found
      obtain ⟨rfl, rfl⟩ := List.cons.inj found
      rw [if_neg (by decide), if_pos rfl]
      exact more.weaken _

theorem gives_readItem
    {head : Node}
    {tail : Stream Node}
    {behind : List Char}
    (first : (readValue text).Gives head behind)
    (others : (readMoreItems behind).Gives tail rest) :
    (readItem text).Gives (.next head tail) rest := by
  obtain ⟨shorter, read⟩ := first
  rw [readItem, read]
  exact (others.map _).weaken _

theorem gives_readItems_done :
    (readItems (']' :: rest)).Gives .done rest := by
  rw [readItems]
  split
  · next nothing => cases nothing
  · next first more found =>
      rw [skipBlanks_cons (by decide)] at found
      obtain ⟨rfl, rfl⟩ := List.cons.inj found
      exact ⟨_, rfl⟩

theorem gives_readItems_next
    {first : Char}
    (apart : isBlank first = false ∧ first ≠ ']')
    {items : Stream Node}
    (read : (readItem (first :: text)).Gives items rest) :
    (readItems (first :: text)).Gives items rest := by
  rw [readItems]
  split
  · next nothing => rw [skipBlanks_cons apart.1] at nothing; cases nothing
  · next other more found =>
      rw [skipBlanks_cons apart.1] at found
      obtain ⟨rfl, rfl⟩ := List.cons.inj found
      rw [if_neg apart.2]
      exact read.weaken _

theorem gives_readMoreEntries_done :
    (readMoreEntries ('\x7d' :: rest)).Gives .done rest := by
  rw [readMoreEntries]
  split
  · next nothing => cases nothing
  · next first more found =>
      rw [skipBlanks_cons (by decide)] at found
      obtain ⟨rfl, rfl⟩ := List.cons.inj found
      exact ⟨_, rfl⟩

theorem gives_readMoreEntries_next
    {entries : Stream (Node × Node)}
    (more : (readEntry (skipBlanks text)).Gives entries rest) :
    (readMoreEntries (',' :: text)).Gives entries rest := by
  rw [readMoreEntries]
  split
  · next nothing => cases nothing
  · next first behind found =>
      rw [skipBlanks_cons (by decide)] at found
      obtain ⟨rfl, rfl⟩ := List.cons.inj found
      rw [if_neg (by decide), if_pos rfl]
      exact more.weaken _

theorem gives_readEntry
    (name : String)
    {content : Node}
    {tail : Stream (Node × Node)}
    {behind : List Char}
    (read : (readValue (skipBlanks text)).Gives content behind)
    (others : (readMoreEntries behind).Gives tail rest) :
    (readEntry (Value.writeText name ++ ':' :: text)).Gives
      (.next (.text (.ok name), content) tail) rest := by
  obtain ⟨shorter, key⟩ := readString_writeText name (':' :: text)
  rw [Value.writeText, List.cons_append, List.cons_append, List.append_assoc,
    List.singleton_append, readEntry, if_pos rfl]
  simp only [key]
  split
  · next nothing => rw [skipBlanks_cons (by decide)] at nothing; cases nothing
  · next colon value found =>
      rw [skipBlanks_cons (by decide)] at found
      obtain ⟨rfl, rfl⟩ := List.cons.inj found
      obtain ⟨fewer, read⟩ := read
      simp only [if_true, read]
      exact (others.map _).weaken _

theorem gives_readEntries_done :
    (readEntries ('\x7d' :: rest)).Gives .done rest := by
  rw [readEntries]
  split
  · next nothing => cases nothing
  · next first more found =>
      rw [skipBlanks_cons (by decide)] at found
      obtain ⟨rfl, rfl⟩ := List.cons.inj found
      exact ⟨_, rfl⟩

theorem gives_readEntries_next
    {entries : Stream (Node × Node)}
    (read : (readEntry ('"' :: text)).Gives entries rest) :
    (readEntries ('"' :: text)).Gives entries rest := by
  rw [readEntries]
  split
  · next nothing => cases nothing
  · next other more found =>
      rw [skipBlanks_cons (by decide)] at found
      obtain ⟨rfl, rfl⟩ := List.cons.inj found
      rw [if_neg (by decide)]
      exact read.weaken _

/-- The items of a list are read from the first one on. -/
theorem gives_readItems_of_readItem
    {items : List Value}
    (plain : Value.ArePlain items)
    (read : items ≠ [] →
      (readItem (Value.writeItems items ++ ']' :: rest)).Gives (Node.ofItems items) rest) :
    (readItems (Value.writeItems items ++ ']' :: rest)).Gives (Node.ofItems items) rest := by
  cases items with
  | nil => exact gives_readItems_done
  | cons item items =>
      have read := read (List.cons_ne_nil _ _)
      obtain ⟨first, more, written, apart⟩ := Value.exists_writeItems_eq_cons plain.1 items
      rw [written, List.cons_append] at read ⊢
      exact gives_readItems_next apart read

/-- The entries of a map are read from the first one on. -/
theorem gives_readEntries_of_readEntry
    {entries : List (String × Value)}
    (read : entries ≠ [] →
      (readEntry (Value.writeEntries entries ++ '\x7d' :: rest)).Gives
        (Node.ofEntries entries) rest) :
    (readEntries (Value.writeEntries entries ++ '\x7d' :: rest)).Gives
      (Node.ofEntries entries) rest := by
  cases entries with
  | nil => exact gives_readEntries_done
  | cons entry entries =>
      have read := read (List.cons_ne_nil _ _)
      obtain ⟨more, written⟩ := Value.exists_writeEntries_eq_cons entry entries
      rw [written, List.cons_append] at read ⊢
      exact gives_readEntries_next read

end

mutual

/-- The text of a plain value is read as the node of the value. -/
theorem gives_readValue_write
    (value : Value)
    (plain : value.IsPlain)
    {rest : List Char}
    (ends : EndsNumber rest) :
    (readValue (value.write ++ rest)).Gives (Node.ofValue value) rest := by
  cases value with
  | null =>
      rw [show Value.null.write ++ rest = 'n' :: ("ull".toList ++ rest) from rfl, readValue,
        if_neg (by decide), if_neg (by decide), if_neg (by decide), if_pos rfl]
      exact (gives_nodeOf_readWord _ _).weaken _
  | bool flag =>
      cases flag with
      | true =>
          rw [show (Value.bool true).write ++ rest = 't' :: ("rue".toList ++ rest) from rfl,
            readValue, if_neg (by decide), if_neg (by decide), if_neg (by decide),
            if_neg (by decide), if_pos rfl]
          exact (gives_nodeOf_readWord _ _).weaken _
      | false =>
          rw [show (Value.bool false).write ++ rest = 'f' :: ("alse".toList ++ rest) from rfl,
            readValue, if_neg (by decide), if_neg (by decide), if_neg (by decide),
            if_neg (by decide), if_neg (by decide), if_pos rfl]
          exact (gives_nodeOf_readWord _ _).weaken _
  | number value =>
      obtain ⟨number, -, rfl⟩ := plain
      exact gives_readValue_digits ends
  | text content => exact gives_readValue_text content
  | list items =>
      have read (filled : items ≠ []) := gives_readItem_writeItems items plain filled rest
      rw [Value.write, List.cons_append, List.cons_append, List.append_assoc,
        List.singleton_append, readValue, if_pos rfl]
      exact ((gives_readItems_of_readItem plain read).map _).weaken _
  | map entries =>
      have read (filled : entries ≠ []) := gives_readEntry_writeEntries entries plain filled rest
      rw [Value.write, List.cons_append, List.cons_append, List.append_assoc,
        List.singleton_append, readValue, if_neg (by decide), if_pos rfl]
      exact ((gives_readEntries_of_readEntry read).map _).weaken _

/-- The texts of the items of a list are read as their nodes. -/
theorem gives_readItem_writeItems
    (items : List Value)
    (plain : Value.ArePlain items)
    (filled : items ≠ [])
    (rest : List Char) :
    (readItem (Value.writeItems items ++ ']' :: rest)).Gives (Node.ofItems items) rest := by
  cases items with
  | nil => exact absurd rfl filled
  | cons item items =>
      have others (filled : items ≠ []) := gives_readItem_writeItems items plain.2 filled rest
      have read (stop : Char) (apart : stop = ',' ∨ stop = ']' ∨ stop = '\x7d')
          (rest : List Char) :=
        gives_readValue_write item plain.1 (endsNumber_cons apart rest)
      cases items with
      | nil => exact gives_readItem (read ']' (.inr (.inl rfl)) rest) gives_readMoreItems_done
      | cons next items =>
          obtain ⟨first, more, written, apart, -⟩ := Value.exists_writeItems_eq_cons plain.2.1 items
          rw [Value.writeItems_cons_cons, List.append_assoc, List.cons_append]
          refine gives_readItem (read ',' (.inl rfl) _) (gives_readMoreItems_next ?_)
          rw [written, List.cons_append, skipBlanks_cons apart, ← List.cons_append, ← written]
          exact others (List.cons_ne_nil _ _)

/-- The texts of the entries of a map are read as their nodes. -/
theorem gives_readEntry_writeEntries
    (entries : List (String × Value))
    (plain : Value.HasPlainEntries entries)
    (filled : entries ≠ [])
    (rest : List Char) :
    (readEntry (Value.writeEntries entries ++ '\x7d' :: rest)).Gives
      (Node.ofEntries entries) rest := by
  cases entries with
  | nil => exact absurd rfl filled
  | cons entry entries =>
      obtain ⟨name, value⟩ := entry
      have others (filled : entries ≠ []) :=
        gives_readEntry_writeEntries entries plain.2 filled rest
      have read (stop : Char) (apart : stop = ',' ∨ stop = ']' ∨ stop = '\x7d')
          (rest : List Char) :
          (readValue (skipBlanks (value.write ++ stop :: rest))).Gives (Node.ofValue value)
            (stop :: rest) := by
        obtain ⟨first, more, written, bare, -⟩ := Value.exists_write_eq_cons plain.1
        rw [written, List.cons_append, skipBlanks_cons bare, ← List.cons_append, ← written]
        exact gives_readValue_write value plain.1 (endsNumber_cons apart rest)
      cases entries with
      | nil =>
          rw [Value.writeEntries, List.append_assoc, List.cons_append]
          exact gives_readEntry name (read '\x7d' (.inr (.inr rfl)) rest) gives_readMoreEntries_done
      | cons next entries =>
          obtain ⟨more, written⟩ := Value.exists_writeEntries_eq_cons next entries
          rw [Value.writeEntries_cons_cons, List.append_assoc, List.append_assoc, List.cons_append,
            List.cons_append]
          refine gives_readEntry name (read ',' (.inl rfl) _) (gives_readMoreEntries_next ?_)
          rw [written, List.cons_append, skipBlanks_cons (by decide), ← List.cons_append, ← written]
          exact others (List.cons_ne_nil _ _)

end

/-- A rendered plain value is read as the document of that value. -/
theorem readDocument_render
    {value : Value}
    (plain : value.IsPlain) :
    readDocument value.render.toList = ⟨Node.ofValue value, false⟩ := by
  have ends : EndsNumber [] := fun _ member => absurd member (Option.not_mem_none _)
  have read := gives_readValue_write value plain ends
  obtain ⟨first, more, written, apart, -⟩ := Value.exists_write_eq_cons plain
  have given : skipBlanks value.render.toList = value.write := by
    rw [Value.render, String.toList_ofList, written, skipBlanks_cons apart]
  rw [List.append_nil, ← given] at read
  obtain ⟨shorter, read⟩ := read
  rw [readDocument, read]
  rfl

end Json
end LineExtraction
