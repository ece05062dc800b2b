import LineExtraction.Decoding.Buffered
import LineExtraction.Json.Source
import LineExtraction.Proofs.Json.Documents

/-!
# Content that shows a value

Content of a format shows a value when taking it apart gives the parts of the value.  The
nodes of values show them as long as there are levels left to enter, and so do values that
were kept for later, at whatever depth.
-/

namespace LineExtraction
namespace Json.Value

mutual

/-- How many lists and maps stand inside each other in a value. -/
def depth : Value → Nat
  | .list items => depthOfItems items + 1
  | .map entries => depthOfEntries entries + 1
  | _ => 0

/-- How deep the deepest item is. -/
def depthOfItems : List Value → Nat
  | [] => 0
  | item :: items => Nat.max item.depth (depthOfItems items)

/-- How deep the deepest entry is. -/
def depthOfEntries : List (String × Value) → Nat
  | [] => 0
  | (_, value) :: entries => Nat.max value.depth (depthOfEntries entries)

end

end Json.Value

namespace Decoding

open Json (Value)

mutual

/-- Content shows a value when keeping it keeps the value, and taking it apart in the way
that goes with the value gives what the value consists of. -/
inductive Shows {α : Type} [Format α] : α → Value → Prop
  | null
      {content : α}
      (kept : ∀ expected, Format.keep expected content = pure .nothing)
      (absent : Format.optional content = pure none) :
      Shows content .null
  | bool
      {content : α}
      {flag : Bool}
      (kept : ∀ expected, Format.keep expected content = pure (.bool flag))
      (read : Format.flag content = pure flag) :
      Shows content (.bool flag)
  | natural
      {content : α}
      {number : Nat}
      (kept : ∀ expected, Format.keep expected content = pure (.integer number))
      (present : Format.optional content = pure (some content))
      (read : Format.natural content = pure number) :
      Shows content (.ofNat number)
  | text
      {content : α}
      {text : String}
      (kept : ∀ expected, Format.keep expected content = pure (.text text))
      (present : Format.optional content = pure (some content))
      (read : Format.text content = pure text)
      (identified : ∀ expected, Format.identifier expected content = pure (.name text))
      (resolved : ∀ {β : Type} (resolve : Identifier → Decode β),
        Format.unitVariant resolve content = resolve (.name text)) :
      Shows content (.text text)
  | list
      {content : α}
      {items : List Value}
      {parts : Stream α}
      (kept : ∀ expected, Format.keep expected content = pure (.list (Value.keepItems items)))
      (read : Format.list content = pure parts)
      (shown : ShowsItems parts items) :
      Shows content (.list items)
  | map
      {content : α}
      {entries : List (String × Value)}
      {parts : Stream (α × α)}
      (kept : ∀ expected, Format.keep expected content = pure (.map (Value.keepEntries entries)))
      (read : ∀ expected, Format.struct expected content = pure (.keyed parts))
      (any : ∀ expected, Format.any expected content = pure (.map parts))
      (shown : ShowsEntries parts entries) :
      Shows content (.map entries)

/-- Parts show the items of a list. -/
inductive ShowsItems {α : Type} [Format α] : Stream α → List Value → Prop
  | done : ShowsItems .done []
  | next
      {head : α}
      {tail : Stream α}
      {item : Value}
      {items : List Value}
      (first : Shows head item)
      (others : ShowsItems tail items) :
      ShowsItems (.next head tail) (item :: items)

/-- Parts show the entries of a map. -/
inductive ShowsEntries {α : Type} [Format α] : Stream (α × α) → List (String × Value) → Prop
  | done : ShowsEntries .done []
  | next
      {key content : α}
      {tail : Stream (α × α)}
      {name : String}
      {value : Value}
      {entries : List (String × Value)}
      (named : Shows key (.text name))
      (first : Shows content value)
      (others : ShowsEntries tail entries) :
      ShowsEntries (.next (key, content) tail) ((name, value) :: entries)

end

/-- Content that shows a value is kept as that value. -/
theorem Shows.keep_eq
    {α : Type}
    [Format α]
    {content : α}
    {value : Value}
    (shown : Shows content value)
    (expected : String) :
    Format.keep expected content = pure value.keep := by
  cases shown with
  | null kept => exact kept expected
  | bool kept => exact kept expected
  | natural kept => exact kept expected
  | text kept => exact kept expected
  | list kept => exact kept expected
  | map kept => exact kept expected

/-! ## Kept values -/

theorem shows_keep_text
    (text nothingShown : String) :
    Shows (Buffered.mk (.text text) nothingShown) (.text text) :=
  .text (fun _ => rfl) rfl rfl (fun _ => rfl) fun _ => rfl

mutual

/-- What was kept of a plain value shows the value. -/
theorem shows_keep
    (value : Value)
    (plain : value.IsPlain)
    (nothingShown : String) :
    Shows (Buffered.mk value.keep nothingShown) value := by
  cases value with
  | null => exact .null (fun _ => rfl) rfl
  | bool flag => exact .bool (fun _ => rfl) rfl
  | number number =>
      obtain ⟨number, -, rfl⟩ := plain
      exact .natural (fun _ => rfl) rfl rfl
  | text text => exact shows_keep_text text nothingShown
  | list items => exact .list (fun _ => rfl) rfl (showsItems_keep items plain nothingShown)
  | map entries =>
      exact .map (fun _ => rfl) (fun _ => rfl) (fun _ => rfl)
        (showsEntries_keep entries plain nothingShown)

theorem showsItems_keep
    (items : List Value)
    (plain : Value.ArePlain items)
    (nothingShown : String) :
    ShowsItems (.ofList ((Value.keepItems items).map (Buffered.mk · nothingShown))) items := by
  cases items with
  | nil => exact .done
  | cons item items =>
      exact .next (shows_keep item plain.1 nothingShown) (showsItems_keep items plain.2 nothingShown)

theorem showsEntries_keep
    (entries : List (String × Value))
    (plain : Value.HasPlainEntries entries)
    (nothingShown : String) :
    ShowsEntries
      (.ofList ((Value.keepEntries entries).map fun (key, value) =>
        (Buffered.mk key nothingShown, Buffered.mk value nothingShown)))
      entries := by
  cases entries with
  | nil => exact .done
  | cons entry entries =>
      obtain ⟨name, value⟩ := entry
      exact .next (shows_keep_text name nothingShown) (shows_keep value plain.1 nothingShown)
        (showsEntries_keep entries plain.2 nothingShown)

end

/-! ## Nodes -/

section

open Json (Cursor Node)

theorem below_of_lt
    {levels remaining : Nat}
    (enough : levels + 1 < remaining) :
    Cursor.below remaining = .ok (remaining - 1) ∧ levels < remaining - 1 := by
  rw [Cursor.below, if_neg (by omega)]
  exact ⟨rfl, by omega⟩

mutual

/-- The node of a plain value is kept as the value. -/
theorem keep_ofValue
    (value : Value)
    (plain : value.IsPlain)
    {remaining : Nat}
    (enough : value.depth < remaining) :
    (Node.ofValue value).keep remaining = .ok value.keep := by
  cases value with
  | null => rfl
  | bool flag => rfl
  | number number =>
      obtain ⟨number, fits, rfl⟩ := plain
      simp only [Node.ofValue, Node.keep, Json.Number.toNat, Int.toNat_natCast,
        Json.Numeral.value_ofNat fits]
      rfl
  | text text => rfl
  | list items =>
      obtain ⟨below, inside⟩ := below_of_lt enough
      rw [Node.ofValue, Node.keep, below]
      simp only [bind, Except.bind, keepItems_ofItems items plain inside]
      rfl
  | map entries =>
      obtain ⟨below, inside⟩ := below_of_lt enough
      rw [Node.ofValue, Node.keep, below]
      simp only [bind, Except.bind, keepEntries_ofEntries entries plain inside]
      rfl

theorem keepItems_ofItems
    (items : List Value)
    (plain : Value.ArePlain items)
    {remaining : Nat}
    (enough : Value.depthOfItems items < remaining) :
    Node.keepItems remaining (Node.ofItems items) = .ok (Value.keepItems items) := by
  cases items with
  | nil => rfl
  | cons item items =>
      obtain ⟨first, others⟩ := Nat.max_lt.mp enough
      rw [Node.ofItems, Node.keepItems, keep_ofValue item plain.1 first]
      simp only [bind, Except.bind, keepItems_ofItems items plain.2 others]
      rfl

theorem keepEntries_ofEntries
    (entries : List (String × Value))
    (plain : Value.HasPlainEntries entries)
    {remaining : Nat}
    (enough : Value.depthOfEntries entries < remaining) :
    Node.keepEntries remaining (Node.ofEntries entries) = .ok (Value.keepEntries entries) := by
  cases entries with
  | nil => rfl
  | cons entry entries =>
      obtain ⟨name, value⟩ := entry
      obtain ⟨first, others⟩ := Nat.max_lt.mp enough
      rw [Node.ofEntries, Node.keepEntries]
      simp only [bind, Except.bind, Node.keep, keep_ofValue value plain.1 first,
        keepEntries_ofEntries entries plain.2 others]
      rfl

end

theorem shows_ofValue_text
    (remaining : Nat)
    (text : String) :
    Shows (Cursor.mk remaining (.text (.ok text))) (.text text) :=
  .text (fun _ => rfl) rfl rfl (fun _ => rfl) fun _ => rfl

mutual

/-- The node of a plain value shows the value if it has no more levels than may be
entered. -/
theorem shows_ofValue
    (value : Value)
    (plain : value.IsPlain)
    {remaining : Nat}
    (enough : value.depth < remaining) :
    Shows (Cursor.mk remaining (Node.ofValue value)) value := by
  have kept (expected : String) :
      Format.keep expected (Cursor.mk remaining (Node.ofValue value)) = pure value.keep := by
    change liftM ((Node.ofValue value).keep remaining) = _
    rw [keep_ofValue value plain enough]
    rfl
  cases value with
  | null => exact .null kept rfl
  | bool flag => exact .bool kept rfl
  | number number =>
      obtain ⟨number, fits, rfl⟩ := plain
      refine .natural kept rfl ?_
      simp only [Format.natural, Node.ofValue, Json.Number.toNat, Int.toNat_natCast,
        Json.Numeral.value_ofNat fits]
      rfl
  | text text => exact shows_ofValue_text remaining text
  | list items =>
      obtain ⟨below, inside⟩ := below_of_lt enough
      refine .list kept ?_ (showsItems_ofItems items plain inside)
      simp only [Format.list, Node.ofValue, below]
      rfl
  | map entries =>
      obtain ⟨below, inside⟩ := below_of_lt enough
      refine .map kept (fun _ => ?_) (fun _ => ?_) (showsEntries_ofEntries entries plain inside)
      · simp only [Format.struct, Node.ofValue, below]
        rfl
      · simp only [Format.any, Node.ofValue, below]
        rfl

theorem showsItems_ofItems
    (items : List Value)
    (plain : Value.ArePlain items)
    {remaining : Nat}
    (enough : Value.depthOfItems items < remaining) :
    ShowsItems (Cursor.items remaining (Node.ofItems items)) items := by
  cases items with
  | nil => exact .done
  | cons item items =>
      obtain ⟨first, others⟩ := Nat.max_lt.mp enough
      exact .next (shows_ofValue item plain.1 first) (showsItems_ofItems items plain.2 others)

theorem showsEntries_ofEntries
    (entries : List (String × Value))
    (plain : Value.HasPlainEntries entries)
    {remaining : Nat}
    (enough : Value.depthOfEntries entries < remaining) :
    ShowsEntries (Cursor.entries remaining (Node.ofEntries entries)) entries := by
  cases entries with
  | nil => exact .done
  | cons entry entries =>
      obtain ⟨name, value⟩ := entry
      obtain ⟨first, others⟩ := Nat.max_lt.mp enough
      exact .next (shows_ofValue_text remaining name) (shows_ofValue value plain.1 first)
        (showsEntries_ofEntries entries plain.2 others)

end

end

end Decoding
end LineExtraction
