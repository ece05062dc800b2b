import LineExtraction.Catalogue.Written
import LineExtraction.Json.Source
import LineExtraction.Proofs.Json.Documents

/-!
# The numbers of a document

A number of a JSON document is taken for a natural number only if it has no more than 64
bits.  Decoding hands numbers on and makes up none but zero, so all numbers of a definition
file that was read have that many bits at most.
-/

namespace LineExtraction
namespace Decoding

open Json (Value)

/-! ## What decoding ensures -/

/-- Decoding gives only values of a kind. -/
def Decode.Ensures {β : Type} (decode : Decode β) (holds : β → Prop) : Prop :=
  ∀ count result, decode count = .ok result → holds result.1

namespace Decode.Ensures

variable {β γ : Type} {holds : β → Prop}

theorem pure {value : β} (true : holds value) : Ensures (pure value) holds := by
  rintro count result ⟨⟩
  exact true

theorem throw (error : ReadError) : Ensures (throw error) holds := by
  rintro count result ⟨⟩

theorem bind
    {decode : Decode γ}
    {next : γ → Decode β}
    {before : γ → Prop}
    (first : decode.Ensures before)
    (second : ∀ value, before value → (next value).Ensures holds) :
    Ensures (decode >>= next) holds := by
  intro count result decoded
  cases found : decode count with
  | error cause =>
      have failed : (decode >>= next) count = .error cause := by
        change (decode count >>= fun found => next found.1 found.2) = _
        rw [found]
        rfl
      cases failed.symm.trans decoded
  | ok value =>
      have step : (decode >>= next) count = next value.1 value.2 := by
        change (decode count >>= fun found => next found.1 found.2) = _
        rw [found]
        rfl
      exact second value.1 (first count value found) value.2 result (step.symm.trans decoded)

theorem throw_bind
    (error : ReadError)
    (next : γ → Decode β) :
    Ensures (MonadExcept.throw error >>= next) holds := by
  rintro count result ⟨⟩

theorem lift
    {value : Except ReadError β}
    (all : ∀ found, value = .ok found → holds found) :
    Ensures (liftM value) holds := by
  intro count result decoded
  cases value with
  | error cause => cases decoded
  | ok found =>
      obtain rfl := Except.ok.inj (show Except.ok (found, count) = Except.ok result from decoded)
      exact all found rfl

theorem mono
    {decode : Decode β}
    {weaker : β → Prop}
    (ensures : decode.Ensures holds)
    (follows : ∀ value, holds value → weaker value) :
    decode.Ensures weaker :=
  fun count result decoded => follows _ (ensures count result decoded)

theorem any (decode : Decode β) : decode.Ensures fun _ => True := fun _ _ _ => trivial

theorem outcome
    {decode : Decode β}
    (ensures : decode.Ensures holds)
    {value : β}
    (decoded : decode.outcome = .ok value) :
    holds value := by
  cases found : decode 0 with
  | error cause =>
      have failed : decode.outcome = .error cause := by
        change _ <$> decode 0 = _
        rw [found]
        rfl
      cases failed.symm.trans decoded
  | ok result =>
      have given : decode.outcome = .ok result.1 := by
        change _ <$> decode 0 = _
        rw [found]
        rfl
      exact Except.ok.inj (given.symm.trans decoded) ▸ ensures 0 result found

end Decode.Ensures

/-! ## Formats without long numbers -/

mutual

/-- Whether no integer in the data is longer than 64 bits. -/
def Datum.IsShort : Datum → Prop
  | .integer value => value ≤ Json.maximalInteger
  | .list items => AreShort items
  | .map entries => HasShortEntries entries
  | _ => True

/-- Whether no integer in the items is longer than 64 bits. -/
def AreShort : List Datum → Prop
  | [] => True
  | item :: items => item.IsShort ∧ AreShort items

/-- Whether no integer in the entries is longer than 64 bits. -/
def HasShortEntries : List (Datum × Datum) → Prop
  | [] => True
  | (key, value) :: entries => (key.IsShort ∧ value.IsShort) ∧ HasShortEntries entries

end

/-- Parts of which each is of a kind. -/
inductive Stream.All {α : Type} (holds : α → Prop) : Stream α → Prop
  | done : All holds .done
  | broken {fault : Fault} : All holds (.broken fault)
  | next {head : α} {tail : Stream α} (first : holds head) (others : All holds tail) :
    All holds (.next head tail)

/-- Fields of which each is of a kind. -/
def StructView.All {α : Type} (holds : α → Prop) : StructView α → Prop
  | .keyed entries => entries.All fun entry => holds entry.1 ∧ holds entry.2
  | .positional items => items.All holds

/-- Whatever there is, its parts are of a kind. -/
def AnyView.All {α : Type} (holds : α → Prop) : AnyView α → Prop
  | .map entries => entries.All fun entry => holds entry.1 ∧ holds entry.2
  | .list items => items.All holds
  | _ => True

/-- Taking content of a kind apart gives content of that kind, and no natural number that is
longer than 64 bits. -/
structure Shortens {α : Type} [Format α] (short : α → Prop) : Prop where
  struct : ∀ expected content, short content →
    (Format.struct expected content).Ensures (StructView.All short)
  list : ∀ content, short content → (Format.list content).Ensures (Stream.All short)
  natural : ∀ content, short content →
    (Format.natural content).Ensures (· ≤ Json.maximalInteger)
  optional : ∀ content, short content →
    (Format.optional content).Ensures fun found => ∀ value, found = some value → short value
  any : ∀ expected content, short content →
    (Format.any expected content).Ensures (AnyView.All short)
  keep : ∀ expected content, short content → (Format.keep expected content).Ensures Datum.IsShort

/-! ## Documents -/

section

open Json (Cursor Node)

theorem Stream.all_of_forall
    {α : Type}
    {holds : α → Prop}
    (all : ∀ part, holds part)
    (parts : Stream α) :
    parts.All holds := by
  induction parts with
  | done => exact .done
  | broken fault => exact .broken
  | next head tail inductionHypothesis => exact .next (all head) inductionHypothesis

theorem faulty_eq_ok_iff
    {β : Type}
    {value : Except Fault β}
    {found : β} :
    Json.faulty value = .ok found ↔ value = .ok found := by
  cases value with
  | error fault =>
      constructor
      · intro same
        cases same
      · intro same
        cases same
  | ok other =>
      constructor
      · intro same
        cases same
        rfl
      · intro same
        cases same
        rfl

mutual

/-- What is kept of a document is short. -/
theorem isShort_of_keep
    (node : Node)
    {remaining : Nat}
    {datum : Datum}
    (kept : node.keep remaining = .ok datum) :
    datum.IsShort := by
  cases node with
  | null =>
      cases kept
      trivial
  | bool flag =>
      cases kept
      trivial
  | number numeral =>
      rw [Node.keep] at kept
      obtain ⟨value, found, kept⟩ := Except.bind_eq_ok_iff.mp kept
      cases value with
      | integer value =>
          cases kept
          exact Json.Numeral.le_of_value (faulty_eq_ok_iff.mp found)
      | float shown =>
          cases kept
          trivial
  | text content =>
      obtain ⟨text, -, kept⟩ := Except.bind_eq_ok_iff.mp kept
      cases kept
      trivial
  | list items =>
      obtain ⟨below, -, kept⟩ := Except.bind_eq_ok_iff.mp kept
      obtain ⟨data, found, kept⟩ := Except.bind_eq_ok_iff.mp kept
      cases kept
      exact areShort_of_keepItems items found
  | map entries =>
      obtain ⟨below, -, kept⟩ := Except.bind_eq_ok_iff.mp kept
      obtain ⟨data, found, kept⟩ := Except.bind_eq_ok_iff.mp kept
      cases kept
      exact hasShortEntries_of_keepEntries entries found
  | misplaced node => cases kept
  | broken wanted passed => cases kept

theorem areShort_of_keepItems
    (items : Stream Node)
    {remaining : Nat}
    {data : List Datum}
    (kept : Node.keepItems remaining items = .ok data) :
    AreShort data := by
  cases items with
  | done =>
      cases kept
      trivial
  | broken fault => cases kept
  | next head tail =>
      obtain ⟨first, firstKept, kept⟩ := Except.bind_eq_ok_iff.mp kept
      obtain ⟨others, othersKept, kept⟩ := Except.bind_eq_ok_iff.mp kept
      cases kept
      exact ⟨isShort_of_keep head firstKept, areShort_of_keepItems tail othersKept⟩

theorem hasShortEntries_of_keepEntries
    (entries : Stream (Node × Node))
    {remaining : Nat}
    {data : List (Datum × Datum)}
    (kept : Node.keepEntries remaining entries = .ok data) :
    HasShortEntries data := by
  cases entries with
  | done =>
      cases kept
      trivial
  | broken fault => cases kept
  | next head tail =>
      obtain ⟨key, value⟩ := head
      obtain ⟨first, keyKept, kept⟩ := Except.bind_eq_ok_iff.mp kept
      obtain ⟨second, valueKept, kept⟩ := Except.bind_eq_ok_iff.mp kept
      obtain ⟨others, othersKept, kept⟩ := Except.bind_eq_ok_iff.mp kept
      cases kept
      exact ⟨⟨isShort_of_keep key keyKept, isShort_of_keep value valueKept⟩,
        hasShortEntries_of_keepEntries tail othersKept⟩

end

theorem refuse_ne_ok
    {β : Type}
    (node : Node)
    {expected : String}
    {value : β} :
    node.refuse expected ≠ .ok value := by
  intro refused
  obtain ⟨found, -, failed⟩ := Except.bind_eq_ok_iff.mp refused
  cases failed

/-- Any document is short. -/
theorem shortens_cursor : Shortens fun _ : Cursor => True where
  struct _ _ _ := by
    refine .mono (.any _) fun view _ => ?_
    cases view with
    | keyed entries => exact Stream.all_of_forall (fun _ => ⟨trivial, trivial⟩) entries
    | positional items => exact Stream.all_of_forall (fun _ => trivial) items
  list _ _ := .mono (.any _) fun _ _ => Stream.all_of_forall (fun _ => trivial) _
  natural cursor _ := by
    obtain ⟨remaining, node⟩ := cursor
    cases node with
    | number numeral =>
        refine .bind (.lift fun value found => faulty_eq_ok_iff.mp found) fun value found => ?_
        cases value with
        | integer number =>
            cases number with
            | ofNat number => exact .pure (Int.ofNat_le.mp (Json.Numeral.le_of_value found))
            | negSucc number => exact .throw _
        | float shown => exact .throw _
    | _ => exact .lift fun _ refused => absurd refused (refuse_ne_ok _)
  optional _ _ := .mono (.any _) fun _ _ _ _ => trivial
  any _ _ _ := by
    refine .mono (.any _) fun view _ => ?_
    cases view with
    | map entries => exact Stream.all_of_forall (fun _ => ⟨trivial, trivial⟩) entries
    | list items => exact Stream.all_of_forall (fun _ => trivial) items
    | scalar found => trivial
    | tagged => trivial
  keep _ cursor _ := .lift fun _ kept => isShort_of_keep cursor.node kept

end

/-! ## Kept data -/

theorem all_items_of_areShort
    {buffered : Buffered}
    {data : List Datum}
    (short : AreShort data) :
    (buffered.items data).All fun buffered => buffered.datum.IsShort := by
  induction data with
  | nil => exact .done
  | cons datum data inductionHypothesis => exact .next short.1 (inductionHypothesis short.2)

theorem all_entries_of_hasShortEntries
    {buffered : Buffered}
    {data : List (Datum × Datum)}
    (short : HasShortEntries data) :
    (buffered.entries data).All fun entry => entry.1.datum.IsShort ∧ entry.2.datum.IsShort := by
  induction data with
  | nil => exact .done
  | cons entry data inductionHypothesis =>
      obtain ⟨key, value⟩ := entry
      exact .next short.1 (inductionHypothesis short.2)

/-- Kept data that is short stays short. -/
theorem shortens_buffered : Shortens fun buffered : Buffered => buffered.datum.IsShort where
  struct _ buffered short := by
    obtain ⟨datum, nothingShown⟩ := buffered
    cases datum with
    | list data => exact .pure (all_items_of_areShort short)
    | map data => exact .pure (all_entries_of_hasShortEntries short)
    | _ => exact .throw _
  list buffered short := by
    obtain ⟨datum, nothingShown⟩ := buffered
    cases datum with
    | list data => exact .pure (all_items_of_areShort short)
    | _ => exact .throw _
  natural buffered short := by
    obtain ⟨datum, nothingShown⟩ := buffered
    cases datum with
    | integer value =>
        cases value with
        | ofNat value => exact .pure (Int.ofNat_le.mp short)
        | negSucc value => exact .throw _
    | _ => exact .throw _
  optional buffered short := by
    obtain ⟨datum, nothingShown⟩ := buffered
    cases datum with
    | nothing => exact .pure fun _ same => absurd same (Option.some_ne_none _).symm
    | _ => exact .pure fun _ same => Option.some.inj same ▸ short
  any _ buffered short := by
    obtain ⟨datum, nothingShown⟩ := buffered
    cases datum with
    | list data => exact .pure (all_items_of_areShort short)
    | map data => exact .pure (all_entries_of_hasShortEntries short)
    | _ => exact .pure trivial
  keep _ _ short := .pure short

/-! ## Structures -/

section

variable {α σ : Type} [Format α] {short : α → Prop} {holds : σ → Prop} {spec : StructSpec α σ}

/-- What holds of a structure and is kept by each of its fields holds of what is read. -/
theorem StructSpec.ensures_read
    (shortens : Shortens short)
    (start : holds spec.start)
    (keeps : ∀ field content value, short content → holds value →
      (spec.set field content value).Ensures holds)
    {content : α}
    (given : short content) :
    (spec.read content).Ensures holds := by
  have keyed (entries : Stream (α × α)) (seen : List Nat) (value : σ) (true : holds value)
      (all : entries.All fun entry => short entry.1 ∧ short entry.2) :
      (spec.readKeyed seen value entries).Ensures holds := by
    induction entries generalizing seen value with
    | done =>
        rw [readKeyed]
        split
        · exact .throw _
        · exact .pure true
    | broken fault => exact .throw _
    | next entry entries inductionHypothesis =>
        obtain ⟨key, content⟩ := entry
        cases all with
        | next first others =>
            rw [readKeyed]
            refine .bind (.any _) fun identifier _ => ?_
            split
            · next field known =>
                split
                · exact .throw_bind _ _
                · refine .bind (keeps field content value first.2 true) fun changed still => ?_
                  exact inductionHypothesis _ changed still others
            · split
              · exact .throw_bind _ _
              · exact .bind (.any _) fun _ _ => inductionHypothesis _ value true others
  have positional (count field : Nat) (items : Stream α) (value : σ) (true : holds value)
      (all : items.All short) :
      (spec.readPositional field value count items).Ensures holds := by
    induction count generalizing field value items with
    | zero =>
        cases items <;> exact .bind (.any _) fun _ _ => .pure true
    | succ count inductionHypothesis =>
        cases all with
        | done =>
            rw [readPositional]
            split
            · exact .throw _
            · exact inductionHypothesis _ _ value true .done
        | broken => exact .throw _
        | next first others =>
            refine .bind (keeps field _ value first true) fun changed still => ?_
            exact inductionHypothesis _ _ changed still others
  rw [StructSpec.read]
  refine .bind (shortens.struct spec.expected content given) fun view all => ?_
  cases view with
  | keyed entries => exact keyed entries [] spec.start start all
  | positional items => exact positional _ 0 items spec.start start all

end

section

variable {α : Type} {short : α → Prop}

theorem ensures_mapM
    {β : Type}
    {decode : α → Decode β}
    {holds : β → Prop}
    (each : ∀ content, short content → (decode content).Ensures holds)
    {parts : Stream α}
    (all : parts.All short) :
    (parts.mapM decode).Ensures fun found => ∀ value ∈ found, holds value := by
  induction all with
  | done => exact .pure fun _ member => absurd member List.not_mem_nil
  | broken => exact .throw _
  | next first others inductionHypothesis =>
      refine .bind (each _ first) fun value true => ?_
      refine .bind inductionHypothesis fun found rest => ?_
      exact .pure (List.forall_mem_cons.mpr ⟨true, rest⟩)

theorem ensures_readOptional_natural
    [Format α]
    (shortens : Shortens short)
    {content : α}
    (given : short content) :
    (readOptional Format.natural content).Ensures fun found =>
      ∀ number ∈ found, number ≤ Json.maximalInteger := by
  refine .bind (shortens.optional content given) fun found all => ?_
  cases found with
  | none => exact .pure fun _ absent => absurd absent (Option.not_mem_none _)
  | some content =>
      refine .bind (shortens.natural content (all content rfl)) fun number fits => ?_
      exact .pure fun _ same => Option.some.inj same ▸ fits

end

/-! ## Locations -/

theorem isPlain_ofNat_iff
    {number : Nat} :
    (Value.ofNat number).IsPlain ↔ number ≤ Json.maximalInteger := by
  constructor
  · rintro ⟨same, fits, shown⟩
    obtain rfl : number = same := Int.ofNat_inj.mp (Json.Number.integer.inj shown)
    exact fits
  · exact fun fits => ⟨number, fits, rfl⟩

theorem isPlain_ofOption_text
    (text : Option String) :
    (Value.ofOption .text text).IsPlain := by
  cases text <;> trivial

theorem isPlain_ofOption_ofNat
    {number : Option Nat}
    (fits : ∀ found ∈ number, found ≤ Json.maximalInteger) :
    (Value.ofOption .ofNat number).IsPlain := by
  cases number with
  | none => trivial
  | some number => exact isPlain_ofNat_iff.mpr (fits number rfl)

section

variable {α : Type} [Format α] {short : α → Prop}

/-- The numbers of a location that is read are short. -/
theorem ensures_readLocation
    (shortens : Shortens short)
    {content : α}
    (given : short content) :
    (readLocation content).Ensures fun location => location.written.IsPlain := by
  refine StructSpec.ensures_read shortens ?_ ?_ given
  · exact ⟨trivial, isPlain_ofNat_iff.mpr (Nat.zero_le _), isPlain_ofNat_iff.mpr (Nat.zero_le _), trivial⟩
  · rintro field content location given ⟨-, line, column, -⟩
    dsimp only [locationSpec]
    split
    · refine .bind (.any _) fun source _ => ?_
      exact .pure ⟨isPlain_ofOption_text source, line, column, trivial⟩
    · refine .bind (shortens.natural content given) fun number fits => ?_
      exact .pure ⟨isPlain_ofOption_text _, isPlain_ofNat_iff.mpr fits, column, trivial⟩
    · refine .bind (shortens.natural content given) fun number fits => ?_
      exact .pure ⟨isPlain_ofOption_text _, line, isPlain_ofNat_iff.mpr fits, trivial⟩

/-! ## Pieces -/

theorem hasShortEntries_reverse
    {left right : List (Datum × Datum)}
    (first : HasShortEntries left)
    (second : HasShortEntries right) :
    HasShortEntries (left.reverseAux right) := by
  induction left generalizing right with
  | nil => exact second
  | cons entry left inductionHypothesis =>
      obtain ⟨key, value⟩ := entry
      exact inductionHypothesis first.2 ⟨first.1, second⟩

theorem areShort_of_forall
    {data : List Datum}
    (all : ∀ datum ∈ data, datum.IsShort) :
    AreShort data := by
  induction data with
  | nil => trivial
  | cons datum data inductionHypothesis =>
      obtain ⟨first, others⟩ := List.forall_mem_cons.mp all
      exact ⟨first, inductionHypothesis others⟩

/-- What is kept of the entries of a piece is short. -/
theorem ensures_readTypedEntries
    (shortens : Shortens short)
    {entries : Stream (α × α)}
    (all : entries.All fun entry => short entry.1 ∧ short entry.2)
    (type : Option PieceType)
    {kept : List (Datum × Datum)}
    (before : HasShortEntries kept) :
    (readTypedEntries type kept entries).Ensures fun typed => typed.content.IsShort := by
  induction all generalizing type kept with
  | done =>
      cases type with
      | none => exact .throw _
      | some type => exact .pure (hasShortEntries_reverse before trivial)
  | broken => exact .throw _
  | @next head tail first others inductionHypothesis =>
      obtain ⟨key, content⟩ := head
      rw [readTypedEntries]
      refine .bind (shortens.keep _ key first.1) fun datum keyShort => ?_
      split
      · split
        · exact .throw_bind _ _
        · exact .bind (.any _) fun type _ => inductionHypothesis (some type) before
      · refine .bind (shortens.keep _ content first.2) fun value valueShort => ?_
        exact inductionHypothesis type ⟨⟨keyShort, valueShort⟩, before⟩

/-- What is kept of a piece is short. -/
theorem ensures_readTypedContent
    (shortens : Shortens short)
    {content : α}
    (given : short content) :
    (readTypedContent content).Ensures fun typed => typed.content.IsShort := by
  refine .bind (shortens.any _ content given) fun view all => ?_
  cases view with
  | map entries => exact ensures_readTypedEntries shortens all none trivial
  | list items =>
      cases all with
      | done => exact .throw _
      | broken => exact .throw _
      | next first others =>
          refine .bind (.any _) fun type _ => ?_
          refine .bind (ensures_mapM (shortens.keep keptExpected) others) fun data kept => ?_
          exact .pure (areShort_of_forall kept)
  | scalar found => exact .throw _
  | tagged => exact .throw _

end

/-- The numbers of the location of a piece without parts are short. -/
theorem ensures_readLeaf
    {expected : String}
    {fields : List String}
    {content : Buffered}
    (given : content.datum.IsShort) :
    (StructSpec.read { textSpec with expected, fields } content).Ensures fun found =>
      found.2.written.IsPlain := by
  refine StructSpec.ensures_read shortens_buffered ?_ ?_ given
  · exact ⟨trivial, isPlain_ofNat_iff.mpr (Nat.zero_le _), isPlain_ofNat_iff.mpr (Nat.zero_le _), trivial⟩
  · intro field content value given plain
    dsimp only [textSpec]
    split
    · exact .bind (.any _) fun text _ => .pure plain
    · exact .bind (ensures_readLocation shortens_buffered given) fun location found => .pure found

theorem arePlain_of_forall
    {values : List Value}
    (all : ∀ value ∈ values, value.IsPlain) :
    Value.ArePlain values := by
  induction values with
  | nil => trivial
  | cons value values inductionHypothesis =>
      obtain ⟨first, others⟩ := List.forall_mem_cons.mp all
      exact ⟨first, inductionHypothesis others⟩

/-- The numbers of a piece are short, if those of its parts are. -/
theorem ensures_readTyped
    {readPart : Buffered → Decode Piece}
    (parts : ∀ content : Buffered, content.datum.IsShort →
      (readPart content).Ensures fun part => part.written.IsPlain)
    (type : PieceType)
    {content : Buffered}
    (given : content.datum.IsShort) :
    (readTyped readPart type content).Ensures fun piece => piece.written.IsPlain := by
  cases type with
  | text =>
      refine .bind (ensures_readLeaf given) fun found plain => ?_
      exact .pure ⟨trivial, trivial, plain, trivial⟩
  | pattern =>
      refine .bind (ensures_readLeaf given) fun found plain => ?_
      exact .pure ⟨trivial, trivial, plain, trivial⟩
  | expression =>
      have read : ((expressionSpec readPart).read content).Ensures fun found =>
          (Piece.expression found.name found.parts found.location).written.IsPlain := by
        refine StructSpec.ensures_read shortens_buffered ?_ ?_ given
        · exact ⟨trivial, trivial, trivial,
            ⟨trivial, isPlain_ofNat_iff.mpr (Nat.zero_le _), isPlain_ofNat_iff.mpr (Nat.zero_le _), trivial⟩,
            trivial⟩
        · rintro field content value given ⟨-, -, listed, location, -⟩
          dsimp only [expressionSpec]
          split
          · exact .bind (.any _) fun name _ =>
              .pure ⟨trivial, trivial, listed, location, trivial⟩
          · refine .bind (shortens_buffered.list content given) fun items all => ?_
            refine .bind (ensures_mapM parts all) fun found plain => ?_
            refine .pure ⟨trivial, trivial, ?_, location, trivial⟩
            rw [Piece.writtenAll_eq_map]
            exact arePlain_of_forall (List.forall_mem_map.mpr plain)
          · exact .bind (ensures_readLocation shortens_buffered given) fun found plain =>
              .pure ⟨trivial, trivial, listed, plain, trivial⟩
      exact .bind read fun found plain => .pure plain

/-- The numbers of a kept piece are short. -/
theorem ensures_readKeptPiece
    (fuel : Nat)
    {content : Buffered}
    (given : content.datum.IsShort) :
    (readKeptPiece fuel content).Ensures fun piece => piece.written.IsPlain := by
  induction fuel generalizing content with
  | zero => exact .throw _
  | succ fuel inductionHypothesis =>
      refine .bind (ensures_readTypedContent shortens_buffered given) fun typed kept => ?_
      exact ensures_readTyped (fun _ => inductionHypothesis) typed.type kept

section

variable {α : Type} [Format α] {short : α → Prop}

/-- The numbers of a piece that is read are short. -/
theorem ensures_readPiece
    (shortens : Shortens short)
    {content : α}
    (given : short content) :
    (readPiece content).Ensures fun piece => piece.written.IsPlain := by
  refine .bind (ensures_readTypedContent shortens given) fun typed kept => ?_
  exact ensures_readTyped (fun _ => ensures_readKeptPiece _) typed.type kept

/-! ## Definitions, options and files -/

theorem ensures_readDefinition
    (shortens : Shortens short)
    {content : α}
    (given : short content) :
    (readDefinition content).Ensures fun definition => definition.written.IsPlain := by
  refine StructSpec.ensures_read shortens ?_ ?_ given
  · exact ⟨trivial, trivial,
      ⟨trivial, isPlain_ofNat_iff.mpr (Nat.zero_le _), isPlain_ofNat_iff.mpr (Nat.zero_le _), trivial⟩, trivial⟩
  · rintro field content definition given ⟨-, listed, location, -⟩
    dsimp only [definitionSpec]
    split
    · exact .bind (.any _) fun name _ => .pure ⟨trivial, listed, location, trivial⟩
    · refine .bind (shortens.list content given) fun items all => ?_
      refine .bind (ensures_mapM (fun _ => ensures_readPiece shortens) all) fun found plain => ?_
      exact .pure ⟨trivial, arePlain_of_forall (List.forall_mem_map.mpr plain), location, trivial⟩
    · exact .bind (ensures_readLocation shortens given) fun found plain =>
        .pure ⟨trivial, listed, plain, trivial⟩

theorem ensures_readOptions
    (shortens : Shortens short)
    {content : α}
    (given : short content) :
    (readOptions content).Ensures fun options => options.written.IsPlain := by
  refine StructSpec.ensures_read shortens ?_ ?_ given
  · exact ⟨trivial, trivial, trivial, trivial, trivial, trivial⟩
  · rintro field content options given ⟨-, size, dfaSize, backtrack, -⟩
    have limit := ensures_readOptional_natural shortens given
    dsimp only [optionsSpec]
    split
    · exact .bind (.any _) fun backend _ =>
        .pure ⟨trivial, size, dfaSize, backtrack, trivial, trivial⟩
    · exact .bind limit fun number fits =>
        .pure ⟨trivial, isPlain_ofOption_ofNat fits, dfaSize, backtrack, trivial, trivial⟩
    · exact .bind limit fun number fits =>
        .pure ⟨trivial, size, isPlain_ofOption_ofNat fits, backtrack, trivial, trivial⟩
    · exact .bind limit fun number fits =>
        .pure ⟨trivial, size, dfaSize, isPlain_ofOption_ofNat fits, trivial, trivial⟩
    · exact .bind (.any _) fun parallel _ =>
        .pure ⟨trivial, size, dfaSize, backtrack, trivial, trivial⟩

/-- The numbers of a definition file that is read are short. -/
theorem ensures_readFile
    (shortens : Shortens short)
    {content : α}
    (given : short content) :
    (readFile content).Ensures fun file => file.written.IsPlain := by
  refine StructSpec.ensures_read shortens ?_ ?_ given
  · exact ⟨⟨trivial, trivial, trivial, trivial, trivial, trivial⟩, trivial, trivial⟩
  · rintro field content file given ⟨options, listed, -⟩
    dsimp only [fileSpec]
    split
    · exact .bind (ensures_readOptions shortens given) fun found plain =>
        .pure ⟨plain, listed, trivial⟩
    · refine .bind ?_ fun found (plain : ∀ definition ∈ found, definition.written.IsPlain) =>
        .pure ⟨options, arePlain_of_forall (List.forall_mem_map.mpr plain), trivial⟩
      refine .bind (shortens.list content given) fun items all => ?_
      exact ensures_mapM (fun _ => ensures_readDefinition shortens) all

end

end Decoding

/-- All numbers of a definition file that was read have at most 64 bits. -/
theorem Json.isPlain_of_readDefinitionFile
    {text : String}
    {file : DefinitionFile}
    (read : readDefinitionFile text = .ok file) :
    file.written.IsPlain := by
  obtain ⟨found, outcome, checked⟩ := Except.bind_eq_ok_iff.mp read
  have plain : found.written.IsPlain :=
    (Decoding.ensures_readFile Decoding.shortens_cursor trivial).outcome outcome
  dsimp only at checked
  split at checked
  · cases checked
  · exact Except.ok.inj checked ▸ plain

end LineExtraction
