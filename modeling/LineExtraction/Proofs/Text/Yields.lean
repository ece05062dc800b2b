import LineExtraction.Text.Read

/-!
# What readers yield

A reader that succeeds yields a value and leaves a rest.  How it knows that the rest is no
longer than the text is of no interest, so it is left out of statements.  Most readers leave an end of
their text.
-/

namespace LineExtraction

/-- The reader succeeds with a value and leaves a rest. -/
def Yields
    {ε α : Type}
    {text : List Char}
    (result : Except ε (Read α text))
    (value : α)
    (rest : List Char) : Prop :=
  ∃ shorter, result = .ok ⟨value, rest, shorter⟩

section

variable {ε α β : Type} {text longer : List Char}

theorem Read.eq_mk
    {α : Type}
    {text rest : List Char}
    {value : α}
    {read : Read α text}
    (valueIs : read.value = value)
    (restIs : read.rest = rest)
    (bound : rest.length ≤ text.length) :
    read = ⟨value, rest, bound⟩ := by
  subst valueIs restIs
  rfl

theorem yields_iff
    {result : Except ε (Read α text)}
    {value : α}
    {rest : List Char} :
    Yields result value rest ↔
      ∃ read, result = .ok read ∧ read.value = value ∧ read.rest = rest := by
  constructor
  · rintro ⟨shorter, same⟩
    exact ⟨_, same, rfl, rfl⟩
  · rintro ⟨⟨_, _, shorter⟩, same, rfl, rfl⟩
    exact ⟨shorter, same⟩

variable {result : Except ε (Read α text)} {value : α} {rest : List Char}

theorem Yields.unique
    (yields : Yields result value rest)
    {read : Read α text}
    (found : result = .ok read) :
    read.value = value ∧ read.rest = rest := by
  obtain ⟨shorter, same⟩ := yields
  obtain rfl := Except.ok.inj (found.symm.trans same)
  exact ⟨rfl, rfl⟩

theorem yields_ok_iff
    {read : Read α text} :
    Yields (.ok read : Except ε (Read α text)) value rest ↔
      read.value = value ∧ read.rest = rest := by
  constructor
  · rintro ⟨shorter, same⟩
    obtain rfl := Except.ok.inj same
    exact ⟨rfl, rfl⟩
  · rintro ⟨rfl, rfl⟩
    exact ⟨read.shorter, rfl⟩

/-- A reader yields one value only. -/
theorem Yields.eq_iff
    (yields : Yields result value rest)
    {other : α}
    {end' : List Char} :
    Yields result other end' ↔ other = value ∧ end' = rest := by
  constructor
  · rintro ⟨shorter, same⟩
    obtain ⟨rfl, rfl⟩ := yields.unique same
    exact ⟨rfl, rfl⟩
  · rintro ⟨rfl, rfl⟩
    exact yields

theorem Yields.map
    (yields : Yields result value rest)
    (change : α → β) :
    Yields (do return (← result).map change) (change value) rest := by
  obtain ⟨shorter, rfl⟩ := yields
  exact ⟨shorter, rfl⟩

theorem yields_map_iff
    {change : α → β}
    {last : β} :
    Yields (do return (← result).map change) last rest ↔
      ∃ value, Yields result value rest ∧ change value = last := by
  constructor
  · rintro ⟨shorter, found⟩
    cases result with
    | error cause => cases found
    | ok read =>
        obtain ⟨rfl, rfl⟩ := Read.mk.inj (Except.ok.inj found)
        exact ⟨read.value, ⟨shorter, rfl⟩, rfl⟩
  · rintro ⟨value, yields, rfl⟩
    exact yields.map change

theorem Yields.weaken
    (yields : Yields result value rest)
    (bound : text.length ≤ longer.length) :
    Yields (do return (← result).weaken bound) value rest := by
  obtain ⟨shorter, rfl⟩ := yields
  exact ⟨Nat.le_trans shorter bound, rfl⟩

theorem yields_weaken_iff
    {bound : text.length ≤ longer.length} :
    Yields (do return (← result).weaken bound) value rest ↔ Yields result value rest := by
  constructor
  · rintro ⟨shorter, same⟩
    cases result with
    | error cause => exact nomatch same
    | ok read =>
        obtain ⟨rfl, rfl⟩ := (Read.mk.injEq .. ▸ Except.ok.inj same :)
        exact ⟨read.shorter, rfl⟩
  · exact fun yields => yields.weaken bound

theorem Yields.mapWeaken
    (yields : Yields result value rest)
    (change : α → β)
    (bound : text.length ≤ longer.length) :
    Yields (do return ((← result).map change).weaken bound) (change value) rest := by
  obtain ⟨shorter, rfl⟩ := yields
  exact ⟨Nat.le_trans shorter bound, rfl⟩

/-- A reader goes on with what another one yields. -/
theorem Yields.bind
    (yields : Yields result value rest)
    {next : Read α text → Except ε (Read β longer)}
    {last : β}
    {end' : List Char}
    (others : ∀ shorter, Yields (next ⟨value, rest, shorter⟩) last end') :
    Yields (result >>= next) last end' := by
  obtain ⟨shorter, rfl⟩ := yields
  exact others shorter

end

/-! ## Readers that leave an end of their text -/

/-- Whether what a reader leaves is always an end of its text. -/
def Trims
    {ε α : Type}
    {text : List Char}
    (result : Except ε (Read α text)) : Prop :=
  ∀ read, result = .ok read → read.rest <:+ text

section

variable {ε α β : Type} {text text' : List Char}

theorem trims_error
    {cause : ε} :
    Trims (.error cause : Except ε (Read α text)) :=
  fun _ found => nomatch found

theorem trims_ok
    {read : Read α text}
    (rest : read.rest <:+ text) :
    Trims (.ok read : Except ε (Read α text)) := by
  intro other found
  obtain rfl := Except.ok.inj found
  exact rest

theorem trims_bind
    {γ : Type}
    {value : Except ε γ}
    {next : γ → Except ε (Read α text)}
    (trims : ∀ found, value = .ok found → Trims (next found)) :
    Trims (value >>= next) := by
  cases value with
  | error cause => exact trims_error
  | ok found => exact trims found rfl

/-- What keeps the rest of a trimming reader trims what the reader's text is an end of. -/
theorem Trims.change
    {result : Except ε (Read α text)}
    (trims : Trims result)
    {change : Read α text → Read β text'}
    (inside : text <:+ text')
    (rest : ∀ read, (change read).rest = read.rest) :
    Trims (do return change (← result)) :=
  trims_bind fun read found => trims_ok (rest read ▸ (trims read found).trans inside)

end

end LineExtraction
