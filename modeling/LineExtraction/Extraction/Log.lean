/-!
# Log entries

What the library has to say while it works, beside its results.  `Logged` carries a
value together with the entries that were written on the way to it.
-/

namespace LineExtraction

/-- How grave an entry is. -/
inductive LogLevel where
  | warning
  | debug
deriving DecidableEq, Repr

/-- The word that stands in front of an entry. -/
def LogLevel.label : LogLevel → String
  | warning => "warning"
  | debug => "debug"

/-- One entry. -/
structure LogEntry where
  level : LogLevel
  text : String
deriving DecidableEq, Repr

namespace LogEntry

/-- The line that shows an entry. -/
def render (entry : LogEntry) : String :=
  entry.level.label ++ ": " ++ entry.text

/-- Whether an entry is shown.  Debug entries are shown only when asked for. -/
def isShown (debug : Bool) (entry : LogEntry) : Bool :=
  debug ∨ entry.level = .warning

end LogEntry

/-- A value and the entries written on the way to it. -/
structure Logged (α : Type) where
  entries : List LogEntry
  value : α
deriving Repr

namespace Logged

/-- A value that nothing was written for. -/
def silent {α : Type} (value : α) : Logged α := ⟨[], value⟩

/-- Write one entry. -/
def write (level : LogLevel) (text : String) : Logged Unit := ⟨[⟨level, text⟩], ()⟩

instance : Monad Logged where
  pure := silent
  bind logged next :=
    let result := next logged.value
    ⟨logged.entries ++ result.entries, result.value⟩

end Logged
end LineExtraction
