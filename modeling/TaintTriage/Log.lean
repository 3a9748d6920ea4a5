import TaintTriage.Value.Literal

/-!
Log records.  A record carries its level, the name of the logger it was written through, its
message and its context; a computation that logs returns its records beside its outcome.
-/

namespace TaintTriage

/-- How urgent a record is. -/
inductive Level where
  | debug | info | warning | error | critical
deriving DecidableEq, Repr

namespace Level

def number : Level → Int
  | .debug => 10
  | .info => 20
  | .warning => 30
  | .error => 40
  | .critical => 50

def name : Level → String
  | .debug => "DEBUG"
  | .info => "INFO"
  | .warning => "WARNING"
  | .error => "ERROR"
  | .critical => "CRITICAL"

/-- All levels, in increasing order. -/
def all : List Level := [.debug, .info, .warning, .error, .critical]

end Level

/-- A log record.  `exception` is the text that goes with it, if an error was attached. -/
structure LogRecord where
  level : Level
  logger : String
  message : String
  context : List (String × Value)
  exception : Option String := none

/-- A logger of one component, with the name under which it stands among all loggers. -/
structure Logger where
  component : Value
  name : String

/-- What a module tells in the context of a record. -/
inductive Detail where
  | text (s : String)
  | count (n : Nat)

namespace Detail

def toValue : Detail → Value
  | .text s => .str s
  | .count n => .int n

def shown : Detail → String
  | .text s => s
  | .count n => toString n

end Detail

namespace Logger

/-- The name that all loggers stand under. -/
def rootName : String := "taintboost"

/-- The full name of a logger.  Components may be grouped under a parent. -/
def fullName (component : String) : Option String → String
  | some parent => rootName ++ "." ++ parent ++ "." ++ component
  | none => rootName ++ "." ++ component

def ofModule (component : String) (parent : Option String := none) : Logger :=
  ⟨.str component, fullName component parent⟩

/-- A logger of a component and a parent that may be any values with a text.  A parent that does not
count as true is left out. -/
def make (component parent : Value) : Except ValueFault Logger := do
  let parent ← if parent.isTruthy then some <$> parent.display else pure none
  return ⟨component, fullName (← component.display) parent⟩

/-- A message with its context appended as `key=value` pairs. -/
def formatMessage (message : String) (context : List (String × String)) : String :=
  if context.isEmpty then message
  else message ++ " | " ++ " | ".intercalate (context.map fun (key, shown) => key ++ "=" ++ shown)

/-- The context of a record: the component first, unless the call gives its own. -/
def recordContext (l : Logger) (context : List (String × Value)) : List (String × Value) :=
  ("component", (context.lookup "component").getD l.component) ::
    context.filter (·.1 != "component")

/-- The record of a call by a module. -/
def record (l : Logger) (level : Level) (message : String) (context : List (String × Detail)) :
    LogRecord where
  level := level
  logger := l.name
  message := formatMessage message (context.map fun (key, detail) => (key, detail.shown))
  context := l.recordContext (context.map fun (key, detail) => (key, detail.toValue))

/-- The record of a call with any values in its context, all of which must have a text. -/
def recordSupplied (l : Logger) (level : Level) (message : String)
    (context : List (String × Value)) (exception : Option String) :
    Except ValueFault LogRecord := do
  let shown ← context.mapM fun (key, v) => return (key, ← v.display)
  return ⟨level, l.name, formatMessage message shown, l.recordContext context, exception⟩

end Logger

/-- What a computation logged, and how it ended. -/
structure Logged (ε α : Type) where
  records : List LogRecord
  outcome : Except ε α

namespace Logged

variable {ε δ α β : Type}

/-- Run one computation after another.  Nothing is logged after a failure. -/
def andThen (first : Logged ε α) (next : α → Logged ε β) : Logged ε β :=
  match first.outcome with
  | .error e => ⟨first.records, .error e⟩
  | .ok a =>
      let second := next a
      ⟨first.records ++ second.records, second.outcome⟩

instance : Monad (Logged ε) where
  pure a := ⟨[], .ok a⟩
  bind := andThen

theorem bind_eq (first : Logged ε α) (next : α → Logged ε β) :
    first >>= next = first.andThen next := rfl

theorem andThen_ok {records : List LogRecord} {a : α} (next : α → Logged ε β) :
    (Logged.mk records (.ok a)).andThen next =
      ⟨records ++ (next a).records, (next a).outcome⟩ := rfl

theorem id_map_eq (run : Logged ε α) : id <$> run = run := by
  obtain ⟨records, outcome⟩ := run
  cases outcome <;> simp [Functor.map, andThen]

theorem pure_andThen (a : α) (next : α → Logged ε β) : pure a >>= next = next a := by
  change andThen ⟨[], .ok a⟩ next = next a
  simp [andThen_ok]

theorem andThen_assoc {γ : Type} (run : Logged ε α) (next : α → Logged ε β)
    (last : β → Logged ε γ) :
    run >>= next >>= last = run >>= fun a => next a >>= last := by
  obtain ⟨records, outcome⟩ := run
  simp only [bind_eq]
  cases outcome with
  | error e => rfl
  | ok a =>
      rw [andThen_ok]
      cases h : (next a).outcome <;> simp [andThen, h]

instance : LawfulMonad (Logged ε) :=
  LawfulMonad.mk' (Logged ε) id_map_eq pure_andThen andThen_assoc

/-- A computation that logs nothing. -/
def ofExcept (outcome : Except ε α) : Logged ε α := ⟨[], outcome⟩

def write (record : LogRecord) : Logged ε Unit := ⟨[record], .ok ()⟩

def writeAll (records : List LogRecord) : Logged ε Unit := ⟨records, .ok ()⟩

/-- The same computation with another type of failures. -/
def mapFailure (f : ε → δ) (run : Logged ε α) : Logged δ α :=
  ⟨run.records, run.outcome.mapError f⟩

end Logged

end TaintTriage
