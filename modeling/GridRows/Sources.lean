import GridRows.Config
import GridRows.Error
import GridRows.Statement

/-!
# Data sources

A data source runs statements of its dialect.  Sources are registered by name, together with the
configuration that holds for them; a name stands for the source registered last.

Work on data sources is a `Service`.  Its state is what was sent to them, in order; only
`Source.execute` adds to it, and nothing takes it back, whether the work succeeds or fails.
-/

namespace GridRows

open Sql (Dialect RenderMode)

/-- A row: the values by column name. -/
abbrev Row := Json.Members

/-- What a data source answers to a statement. -/
structure Answer where
  /-- The milliseconds until the answer, whether rows or a failure. -/
  delayMs : Nat
  result : Except Error (List Row)

/-- The answer under a time limit; a late one is a failure, and zero is no limit. -/
def Answer.within (a : Answer) (timeoutMs : Nat) : Except Error (List Row) :=
  if 0 < timeoutMs ∧ timeoutMs < a.delayMs then .error (.execution (.timedOut timeoutMs))
  else a.result

/-- A data source. -/
structure Source where
  dialect : Dialect
  answer : Statement → Answer

/-- A statement sent to a data source. -/
structure Delivery where
  source : Source
  statement : Statement

/-- Work on data sources, which may fail; what was sent so far travels along. -/
abbrev Service := ExceptT Error (StateM (List Delivery))

/-- Does the work after what was sent before, and gives all that was sent then. -/
def Service.perform {α : Type} (work : Service α) (sent : List Delivery) :
    Except Error α × List Delivery :=
  Id.run (work.run.run sent)

/-- A check that sends nothing. -/
def Service.check {α : Type} : Except Invalid α → Service α
  | .ok a => return a
  | .error cause => throw (.validation cause)

/-- Sends a statement and waits for the answer, at most until the time limit. -/
def Source.execute (s : Source) (statement : Statement) (timeoutMs : Nat) : Service (List Row) := do
  modify (· ++ [⟨s, statement⟩])
  MonadExcept.ofExcept ((s.answer statement).within timeoutMs)

/-- The registered data sources. -/
structure Sources where
  config : Option Config := none
  /-- The sources by name, the latest first; each name occurs once. -/
  entries : List (String × Source) := []

namespace Sources

/-- Registers a source, in place of one with the same name. -/
def insert (name : String) (source : Source) (ss : Sources) : Sources :=
  { ss with entries := (name, source) :: ss.entries.filter (·.1 ≠ name) }

/-- The source of the given name. -/
def get? (ss : Sources) (name : String) : Option Source := ss.entries.lookup name

/-- The settings that hold for the given name, whether a source is registered for it or not. -/
def configFor (ss : Sources) (name : String) : ResolvedConfig := (ss.config.getD {}).resolve name

/-- Compiles a request in the dialect of a registered source. -/
def compile (ss : Sources) (name : String) (r : Request) (mode : RenderMode) :
    Except Invalid Statement :=
  match ss.get? name with
  | some source => r.compile source.dialect mode
  | none => .error (.notRegistered name)

end Sources

end GridRows
