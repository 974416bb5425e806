import SqlDialect.Proofs.Runs

/-!
# Histories of an adapter

A history is a list of events: operations, each with what the driver does meanwhile, and losses of
connections between them.  `Session.collect` puts together what a report says of each event, and
`Session.collect_induction` carries to whole histories whatever single events preserve.
-/

namespace SqlDialect

/-- The session of a new adapter. -/
def Session.fresh (backend : Backend) (slowAfter : Value) : Session where
  adapter := { backend, slowAfter }

namespace Adapter

/-- An operation with what it is given. -/
inductive Operation
  | connect (config : ConnectionConfig)
  | close
  | execute (sql : String) (params : List Value)
  | executeMany (sql : String) (rows : List (List Value))
  | commit
  | rollback

/-- What an operation does; the cursor of a statement is left out. -/
def Operation.action : Operation → Action Unit
  | .connect config => Adapter.connect config
  | .close => Adapter.close
  | .execute sql params => do let _ ← Adapter.execute sql params
  | .executeMany sql rows => do let _ ← Adapter.executeMany sql rows
  | .commit => Adapter.commit
  | .rollback => Adapter.rollback

/-- What happens to a session. -/
inductive Event
  /-- An operation, while the driver follows a script. -/
  | operation (o : Operation) (script : DriverScript)
  /-- The loss of a connection between operations. -/
  | loss (connection : Nat)

/-- The action of an adapter of PostgreSQL is the one for PostgreSQL. -/
theorem choose_postgres {α : Type} (sqlite postgres : Action α) {script : DriverScript}
    {s : Session} (h : s.adapter.backend = .postgres) :
    choose sqlite postgres script s = postgres script s := by
  simp [choose, Action.andThen, h]

end Adapter

namespace Session

open Adapter (Event)

variable {α : Type} (report : Session → Event → List α)

/-- The session after an event. -/
def after (s : Session) : Event → Session
  | .operation o script => (o.action script s).session
  | .loss connection => s.lose connection

/-- The session after a history. -/
def afterAll (s : Session) (events : List Event) : Session :=
  events.foldl after s

/-- What is reported of the events of a history, in order. -/
def collect (s : Session) : List Event → List α
  | [] => []
  | e :: events => report s e ++ collect (s.after e) events

/-- What each event preserves of a session and what was reported, a history preserves. -/
theorem collect_induction {P : Session → List α → Prop}
    (step : ∀ s reported e, P s reported → P (s.after e) (reported ++ report s e))
    {s : Session} {reported : List α} (h : P s reported) (events : List Event) :
    P (s.afterAll events) (reported ++ s.collect report events) := by
  induction events generalizing s reported with
  | nil =>
    rw [collect, List.append_nil]
    exact h
  | cons e events ih =>
    have hnext : P (s.after e) (reported ++ report s e) := step s reported e h
    rw [collect, ← List.append_assoc]
    exact ih hnext

end Session

end SqlDialect
