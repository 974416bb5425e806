import SqlDialect.Adapter.Error
import SqlDialect.Log.Timer
import SqlDialect.Redaction

/-!
# Actions on a database

An adapter keeps at most one connection and works through a driver.  An `Action` is an operation of
an adapter as a function of what the driver does meanwhile (`DriverScript`) and of the session it
works in; a `Run` is what comes of it: a result or an error, the session it leaves, the calls that
the driver received and the log records, both in order.  Calls name the connection they are made
on; connections are numbered in the order in which the driver opened them.  A recording of a run
(`Run.calls`) shows every call but the making of cursors.
-/

namespace SqlDialect

/-! ### The driver -/

/-- The calls of the driver that may fail. -/
inductive CallKind
  | connect | pragma | cursor | execute | executeMany | commit | rollback | close
  deriving DecidableEq, Repr

namespace CallKind

/-- Every kind of call. -/
def all : List CallKind :=
  [.connect, .pragma, .cursor, .execute, .executeMany, .commit, .rollback, .close]

/-- The name of a kind of call. -/
def name : CallKind → String
  | .connect => "connect"
  | .pragma => "connection.execute"
  | .cursor => "connection.cursor"
  | .execute => "execute"
  | .executeMany => "executemany"
  | .commit => "commit"
  | .rollback => "rollback"
  | .close => "close"

/-- The kind of call of a name. -/
def ofName? (s : String) : Option CallKind :=
  all.find? fun k => k.name = s

end CallKind

/-- A call that the driver received. -/
inductive DriverCall
  /-- Opens a connection; `opened` is its number, if it was opened. -/
  | connect (target : String) (options : Settings) (opened : Option Nat)
  /-- Switches the automatic commit of a connection. -/
  | setAutocommit (connection : Nat) (on : Bool)
  /-- Runs a statement that sets a connection up. -/
  | pragma (connection : Nat) (sql : String)
  /-- Makes the cursor of a statement. -/
  | cursor (connection : Nat)
  | execute (connection : Nat) (sql : String) (params : List Value)
  | executeMany (connection : Nat) (sql : String) (rows : List (List Value))
  | commit (connection : Nat)
  | rollback (connection : Nat)
  | close (connection : Nat)
  deriving Repr

/-- A call as data: its name and what it was given. -/
def DriverCall.toValue : DriverCall → Value
  | .connect target options _ =>
    .list [.text CallKind.connect.name, .text target, .record options]
  | .setAutocommit _ on => .list [.text "set", .text "autocommit", .bool on]
  | .pragma _ sql => .list [.text CallKind.pragma.name, .text sql]
  | .cursor _ => .list [.text CallKind.cursor.name]
  | .execute _ sql params => .list [.text CallKind.execute.name, .text sql, .list params]
  | .executeMany _ sql rows =>
    .list [.text CallKind.executeMany.name, .text sql, .list (rows.map .list)]
  | .commit _ => .list [.text CallKind.commit.name]
  | .rollback _ => .list [.text CallKind.rollback.name]
  | .close _ => .list [.text CallKind.close.name]

/-- Whether a recording shows a call. -/
def DriverCall.isShown : DriverCall → Bool
  | .cursor _ => false
  | _ => true

/-- What a statement leaves to be read: the number of rows it changed, or -1, and the rows it
found. -/
structure Cursor where
  rowCount : Int := -1
  columns : Option (List String) := none
  rows : List (List Value) := []
  deriving Repr, Inhabited

/-- What the driver does during one operation: whether it is installed, which calls fail with what
message, what a statement leaves, and what the clock shows around a timed call. -/
structure DriverScript where
  available : Bool := true
  fails : CallKind → Option String := fun _ => none
  cursor : Cursor := {}
  clock : ClockReadings := ⟨.ofInt 0, .ofInt 0⟩

/-! ### The session -/

/-- A connection in use and the configuration it was opened with. -/
structure Link where
  connection : Nat
  config : ConnectionConfig
  deriving Repr

/-- An adapter of a backend: the threshold of slow statements and the connection in use. -/
structure Adapter where
  backend : Backend
  slowAfter : Value := .int 100
  link? : Option Link := none
  deriving Repr

/-- An adapter together with its driver: how many connections were opened, and which of them were
lost. -/
structure Session where
  adapter : Adapter
  opened : Nat := 0
  lost : List Nat := []
  deriving Repr

/-- A connection that was opened is lost. -/
def Session.lose (s : Session) (connection : Nat) : Session :=
  if connection < s.opened then { s with lost := connection :: s.lost } else s

/-- The newest connection is lost. -/
def Session.loseNewest (s : Session) : Session :=
  s.lose (s.opened - 1)

/-- Whether a connection was lost. -/
def Session.hasLost (s : Session) (connection : Nat) : Bool :=
  s.lost.contains connection

/-! ### Actions -/

/-- What comes of an action. -/
structure Run (α : Type) where
  result : Except AdapterError α
  session : Session
  received : List DriverCall := []
  log : List LogRecord := []

/-- The calls that a recording shows. -/
def Run.calls {α : Type} (r : Run α) : List DriverCall :=
  r.received.filter DriverCall.isShown

/-- An operation of an adapter. -/
def Action (α : Type) : Type :=
  DriverScript → Session → Run α

namespace Action

variable {α β : Type}

/-- Goes on from a run; after an error there is nothing to go on with. -/
def andThen (r : Run α) (next : α → Session → Run β) : Run β :=
  match r.result with
  | .error e => { result := .error e, session := r.session, received := r.received, log := r.log }
  | .ok a =>
    let t := next a r.session
    { result := t.result, session := t.session, received := r.received ++ t.received
      log := r.log ++ t.log }

instance : Monad Action where
  pure a := fun _ s => { result := .ok a, session := s }
  bind m f := fun script s => andThen (m script s) fun a t => f a script t

/-- Gives up. -/
def fail (e : AdapterError) : Action α :=
  fun _ s => { result := .error e, session := s }

/-- A result that is there already. -/
def ofExcept (x : Except AdapterError α) : Action α :=
  fun _ s => { result := x, session := s }

/-- The session. -/
def session : Action Session :=
  fun _ s => { result := .ok s, session := s }

/-- What the driver does. -/
def script : Action DriverScript :=
  fun script s => { result := .ok script, session := s }

/-- Changes the connection in use. -/
def setLink (link? : Option Link) : Action Unit :=
  fun _ s => { result := .ok (), session := { s with adapter := { s.adapter with link? } } }

/-- Leaves log records. -/
def reportAll (log : List LogRecord) : Action Unit :=
  fun _ s => { result := .ok (), session := s, log }

/-- Leaves a log record. -/
def report (r : LogRecord) : Action Unit :=
  reportAll [r]

/-- Calls the driver; a call that fails is received all the same. -/
def call (kind : CallKind) (c : DriverCall) : Action Unit :=
  fun script s =>
    { result := match script.fails kind with
        | some message => .error (.driver message)
        | none => .ok ()
      session := s, received := [c] }

/-- Makes a cursor on a connection. -/
def makeCursor (connection : Nat) : Action Unit :=
  call .cursor (.cursor connection)

/-- Switches the automatic commit of a connection; this does not fail. -/
def autocommit (connection : Nat) (on : Bool) : Action Unit :=
  fun _ s => { result := .ok (), session := s, received := [.setAutocommit connection on] }

/-- Has the driver open a connection. -/
def openConnection (target : String) (options : Settings) : Action Nat :=
  fun script s =>
    match script.fails .connect with
    | some message =>
      { result := .error (.driver message), session := s
        received := [.connect target options none] }
    | none =>
      { result := .ok s.opened, session := { s with opened := s.opened + 1 }
        received := [.connect target options (some s.opened)] }

/-- An action whose error is a result. -/
def attempt (m : Action α) : Action (Except AdapterError α) :=
  fun script s => { m script s with result := .ok (m script s).result }

/-- An action with its error in other terms. -/
def mapError (f : AdapterError → AdapterError) (m : Action α) : Action α :=
  fun script s => { m script s with result := (m script s).result.mapError f }

/-- An action that is followed by another one in any case; the error of the second one wins. -/
def always (m : Action α) (after : Action Unit) : Action α := do
  let r ← m.attempt
  after
  ofExcept r

/-- A timed statement: its record is left whether it fails or not. -/
def timed (name logger sql : String) (params : Value) (m : Action α) : Action α := do
  let threshold := (← session).adapter.slowAfter
  let clock := (← script).clock
  m.always (report (timedRecord name logger threshold (.text sql) params clock))

end Action

end SqlDialect
