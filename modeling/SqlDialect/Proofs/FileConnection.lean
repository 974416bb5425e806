import SqlDialect.Proofs.Reconnection

/-!
# Connections of the SQLite adapter

What comes of opening a connection (`connect_eq`): the driver may fail to open one, or open one that
is not used because foreign keys cannot be switched on.  The connection in use is never looked at, so
an operation that needs one does its work on it (`action_eq_of_work`), and a connection is kept if
it cannot be closed (`close_of_linked`).
-/

namespace SqlDialect

/-- The session with a new connection that is not used. -/
def Session.openUnused (s : Session) : Session :=
  { s with opened := s.opened + 1 }

/-- The session without a connection in use. -/
def Session.unlink (s : Session) : Session :=
  { s with adapter := { s.adapter with link? := none } }

/-- The action of an adapter of SQLite is the one for SQLite. -/
theorem Adapter.choose_sqlite {α : Type} (sqlite postgres : Action α) {script : DriverScript}
    {s : Session} (h : s.adapter.backend = .sqlite) :
    Adapter.choose sqlite postgres script s = sqlite script s := by
  simp [Adapter.choose, Action.andThen, h]

namespace Sqlite

open SqlDialect.Action (Within)

variable {script : DriverScript} {s : Session}

/-! ### Opening and closing -/

/-- What comes of opening a connection. -/
theorem connect_eq (config : ConnectionConfig) (script : DriverScript) (s : Session) :
    connect config script s =
      match script.fails .connect, script.fails .pragma with
      | some message, _ =>
        { result := .error (.driver message), session := s
          received := [.connect (databasePath config.url) (options config) none] }
      | none, some message =>
        { result := .error (.driver message), session := s.openUnused
          received := [.connect (databasePath config.url) (options config) (some s.opened),
            .pragma s.opened foreignKeysOn] }
      | none, none =>
        { result := .ok (), session := s.useNew config
          received := [.connect (databasePath config.url) (options config) (some s.opened),
            .pragma s.opened foreignKeysOn] } := by
  cases hopen : script.fails .connect with
  | some message => simp [connect, Action.openConnection_of_some hopen, Action.andThen]
  | none =>
    cases hpragma : script.fails .pragma with
    | some message =>
      simp [connect, Action.openConnection_of_none hopen, Action.andThen, Action.call, hpragma,
        Session.openUnused]
    | none =>
      simp [connect, Action.openConnection_of_none hopen, Action.andThen, Action.call, hpragma,
        Session.useNew]

theorem close_of_unlinked (h : s.adapter.link? = none) (script : DriverScript) :
    close script s = { result := .ok (), session := s } := by
  simp [close, Action.andThen, h]

/-- A connection is given up only if the driver closes it. -/
theorem close_of_linked {link : Link} (h : s.adapter.link? = some link) (script : DriverScript) :
    close script s =
      match script.fails .close with
      | some message =>
        { result := .error (.driver message), session := s
          received := [.close link.connection] }
      | none =>
        { result := .ok (), session := s.unlink, received := [.close link.connection] } := by
  cases hclose : script.fails .close with
  | some message => simp [close, Action.andThen, Action.call, h, hclose]
  | none => simp [close, Action.andThen, Action.call, h, hclose, Session.unlink]

/-! ### Work on the connection in use -/

theorem connection_of_unlinked (h : s.adapter.link? = none) (script : DriverScript) :
    connection script s = { result := .error (.notConnected .sqlite), session := s } := by
  simp [connection, Action.andThen, h]

theorem connection_of_linked {link : Link} (h : s.adapter.link? = some link)
    (script : DriverScript) :
    connection script s = { result := .ok link.connection, session := s } := by
  simp [connection, Action.andThen, h]

theorem runOn_within {id : Nat} (name sql : String) (params : Value) (kind : CallKind)
    {c : DriverCall} (hc : c.use? = some id) : (runOn id name sql params kind c).Within id :=
  (Within.makeCursor id).bind fun _ =>
    (((Within.call kind hc).mapError _).timed _ _ _ _).bind fun _ => Within.script.bind fun _ =>
      .pure _

/-- What comes of a statement: without a cursor nothing more is asked of the driver. -/
theorem runOn_eq (id : Nat) (name sql : String) (params : Value) (kind : CallKind)
    (c : DriverCall) :
    runOn id name sql params kind c script s =
      match script.fails .cursor with
      | some message =>
        { result := .error (.driver message), session := s, received := [.cursor id] }
      | none =>
        { result := match script.fails kind with
            | some message => .error (.statementFailed message)
            | none => .ok script.cursor
          session := s
          received := [.cursor id, c]
          log := [timedRecord name logger s.adapter.slowAfter (.text sql) params script.clock] } := by
  cases hmade : script.fails .cursor with
  | some message => simp [runOn, Action.makeCursor, Action.call, Action.andThen, hmade]
  | none =>
    cases hran : script.fails kind with
    | some message =>
      have herror : (Except.error (.driver message) : Except AdapterError Unit).mapError
          statementError = .error (.statementFailed message) := rfl
      simp [runOn, Action.makeCursor, Action.call, Action.andThen, Action.timed_apply,
        Action.mapError, herror, hmade, hran]
    | none =>
      have hok : (Except.ok () : Except AdapterError Unit).mapError statementError = .ok () := rfl
      simp [runOn, Action.makeCursor, Action.call, Action.andThen, Action.timed_apply,
        Action.mapError, hok, hmade, hran]

/-- What an operation does on the connection in use; connecting and closing need none. -/
def work? : Adapter.Operation → Option (Nat → Action Unit)
  | .connect _ | .close => none
  | .execute sql params => some fun id => do
    let _ ← runOn id "sqlite.execute" sql (.list (Redaction.redactAll params)) .execute
      (.execute id sql params)
  | .executeMany sql rows => some fun id => do
    let _ ← runOn id "sqlite.executemany" sql (.text "bulk") .executeMany
      (.executeMany id sql rows)
  | .commit => some fun id => Action.call .commit (.commit id)
  | .rollback => some fun id => Action.call .rollback (.rollback id)

theorem work_within {o : Adapter.Operation} {work : Nat → Action Unit} (h : work? o = some work)
    (id : Nat) : (work id).Within id := by
  cases o with
  | connect config => cases h
  | close => cases h
  | execute sql params =>
    obtain rfl := Option.some.inj h
    exact (runOn_within _ _ _ _ rfl).bind fun _ => .pure _
  | executeMany sql rows =>
    obtain rfl := Option.some.inj h
    exact (runOn_within _ _ _ _ rfl).bind fun _ => .pure _
  | commit =>
    obtain rfl := Option.some.inj h
    exact .call .commit rfl
  | rollback =>
    obtain rfl := Option.some.inj h
    exact .call .rollback rfl

/-- An operation that needs a connection asks for it and goes on with its work. -/
theorem action_eq_of_work (hs : s.adapter.backend = .sqlite) {o : Adapter.Operation}
    {work : Nat → Action Unit} (h : work? o = some work) :
    o.action script s = (connection >>= work) script s := by
  cases o with
  | connect config => cases h
  | close => cases h
  | execute sql params =>
    obtain rfl := Option.some.inj h
    rw [← bind_assoc]
    exact Action.bind_congr_run _ (Adapter.choose_sqlite _ _ hs)
  | executeMany sql rows =>
    obtain rfl := Option.some.inj h
    rw [← bind_assoc]
    exact Action.bind_congr_run _ (Adapter.choose_sqlite _ _ hs)
  | commit =>
    obtain rfl := Option.some.inj h
    exact Adapter.choose_sqlite _ _ hs
  | rollback =>
    obtain rfl := Option.some.inj h
    exact Adapter.choose_sqlite _ _ hs

end Sqlite

end SqlDialect
