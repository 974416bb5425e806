import SqlDialect.Proofs.History

/-!
# Connections of the PostgreSQL adapter

What comes of opening a connection (`connect_cases`) and of asking for the one in use: there is
none, it is at hand, or it was lost and another one is opened with its configuration.  Everything
else the adapter does, it does within the connection that it was given (`action_eq_of_work`).
-/

namespace SqlDialect

/-- The session with a new connection in use. -/
def Session.useNew (s : Session) (config : ConnectionConfig) : Session :=
  { s with
    adapter := { s.adapter with link? := some ⟨s.opened, config⟩ }
    opened := s.opened + 1 }

namespace Postgres

open SqlDialect.Action (Within)

variable {script : DriverScript} {s : Session}

/-! ### Opening connections -/

/-- What comes of opening a connection: nothing is asked of the driver before the options and the
record are there. -/
theorem connect_eq (config : ConnectionConfig) (script : DriverScript) (s : Session) :
    connect config script s =
      if script.available then
        match options config, connectingRecord config, script.fails .connect with
        | .error e, _, _ => { result := .error e, session := s }
        | .ok _, .error e, _ => { result := .error e, session := s }
        | .ok given, .ok r, some _ =>
          { result := .error .connectFailed, session := s
            received := [.connect config.url given none], log := r.toList }
        | .ok given, .ok r, none =>
          { result := .ok s.opened, session := s.useNew config
            received := [.connect config.url given (some s.opened),
              .setAutocommit s.opened config.autocommit.isTrue]
            log := r.toList }
      else { result := .error .driverMissing, session := s } := by
  cases available : script.available with
  | false => simp [connect, Action.andThen, available]
  | true =>
    cases given : options config with
    | error e => simp [connect, Action.andThen, available, given]
    | ok entries =>
      cases line : connectingRecord config with
      | error e => simp [connect, Action.andThen, available, given, line]
      | ok r =>
        cases failure : script.fails .connect with
        | some message =>
          have refused := Action.openConnection_of_some (s := s) failure config.url entries
          simp [connect, Action.andThen, available, given, line,
            Action.mapError_of_error _ (congrArg Run.result refused), refused]
        | none =>
          have opened := Action.openConnection_of_none (s := s) failure config.url entries
          simp [connect, Action.andThen, available, given, line,
            Action.mapError_of_ok _ (congrArg Run.result opened), opened, Session.useNew]

/-- Either nothing was opened and nothing changes, or the new connection is in use. -/
theorem connect_cases (config : ConnectionConfig) (script : DriverScript) (s : Session) :
    (∃ e, (connect config script s).result = .error e ∧ (connect config script s).session = s ∧
      (connect config script s).openings = []) ∨
    (∃ given, (connect config script s).result = .ok s.opened ∧
      (connect config script s).session = s.useNew config ∧
      (connect config script s).received =
        [.connect config.url given (some s.opened),
          .setAutocommit s.opened config.autocommit.isTrue]) := by
  rw [connect_eq]
  split
  · split
    · exact .inl ⟨_, rfl, rfl, rfl⟩
    · exact .inl ⟨_, rfl, rfl, rfl⟩
    · exact .inl ⟨.connectFailed, rfl, rfl, rfl⟩
    · exact .inr ⟨_, rfl, rfl, rfl⟩
  · exact .inl ⟨.driverMissing, rfl, rfl, rfl⟩

/-! ### The connection in use -/

/-- Without a connection there is nothing to ask the driver for. -/
theorem connection_of_unlinked (h : s.adapter.link? = none) (script : DriverScript) :
    connection script s = { result := .error (.notConnected .postgres), session := s } := by
  simp [connection, Action.andThen, h]

/-- A connection that was not lost stays in use. -/
theorem connection_of_kept {link : Link} (h : s.adapter.link? = some link)
    (kept : s.hasLost link.connection = false) (script : DriverScript) :
    connection script s = { result := .ok link.connection, session := s } := by
  simp [connection, Action.andThen, h, kept]

/-- In place of a connection that was lost another one is opened with its configuration. -/
theorem connection_of_lost {link : Link} (h : s.adapter.link? = some link)
    (lost : s.hasLost link.connection = true) (script : DriverScript) :
    connection script s =
      { connect link.config script s with
        log := reconnectingRecord :: (connect link.config script s).log } := by
  simp [connection, Action.andThen, h, lost]

/-- Closing gives the connection up in any case. -/
theorem close_session (script : DriverScript) (s : Session) :
    (close script s).session = { s with adapter := { s.adapter with link? := none } } := by
  obtain ⟨⟨backend, slowAfter, link?⟩, opened, lost⟩ := s
  cases link? with
  | none => rfl
  | some link => rfl

/-- Closing calls nothing but the end of the connection in use. -/
theorem close_received (script : DriverScript) (s : Session) :
    (close script s).received =
      (s.adapter.link?.map fun link => DriverCall.close link.connection).toList := by
  cases h : s.adapter.link? with
  | none => simp [close, Action.andThen, h]
  | some link => simp [close, Action.andThen, Action.always, Action.attempt, Action.call, h]

/-! ### Work within a connection -/

theorem runOn_within {id : Nat} (checked : Except AdapterError Unit) (name sql : String)
    (params : Value) (kind : CallKind) {c : DriverCall} (hc : c.use? = some id) :
    (runOn id checked name sql params kind c).Within id :=
  (Within.makeCursor id).bind fun _ => (Within.ofExcept _).bind fun _ =>
    ((Within.call kind hc).timed _ _ _ _).bind fun _ => Within.script.bind fun _ => .pure _

/-- A statement that ran was received after its cursor was made. -/
theorem runOn_received {id : Nat} {checked : Except AdapterError Unit} {name sql : String}
    {params : Value} {kind : CallKind} {c : DriverCall} {left : Cursor}
    (h : (runOn id checked name sql params kind c script s).result = .ok left) :
    (runOn id checked name sql params kind c script s).received = [.cursor id, c] := by
  obtain ⟨_, -, hchecked, e₁⟩ := Action.of_bind_ok h
  obtain ⟨_, -, hran, e₂⟩ := Action.of_bind_ok hchecked
  obtain ⟨_, -, -, e₃⟩ := Action.of_bind_ok hran
  rw [runOn, e₁, e₂, e₃, Action.timed_apply]
  rfl

/-- What an operation does on the connection in use; connecting and closing need none. -/
def work? : Adapter.Operation → Option (Nat → Action Unit)
  | .connect _ | .close => none
  | .execute sql params => some fun id => do
    let _ ← runOn id (checkParams sql params) "postgres.execute" sql
      (.list (Redaction.redactAll params)) .execute (.execute id sql params)
  | .executeMany sql rows => some fun id => do
    let _ ← runOn id (rows.forM (checkParams sql)) "postgres.executemany" sql (.text "bulk")
      .executeMany (.executeMany id sql rows)
  | .commit => some fun id => Action.call .commit (.commit id)
  | .rollback => some fun id => Action.call .rollback (.rollback id)

theorem work_within {o : Adapter.Operation} {work : Nat → Action Unit} (h : work? o = some work)
    (id : Nat) : (work id).Within id := by
  cases o with
  | connect config => cases h
  | close => cases h
  | execute sql params =>
    obtain rfl := Option.some.inj h
    exact (runOn_within _ _ _ _ _ rfl).bind fun _ => .pure _
  | executeMany sql rows =>
    obtain rfl := Option.some.inj h
    exact (runOn_within _ _ _ _ _ rfl).bind fun _ => .pure _
  | commit =>
    obtain rfl := Option.some.inj h
    exact .call .commit rfl
  | rollback =>
    obtain rfl := Option.some.inj h
    exact .call .rollback rfl

/-! ### Operations -/

/-- What comes of connecting: nothing was opened, or the new connection is in use. -/
theorem action_connect_cases (hs : s.adapter.backend = .postgres) (config : ConnectionConfig)
    (script : DriverScript) :
    (∃ e, ((Adapter.Operation.connect config).action script s).result = .error e ∧
      ((Adapter.Operation.connect config).action script s).session = s ∧
      ((Adapter.Operation.connect config).action script s).openings = []) ∨
    (∃ given, ((Adapter.Operation.connect config).action script s).result = .ok () ∧
      ((Adapter.Operation.connect config).action script s).session = s.useNew config ∧
      ((Adapter.Operation.connect config).action script s).received =
        [.connect config.url given (some s.opened),
          .setAutocommit s.opened config.autocommit.isTrue]) := by
  have hrun : (Adapter.Operation.connect config).action script s =
      (connect config >>= fun _ => pure ()) script s := Adapter.choose_postgres _ _ hs
  rw [hrun]
  obtain ⟨e, hresult, hsession, hopenings⟩ | ⟨given, hresult, hsession, hreceived⟩ :=
    connect_cases config script s
  · rw [Action.bind_of_error _ hresult]
    exact .inl ⟨e, rfl, hsession, hopenings⟩
  · rw [Action.bind_of_ok _ hresult, hsession, hreceived]
    exact .inr ⟨given, rfl, rfl, rfl⟩

theorem action_close (hs : s.adapter.backend = .postgres) :
    Adapter.Operation.close.action script s = close script s :=
  Adapter.choose_postgres _ _ hs

/-- An operation that needs a connection asks for it and goes on with its work. -/
theorem action_eq_of_work (hs : s.adapter.backend = .postgres) {o : Adapter.Operation}
    {work : Nat → Action Unit} (h : work? o = some work) :
    o.action script s = (connection >>= work) script s := by
  cases o with
  | connect config => cases h
  | close => cases h
  | execute sql params =>
    obtain rfl := Option.some.inj h
    rw [← bind_assoc]
    exact Action.bind_congr_run _ (Adapter.choose_postgres _ _ hs)
  | executeMany sql rows =>
    obtain rfl := Option.some.inj h
    rw [← bind_assoc]
    exact Action.bind_congr_run _ (Adapter.choose_postgres _ _ hs)
  | commit =>
    obtain rfl := Option.some.inj h
    exact Adapter.choose_postgres _ _ hs
  | rollback =>
    obtain rfl := Option.some.inj h
    exact Adapter.choose_postgres _ _ hs

/-- What comes of an operation that needs a connection: nothing was opened and nothing is done, it
does its work on the connection in use, or it does it on the one that was opened in its place. -/
theorem action_cases (hs : s.adapter.backend = .postgres) {o : Adapter.Operation}
    {work : Nat → Action Unit} (h : work? o = some work) (script : DriverScript) :
    (∃ e, (o.action script s).result = .error e ∧ (o.action script s).session = s ∧
      (o.action script s).openings = []) ∨
    (∃ link, s.adapter.link? = some link ∧ s.hasLost link.connection = false ∧
      o.action script s = work link.connection script s) ∨
    (∃ link given, s.adapter.link? = some link ∧ s.hasLost link.connection = true ∧
      (o.action script s).result = (work s.opened script (s.useNew link.config)).result ∧
      (o.action script s).session = s.useNew link.config ∧
      (o.action script s).received =
        .connect link.config.url given (some s.opened) ::
          .setAutocommit s.opened link.config.autocommit.isTrue ::
            (work s.opened script (s.useNew link.config)).received) := by
  rw [action_eq_of_work hs h]
  cases hlink : s.adapter.link? with
  | none =>
    have hconnection := connection_of_unlinked hlink script
    refine .inl ⟨.notConnected .postgres, ?_⟩
    rw [Action.bind_of_error work (congrArg Run.result hconnection), hconnection]
    exact ⟨rfl, rfl, rfl⟩
  | some link =>
    cases lost : s.hasLost link.connection with
    | false =>
      have hconnection := connection_of_kept hlink lost script
      refine .inr (.inl ⟨link, rfl, lost, ?_⟩)
      rw [Action.bind_of_ok work (congrArg Run.result hconnection), hconnection]
      rfl
    | true =>
      have hconnection := connection_of_lost hlink lost script
      obtain ⟨e, hresult, hsession, hopenings⟩ | ⟨given, hresult, hsession, hreceived⟩ :=
        connect_cases link.config script s
      · refine .inl ⟨e, ?_⟩
        rw [Action.bind_of_error work ((congrArg Run.result hconnection).trans hresult),
          hconnection]
        exact ⟨rfl, hsession, hopenings⟩
      · refine .inr (.inr ⟨link, given, rfl, lost, ?_⟩)
        rw [Action.bind_of_ok work ((congrArg Run.result hconnection).trans hresult), hconnection]
        simp only [hsession, hreceived, (work_within h s.opened).session_eq, List.cons_append,
          List.nil_append, and_self]

end Postgres

end SqlDialect
