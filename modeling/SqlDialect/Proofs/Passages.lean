import SqlDialect.Proofs.FileConnection

/-!
# What operations do with connections

`Operation.passage` lists all that an operation of either adapter can come to for its connection:
the session that it leaves, the connections that it opened and the ones that it closed.  What
histories preserve of connections is proved from that list alone.
-/

namespace SqlDialect

open Adapter (Operation)

/-- The connection in use. -/
def Session.inUse? (s : Session) : Option Nat :=
  s.adapter.link?.map Link.connection

/-- What a run leaves: a session, connections that it opened and connections that it closed. -/
structure Run.Leaves {α : Type} (r : Run α) (session : Session) (opened closed : List Nat) :
    Prop where
  session_eq : r.session = session
  openings_eq : r.openings = opened
  closings_eq : r.closings = closed

namespace Adapter

/-- Whether an operation needs a connection. -/
def Operation.needsConnection : Operation → Bool
  | .connect _ | .close => false
  | _ => true

/-- All that an operation can come to for the connection of its adapter. -/
inductive Passage (s : Session) : Operation → Run Unit → Prop
  /-- A connection was opened as asked and is in use. -/
  | connected {config : ConnectionConfig} {r : Run Unit} (result : r.result = .ok ())
    (leaves : r.Leaves (s.useNew config) [s.opened] []) : Passage s (.connect config) r
  /-- No connection was opened. -/
  | refused {config : ConnectionConfig} {r : Run Unit} {e : AdapterError}
    (result : r.result = .error e) (leaves : r.Leaves s [] []) : Passage s (.connect config) r
  /-- A connection was opened, and is not used because it could not be set up. -/
  | unused {config : ConnectionConfig} {r : Run Unit} {e : AdapterError}
    (result : r.result = .error e) (leaves : r.Leaves s.openUnused [s.opened] []) :
    Passage s (.connect config) r
  /-- There was nothing to close. -/
  | idle {r : Run Unit} (unlinked : s.adapter.link? = none) (result : r.result = .ok ())
    (leaves : r.Leaves s [] []) : Passage s .close r
  /-- The connection in use was given up. -/
  | closed {r : Run Unit} {link : Link} (linked : s.adapter.link? = some link)
    (result : r.result = .ok () ∨ s.adapter.backend = .postgres)
    (leaves : r.Leaves s.unlink [] [link.connection]) : Passage s .close r
  /-- The connection in use could not be closed and is kept. -/
  | kept {r : Run Unit} {link : Link} {e : AdapterError} (linked : s.adapter.link? = some link)
    (backend : s.adapter.backend = .sqlite) (result : r.result = .error e)
    (leaves : r.Leaves s [] [link.connection]) : Passage s .close r
  /-- There was no connection to work on. -/
  | unlinked {o : Operation} {r : Run Unit} (needs : o.needsConnection = true)
    (unlinked : s.adapter.link? = none)
    (run : r = { result := .error (.notConnected s.adapter.backend), session := s }) :
    Passage s o r
  /-- The connection in use stays the one, whatever came of the work on it. -/
  | worked {o : Operation} {r : Run Unit} {link : Link} (needs : o.needsConnection = true)
    (linked : s.adapter.link? = some link) (leaves : r.Leaves s [] []) : Passage s o r
  /-- The connection in use was lost, and the work went to a new one. -/
  | reopened {o : Operation} {r : Run Unit} {link : Link} (needs : o.needsConnection = true)
    (linked : s.adapter.link? = some link) (lost : s.hasLost link.connection = true)
    (leaves : r.Leaves (s.useNew link.config) [s.opened] []) : Passage s o r

end Adapter

open Adapter (Passage)

variable {script : DriverScript} {s : Session} {o : Operation} {work : Nat → Action Unit}

/-! ### The SQLite adapter -/

namespace Sqlite

theorem passage_connect (hs : s.adapter.backend = .sqlite) (config : ConnectionConfig)
    (script : DriverScript) :
    Passage s (.connect config) ((Operation.connect config).action script s) := by
  have hrun : (Operation.connect config).action script s = connect config script s :=
    Adapter.choose_sqlite _ _ hs
  rw [hrun, connect_eq]
  split
  · exact .refused rfl ⟨rfl, rfl, rfl⟩
  · exact .unused rfl ⟨rfl, rfl, rfl⟩
  · exact .connected rfl ⟨rfl, rfl, rfl⟩

theorem passage_close (hs : s.adapter.backend = .sqlite) (script : DriverScript) :
    Passage s .close (Operation.close.action script s) := by
  have hrun : Operation.close.action script s = close script s := Adapter.choose_sqlite _ _ hs
  rw [hrun]
  cases hlink : s.adapter.link? with
  | none =>
    rw [close_of_unlinked hlink]
    exact .idle hlink rfl ⟨rfl, rfl, rfl⟩
  | some link =>
    rw [close_of_linked hlink]
    split
    · exact .kept hlink hs rfl ⟨rfl, rfl, rfl⟩
    · exact .closed hlink (.inl rfl) ⟨rfl, rfl, rfl⟩

theorem passage_work (hs : s.adapter.backend = .sqlite) (needs : o.needsConnection = true)
    (h : work? o = some work) (script : DriverScript) : Passage s o (o.action script s) := by
  rw [action_eq_of_work hs h]
  cases hlink : s.adapter.link? with
  | none =>
    have hconnection := connection_of_unlinked hlink script
    rw [Action.bind_of_error work (congrArg Run.result hconnection), hconnection]
    exact .unlinked needs hlink (by rw [hs])
  | some link =>
    have hconnection := connection_of_linked hlink script
    have hwork := work_within h link.connection
    rw [Action.bind_of_ok work (congrArg Run.result hconnection), hconnection]
    exact .worked needs hlink ⟨hwork.session_eq script s, hwork.openings_eq_nil script s,
      hwork.closings_eq_nil script s⟩

end Sqlite

/-! ### The PostgreSQL adapter -/

namespace Postgres

theorem passage_connect (hs : s.adapter.backend = .postgres) (config : ConnectionConfig)
    (script : DriverScript) :
    Passage s (.connect config) ((Operation.connect config).action script s) := by
  have hrun : (Operation.connect config).action script s =
      (connect config >>= fun _ => pure ()) script s := Adapter.choose_postgres _ _ hs
  rw [hrun, Action.bind_apply, connect_eq]
  split
  · split
    · exact .refused rfl ⟨rfl, rfl, rfl⟩
    · exact .refused rfl ⟨rfl, rfl, rfl⟩
    · exact .refused rfl ⟨rfl, rfl, rfl⟩
    · exact .connected rfl ⟨rfl, rfl, rfl⟩
  · exact .refused rfl ⟨rfl, rfl, rfl⟩

theorem passage_close (hs : s.adapter.backend = .postgres) (script : DriverScript) :
    Passage s .close (Operation.close.action script s) := by
  have hreceived := close_received script s
  rw [action_close hs]
  cases hlink : s.adapter.link? with
  | none =>
    have hrun : close script s = { result := .ok (), session := s } := by
      simp [close, Action.andThen, hlink]
    rw [hrun]
    exact .idle hlink rfl ⟨rfl, rfl, rfl⟩
  | some link =>
    rw [hlink] at hreceived
    exact .closed hlink (.inr hs) ⟨close_session script s, by rw [Run.openings, hreceived]; rfl,
      by rw [Run.closings, hreceived]; rfl⟩

/-- A connection that was not opened was at most asked for. -/
theorem received_of_connect_error {config : ConnectionConfig} {e : AdapterError}
    (h : (connect config script s).result = .error e) :
    (connect config script s).received = [] ∨
      ∃ given, (connect config script s).received = [.connect config.url given none] := by
  revert h
  rw [connect_eq]
  split
  · split
    · exact fun _ => .inl rfl
    · exact fun _ => .inl rfl
    · exact fun _ => .inr ⟨_, rfl⟩
    · exact nofun
  · exact fun _ => .inl rfl

theorem passage_work (hs : s.adapter.backend = .postgres) (needs : o.needsConnection = true)
    (h : work? o = some work) (script : DriverScript) : Passage s o (o.action script s) := by
  rw [action_eq_of_work hs h]
  cases hlink : s.adapter.link? with
  | none =>
    have hconnection := connection_of_unlinked hlink script
    rw [Action.bind_of_error work (congrArg Run.result hconnection), hconnection]
    exact .unlinked needs hlink (by rw [hs])
  | some link =>
    cases lost : s.hasLost link.connection with
    | false =>
      have hconnection := connection_of_kept hlink lost script
      have hwork := work_within h link.connection
      rw [Action.bind_of_ok work (congrArg Run.result hconnection), hconnection]
      exact .worked needs hlink ⟨hwork.session_eq script s, hwork.openings_eq_nil script s,
        hwork.closings_eq_nil script s⟩
    | true =>
      have hconnection := connection_of_lost hlink lost script
      obtain ⟨e, hresult, hsession, hopenings⟩ | ⟨given, hresult, hsession, hreceived⟩ :=
        connect_cases link.config script s
      · have hclosings : (connect link.config script s).closings = [] := by
          rcases received_of_connect_error hresult with hnone | ⟨given, hone⟩
          · rw [Run.closings, hnone]
            rfl
          · rw [Run.closings, hone]
            rfl
        rw [Action.bind_of_error work ((congrArg Run.result hconnection).trans hresult),
          hconnection]
        exact .worked needs hlink ⟨hsession, hopenings, hclosings⟩
      · have hwork := work_within h s.opened
        have hopenings := hwork.openings_eq_nil script (s.useNew link.config)
        have hclosings := hwork.closings_eq_nil script (s.useNew link.config)
        rw [Action.bind_of_ok work ((congrArg Run.result hconnection).trans hresult), hconnection]
        refine .reopened needs hlink lost ⟨?_, ?_, ?_⟩
        · rw [hsession, hwork.session_eq]
        · rw [Run.openings] at hopenings ⊢
          rw [hreceived, hsession, List.filterMap_append, hopenings]
          rfl
        · rw [Run.closings] at hclosings ⊢
          rw [hreceived, hsession, List.filterMap_append, hclosings]
          rfl

end Postgres

/-- **All that an operation can come to**, on an adapter of either backend. -/
theorem Adapter.Operation.passage (o : Operation) (script : DriverScript) (s : Session) :
    Passage s o (o.action script s) := by
  cases hs : s.adapter.backend with
  | sqlite =>
    cases o with
    | connect config => exact Sqlite.passage_connect hs config script
    | close => exact Sqlite.passage_close hs script
    | execute sql params => exact Sqlite.passage_work hs rfl rfl script
    | executeMany sql rows => exact Sqlite.passage_work hs rfl rfl script
    | commit => exact Sqlite.passage_work hs rfl rfl script
    | rollback => exact Sqlite.passage_work hs rfl rfl script
  | postgres =>
    cases o with
    | connect config => exact Postgres.passage_connect hs config script
    | close => exact Postgres.passage_close hs script
    | execute sql params => exact Postgres.passage_work hs rfl rfl script
    | executeMany sql rows => exact Postgres.passage_work hs rfl rfl script
    | commit => exact Postgres.passage_work hs rfl rfl script
    | rollback => exact Postgres.passage_work hs rfl rfl script

end SqlDialect
