import Mathlib.Data.List.DropRight
import SqlDialect.Proofs.Passages

/-!
# The states of an adapter's connection

An adapter is connected exactly if a connect succeeded since it was made, or since a close gave its
connection up (`Turn.Fit.unlinked_iff`), and its configuration is then that of the last connect
(`Turn.Fit.lastConnected?_eq`): no failure in between changes either.  A session fits what its
history says of connects and closes, because every passage of an operation keeps it so
(`Turn.Fit.step`).

`connection_states` puts it together with what the PostgreSQL adapter does with connections: it uses
one that is not lost, or one that it has just opened with that configuration.
-/

namespace SqlDialect

open Adapter (Event Operation Passage)

/-! ### Turns -/

/-- A turn in the history of a connection. -/
inductive Turn
  /-- A connect succeeded. -/
  | connected (config : ConnectionConfig)
  /-- A close gave the connection up. -/
  | cleared

namespace Turn

/-- The configuration of a connect. -/
def config? : Turn → Option ConnectionConfig
  | .connected config => some config
  | .cleared => none

/-- The turns that an operation makes: a connect that succeeds, and a close that succeeds or, on
PostgreSQL, that fails.  A connection that is opened in place of a lost one makes none. -/
def ofRun (backend : Backend) : Operation → Except AdapterError Unit → List Turn
  | .connect config, .ok _ => [.connected config]
  | .close, .ok _ => [.cleared]
  | .close, .error _ => if backend = .postgres then [.cleared] else []
  | _, _ => []

theorem ofRun_of_needs {o : Operation} (h : o.needsConnection = true) (backend : Backend)
    (result : Except AdapterError Unit) : ofRun backend o result = [] := by
  cases o with
  | connect config => cases h
  | close => cases h
  | _ => rfl

/-- A close that gives the connection up clears it. -/
theorem ofRun_close {backend : Backend} {result : Except AdapterError Unit}
    (h : result = .ok () ∨ backend = .postgres) : ofRun backend .close result = [.cleared] := by
  cases result with
  | ok _ => rfl
  | error e => exact if_pos (h.resolve_left nofun)

/-- The turns of an event. -/
def ofEvent (s : Session) : Event → List Turn
  | .operation o script => ofRun s.adapter.backend o (o.action script s).result
  | .loss _ => []

/-- The turns since the connection was last given up. -/
def sinceCleared (turns : List Turn) : List Turn :=
  turns.rtakeWhile fun t => t.config?.isSome

/-- The configuration of the last connect that succeeded. -/
def lastConnected? (turns : List Turn) : Option ConnectionConfig :=
  (turns.filterMap config?).getLast?

/-- A session fits the turns before it: it has a connection exactly if the last turn was a connect,
and that one's configuration. -/
def Fit (s : Session) (turns : List Turn) : Prop :=
  s.adapter.link?.map Link.config = turns.getLast?.bind config?

namespace Fit

variable {s : Session} {turns : List Turn}

theorem unlinked_iff (h : Fit s turns) :
    s.adapter.link? = none ↔ ∀ config, Turn.connected config ∉ sinceCleared turns := by
  rw [Fit] at h
  rw [← Option.map_eq_none_iff, h]
  cases turns using List.reverseRecOn with
  | nil => simp [sinceCleared]
  | append_singleton turns t =>
    cases t with
    | connected config =>
      have hsince : sinceCleared (turns ++ [.connected config]) =
          sinceCleared turns ++ [.connected config] := List.rtakeWhile_concat_pos _ _ _ rfl
      rw [hsince, List.getLast?_concat]
      refine iff_of_false (by simp [config?]) fun hnone => hnone config ?_
      exact List.mem_append_right _ (List.mem_singleton_self _)
    | cleared =>
      have hsince : sinceCleared (turns ++ [.cleared]) = [] :=
        List.rtakeWhile_concat_neg _ _ _ (by simp [config?])
      rw [hsince, List.getLast?_concat]
      exact iff_of_true rfl fun _ => List.not_mem_nil

/-- The configuration in use is that of the last connect. -/
theorem lastConnected?_eq (h : Fit s turns) {link : Link} (hlink : s.adapter.link? = some link) :
    lastConnected? turns = some link.config := by
  rw [Fit, hlink, Option.map_some] at h
  cases turns using List.reverseRecOn with
  | nil => cases h
  | append_singleton turns t =>
    rw [List.getLast?_concat, Option.bind_some] at h
    have hlast : List.filterMap config? [t] = [link.config] := by
      rw [List.filterMap_cons_some h.symm]
      rfl
    rw [lastConnected?, List.filterMap_append, hlast, List.getLast?_concat]

theorem append_nil (h : Fit s turns) : Fit s (turns ++ []) := by
  rw [List.append_nil]
  exact h

theorem concat {t : Turn} (h : s.adapter.link?.map Link.config = t.config?) :
    Fit s (turns ++ [t]) := by
  rw [Fit, List.getLast?_concat]
  exact h

/-- The turns of a passage keep session and turns fitting. -/
theorem passage (h : Fit s turns) {o : Operation} {r : Run Unit} (hp : Passage s o r) :
    Fit r.session (turns ++ ofRun s.adapter.backend o r.result) := by
  cases hp with
  | connected result leaves =>
    rw [leaves.session_eq, result]
    exact concat rfl
  | refused result leaves =>
    rw [leaves.session_eq, result]
    exact h.append_nil
  | unused result leaves =>
    rw [leaves.session_eq, result]
    exact h.append_nil
  | idle unlinked result leaves =>
    rw [leaves.session_eq, result]
    exact concat (by rw [unlinked]; rfl)
  | closed linked result leaves =>
    rw [leaves.session_eq, ofRun_close result]
    exact concat rfl
  | kept linked backend result leaves =>
    rw [leaves.session_eq, result, ofRun, if_neg (by rw [backend]; decide)]
    exact h.append_nil
  | unlinked needs unlinked run =>
    rw [run, ofRun_of_needs needs]
    exact h.append_nil
  | worked needs linked leaves =>
    rw [leaves.session_eq, ofRun_of_needs needs]
    exact h.append_nil
  | reopened needs linked lost leaves =>
    -- the new connection has the configuration of the one that was lost
    rw [leaves.session_eq, ofRun_of_needs needs, List.append_nil, Fit, ← h, linked]
    rfl

/-- An event keeps session and turns fitting. -/
theorem step (h : Fit s turns) (e : Event) : Fit (s.after e) (turns ++ ofEvent s e) := by
  cases e with
  | operation o script => exact h.passage (o.passage script s)
  | loss id =>
    have hlink : (s.lose id).adapter.link? = s.adapter.link? := by
      unfold Session.lose
      split <;> rfl
    rw [ofEvent, List.append_nil, Session.after, Fit, hlink]
    exact h

theorem fresh (backend : Backend) (slowAfter : Value) : Fit (Session.fresh backend slowAfter) [] :=
  rfl

end Fit

end Turn

namespace Adapter

/-- The session after a history of a new adapter. -/
def sessionAfter (backend : Backend) (slowAfter : Value) (events : List Event) : Session :=
  (Session.fresh backend slowAfter).afterAll events

/-- The turns in a history of a new adapter. -/
def turns (backend : Backend) (slowAfter : Value) (events : List Event) : List Turn :=
  (Session.fresh backend slowAfter).collect Turn.ofEvent events

theorem fit_turns (backend : Backend) (slowAfter : Value) (events : List Event) :
    Turn.Fit (sessionAfter backend slowAfter events) (turns backend slowAfter events) :=
  Session.collect_induction (P := Turn.Fit) Turn.ofEvent (fun _ _ e h => h.step e)
    (.fresh backend slowAfter) events

end Adapter

/-! ### The backend -/

/-- The backend of an adapter stays the one. -/
theorem Adapter.Passage.backend_eq {s : Session} {o : Operation} {r : Run Unit}
    (h : Passage s o r) : r.session.adapter.backend = s.adapter.backend := by
  cases h with
  | unlinked needs unlinked run => rw [run]
  | connected result leaves => rw [leaves.session_eq]; rfl
  | refused result leaves => rw [leaves.session_eq]
  | unused result leaves => rw [leaves.session_eq]; rfl
  | idle unlinked result leaves => rw [leaves.session_eq]
  | closed linked result leaves => rw [leaves.session_eq]; rfl
  | kept linked backend result leaves => rw [leaves.session_eq]
  | worked needs linked leaves => rw [leaves.session_eq]
  | reopened needs linked lost leaves => rw [leaves.session_eq]; rfl

theorem Session.backend_afterAll (s : Session) (events : List Event) :
    (s.afterAll events).adapter.backend = s.adapter.backend := by
  induction events generalizing s with
  | nil => rfl
  | cons e events ih =>
    refine (ih (s.after e)).trans ?_
    cases e with
    | operation o script => exact (o.passage script s).backend_eq
    | loss id =>
      rw [after, lose]
      split <;> rfl

/-! ### What fails -/

/-- A connect that fails leaves the adapter as it was. -/
theorem Adapter.Passage.adapter_of_connect_error {s : Session} {config : ConnectionConfig}
    {r : Run Unit} {e : AdapterError} (h : Passage s (.connect config) r)
    (he : r.result = .error e) : r.session.adapter = s.adapter := by
  cases h with
  | connected result leaves => cases result.symm.trans he
  | refused result leaves => rw [leaves.session_eq]
  | unused result leaves => rw [leaves.session_eq]; rfl
  | unlinked needs unlinked run => cases needs
  | worked needs linked leaves => cases needs
  | reopened needs linked lost leaves => cases needs

/-- Without a connection an operation that needs one fails before it calls the driver. -/
theorem Adapter.Passage.run_of_unlinked {s : Session} {o : Operation} {r : Run Unit}
    (h : Passage s o r) (needs : o.needsConnection = true) (unlinked : s.adapter.link? = none) :
    r = { result := .error (.notConnected s.adapter.backend), session := s } := by
  cases h with
  | unlinked _ _ run => exact run
  | worked _ linked leaves => cases linked.symm.trans unlinked
  | reopened _ linked lost leaves => cases linked.symm.trans unlinked
  | _ => cases needs

/-! ### What the PostgreSQL adapter calls -/

/-- Whether a call asks for a new connection. -/
def DriverCall.isConnect : DriverCall → Bool
  | .connect _ _ _ => true
  | _ => false

namespace Postgres

variable {script : DriverScript} {s : Session}

theorem work?_isSome {o : Operation} (needs : o.needsConnection = true) :
    ∃ work, work? o = some work := by
  cases o with
  | connect config => cases needs
  | close => cases needs
  | _ => exact ⟨_, rfl⟩

/-- A connection that was opened is the next one, with the options of its configuration. -/
theorem run_of_connect_ok {config : ConnectionConfig} {id : Nat}
    (h : (connect config script s).result = .ok id) :
    id = s.opened ∧ (connect config script s).session = s.useNew config ∧
      ∃ given, options config = .ok given ∧ (connect config script s).received =
        [.connect config.url given (some s.opened),
          .setAutocommit s.opened config.autocommit.isTrue] := by
  revert h
  rw [connect_eq]
  split
  · split
    · exact nofun
    · exact nofun
    · exact nofun
    · next given _ hgiven _ _ =>
      intro h
      cases h
      exact ⟨rfl, rfl, given, hgiven, rfl⟩
  · exact nofun

/-- All that an operation can call: nothing that uses a connection and at most one connect, or uses
of the connection at hand, or the opening of another one, with the configuration at hand, and uses
of it. -/
inductive Calls (s : Session) : List DriverCall → Prop
  | unused {calls : List DriverCall} (once : calls.countP DriverCall.isConnect ≤ 1)
    (none_used : ∀ c ∈ calls, c.use? = none) : Calls s calls
  | kept {link : Link} {calls : List DriverCall} (linked : s.adapter.link? = some link)
    (kept : s.hasLost link.connection = false)
    (use : ∀ c ∈ calls, c.use? = some link.connection) : Calls s calls
  | reopened {link : Link} {given : Settings} {calls : List DriverCall}
    (linked : s.adapter.link? = some link) (given_eq : options link.config = .ok given)
    (use : ∀ c ∈ calls, c.use? = some s.opened) :
    Calls s (.connect link.config.url given (some s.opened) ::
      .setAutocommit s.opened link.config.autocommit.isTrue :: calls)

theorem countP_isConnect_of_use {calls : List DriverCall} {id : Nat}
    (h : ∀ c ∈ calls, c.use? = some id) : calls.countP DriverCall.isConnect = 0 := by
  refine List.countP_eq_zero.2 fun c hc => ?_
  have huse : c.use? = some id := h c hc
  cases c with
  | connect target options opened => cases huse
  | _ => exact Bool.false_ne_true

namespace Calls

variable {calls : List DriverCall}

theorem connects_le_one (h : Calls s calls) : calls.countP DriverCall.isConnect ≤ 1 := by
  cases h with
  | unused once none_used => exact once
  | kept linked kept use =>
    rw [countP_isConnect_of_use use]
    exact Nat.zero_le 1
  | reopened linked given_eq use =>
    rw [List.countP_cons_of_pos rfl, List.countP_cons_of_neg Bool.false_ne_true,
      countP_isConnect_of_use use]

/-- A connection that is used is at hand and not lost, or was opened before. -/
theorem of_use (h : Calls s calls) {c : DriverCall} (hc : c ∈ calls) {id : Nat}
    (hid : c.use? = some id) :
    (s.inUse? = some id ∧ s.hasLost id = false) ∨
    ∃ link given, s.adapter.link? = some link ∧ options link.config = .ok given ∧
      [.connect link.config.url given (some id),
        .setAutocommit id link.config.autocommit.isTrue, c].Sublist calls := by
  cases h with
  | unused once none_used => cases (none_used c hc).symm.trans hid
  | @kept link _ linked kept use =>
    obtain rfl := Option.some.inj ((use c hc).symm.trans hid)
    exact .inl ⟨congrArg (Option.map Link.connection) linked, kept⟩
  | @reopened link given rest linked given_eq use =>
    have hrest : c ∈ rest := by
      rcases List.mem_cons.1 hc with rfl | hc
      · cases hid
      · rcases List.mem_cons.1 hc with rfl | hc
        · cases hid
        · exact hc
    obtain rfl := Option.some.inj ((use c hrest).symm.trans hid)
    exact .inr ⟨link, given, linked, given_eq,
      ((List.singleton_sublist.2 hrest).cons_cons _).cons_cons _⟩

end Calls

theorem calls_connect (hs : s.adapter.backend = .postgres) (config : ConnectionConfig)
    (script : DriverScript) :
    Calls s ((Operation.connect config).action script s).received := by
  have hrun : (Operation.connect config).action script s =
      (connect config >>= fun _ => pure ()) script s := Adapter.choose_postgres _ _ hs
  rw [hrun]
  cases hresult : (connect config script s).result with
  | error e =>
    rw [Action.bind_of_error _ hresult]
    rcases received_of_connect_error hresult with hreceived | ⟨given, hreceived⟩
    · rw [hreceived]
      exact .unused (Nat.zero_le 1) (List.forall_mem_nil _)
    · rw [hreceived]
      exact .unused (Nat.le_refl 1) (List.forall_mem_singleton.2 rfl)
  | ok id =>
    obtain ⟨-, -, given, -, hreceived⟩ := run_of_connect_ok hresult
    rw [Action.bind_of_ok _ hresult, hreceived]
    exact .unused (Nat.le_refl 1) (List.forall_mem_cons.2 ⟨rfl, List.forall_mem_singleton.2 rfl⟩)

theorem calls_close (hs : s.adapter.backend = .postgres) (script : DriverScript) :
    Calls s (Operation.close.action script s).received := by
  rw [action_close hs, close_received]
  cases s.adapter.link? with
  | none => exact .unused (Nat.zero_le 1) (List.forall_mem_nil _)
  | some link => exact .unused (Nat.zero_le 1) (List.forall_mem_singleton.2 rfl)

theorem calls_work (hs : s.adapter.backend = .postgres) {work : Nat → Action Unit}
    {o : Operation} (h : work? o = some work) (script : DriverScript) :
    Calls s (o.action script s).received := by
  rw [action_eq_of_work hs h]
  cases hlink : s.adapter.link? with
  | none =>
    have hconnection := connection_of_unlinked hlink script
    rw [Action.bind_of_error work (congrArg Run.result hconnection), hconnection]
    exact .unused (Nat.zero_le 1) (List.forall_mem_nil _)
  | some link =>
    cases lost : s.hasLost link.connection with
    | false =>
      have hconnection := connection_of_kept hlink lost script
      rw [Action.bind_of_ok work (congrArg Run.result hconnection), hconnection]
      exact .kept hlink lost ((work_within h link.connection).use_eq script s)
    | true =>
      have hconnection := connection_of_lost hlink lost script
      cases hresult : (connect link.config script s).result with
      | error e =>
        rw [Action.bind_of_error work ((congrArg Run.result hconnection).trans hresult),
          hconnection]
        rcases received_of_connect_error hresult with hreceived | ⟨given, hreceived⟩
        · rw [hreceived]
          exact .unused (Nat.zero_le 1) (List.forall_mem_nil _)
        · rw [hreceived]
          exact .unused (Nat.le_refl 1) (List.forall_mem_singleton.2 rfl)
      | ok id =>
        obtain ⟨rfl, hsession, given, hgiven, hreceived⟩ := run_of_connect_ok hresult
        rw [Action.bind_of_ok work ((congrArg Run.result hconnection).trans hresult), hconnection,
          hreceived, hsession]
        exact .reopened hlink hgiven ((work_within h s.opened).use_eq script _)

/-- The calls of any operation. -/
theorem calls (hs : s.adapter.backend = .postgres) (o : Operation) (script : DriverScript) :
    Calls s (o.action script s).received := by
  cases o with
  | connect config => exact calls_connect hs config script
  | close => exact calls_close hs script
  | execute sql params => exact calls_work hs rfl script
  | executeMany sql rows => exact calls_work hs rfl script
  | commit => exact calls_work hs rfl script
  | rollback => exact calls_work hs rfl script

/-- If the connection in use was lost and no other can be opened, an operation fails for that reason
and leaves the adapter as it was. -/
theorem action_of_reopen_error (hs : s.adapter.backend = .postgres) {o : Operation}
    (needs : o.needsConnection = true) {link : Link} (linked : s.adapter.link? = some link)
    (lost : s.hasLost link.connection = true) {e : AdapterError}
    (h : (connect link.config script s).result = .error e) :
    (o.action script s).result = .error e ∧ (o.action script s).session.adapter = s.adapter := by
  obtain ⟨work, hwork⟩ := work?_isSome needs
  have hconnection := connection_of_lost linked lost script
  have hsession : (connect link.config script s).session = s := by
    obtain ⟨-, -, hsession, -⟩ | ⟨-, hok, -⟩ := connect_cases link.config script s
    · exact hsession
    · cases hok.symm.trans h
  rw [action_eq_of_work hs hwork,
    Action.bind_of_error work ((congrArg Run.result hconnection).trans h), hconnection]
  exact ⟨rfl, congrArg Session.adapter hsession⟩

end Postgres

/-! ### The states -/

namespace Adapter

/-- **The states of a connection.**  After any history a connect that fails, also in place of a
connection that was lost, leaves the adapter as it was; the adapter has no connection exactly if no
connect succeeded since the last close that cleared it, and operations that need one then fail without
a call; and the PostgreSQL adapter uses a connection that is not lost, or one that the same operation
opened before with the configuration of the last connect, and opens at most one. -/
theorem connection_states (backend : Backend) (slowAfter : Value) (events : List Event) :
    let s := sessionAfter backend slowAfter events
    let ts := turns backend slowAfter events
    (∀ config script e, ((Operation.connect config).action script s).result = .error e →
      ((Operation.connect config).action script s).session.adapter = s.adapter) ∧
    (backend = .postgres → ∀ link script e, s.adapter.link? = some link →
      s.hasLost link.connection = true →
      (Postgres.connect link.config script s).result = .error e →
      ∀ o : Operation, o.needsConnection = true →
        (o.action script s).result = .error e ∧
          (o.action script s).session.adapter = s.adapter) ∧
    (s.adapter.link? = none ↔ ∀ config, .connected config ∉ Turn.sinceCleared ts) ∧
    (s.adapter.link? = none → ∀ (o : Operation) script, o.needsConnection = true →
      (o.action script s).result = .error (.notConnected backend) ∧
        (o.action script s).received = []) ∧
    (backend = .postgres → ∀ (o : Operation) script,
      (o.action script s).received.countP DriverCall.isConnect ≤ 1 ∧
      ∀ c ∈ (o.action script s).received, ∀ id, c.use? = some id →
        (s.inUse? = some id ∧ s.hasLost id = false) ∨
        ∃ config given, Turn.lastConnected? ts = some config ∧
          Postgres.options config = .ok given ∧
          [.connect config.url given (some id), .setAutocommit id config.autocommit.isTrue,
            c].Sublist (o.action script s).received) := by
  intro s ts
  have hfit : Turn.Fit s ts := fit_turns backend slowAfter events
  have hs : s.adapter.backend = backend := Session.backend_afterAll _ events
  refine ⟨fun config script e => (Operation.passage _ script s).adapter_of_connect_error,
    fun hbackend link script e linked lost h o needs =>
      Postgres.action_of_reopen_error (hs.trans hbackend) needs linked lost h,
    hfit.unlinked_iff, fun unlinked o script needs => ?_, fun hbackend o script => ?_⟩
  · rw [(o.passage script s).run_of_unlinked needs unlinked, hs]
    exact ⟨rfl, rfl⟩
  · have hcalls := Postgres.calls (hs.trans hbackend) o script
    refine ⟨hcalls.connects_le_one, fun c hc id hid => ?_⟩
    obtain huse | ⟨link, given, linked, hgiven, hsublist⟩ := hcalls.of_use hc hid
    · exact .inl huse
    · exact .inr ⟨link.config, given, hfit.lastConnected?_eq linked, hgiven, hsublist⟩

/-- A connection that was lost and cannot be opened again stays the one in use. -/
theorem commit_of_reopen_error :
    let config : ConnectionConfig := { url := "postgresql://h/db" }
    let s := sessionAfter .postgres (.int 100) [.operation (.connect config) {}, .loss 0]
    let refusing : DriverScript := { fails := fun k => if k = .connect then some "down" else none }
    (Operation.commit.action refusing s).result = .error .connectFailed ∧
      (Operation.commit.action refusing s).session.adapter.link?.map Link.connection = some 0 := by
  intro config s refusing
  have hlinked : s.adapter.link? = some ⟨0, config⟩ := rfl
  obtain ⟨hresult, hadapter⟩ := (connection_states .postgres (.int 100)
    [.operation (.connect config) {}, .loss 0]).2.1 rfl ⟨0, config⟩ refusing .connectFailed hlinked
      rfl rfl .commit rfl
  exact ⟨hresult, by rw [hadapter, hlinked]; rfl⟩

end Adapter

end SqlDialect
