import SqlDialect.Adapter.Operation

/-!
# Runs of actions

Actions are a lawful monad: the calls and the records of a sequence are those of its parts, one
after the other, up to the first error.  An action that works `Within` a connection uses that
connection alone, opens and closes none and leaves the session as it is; whatever is built from such
actions works within the connection too.
-/

namespace SqlDialect

/-! ### Calls -/

/-- The connection that a call opened. -/
def DriverCall.opened? : DriverCall → Option Nat
  | .connect _ _ opened => opened
  | _ => none

/-- The connection that a call closes. -/
def DriverCall.closed? : DriverCall → Option Nat
  | .close id => some id
  | _ => none

/-- The connection that a call uses to run a statement or to end a transaction. -/
def DriverCall.use? : DriverCall → Option Nat
  | .cursor id | .execute id _ _ | .executeMany id _ _ | .commit id | .rollback id => some id
  | _ => none

/-- A call that uses a connection opens none. -/
theorem DriverCall.opened_eq_none_of_use {c : DriverCall} {id : Nat} (h : c.use? = some id) :
    c.opened? = none := by
  cases c with
  | connect target options opened => cases h
  | _ => rfl

/-- A call that uses a connection closes none. -/
theorem DriverCall.closed_eq_none_of_use {c : DriverCall} {id : Nat} (h : c.use? = some id) :
    c.closed? = none := by
  cases c with
  | close id => cases h
  | _ => rfl

/-- The connections that were opened during a run. -/
def Run.openings {α : Type} (r : Run α) : List Nat :=
  r.received.filterMap DriverCall.opened?

/-- The connections that were closed during a run, or that could not be. -/
def Run.closings {α : Type} (r : Run α) : List Nat :=
  r.received.filterMap DriverCall.closed?

namespace Action

variable {α β γ : Type}

/-! ### Runs of the actions that others are built from -/

section Sequences

variable {script : DriverScript} {s : Session} {m : Action α}

@[simp]
theorem pure_apply (a : α) :
    (pure a : Action α) script s = { result := .ok a, session := s } := rfl

@[simp]
theorem bind_apply (m : Action α) (f : α → Action β) :
    (m >>= f) script s = andThen (m script s) fun a t => f a script t := rfl

@[simp]
theorem map_apply (f : α → β) (m : Action α) :
    (f <$> m) script s = andThen (m script s) fun a t => { result := .ok (f a), session := t } := rfl

@[simp]
theorem fail_apply (e : AdapterError) :
    (fail e : Action α) script s = { result := .error e, session := s } := rfl

@[simp]
theorem ofExcept_apply (x : Except AdapterError α) :
    ofExcept x script s = { result := x, session := s } := rfl

@[simp]
theorem session_apply : session script s = { result := .ok s, session := s } := rfl

@[simp]
theorem script_apply : Action.script script s = { result := .ok script, session := s } := rfl

@[simp]
theorem setLink_apply (link? : Option Link) :
    setLink link? script s =
      { result := .ok (), session := { s with adapter := { s.adapter with link? } } } := rfl

@[simp]
theorem reportAll_apply (log : List LogRecord) :
    reportAll log script s = { result := .ok (), session := s, log } := rfl

@[simp]
theorem report_apply (r : LogRecord) :
    report r script s = { result := .ok (), session := s, log := [r] } := rfl

@[simp]
theorem autocommit_apply (id : Nat) (on : Bool) :
    autocommit id on script s =
      { result := .ok (), session := s, received := [.setAutocommit id on] } := rfl

/-- An error in other terms. -/
theorem mapError_of_error {e : AdapterError} (f : AdapterError → AdapterError)
    (h : (m script s).result = .error e) :
    m.mapError f script s = { m script s with result := .error (f e) } := by
  rw [mapError, h]
  rfl

/-- A result has no other terms. -/
theorem mapError_of_ok {a : α} (f : AdapterError → AdapterError)
    (h : (m script s).result = .ok a) : m.mapError f script s = m script s := by
  rw [mapError, h]
  show ({ m script s with result := .ok a } : Run α) = m script s
  rw [← h]

/-- A connection that cannot be opened leaves the session as it is. -/
theorem openConnection_of_some {message : String} (h : script.fails .connect = some message)
    (target : String) (options : Settings) :
    openConnection target options script s =
      { result := .error (.driver message), session := s
        received := [.connect target options none] } := by
  simp only [openConnection, h]

/-- A connection that is opened gets the next number. -/
theorem openConnection_of_none (h : script.fails .connect = none) (target : String)
    (options : Settings) :
    openConnection target options script s =
      { result := .ok s.opened, session := { s with opened := s.opened + 1 }
        received := [.connect target options (some s.opened)] } := by
  simp only [openConnection, h]

/-! ### Sequences -/

theorem andThen_pure (r : Run α) :
    (andThen r fun a t => { result := .ok a, session := t }) = r := by
  obtain ⟨result, session, received, log⟩ := r
  cases result with
  | error e => rfl
  | ok a => simp only [andThen, List.append_nil]

theorem andThen_assoc (r : Run α) (f : α → Session → Run β) (g : β → Session → Run γ) :
    andThen (andThen r f) g = andThen r fun a t => andThen (f a t) g := by
  obtain ⟨result, session, received, log⟩ := r
  cases result with
  | error e => rfl
  | ok a =>
    cases h : (f a session).result with
    | error e => simp only [andThen, h]
    | ok b => simp only [andThen, h, List.append_assoc]

instance : LawfulMonad Action :=
  LawfulMonad.mk' Action
    (fun m => funext fun script => funext fun s => andThen_pure (m script s))
    (fun _ _ => rfl)
    (fun m f g => funext fun script => funext fun s =>
      andThen_assoc (m script s) (fun a t => f a script t) (fun b t => g b script t))

/-- After an error nothing more happens. -/
theorem bind_of_error {e : AdapterError} (f : α → Action β) (h : (m script s).result = .error e) :
    (m >>= f) script s =
      { result := .error e, session := (m script s).session
        received := (m script s).received, log := (m script s).log } := by
  simp only [bind_apply, andThen, h]

/-- After a result the rest of the sequence follows. -/
theorem bind_of_ok {a : α} (f : α → Action β) (h : (m script s).result = .ok a) :
    (m >>= f) script s =
      { result := (f a script (m script s).session).result
        session := (f a script (m script s).session).session
        received := (m script s).received ++ (f a script (m script s).session).received
        log := (m script s).log ++ (f a script (m script s).session).log } := by
  simp only [bind_apply, andThen, h]

/-- A sequence that succeeds succeeds in each part, and made the calls of each. -/
theorem of_bind_ok {f : α → Action β} {b : β} (h : ((m >>= f) script s).result = .ok b) :
    ∃ a, (m script s).result = .ok a ∧ (f a script (m script s).session).result = .ok b ∧
      ((m >>= f) script s).received =
        (m script s).received ++ (f a script (m script s).session).received := by
  cases hm : (m script s).result with
  | error e =>
    rw [bind_of_error f hm] at h
    cases h
  | ok a =>
    rw [bind_of_ok f hm] at h ⊢
    exact ⟨a, rfl, h, rfl⟩

/-- What follows an action depends on its run alone. -/
theorem bind_congr_run {n : Action α} (f : α → Action β) (h : m script s = n script s) :
    (m >>= f) script s = (n >>= f) script s := by
  rw [bind_apply, bind_apply, h]

/-- A record that is left in any case. -/
theorem always_report_apply (m : Action α) (r : LogRecord) :
    (m.always (report r)) script s = { m script s with log := (m script s).log ++ [r] } := by
  simp only [always, attempt, bind_apply, report_apply, ofExcept_apply, andThen, List.append_nil]

/-- A timed statement is the statement with its record. -/
theorem timed_apply (name logger sql : String) (params : Value) (m : Action α) :
    timed name logger sql params m script s =
      { m script s with
        log := (m script s).log ++
          [timedRecord name logger s.adapter.slowAfter (.text sql) params script.clock] } := by
  simp only [timed, session_apply, script_apply, bind_apply, andThen, always_report_apply,
    List.nil_append]

end Sequences

/-! ### Work within a connection -/

/-- An action that uses one connection, does nothing else with the driver and leaves the session as
it is. -/
structure Within (id : Nat) (m : Action α) : Prop where
  session_eq : ∀ script s, (m script s).session = s
  use_eq : ∀ script s, ∀ c ∈ (m script s).received, c.use? = some id

namespace Within

variable {id : Nat} {m : Action α}

theorem bind {f : α → Action β} (hm : m.Within id) (hf : ∀ a, (f a).Within id) :
    (m >>= f).Within id where
  session_eq script s := by
    cases h : (m script s).result with
    | error e =>
      rw [bind_of_error f h]
      exact hm.session_eq script s
    | ok a =>
      rw [bind_of_ok f h]
      exact ((hf a).session_eq script _).trans (hm.session_eq script s)
  use_eq script s c hc := by
    cases h : (m script s).result with
    | error e =>
      rw [bind_of_error f h] at hc
      exact hm.use_eq script s c hc
    | ok a =>
      rw [bind_of_ok f h] at hc
      rcases List.mem_append.1 hc with hc | hc
      · exact hm.use_eq script s c hc
      · exact (hf a).use_eq script _ c hc

/-- An action without calls that leaves the session as it is. -/
theorem of_silent (hs : ∀ script s, (m script s).session = s)
    (hc : ∀ script s, (m script s).received = []) : m.Within id where
  session_eq := hs
  use_eq script s c h := by
    rw [hc script s] at h
    cases h

theorem pure (a : α) : (Pure.pure a : Action α).Within id :=
  of_silent (fun _ _ => rfl) fun _ _ => rfl

theorem ofExcept (x : Except AdapterError α) : (Action.ofExcept x).Within id :=
  of_silent (fun _ _ => rfl) fun _ _ => rfl

theorem script : Action.script.Within id :=
  of_silent (fun _ _ => rfl) fun _ _ => rfl

theorem call (kind : CallKind) {c : DriverCall} (hc : c.use? = some id) :
    (Action.call kind c).Within id where
  session_eq _ _ := rfl
  use_eq _ _ d hd := by rw [List.mem_singleton.1 hd, hc]

theorem makeCursor (id : Nat) : (Action.makeCursor id).Within id :=
  call .cursor rfl

/-- Errors in other terms change nothing but the result. -/
theorem mapError (hm : m.Within id) (f : AdapterError → AdapterError) :
    (m.mapError f).Within id where
  session_eq := hm.session_eq
  use_eq := hm.use_eq

theorem timed (name logger sql : String) (params : Value) (hm : m.Within id) :
    (Action.timed name logger sql params m).Within id where
  session_eq script s := by
    rw [timed_apply]
    exact hm.session_eq script s
  use_eq script s := by
    rw [timed_apply]
    exact hm.use_eq script s

/-- Work within a connection opens none. -/
theorem openings_eq_nil (hm : m.Within id) (script : DriverScript) (s : Session) :
    (m script s).openings = [] :=
  List.filterMap_eq_nil_iff.2 fun _ hc => DriverCall.opened_eq_none_of_use (hm.use_eq script s _ hc)

/-- Work within a connection closes none. -/
theorem closings_eq_nil (hm : m.Within id) (script : DriverScript) (s : Session) :
    (m script s).closings = [] :=
  List.filterMap_eq_nil_iff.2 fun _ hc => DriverCall.closed_eq_none_of_use (hm.use_eq script s _ hc)

end Within

end Action

end SqlDialect
