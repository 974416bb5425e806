import Mathlib.Data.List.DropRight
import SqlDialect.Proofs.Reconnection

/-!
# Transactions across reconnections

A connection that was lost is opened again without a word to the caller, so the connection that a
commit reaches need not be the one its statements ran on.  The `Mark`s of a history tell which
connections were opened and on which of them statements, commits and rollbacks succeeded.

`commit_on_statements_since_reopening` says what an acknowledged commit covers: the statements of
the open transaction since a connection was last opened again; and all of them exactly if none was
opened again after one of them.  `not_commit_on_statements_of_transaction` is a history in which
one was.
-/

namespace SqlDialect

open Adapter (Event Operation)

/-! ### Marks -/

/-- What a history has done to transactions, on a connection. -/
inductive Mark
  /-- The connection was opened as asked. -/
  | connected (id : Nat)
  /-- The connection was opened in place of one that was lost. -/
  | reconnected (id : Nat)
  /-- A statement ran. -/
  | statement (id : Nat)
  | committed (id : Nat)
  | rolledBack (id : Nat)
  deriving DecidableEq, Repr

namespace Mark

/-- The connection of a mark. -/
def connection : Mark → Nat
  | .connected id | .reconnected id | .statement id | .committed id | .rolledBack id => id

/-- Whether a connection was opened. -/
def isOpening : Mark → Bool
  | .connected _ | .reconnected _ => true
  | _ => false

/-- Whether a transaction cannot reach across: a connection was opened as asked, or the last
transaction ended. -/
def isBoundary : Mark → Bool
  | .connected _ | .committed _ | .rolledBack _ => true
  | _ => false

/-- The mark of a call that succeeded. -/
def ofCall? : DriverCall → Option Mark
  | .execute id _ _ | .executeMany id _ _ => some (.statement id)
  | .commit id => some (.committed id)
  | .rollback id => some (.rolledBack id)
  | _ => none

/-- The mark of a connection that an operation opened. -/
def ofOpening : Operation → Nat → Mark
  | .connect _ => .connected
  | _ => .reconnected

theorem connection_ofOpening (o : Operation) (id : Nat) : (ofOpening o id).connection = id := by
  cases o <;> rfl

theorem isOpening_ofOpening (o : Operation) (id : Nat) : (ofOpening o id).isOpening = true := by
  cases o <;> rfl

end Mark

/-- The marks of what a run did, if it succeeded. -/
def Run.done {α : Type} (r : Run α) : List Mark :=
  match r.result with
  | .ok _ => r.received.filterMap Mark.ofCall?
  | .error _ => []

theorem Run.done_of_error {α : Type} {r : Run α} {e : AdapterError} (h : r.result = .error e) :
    r.done = [] := by
  rw [done, h]

theorem Run.done_of_ok {α : Type} {r : Run α} {a : α} (h : r.result = .ok a) :
    r.done = r.received.filterMap Mark.ofCall? := by
  rw [done, h]

namespace Mark

/-- The marks of an operation: the connections that it opened, whatever came of it, and what it did
if it succeeded. -/
def ofRun (o : Operation) (r : Run Unit) : List Mark :=
  r.openings.map (ofOpening o) ++ r.done

/-- An operation that fails without opening a connection leaves no mark. -/
theorem ofRun_of_error {o : Operation} {r : Run Unit} {e : AdapterError}
    (hresult : r.result = .error e) (hopenings : r.openings = []) : ofRun o r = [] := by
  rw [ofRun, hopenings, Run.done_of_error hresult]
  rfl

/-- Closing leaves no mark. -/
theorem ofRun_close (script : DriverScript) (s : Session) :
    ofRun .close (Postgres.close script s) = [] := by
  have hopenings : (Postgres.close script s).openings = [] := by
    rw [Run.openings, Postgres.close_received]
    cases s.adapter.link? <;> rfl
  cases hresult : (Postgres.close script s).result with
  | error e => exact ofRun_of_error hresult hopenings
  | ok _ =>
    rw [ofRun, hopenings, Run.done_of_ok hresult, Postgres.close_received]
    cases s.adapter.link? <;> rfl

/-- The marks of an event. -/
def ofEvent (s : Session) : Event → List Mark
  | .operation o script => ofRun o (o.action script s)
  | .loss _ => []

/-- The marks since the last boundary: those of the transaction that is open. -/
def transaction (marks : List Mark) : List Mark :=
  marks.rtakeWhile fun m => !m.isBoundary

/-- The marks of the open transaction since a connection was last opened again in its midst. -/
def sinceReopening (marks : List Mark) : List Mark :=
  marks.rtakeWhile fun m => !m.isBoundary && !m.isOpening

/-- The marks since a connection was last opened. -/
def sinceOpening (marks : List Mark) : List Mark :=
  marks.rtakeWhile fun m => !m.isOpening

end Mark

/-! ### The end of a list -/

/-- The longest end of a list with a property holds every end whose members have it. -/
theorem suffix_rtakeWhile_iff {α : Type} {p : α → Bool} {l t : List α} :
    t <:+ l.rtakeWhile p ↔ t <:+ l ∧ ∀ a ∈ t, p a := by
  constructor
  · intro h
    exact ⟨h.trans (List.rtakeWhile_suffix p l), fun a ha => List.mem_rtakeWhile_imp (h.mem ha)⟩
  · rintro ⟨⟨start, rfl⟩, hp⟩
    -- from the last member on, as the longest end is found
    induction t using List.reverseRecOn with
    | nil => exact List.nil_suffix
    | append_singleton t a ih =>
      have ha : p a := hp a (List.mem_append_right t (List.mem_singleton_self a))
      have ht : t <:+ (start ++ t).rtakeWhile p :=
        ih fun b hb => hp b (List.mem_append_left [a] hb)
      obtain ⟨first, hfirst⟩ := ht
      refine ⟨first, ?_⟩
      rw [← List.append_assoc, ← List.append_assoc, List.rtakeWhile_concat_pos _ _ _ ha, hfirst]

/-- A member of a list begins an end of it. -/
theorem exists_cons_suffix {α : Type} {a : α} {l : List α} (h : a ∈ l) :
    ∃ after, a :: after <:+ l := by
  obtain ⟨before, after, rfl⟩ := List.append_of_mem h
  exact ⟨after, List.suffix_append before _⟩

/-! ### Marks that lead to a connection -/

/-- The order of connections in a history: they only go up, and every one is opened anew. -/
def Mark.Before (a b : Mark) : Prop :=
  a.connection ≤ b.connection ∧ (b.isOpening = true → a.connection < b.connection)

/-- Marks that go up to a connection: none is on a later one, and those since the last opening are
on it. -/
structure Mark.LeadTo (marks : List Mark) (id : Nat) : Prop where
  ordered : marks.Pairwise Mark.Before
  le : ∀ m ∈ marks, m.connection ≤ id
  eq : ∀ m ∈ Mark.sinceOpening marks, m.connection = id

namespace Mark.LeadTo

variable {marks : List Mark} {id : Nat}

/-- The statements since a connection was last opened again are on the last connection. -/
theorem statement_eq_of_mem_sinceReopening (h : LeadTo marks id) {d : Nat}
    (hd : Mark.statement d ∈ sinceReopening marks) : d = id := by
  obtain ⟨after, hsuffix⟩ := exists_cons_suffix hd
  obtain ⟨hin, hkept⟩ := suffix_rtakeWhile_iff.1 hsuffix
  have hopen : Mark.statement d :: after <:+ sinceOpening marks :=
    suffix_rtakeWhile_iff.2 ⟨hin, fun m hm => (Bool.and_eq_true_iff.1 (hkept m hm)).2⟩
  exact h.eq (.statement d) (hopen.mem List.mem_cons_self)

/-- The statements of the open transaction are on the last connection exactly if none of them came
before a reconnection. -/
theorem transaction_on_iff (h : LeadTo marks id) :
    (∀ d, Mark.statement d ∈ transaction marks → d = id) ↔
      ¬ ∃ d e, [Mark.statement d, .reconnected e].Sublist (transaction marks) := by
  constructor
  · rintro hall ⟨d, e, hsub⟩
    have hin : [Mark.statement d, .reconnected e].Sublist marks :=
      hsub.trans (List.rtakeWhile_suffix _ marks).sublist
    have hd : d = id := hall d (hsub.subset List.mem_cons_self)
    -- the connection that was opened again is a later one, and none is later than the last
    have hlt : d < e := (List.pairwise_pair.1 (h.ordered.sublist hin)).2 rfl
    have hle : e ≤ id := h.le (.reconnected e) (hin.subset (by simp))
    omega
  · intro hnone d hd
    obtain ⟨after, hsuffix⟩ := exists_cons_suffix hd
    obtain ⟨hin, hkept⟩ := suffix_rtakeWhile_iff.1 hsuffix
    have hopen : ∀ m ∈ Mark.statement d :: after, (!m.isOpening) = true := by
      intro m hm
      cases m with
      | connected e => exact absurd (hkept _ hm) (by simp [isBoundary])
      | reconnected e =>
        have hlater : Mark.reconnected e ∈ after := by simpa using hm
        refine absurd ⟨d, e, ?_⟩ hnone
        exact ((List.singleton_sublist.2 hlater).cons_cons _).trans hsuffix.sublist
      | _ => rfl
    have heq : Mark.statement d :: after <:+ sinceOpening marks :=
      suffix_rtakeWhile_iff.2 ⟨hin, hopen⟩
    exact h.eq (.statement d) (heq.mem List.mem_cons_self)

/-- A connection that is opened is the last one. -/
theorem of_opening {o : Mark} (ordered : marks.Pairwise Mark.Before)
    (hlt : ∀ m ∈ marks, m.connection < o.connection) (ho : o.isOpening = true) :
    LeadTo (marks ++ [o]) o.connection where
  ordered := by
    refine List.pairwise_append.2 ⟨ordered, List.pairwise_singleton _ _, fun m hm b hb => ?_⟩
    obtain rfl := List.mem_singleton.1 hb
    exact ⟨(hlt m hm).le, fun _ => hlt m hm⟩
  le m hm := by
    rcases List.mem_append.1 hm with hm | hm
    · exact (hlt m hm).le
    · rw [List.mem_singleton.1 hm]
  eq m hm := by
    have hnone : sinceOpening (marks ++ [o]) = [] :=
      List.rtakeWhile_concat_neg _ _ _ (by simp [ho])
    rw [hnone] at hm
    cases hm

/-- What is done on the last connection leads to it. -/
theorem append (h : LeadTo marks id) {m : Mark} (hm : m.connection = id)
    (hopen : m.isOpening = false) : LeadTo (marks ++ [m]) id where
  ordered := by
    refine List.pairwise_append.2 ⟨h.ordered, List.pairwise_singleton _ _, fun a ha b hb => ?_⟩
    obtain rfl := List.mem_singleton.1 hb
    exact ⟨hm ▸ h.le a ha, fun hb => absurd hb (by simp [hopen])⟩
  le a ha := by
    rcases List.mem_append.1 ha with ha | ha
    · exact h.le a ha
    · rw [List.mem_singleton.1 ha, hm]
  eq a ha := by
    have hsplit : sinceOpening (marks ++ [m]) = sinceOpening marks ++ [m] :=
      List.rtakeWhile_concat_pos _ _ _ (by simp [hopen])
    rw [hsplit] at ha
    rcases List.mem_append.1 ha with ha | ha
    · exact h.eq a ha
    · rw [List.mem_singleton.1 ha, hm]

end Mark.LeadTo

/-! ### Work that succeeds -/

namespace Postgres

variable {script : DriverScript} {s : Session}

/-- Work that succeeds leaves one mark, on its connection. -/
theorem work_done {o : Operation} {work : Nat → Action Unit} (h : work? o = some work) {id : Nat}
    (hok : (work id script s).result = .ok ()) :
    ∃ m : Mark, (work id script s).done = [m] ∧ m.connection = id ∧ m.isOpening = false := by
  rw [Run.done_of_ok hok]
  cases o with
  | connect config => cases h
  | close => cases h
  | execute sql params =>
    obtain rfl := Option.some.inj h
    obtain ⟨_, hran, -, hreceived⟩ := Action.of_bind_ok hok
    refine ⟨.statement id, ?_, rfl, rfl⟩
    rw [hreceived, runOn_received hran]
    rfl
  | executeMany sql rows =>
    obtain rfl := Option.some.inj h
    obtain ⟨_, hran, -, hreceived⟩ := Action.of_bind_ok hok
    refine ⟨.statement id, ?_, rfl, rfl⟩
    rw [hreceived, runOn_received hran]
    rfl
  | commit =>
    obtain rfl := Option.some.inj h
    exact ⟨.committed id, rfl, rfl, rfl⟩
  | rollback =>
    obtain rfl := Option.some.inj h
    exact ⟨.rolledBack id, rfl, rfl, rfl⟩

end Postgres

/-! ### Histories -/

/-- How the marks of a history fit the session after it: they are on connections that were opened,
and lead to the one in use. -/
structure Mark.Fit (s : Session) (marks : List Mark) : Prop where
  backend : s.adapter.backend = .postgres
  ordered : marks.Pairwise Mark.Before
  lt : ∀ m ∈ marks, m.connection < s.opened
  inUse : ∀ link, s.adapter.link? = some link →
    link.connection < s.opened ∧ Mark.LeadTo marks link.connection

namespace Mark.Fit

variable {s : Session} {marks : List Mark}

theorem fresh (slowAfter : Value) : Fit (Session.fresh .postgres slowAfter) [] where
  backend := rfl
  ordered := .nil
  lt _ hm := by cases hm
  inUse _ h := by cases h

/-- A connection that is given up is in use no longer. -/
theorem unlink (h : Fit s marks) :
    Fit { s with adapter := { s.adapter with link? := none } } marks where
  backend := h.backend
  ordered := h.ordered
  lt := h.lt
  inUse _ hlink := by cases hlink

/-- The loss of a connection is not noticed before the next operation. -/
theorem lose (h : Fit s marks) (id : Nat) : Fit (s.lose id) marks := by
  unfold Session.lose
  split
  · exact ⟨h.backend, h.ordered, h.lt, h.inUse⟩
  · exact h

/-- A connection that is opened is used from then on. -/
theorem useNew (h : Fit s marks) {o : Mark} (ho : o.isOpening = true)
    (hid : o.connection = s.opened) (config : ConnectionConfig) :
    Fit (s.useNew config) (marks ++ [o]) := by
  have hlead : LeadTo (marks ++ [o]) o.connection := .of_opening h.ordered (hid ▸ h.lt) ho
  refine ⟨h.backend, hlead.ordered, fun m hm => ?_, fun link hlink => ?_⟩
  · have hle : m.connection ≤ o.connection := hlead.le m hm
    exact Nat.lt_succ_of_le (hid ▸ hle)
  · obtain rfl := Option.some.inj hlink
    exact ⟨Nat.lt_succ_self _, hid ▸ hlead⟩

/-- What is done on the connection in use is done on an opened one. -/
theorem append (h : Fit s marks) {link : Link} (hlink : s.adapter.link? = some link) {m : Mark}
    (hm : m.connection = link.connection) (hopen : m.isOpening = false) :
    Fit s (marks ++ [m]) := by
  obtain ⟨hlt, hlead⟩ := h.inUse link hlink
  have hlead' : LeadTo (marks ++ [m]) link.connection := hlead.append hm hopen
  refine ⟨h.backend, hlead'.ordered, fun a ha => ?_, fun other hother => ?_⟩
  · exact (hlead'.le a ha).trans_lt hlt
  · obtain rfl : link = other := Option.some.inj (hlink.symm.trans hother)
    exact ⟨hlt, hlead'⟩

/-- Work on the connection in use. -/
theorem work (h : Fit s marks) {link : Link} (hlink : s.adapter.link? = some link) {o : Operation}
    {work : Nat → Action Unit} (hw : Postgres.work? o = some work) (script : DriverScript) :
    Fit s (marks ++ (work link.connection script s).done) := by
  cases hresult : (work link.connection script s).result with
  | error e =>
    rw [Run.done_of_error hresult, List.append_nil]
    exact h
  | ok _ =>
    obtain ⟨m, hdone, hm, hopen⟩ := Postgres.work_done hw hresult
    rw [hdone]
    exact h.append hlink hm hopen

/-- An operation that needs a connection, opened again or not. -/
theorem ofWork (h : Fit s marks) {o : Operation} {work : Nat → Action Unit}
    (hw : Postgres.work? o = some work) (script : DriverScript) :
    Fit (o.action script s).session (marks ++ ofRun o (o.action script s)) := by
  obtain ⟨e, hresult, hsession, hopenings⟩ | ⟨link, hlink, -, hrun⟩ |
      ⟨link, given, hlink, -, hresult, hsession, hreceived⟩ :=
    Postgres.action_cases h.backend hw script
  · rw [hsession, ofRun_of_error hresult hopenings, List.append_nil]
    exact h
  · have hwithin := Postgres.work_within hw link.connection
    rw [hrun, hwithin.session_eq, ofRun, hwithin.openings_eq_nil]
    exact h.work hlink hw script
  · -- the new connection leaves its mark first, and the work goes on from there
    have hwithin := Postgres.work_within hw s.opened
    have hnew : Fit (s.useNew link.config) (marks ++ [ofOpening o s.opened]) :=
      h.useNew (isOpening_ofOpening o s.opened) (connection_ofOpening o s.opened) link.config
    have hopenings : (o.action script s).openings = [s.opened] := by
      rw [Run.openings, hreceived]
      show s.opened :: (work s.opened script (s.useNew link.config)).openings = [s.opened]
      rw [hwithin.openings_eq_nil]
    have hdone : (o.action script s).done =
        (work s.opened script (s.useNew link.config)).done := by
      rw [Run.done, Run.done, hresult, hreceived]
      rfl
    rw [hsession, ofRun, hopenings, hdone, ← List.append_assoc]
    exact hnew.work rfl hw script

/-- An event keeps marks and session fitting. -/
theorem step (h : Fit s marks) (e : Event) : Fit (s.after e) (marks ++ ofEvent s e) := by
  cases e with
  | loss id =>
    rw [ofEvent, List.append_nil]
    exact h.lose id
  | operation o script =>
    show Fit (o.action script s).session (marks ++ ofRun o (o.action script s))
    cases o with
    | connect config =>
      obtain ⟨e, hresult, hsession, hopenings⟩ | ⟨given, hresult, hsession, hreceived⟩ :=
        Postgres.action_connect_cases h.backend config script
      · rw [hsession, ofRun_of_error hresult hopenings, List.append_nil]
        exact h
      · rw [hsession, ofRun, Run.openings, Run.done_of_ok hresult, hreceived]
        exact h.useNew (isOpening_ofOpening (.connect config) s.opened) rfl config
    | close =>
      rw [Postgres.action_close h.backend, ofRun_close, List.append_nil, Postgres.close_session]
      exact h.unlink
    | execute sql params => exact h.ofWork rfl script
    | executeMany sql rows => exact h.ofWork rfl script
    | commit => exact h.ofWork rfl script
    | rollback => exact h.ofWork rfl script

end Mark.Fit

/-! ### Commits -/

namespace Postgres

/-- The session after a history of a new adapter. -/
def sessionAfter (slowAfter : Value) (events : List Event) : Session :=
  (Session.fresh .postgres slowAfter).afterAll events

/-- The marks of a history of a new adapter. -/
def trail (slowAfter : Value) (events : List Event) : List Mark :=
  (Session.fresh .postgres slowAfter).collect Mark.ofEvent events

/-- The marks of a history fit the session after it. -/
theorem fit_trail (slowAfter : Value) (events : List Event) :
    Mark.Fit (sessionAfter slowAfter events) (trail slowAfter events) :=
  Session.collect_induction (P := Mark.Fit) Mark.ofEvent (fun _ _ e h => h.step e)
    (.fresh slowAfter) events

/-- The run of a commit after a history. -/
def commitAfter (slowAfter : Value) (events : List Event) (script : DriverScript) : Run Unit :=
  Operation.commit.action script (sessionAfter slowAfter events)

/-- The marks that a commit after a history finds: those of the history and, if the connection in
use was lost, that of the one which the commit opens itself. -/
def foundByCommit (slowAfter : Value) (events : List Event) (script : DriverScript) : List Mark :=
  trail slowAfter events ++ (commitAfter slowAfter events script).openings.map .reconnected

/-- A commit that succeeds is made on one connection, and the marks that it finds lead there. -/
theorem leadTo_of_commit_ok {slowAfter : Value} {events : List Event} {script : DriverScript}
    (hok : (commitAfter slowAfter events script).result = .ok ()) :
    ∃ id, (∀ other, DriverCall.commit other ∈ (commitAfter slowAfter events script).received ↔
        other = id) ∧
      Mark.LeadTo (foundByCommit slowAfter events script) id := by
  have hfit : Mark.Fit (sessionAfter slowAfter events) (trail slowAfter events) :=
    fit_trail slowAfter events
  obtain ⟨e, hresult, -, -⟩ | ⟨link, hlink, -, hrun⟩ | ⟨link, given, -, -, -, -, hreceived⟩ :=
    action_cases (o := .commit) hfit.backend rfl script
  · rw [commitAfter, hresult] at hok
    cases hok
  · refine ⟨link.connection, fun other => ?_, ?_⟩
    · rw [commitAfter, hrun]
      simp [Action.call]
    · have hfound : foundByCommit slowAfter events script = trail slowAfter events := by
        rw [foundByCommit, commitAfter, hrun]
        exact List.append_nil _
      rw [hfound]
      exact (hfit.inUse link hlink).2
  · refine ⟨(sessionAfter slowAfter events).opened, fun other => ?_, ?_⟩
    · rw [commitAfter, hreceived]
      simp [Action.call]
    · have hfound : foundByCommit slowAfter events script =
          trail slowAfter events ++ [.reconnected (sessionAfter slowAfter events).opened] := by
        rw [foundByCommit, commitAfter, Run.openings, hreceived]
        rfl
      rw [hfound]
      exact .of_opening hfit.ordered hfit.lt rfl

/-- An acknowledged commit is made on the connection of every statement that ran since the last
boundary or reconnection, the one of the commit itself included.  It is made on the connection of
every statement of the transaction exactly if none of them came before a reconnection. -/
theorem commit_on_statements_since_reopening (slowAfter : Value) (events : List Event)
    (script : DriverScript) (hok : (commitAfter slowAfter events script).result = .ok ()) :
    ∃ id, (∀ other, DriverCall.commit other ∈ (commitAfter slowAfter events script).received ↔
        other = id) ∧
      (∀ d, Mark.statement d ∈ Mark.sinceReopening (foundByCommit slowAfter events script) →
        d = id) ∧
      ((∀ d, Mark.statement d ∈ Mark.transaction (foundByCommit slowAfter events script) →
          d = id) ↔
        ¬ ∃ d e, [Mark.statement d, .reconnected e].Sublist
          (Mark.transaction (foundByCommit slowAfter events script))) := by
  obtain ⟨id, hcalls, hlead⟩ := leadTo_of_commit_ok hok
  exact ⟨id, hcalls, fun _ => hlead.statement_eq_of_mem_sinceReopening, hlead.transaction_on_iff⟩

/-- A configuration without automatic commits. -/
def manualCommits : ConnectionConfig where
  url := "postgresql://localhost/db"

/-- A statement runs, and its connection is lost. -/
def lostStatement : List Event :=
  [.operation (.connect manualCommits) {},
    .operation (.execute "INSERT INTO t VALUES (1)" []) {},
    .loss 0]

/-- The statement that was lost and another one. -/
def lostStatementAndAnother : List Event :=
  lostStatement ++ [.operation (.execute "INSERT INTO t VALUES (%s)" [.int 2]) {}]

/-- The second statement of a transaction is committed, the first one was lost. -/
theorem commit_on_second_statement_after_loss :
    Mark.transaction (foundByCommit (.int 100) lostStatementAndAnother {}) =
        [.statement 0, .reconnected 1, .statement 1] ∧
      Mark.sinceReopening (foundByCommit (.int 100) lostStatementAndAnother {}) =
        [.statement 1] ∧
      (commitAfter (.int 100) lostStatementAndAnother {}).result = .ok () ∧
      ∃ id, (∀ other, DriverCall.commit other ∈
            (commitAfter (.int 100) lostStatementAndAnother {}).received ↔ other = id) ∧
        (∀ d, Mark.statement d ∈
            Mark.sinceReopening (foundByCommit (.int 100) lostStatementAndAnother {}) →
          d = id) ∧
        ((∀ d, Mark.statement d ∈
              Mark.transaction (foundByCommit (.int 100) lostStatementAndAnother {}) →
            d = id) ↔
          ¬ ∃ d e, [Mark.statement d, .reconnected e].Sublist
            (Mark.transaction (foundByCommit (.int 100) lostStatementAndAnother {}))) :=
  ⟨by decide +kernel, by decide +kernel, rfl, commit_on_statements_since_reopening _ _ _ rfl⟩

/-- An acknowledged commit need not be made on the connection of every statement of the
transaction: a statement whose connection was lost is not committed. -/
theorem not_commit_on_statements_of_transaction :
    ¬ ∀ (slowAfter : Value) (events : List Event) (script : DriverScript),
      (∀ config during, Event.operation (.connect config) during ∈ events →
        config.autocommit.isTrue = false) →
      (commitAfter slowAfter events script).result = .ok () →
      ∀ id d, DriverCall.commit id ∈ (commitAfter slowAfter events script).received →
        Mark.statement d ∈ Mark.transaction (trail slowAfter events) → d = id := by
  intro hall
  have hmanual : ∀ config during, Event.operation (.connect config) during ∈ lostStatement →
      config.autocommit.isTrue = false := by
    intro config during hmem
    simp only [lostStatement, List.mem_cons, Event.operation.injEq, Operation.connect.injEq,
      reduceCtorEq, false_and, List.not_mem_nil, or_false] at hmem
    obtain ⟨rfl, -⟩ := hmem
    rfl
  have hok : (commitAfter (.int 100) lostStatement {}).result = .ok () := rfl
  -- the commit opens connection 1 and is made there
  have hcommit : DriverCall.commit 1 ∈ (commitAfter (.int 100) lostStatement {}).received :=
    .tail _ (.tail _ (.head _))
  have hstatement : Mark.statement 0 ∈ Mark.transaction (trail (.int 100) lostStatement) := by
    decide +kernel
  have heq : 0 = 1 := hall _ _ _ hmanual hok 1 0 hcommit hstatement
  exact absurd heq (by decide)

end Postgres

end SqlDialect
