import Mathlib.Data.List.Forall2
import SqlDialect.Proofs.Preparation
import SqlDialect.Proofs.Runs

/-!
# The rows of a statement

A history of a statement is a list of events: operations, each in the session that it finds and
with what the driver does meanwhile.  What an event does are its `deeds`: it binds a parameter,
forms a row out of what is bound, or hands rows over to be run.  A `Ledger` keeps the parameters
that were bound since a row was last formed, the parameters that each row was formed from, and the
rows that were handed over.

`rows_formed_once`: the rows that were handed over, followed by those still staged, are the rows
that were formed, one for one and in order.  `Ledger.Fits` is the invariant that carries it.  What
is handed over is what is run, and nothing else is (`run_eq_of_handed`): the adapter executes a row,
or a batch of rows (`run_eq_of_row`, `run_eq_of_rows`).
-/

namespace SqlDialect.Statement

/-! ### Histories -/

/-- An operation, in the session that it finds and with what the driver does meanwhile. -/
structure Event where
  command : Command
  session : Session
  script : DriverScript

/-- What an event comes to before anything is run: why it is refused or what it hands over, and the
statement that it leaves. -/
def prepared (s : Statement) (e : Event) : Except AdapterError (Option Submission) × Statement :=
  (e.command.prepare e.session.adapter.backend).run s

/-- What an event hands over to the adapter, if it does not end before. -/
def handed? (s : Statement) (e : Event) : Option Submission :=
  match (s.prepared e).1 with
  | .ok submission? => submission?
  | .error _ => none

/-- The statement after an event. -/
def after (s : Statement) (e : Event) : Statement :=
  (s.perform e.script e.session e.command).1

/-- An event comes to one of the cases. -/
theorem prepares_event (s : Statement) (e : Event) :
    Prepares e.session.adapter.backend s e.command (s.prepared e) :=
  prepares e.session.adapter.backend s e.command

/-- The statement after a history. -/
def afterAll (s : Statement) (events : List Event) : Statement :=
  events.foldl after s

/-- What is run does not touch the statement any more. -/
theorem after_eq (s : Statement) (e : Event) : s.after e = (s.prepared e).2 := by
  rw [after, perform, prepared]
  split <;> simp only [*]

theorem after_sql (s : Statement) (e : Event) : (s.after e).sql = s.sql := by
  have hcases := s.prepares_event e
  rw [after_eq]
  generalize s.prepared e = outcome at hcases ⊢
  obtain ⟨command, session, script⟩ := e
  cases hcases <;> rfl

theorem afterAll_sql (s : Statement) (events : List Event) : (s.afterAll events).sql = s.sql := by
  induction events generalizing s with
  | nil => rfl
  | cons e events ih => exact (ih (s.after e)).trans (s.after_sql e)

/-- The run of an event. -/
def run (s : Statement) (e : Event) : Run Reply :=
  (s.perform e.script e.session e.command).2

/-- How an event ends if it is refused, if it is not run, and if it is. -/
theorem run_eq (s : Statement) (e : Event) :
    s.run e =
      match (s.prepared e).1 with
      | .error error => { result := .error error, session := e.session }
      | .ok none => { result := .ok .chained, session := e.session }
      | .ok (some submission) =>
        (do return e.command.reply (← submission.run s.sql) : Action Reply)
          e.script e.session := by
  rw [run, perform, prepared]
  generalize (e.command.prepare e.session.adapter.backend).run s = outcome
  obtain ⟨result, t⟩ := outcome
  match result with
  | .error _ | .ok none | .ok (some _) => rfl

/-- An event runs what it hands over, and nothing else. -/
theorem run_eq_of_handed (s : Statement) (e : Event) :
    s.run e =
      match s.handed? e with
      | some submission =>
        (do return e.command.reply (← submission.run s.sql) : Action Reply)
          e.script e.session
      | none => { result := (s.run e).result, session := e.session } := by
  rw [run_eq, handed?]
  match (s.prepared e).1 with
  | .error _ | .ok none | .ok (some _) => rfl

variable {s : Statement} {e : Event}

/-- A row that is handed over is executed by the adapter. -/
theorem run_eq_of_row {row : List Value} (h : s.handed? e = some (.single row)) :
    s.run e =
      (do return e.command.reply (← Adapter.execute s.sql row) : Action Reply)
        e.script e.session := by
  rw [run_eq_of_handed, h]
  rfl

/-- A batch that is handed over is reported, and its rows are executed by the adapter at once. -/
theorem run_eq_of_rows {rows : List (List Value)} (h : s.handed? e = some (.batch rows)) :
    s.run e =
      (do
        Action.report (batchRecord rows.length)
        return e.command.reply (← Adapter.executeMany s.sql rows) : Action Reply)
        e.script e.session := by
  rw [run_eq_of_handed, h]
  simp only [Submission.run, bind_assoc]

/-- Where nothing is handed over, nothing is executed. -/
theorem run_eq_of_nothing (h : s.handed? e = none) :
    s.run e = { result := (s.run e).result, session := e.session } := by
  have hrun := s.run_eq_of_handed e
  rwa [h] at hrun

/-! ### Deeds -/

/-- What is done to parameters and rows. -/
inductive Deed
  /-- A parameter is bound. -/
  | bound (b : Bound)
  /-- A row is formed out of what is bound, and nothing is bound any more. -/
  | formed
  /-- Rows are handed over to be run. -/
  | handed (submission : Submission)

/-- What an event does.  A row is formed when it is staged, when it is run on its own, and when
something is still bound as a batch is run. -/
def deeds (s : Statement) (e : Event) : List Deed :=
  match (s.prepared e).1, e.command with
  | .error _, _ => []
  | .ok none, .add => [.formed]
  | .ok none, c => (c.binds? e.session.adapter.backend).toList.map .bound
  | .ok (some submission), _ =>
    (if s.batch.isEmpty || !s.bindings.isEmpty then [.formed] else []) ++ [.handed submission]

/-- The record of what was done to a statement: what was bound since a row was last formed, what
each row was formed from, and the rows that were handed over. -/
structure Ledger where
  bound : List Bound := []
  formed : List (List Bound) := []
  handed : List (List Value) := []

namespace Ledger

/-- Records a deed. -/
def enter (l : Ledger) : Deed → Ledger
  | .bound b => { l with bound := l.bound ++ [b] }
  | .formed => { l with bound := [], formed := l.formed ++ [l.bound] }
  | .handed submission => { l with handed := l.handed ++ submission.rows }

/-- The record after a history of a statement. -/
def afterAll (l : Ledger) (s : Statement) : List Event → Ledger
  | [] => l
  | e :: events => ((s.deeds e).foldl enter l).afterAll (s.after e) events

end Ledger

/-! ### Rows of bound parameters -/

/-- The parameter that was bound last at an index. -/
def lastBound? (bound : List Bound) (i : Nat) : Option (Value × Option SqlType) :=
  Indexed.find? i bound.reverse

/-- A row of parameters in the order in which they were bound: it has a place for each index up to
the last, and there stands the value that was bound last. -/
structure IsRowOf (row : List Value) (bound : List Bound) : Prop where
  length_eq : row.length = Indexed.width bound
  getElem?_eq : ∀ i < row.length, row[i]? = (lastBound? bound i).map Prod.fst

theorem lastBound?_append_self (bound : List Bound) (b : Bound) :
    lastBound? (bound ++ [b]) b.index = some b.value := by
  rw [lastBound?, List.reverse_append]
  exact Indexed.find?_cons_self b _

theorem lastBound?_append_of_ne {b : Bound} {i : Nat} (h : b.index ≠ i) (bound : List Bound) :
    lastBound? (bound ++ [b]) i = lastBound? bound i := by
  rw [lastBound?, List.reverse_append]
  exact Indexed.find?_cons_of_ne h _

theorem lastBound?_isSome_iff {bound : List Bound} {i : Nat} :
    (lastBound? bound i).isSome ↔ i ∈ bound.map Indexed.index := by
  rw [lastBound?, Indexed.find?_isSome_iff, List.map_reverse, List.mem_reverse]

/-- Entries that agree with what was bound last go on to agree when one more is bound. -/
theorem find?_insert_eq_lastBound? {α : Type} {f : Value × Option SqlType → α}
    {entries : List (Indexed α)} {bound : List Bound}
    (h : ∀ i, Indexed.find? i entries = (lastBound? bound i).map f) (b : Bound) (i : Nat) :
    Indexed.find? i (Indexed.insert ⟨b.index, f b.value⟩ entries) =
      (lastBound? (bound ++ [b]) i).map f := by
  by_cases hi : b.index = i
  · subst hi
    rw [lastBound?_append_self]
    exact Indexed.find?_insert_self ⟨b.index, f b.value⟩ entries
  · rw [lastBound?_append_of_ne hi, ← h]
    exact Indexed.find?_insert_of_ne (e := ⟨b.index, f b.value⟩) hi entries

/-- A list of what a function finds at each number below a bound, if it finds something at each. -/
theorem getElem?_filterMap_range {α : Type} {f : Nat → Option α} {n : Nat}
    (h : ∀ i < n, (f i).isSome) :
    ((List.range n).filterMap f).length = n ∧
      ∀ i < n, ((List.range n).filterMap f)[i]? = f i := by
  induction n with
  | zero => exact ⟨rfl, fun i hi => absurd hi (Nat.not_lt_zero i)⟩
  | succ n ih =>
    obtain ⟨hlength, hget⟩ := ih fun i hi => h i (Nat.lt_succ_of_lt hi)
    obtain ⟨a, ha⟩ := Option.isSome_iff_exists.1 (h n (Nat.lt_succ_self n))
    have hsplit : (List.range (n + 1)).filterMap f = (List.range n).filterMap f ++ [a] := by
      simp [List.range_succ, ha]
    rw [hsplit]
    refine ⟨by simp [hlength], fun i hi => ?_⟩
    obtain hlt | rfl := Nat.lt_succ_iff_lt_or_eq.1 hi
    · rw [List.getElem?_append_left (hlength.symm ▸ hlt), hget i hlt]
    · rw [List.getElem?_append_right (Nat.le_of_eq hlength), hlength, ha]
      simp

/-! ### The invariant -/

namespace Ledger

/-- How a record fits the statement: at each index stand the value and the type that were bound
last, and the rows that were handed over or are staged are those that were formed. -/
structure Fits (l : Ledger) (s : Statement) : Prop where
  values : ∀ i, Indexed.find? i s.bindings = (lastBound? l.bound i).map Prod.fst
  types : ∀ i, Indexed.find? i s.types = (lastBound? l.bound i).map Prod.snd
  rows : List.Forall₂ IsRowOf (l.handed ++ s.batch) l.formed

namespace Fits

variable {l : Ledger} {s : Statement}

theorem fresh (sql : String) : Fits {} { sql } where
  values _ := rfl
  types _ := rfl
  rows := .nil

/-- A value is bound where a parameter was bound last. -/
theorem mem_index_iff (h : Fits l s) (i : Nat) :
    i ∈ s.bindings.map Indexed.index ↔ i ∈ l.bound.map Indexed.index := by
  rw [← Indexed.find?_isSome_iff, ← lastBound?_isSome_iff, h.values, Option.isSome_map]

/-- A type is recorded where a parameter was bound last. -/
theorem mem_types_iff (h : Fits l s) (i : Nat) :
    i ∈ s.types.map Indexed.index ↔ i ∈ l.bound.map Indexed.index := by
  rw [← Indexed.find?_isSome_iff, ← lastBound?_isSome_iff, h.types, Option.isSome_map]

/-- The row of a statement is one of the parameters that were bound. -/
theorem isRowOf (h : Fits l s) {row : List Value} (hrow : s.row = .ok row) :
    IsRowOf row l.bound := by
  have hwidth : Indexed.width s.bindings = Indexed.width l.bound :=
    Indexed.width_congr h.mem_index_iff
  rw [Statement.row] at hrow
  split at hrow
  · rename_i hgaps
    obtain rfl := Except.ok.inj hrow
    obtain ⟨hlength, hget⟩ := getElem?_filterMap_range fun i =>
      Indexed.isSome_of_gaps_eq_nil (List.isEmpty_iff.1 hgaps) (i := i)
    refine ⟨hlength.trans hwidth, fun i hi => ?_⟩
    rw [hget i (hlength ▸ hi), h.values]
  · cases hrow

/-- A parameter is bound. -/
theorem put (h : Fits l s) (b : Bound) : Fits (l.enter (.bound b)) (s.put b) where
  values := find?_insert_eq_lastBound? (f := Prod.fst) h.values b
  types := find?_insert_eq_lastBound? (f := Prod.snd) h.types b
  rows := h.rows

/-- A row is formed and staged. -/
theorem stage (h : Fits l s) {row : List Value} (hrow : s.row = .ok row) :
    Fits (l.enter .formed) { s.unbound with batch := s.batch ++ [row] } where
  values _ := rfl
  types _ := rfl
  rows := by
    rw [← List.append_assoc]
    exact List.rel_append h.rows (.cons (h.isRowOf hrow) .nil)

/-- The batch is handed over. -/
theorem hand (h : Fits l s) {x : Submission} (hrows : x.rows = s.batch) :
    Fits (l.enter (.handed x)) { s with batch := [] } where
  values := h.values
  types := h.types
  rows := by
    rw [Ledger.enter, hrows, List.append_nil]
    exact h.rows

/-- An event keeps record and statement fitting. -/
theorem step (h : Fits l s) (e : Event) :
    Fits ((s.deeds e).foldl Ledger.enter l) (s.after e) := by
  have hcases := s.prepares_event e
  rw [after_eq, deeds]
  generalize s.prepared e = outcome at hcases ⊢
  obtain ⟨command, session, script⟩ := e
  cases hcases with
  | refused _ e => exact h
  | bound hb =>
    cases command with
    | bind index v =>
      simp only [hb]
      exact h.put _
    | bindNull index declared =>
      simp only [hb]
      exact h.put _
    | _ => cases hb
  | staged hrow => exact h.stage hrow
  | single hc hbatch hrow =>
    -- a row that is run on its own is staged and handed over at once
    have hdone := (h.stage hrow).hand (x := .single _) (by rw [hbatch]; rfl)
    simpa [hbatch, unbound] using hdone
  | batch hc hbatch hbound =>
    have hdone := h.hand (x := .batch s.batch) rfl
    simpa [hbatch, hbound] using hdone
  | batchWithLast hc hbatch hbound hrow =>
    have hdone := (h.stage hrow).hand (x := .batch (s.batch ++ [_])) rfl
    simpa [hbatch, hbound, unbound] using hdone

/-- A history keeps record and statement fitting. -/
theorem afterAll (h : Fits l s) (events : List Event) :
    Fits (l.afterAll s events) (s.afterAll events) := by
  induction events generalizing l s with
  | nil => exact h
  | cons e events ih => exact ih (h.step e)

end Fits

end Ledger

/-! ### Rows of a history -/

/-- The rows that a new statement handed over during a history, followed by those still staged, are
the rows that were formed, each once and in order.  Each of them has a place for every index up to
the last one bound since the bindings were last cleared, with the value bound there last.  Whatever
event comes next, the adapter executes the row or the batch of rows that it hands over, and nothing
else. -/
theorem rows_formed_once (sql : String) (events : List Event) :
    List.Forall₂ IsRowOf
        ((Ledger.afterAll {} { sql } events).handed ++ (afterAll { sql } events).batch)
        (Ledger.afterAll {} { sql } events).formed ∧
      ∀ e,
        (∀ row, (afterAll { sql } events).handed? e = some (.single row) →
          (afterAll { sql } events).run e =
            (do return e.command.reply (← Adapter.execute sql row) : Action Reply)
              e.script e.session) ∧
        (∀ rows, (afterAll { sql } events).handed? e = some (.batch rows) →
          (afterAll { sql } events).run e =
            (do
              Action.report (batchRecord rows.length)
              return e.command.reply (← Adapter.executeMany sql rows) : Action Reply)
              e.script e.session) ∧
        ((afterAll { sql } events).handed? e = none →
          (afterAll { sql } events).run e =
            { result := ((afterAll { sql } events).run e).result, session := e.session }) := by
  have hsql : (afterAll { sql } events).sql = sql := afterAll_sql { sql } events
  refine ⟨((Ledger.Fits.fresh sql).afterAll events).rows, fun e => ⟨fun row h => ?_, ?_, ?_⟩⟩
  · rw [run_eq_of_row h, hsql]
  · intro rows h
    rw [run_eq_of_rows h, hsql]
  · exact run_eq_of_nothing

/-- An event of a session without a connection. -/
def offline (command : Command) : Event :=
  ⟨command, { adapter := { backend := .sqlite } }, {}⟩

/-- An event of a session with one connection. -/
def online (command : Command) : Event where
  command := command
  session :=
    { adapter := { backend := .sqlite, link? := some ⟨0, { url := "sqlite:///a.db" }⟩ }
      opened := 1 }
  script := {}

/-- A row that was staged and one that was bound are executed as a batch, a row alone is executed as
it is, and the driver receives them. -/
theorem rows_formed_once_of_batch_and_row :
    let staged := [online (.bind 0 (.text "a")), online .add, online (.bind 0 (.int 7))]
    let alone := [online (.bind 0 (.int 7))]
    (afterAll { sql := "INSERT" } staged).handed? (online .execute) =
        some (.batch [[.text "a"], [.int 7]]) ∧
      ((afterAll { sql := "INSERT" } staged).run (online .execute)).received =
        [.cursor 0, .executeMany 0 "INSERT" [[.text "a"], [.int 7]]] ∧
      (afterAll { sql := "INSERT" } alone).handed? (online .execute) = some (.single [.int 7]) ∧
      ((afterAll { sql := "INSERT" } alone).run (online .execute)).received =
        [.cursor 0, .execute 0 "INSERT" [.int 7]] := by
  intro staged alone
  have hbatch : (afterAll { sql := "INSERT" } staged).handed? (online .execute) =
      some (.batch [[.text "a"], [.int 7]]) := rfl
  have hrow : (afterAll { sql := "INSERT" } alone).handed? (online .execute) =
      some (.single [.int 7]) := rfl
  refine ⟨hbatch, ?_, hrow, ?_⟩
  · rw [((rows_formed_once "INSERT" staged).2 (online .execute)).2.1 _ hbatch]
    rfl
  · rw [((rows_formed_once "INSERT" alone).2 (online .execute)).1 _ hrow]
    rfl

example :
    let events := [offline (.bind 1 (.text "a")), offline (.bind 0 (.bool true)), offline .add,
      offline (.bind 0 (.int 7)), offline .execute, offline (.bind 0 .null), offline .add]
    (Ledger.afterAll {} { sql := "INSERT" } events).handed = [[.int 1, .text "a"], [.int 7]] ∧
      (afterAll { sql := "INSERT" } events).batch = [[]] ∧
      (Ledger.afterAll {} { sql := "INSERT" } events).formed =
        [[⟨1, .text "a", some .text⟩, ⟨0, .int 1, some .boolean⟩],
          [⟨0, .int 7, some .smallint⟩], []] :=
  ⟨rfl, rfl, rfl⟩

end SqlDialect.Statement
