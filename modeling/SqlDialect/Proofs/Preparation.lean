import SqlDialect.Statement

/-!
# What an operation does to a statement

`Prepares` lists all that an operation can come to before anything is run: it is refused and the
statement stays as it was, it binds a parameter, it stages a row, or it hands over a row, the
batch, or the batch with a last row.  `prepares` says that every operation comes to one of these.
-/

namespace SqlDialect.Statement

variable {α β : Type}

/-! ### Steps of an edit -/

namespace Edit

/-- A step follows after a result; after an error none does, and those before it are not undone. -/
theorem run_bind (m : Edit α) (f : α → Edit β) (s : Statement) :
    (m >>= f).run s =
      match m.run s with
      | (.ok a, t) => (f a).run t
      | (.error e, t) => (.error e, t) := by
  unfold ExceptT.run
  simp only [Bind.bind, ExceptT.bind, ExceptT.mk, StateT.bind, ExceptT.bindCont]
  cases m s with
  | mk result t => cases result <;> rfl

theorem run_map (f : α → β) (m : Edit α) (s : Statement) :
    (f <$> m).run s = ((m.run s).1.map f, (m.run s).2) := by
  unfold ExceptT.run
  simp only [Functor.map, ExceptT.map, ExceptT.mk, Bind.bind, StateT.bind]
  cases m s with
  | mk result t => cases result <;> rfl

@[simp]
theorem run_pure (a : α) (s : Statement) : (pure a : Edit α).run s = (.ok a, s) := rfl

@[simp]
theorem run_throw (e : AdapterError) (s : Statement) :
    (throw e : Edit α).run s = (.error e, s) := rfl

@[simp]
theorem run_get (s : Statement) : (get : Edit Statement).run s = (.ok s, s) := rfl

@[simp]
theorem run_modify (f : Statement → Statement) (s : Statement) :
    (modify f : Edit Unit).run s = (.ok (), f s) := rfl

@[simp]
theorem run_modifyGet (f : Statement → α × Statement) (s : Statement) :
    (modifyGet f : Edit α).run s = (.ok (f s).1, (f s).2) := rfl

@[simp]
theorem run_ofExcept (x : Except AdapterError α) (s : Statement) :
    (MonadExcept.ofExcept x : Edit α).run s = (x, s) := by
  cases x <;> rfl

end Edit

/-! ### Binding -/

/-- A parameter as it was bound: its value in the form that the driver takes, and its type. -/
abbrev Bound : Type :=
  Indexed (Value × Option SqlType)

/-- The statement with a parameter bound, instead of the one that was bound at its index. -/
def put (s : Statement) (b : Bound) : Statement :=
  { s with
    bindings := Indexed.insert ⟨b.index, b.value.1⟩ s.bindings
    types := Indexed.insert ⟨b.index, b.value.2⟩ s.types }

/-- The statement with nothing bound. -/
def unbound (s : Statement) : Statement :=
  { s with bindings := [], types := [] }

/-- What an operation binds, if it is not refused. -/
def Command.binds? (backend : Backend) : Command → Option Bound
  | .bind index v =>
    match Parameter.convert backend v (Parameter.classify v) with
    | .ok value => some ⟨index.toNat, value, Parameter.classify v⟩
    | .error _ => none
  | .bindNull index declared => some ⟨index.toNat, .null, Parameter.declaredType? declared⟩
  | _ => none

section Edits

open Edit

variable {s : Statement}

/-- A value is bound, or the statement stays as it was. -/
theorem bind_cases (backend : Backend) (index : Int) (v : Value) (s : Statement) :
    (∃ e, (bind backend index v).run s = (.error e, s)) ∨
      ∃ b, (Command.bind index v).binds? backend = some b ∧
        (bind backend index v).run s = (.ok (), s.put b) := by
  by_cases hindex : index < 0
  · exact .inl ⟨.negativeIndex index, by simp [bind, run_bind, checkIndex, hindex]⟩
  cases hnull : v.isNull with
  | true => exact .inl ⟨.untypedNull index, by simp [bind, run_bind, checkIndex, hindex, hnull]⟩
  | false =>
    cases hconvert : Parameter.convert backend v (Parameter.classify v) with
    | error cause =>
      refine .inl ⟨.conversion cause, ?_⟩
      have hrefused : (Except.error cause : Except ConversionError Value).mapError
          AdapterError.conversion = .error (.conversion cause) := rfl
      simp [bind, run_bind, checkIndex, hindex, hnull, hconvert, hrefused]
    | ok value =>
      refine .inr ⟨⟨index.toNat, value, Parameter.classify v⟩, ?_, ?_⟩
      · simp [Command.binds?, hconvert]
      · have hkept : (Except.ok value : Except ConversionError Value).mapError
            AdapterError.conversion = .ok value := rfl
        simp [bind, run_bind, checkIndex, hindex, hnull, hconvert, hkept, keepValue, keepType,
          put]

/-- Nothing is bound with its type, or the statement stays as it was. -/
theorem bindNull_cases (backend : Backend) (index : Int) (declared : Value) (s : Statement) :
    (∃ e, (bindNull index declared).run s = (.error e, s)) ∨
      ∃ b, (Command.bindNull index declared).binds? backend = some b ∧
        (bindNull index declared).run s = (.ok (), s.put b) := by
  by_cases hindex : index < 0
  · exact .inl ⟨.negativeIndex index, by simp [bindNull, run_bind, checkIndex, hindex]⟩
  · refine .inr ⟨⟨index.toNat, .null, Parameter.declaredType? declared⟩, rfl, ?_⟩
    simp [bindNull, run_bind, checkIndex, hindex, keepValue, keepType, put]

/-! ### Rows -/

theorem add_of_error {e : AdapterError} (h : s.row = .error e) : add.run s = (.error e, s) := by
  simp [add, run_bind, h]

theorem add_of_ok {row : List Value} (h : s.row = .ok row) :
    add.run s = (.ok (), { s.unbound with batch := s.batch ++ [row] }) := by
  simp [add, run_bind, h, clear, unbound]

theorem takeRow_of_error {e : AdapterError} (h : s.row = .error e) :
    takeRow.run s = (.error e, s) := by
  simp [takeRow, run_bind, h]

theorem takeRow_of_ok {row : List Value} (h : s.row = .ok row) :
    takeRow.run s = (.ok row, s.unbound) := by
  simp only [takeRow, run_bind, run_get, run_ofExcept, h, clear, run_modify, run_pure, unbound]

theorem takeBatch_of_nil (h : s.bindings = []) :
    takeBatch.run s = (.ok s.batch, { s with batch := [] }) := by
  simp [takeBatch, run_bind, h]

theorem takeBatch_of_error {e : AdapterError} (h : s.bindings ≠ []) (hrow : s.row = .error e) :
    takeBatch.run s = (.error e, s) := by
  simp [takeBatch, run_bind, h, add_of_error hrow]

theorem takeBatch_of_ok {row : List Value} (h : s.bindings ≠ []) (hrow : s.row = .ok row) :
    takeBatch.run s = (.ok (s.batch ++ [row]), { s.unbound with batch := [] }) := by
  simp [takeBatch, run_bind, h, add_of_ok hrow]

end Edits

/-! ### Operations -/

/-- An operation that runs something, if it is not refused. -/
def Command.isRun : Command → Bool
  | .execute | .query | .update => true
  | _ => false

/-- What an operation comes to: why it is refused or what it hands over, and the statement that it
leaves. -/
inductive Prepares (backend : Backend) (s : Statement) :
    Command → Except AdapterError (Option Submission) × Statement → Prop
  | refused (c : Command) (e : AdapterError) : Prepares backend s c (.error e, s)
  | bound {c : Command} {b : Bound} (h : c.binds? backend = some b) :
    Prepares backend s c (.ok none, s.put b)
  | staged {row : List Value} (h : s.row = .ok row) :
    Prepares backend s .add (.ok none, { s.unbound with batch := s.batch ++ [row] })
  | single {c : Command} {row : List Value} (hc : c.isRun = true) (hbatch : s.batch = [])
      (h : s.row = .ok row) : Prepares backend s c (.ok (some (.single row)), s.unbound)
  | batch {c : Command} (hc : c.isRun = true) (hbatch : s.batch ≠ []) (hbound : s.bindings = []) :
    Prepares backend s c (.ok (some (.batch s.batch)), { s with batch := [] })
  | batchWithLast {c : Command} {row : List Value} (hc : c.isRun = true) (hbatch : s.batch ≠ [])
      (hbound : s.bindings ≠ []) (h : s.row = .ok row) :
    Prepares backend s c (.ok (some (.batch (s.batch ++ [row]))), { s.unbound with batch := [] })

namespace Prepares

open Edit

variable {backend : Backend} {s : Statement} {c : Command}

theorem ofBinding {m : Edit Unit}
    (h : (∃ e, m.run s = (.error e, s)) ∨
      ∃ b, c.binds? backend = some b ∧ m.run s = (.ok (), s.put b)) :
    Prepares backend s c (((fun _ => none) <$> m).run s) := by
  rw [run_map]
  obtain ⟨e, hrun⟩ | ⟨b, hb, hrun⟩ := h
  · exact hrun ▸ .refused c e
  · exact hrun ▸ .bound hb

theorem ofAdd : Prepares backend s .add (((fun _ => none) <$> add).run s) := by
  rw [run_map]
  cases hrow : s.row with
  | error e => exact add_of_error hrow ▸ .refused .add e
  | ok row => exact add_of_ok hrow ▸ .staged hrow

/-- What is handed over without a batch. -/
theorem ofTakeRow (hc : c.isRun = true) (hbatch : s.batch = []) :
    Prepares backend s c ((some <$> Submission.single <$> takeRow).run s) := by
  rw [run_map, run_map]
  cases hrow : s.row with
  | error e => exact takeRow_of_error hrow ▸ .refused c e
  | ok row => exact takeRow_of_ok hrow ▸ .single hc hbatch hrow

/-- What is handed over with a batch. -/
theorem ofTakeBatch (hc : c.isRun = true) (hbatch : s.batch ≠ []) :
    Prepares backend s c ((some <$> Submission.batch <$> takeBatch).run s) := by
  rw [run_map, run_map]
  by_cases hbound : s.bindings = []
  · exact takeBatch_of_nil hbound ▸ .batch hc hbatch hbound
  · cases hrow : s.row with
    | error e => exact takeBatch_of_error hbound hrow ▸ .refused c e
    | ok row => exact takeBatch_of_ok hbound hrow ▸ .batchWithLast hc hbatch hbound hrow

theorem ofSubmit (hc : c.isRun = true) : Prepares backend s c ((some <$> submit).run s) := by
  by_cases hbatch : s.batch = []
  · have hrun : submit.run s = (Submission.single <$> takeRow).run s := by
      simp [submit, run_bind, hbatch]
    rw [run_map, hrun, ← run_map]
    exact ofTakeRow hc hbatch
  · have hrun : submit.run s = (Submission.batch <$> takeBatch).run s := by
      simp [submit, run_bind, hbatch]
    rw [run_map, hrun, ← run_map]
    exact ofTakeBatch hc hbatch

theorem ofSubmitQuery (hc : c.isRun = true) :
    Prepares backend s c ((some <$> submitQuery).run s) := by
  by_cases hbatch : s.batch = []
  · have hrun : submitQuery.run s = (Submission.single <$> takeRow).run s := by
      simp [submitQuery, run_bind, hbatch]
    rw [run_map, hrun, ← run_map]
    exact ofTakeRow hc hbatch
  · have hrun : submitQuery.run s = (.error (.batchAsQuery s.batch.length), s) := by
      simp [submitQuery, run_bind, hbatch]
    rw [run_map, hrun]
    exact .refused c _

end Prepares

/-- Every operation comes to one of the cases. -/
theorem prepares (backend : Backend) (s : Statement) (c : Command) :
    Prepares backend s c ((c.prepare backend).run s) := by
  cases c with
  | bind index v => exact .ofBinding (bind_cases backend index v s)
  | bindNull index declared => exact .ofBinding (bindNull_cases backend index declared s)
  | add => exact .ofAdd
  | execute => exact .ofSubmit rfl
  | query => exact .ofSubmitQuery rfl
  | update => exact .ofSubmit rfl

end SqlDialect.Statement
