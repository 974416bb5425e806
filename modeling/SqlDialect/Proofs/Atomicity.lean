import Mathlib.Data.List.Sort
import SqlDialect.Proofs.RowHistory

/-!
# Operations on statements are all or nothing

An operation that ends in an error before the adapter is called leaves bound values, types and
batch as they were; one that calls the adapter leaves nothing bound and nothing staged, whatever
the adapter answers.  Bound values and types stand at the same indexes, in increasing order, and
each type is the one that was recorded last (`operations_atomic`).
-/

namespace SqlDialect

/-! ### Entries in order -/

namespace Indexed

variable {α : Type}

/-- Entries in increasing order of their indexes, at most one at each. -/
def InOrder (entries : List (Indexed α)) : Prop :=
  (entries.map Indexed.index).Pairwise (· < ·)

theorem mem_index_insert {e : Indexed α} {i : Nat} {entries : List (Indexed α)} :
    i ∈ (insert e entries).map Indexed.index ↔ i = e.index ∨ i ∈ entries.map Indexed.index := by
  by_cases h : e.index = i
  · subst h
    simp [← find?_isSome_iff, find?_insert_self]
  · simp [← find?_isSome_iff, find?_insert_of_ne h, Ne.symm h]

/-- An entry is put at its place. -/
theorem InOrder.insert {entries : List (Indexed α)} (h : InOrder entries) (e : Indexed α) :
    InOrder (insert e entries) := by
  induction entries with
  | nil => exact List.pairwise_singleton _ _
  | cons f rest ih =>
    obtain ⟨hlt, hrest⟩ := List.pairwise_cons.1 h
    -- the entry comes before the first one, in its place, or further down
    rw [Indexed.insert]
    split
    · rename_i hef
      refine List.pairwise_cons.2 ⟨fun i hi => ?_, h⟩
      obtain rfl | hi := List.mem_cons.1 hi
      · exact hef
      · exact hef.trans (hlt i hi)
    · split
      · rename_i hef
        exact List.pairwise_cons.2 ⟨fun i hi => hef ▸ hlt i hi, hrest⟩
      · rename_i hnot hne
        refine List.pairwise_cons.2 ⟨fun i hi => ?_, ih hrest⟩
        obtain rfl | hi := mem_index_insert.1 hi
        · omega
        · exact hlt i hi

/-- Each entry in order is what stands at its index. -/
theorem InOrder.map_find? {entries : List (Indexed α)} (h : InOrder entries) :
    (entries.map Indexed.index).map (fun i => find? i entries) =
      (entries.map Indexed.value).map some := by
  induction entries with
  | nil => rfl
  | cons f rest ih =>
    obtain ⟨hlt, hrest⟩ := List.pairwise_cons.1 h
    have hlater : ∀ i ∈ rest.map Indexed.index, find? i (f :: rest) = find? i rest :=
      fun i hi => find?_cons_of_ne (Nat.ne_of_lt (hlt i hi)) rest
    simp only [List.map_cons, find?_cons_self, List.map_congr_left hlater, ih hrest]

/-- Entries in order stand at the same indexes if they stand at one where the others do. -/
theorem InOrder.map_index_eq {β : Type} {entries : List (Indexed α)} {others : List (Indexed β)}
    (h : InOrder entries) (hothers : InOrder others)
    (hmem : ∀ i, i ∈ entries.map Indexed.index ↔ i ∈ others.map Indexed.index) :
    entries.map Indexed.index = others.map Indexed.index :=
  List.Pairwise.eq_of_mem_iff h hothers hmem

end Indexed

namespace Statement

variable {s : Statement}

/-! ### Statements in order -/

/-- A statement with bound values and types in order. -/
structure InOrder (s : Statement) : Prop where
  bindings : Indexed.InOrder s.bindings
  types : Indexed.InOrder s.types

namespace InOrder

theorem fresh (sql : String) : InOrder { sql } :=
  ⟨.nil, .nil⟩

/-- An event keeps the order. -/
theorem step (h : InOrder s) (e : Event) : InOrder (s.after e) := by
  have hcases := s.prepares_event e
  rw [after_eq]
  generalize s.prepared e = outcome at hcases ⊢
  obtain ⟨command, session, script⟩ := e
  cases hcases with
  | refused _ _ => exact h
  | bound _ => exact ⟨h.bindings.insert _, h.types.insert _⟩
  | batch _ _ _ => exact ⟨h.bindings, h.types⟩
  | _ => exact ⟨.nil, .nil⟩

/-- A history keeps the order. -/
theorem afterAll (h : InOrder s) (events : List Event) : InOrder (s.afterAll events) := by
  induction events generalizing s with
  | nil => exact h
  | cons e events ih => exact ih (h.step e)

end InOrder

/-! ### Errors before anything is run -/

/-- An event that ends in an error before anything is run was refused. -/
theorem prepared_of_error {e : Event} {error : AdapterError} (h : s.handed? e = none)
    (herror : (s.run e).result = .error error) : (s.prepared e).1 = .error error := by
  rw [handed?] at h
  rw [run_eq] at herror
  cases hresult : (s.prepared e).1 with
  | error _ => simpa [hresult] using herror
  | ok submission? =>
    rw [hresult] at h herror
    obtain rfl : submission? = none := h
    cases herror

/-- An event that is refused leaves the statement and the session as they were, calls no driver and
leaves no record. -/
theorem unchanged_of_error {e : Event} {error : AdapterError} (h : s.handed? e = none)
    (herror : (s.run e).result = .error error) :
    s.after e = s ∧ s.run e = { result := .error error, session := e.session } := by
  have hrefused := prepared_of_error h herror
  refine ⟨?_, by rw [run_eq, hrefused]⟩
  have hcases := s.prepares_event e
  rw [after_eq]
  generalize s.prepared e = outcome at hcases hrefused ⊢
  obtain ⟨command, session, script⟩ := e
  cases hcases with
  | refused _ _ => rfl
  | _ => cases hrefused

/-! ### What is handed over -/

/-- What is handed over leaves a new statement behind. -/
theorem after_of_handed (hindexes : s.types.map Indexed.index = s.bindings.map Indexed.index)
    {e : Event} {submission : Submission} (h : s.handed? e = some submission) :
    s.after e = { sql := s.sql } := by
  have hcases := s.prepares_event e
  rw [handed?] at h
  rw [after_eq]
  generalize s.prepared e = outcome at hcases h ⊢
  obtain ⟨command, session, script⟩ := e
  cases hcases with
  | single _ hbatch _ => simp [unbound, hbatch]
  | batch _ _ hbound =>
    -- with nothing bound the types are not dropped, but then there are none
    have htypes : s.types = [] := by simpa [hbound] using hindexes
    simp [hbound, htypes]
  | batchWithLast _ _ _ _ => rfl
  | _ => cases h

/-! ### Statements during a history -/

variable {l : Ledger}

/-- Bound values and types stand at the same indexes. -/
theorem InOrder.map_index_types (h : InOrder s) (hfits : l.Fits s) :
    s.types.map Indexed.index = s.bindings.map Indexed.index :=
  h.types.map_index_eq h.bindings fun i => by
    rw [hfits.mem_types_iff, hfits.mem_index_iff]

/-- The types in the order of their indexes are those that were recorded last. -/
theorem InOrder.declaredTypes_eq (h : InOrder s) (hfits : l.Fits s) :
    s.declaredTypes.map some =
      (s.types.map Indexed.index).map fun i => (lastBound? l.bound i).map Prod.snd := by
  rw [declaredTypes, ← h.types.map_find?]
  exact List.map_congr_left fun i _ => hfits.types i

/-- How a statement is kept over a record: bound values and types stand at the same indexes, which
are those of the bound parameters in increasing order, and the declared types are those that were
recorded last at each. -/
structure Kept (l : Ledger) (s : Statement) : Prop where
  same_indexes : s.types.map Indexed.index = s.bindings.map Indexed.index
  increasing : (s.bindings.map Indexed.index).Pairwise (· < ·)
  mem_iff : ∀ i, i ∈ s.bindings.map Indexed.index ↔ i ∈ l.bound.map Indexed.index
  declaredTypes_eq : s.declaredTypes.map some =
    (s.bindings.map Indexed.index).map fun i => (lastBound? l.bound i).map Prod.snd

theorem InOrder.kept (h : InOrder s) (hfits : l.Fits s) : Kept l s where
  same_indexes := h.map_index_types hfits
  increasing := h.bindings
  mem_iff := hfits.mem_index_iff
  declaredTypes_eq := h.map_index_types hfits ▸ h.declaredTypes_eq hfits

/-- After every history of a new statement, bound values and types are kept together.  Whatever
event comes next: if it ends in an error before it hands anything over, it leaves the statement as
it was and runs nothing, and if it hands something over, it leaves a new statement behind, whatever
comes of running it. -/
theorem operations_atomic (sql : String) (events : List Event) (e : Event) :
    let s := afterAll { sql } events
    Kept (Ledger.afterAll {} { sql } events) s ∧
      (∀ error, s.handed? e = none → (s.run e).result = .error error →
        s.after e = s ∧ s.run e = { result := .error error, session := e.session }) ∧
      ∀ submission, s.handed? e = some submission →
        s.after e = { sql } ∧
        s.run e = (do return e.command.reply (← submission.run sql) : Action Reply)
          e.script e.session := by
  have hkept : Kept (Ledger.afterAll {} { sql } events) (afterAll { sql } events) :=
    ((InOrder.fresh sql).afterAll events).kept ((Ledger.Fits.fresh sql).afterAll events)
  have hsql : (afterAll { sql } events).sql = sql := afterAll_sql { sql } events
  refine ⟨hkept, fun error => unchanged_of_error, fun submission h => ⟨?_, ?_⟩⟩
  · rw [after_of_handed hkept.same_indexes h, hsql]
  · rw [run_eq_of_handed, h, hsql]

/-- Without a connection a batch is lost as it is run, but not by a value that is refused. -/
theorem batch_lost_without_connection :
    let s := afterAll { sql := "INSERT" }
      [offline (.bind 1 (.text "a")), offline (.bind 0 (.bool true)), offline .add,
        offline (.bind 0 (.int 7))]
    ((s.run (offline (.bind 2 .null))).result = .error (.untypedNull 2) ∧
      s.after (offline (.bind 2 .null)) = s) ∧
    (s.run (offline .execute)).result = .error (.notConnected .sqlite) ∧
      s.handed? (offline .execute) = some (.batch [[.int 1, .text "a"], [.int 7]]) ∧
      s.after (offline .execute) = { sql := "INSERT" } := by
  intro s
  have hrefused : (s.run (offline (.bind 2 .null))).result = .error (.untypedNull 2) := rfl
  have hlost : (s.run (offline .execute)).result = .error (.notConnected .sqlite) := rfl
  have hhanded :
      s.handed? (offline .execute) = some (.batch [[.int 1, .text "a"], [.int 7]]) := rfl
  have hatomic := operations_atomic "INSERT"
    [offline (.bind 1 (.text "a")), offline (.bind 0 (.bool true)), offline .add,
      offline (.bind 0 (.int 7))]
  exact ⟨⟨hrefused, ((hatomic _).2.1 _ rfl hrefused).1⟩, hlost, hhanded,
    ((hatomic _).2.2 _ hhanded).1⟩

end Statement

end SqlDialect
