import SqlDialect.Proofs.Reconnection
import Mathlib.Data.List.DropRight
import Mathlib.Algebra.Ring.Parity

/-!
# Placeholders and parameters

The PostgreSQL adapter hands a statement to the driver only with as many parameters as it has
placeholders.  A placeholder is an `s` after an odd number of percent signs (`IsPlaceholder`); the
scan, which takes percent signs in pairs, counts just these (`countPlaceholders_eq_countP`), because
it never stands inside a pair (`Aligned`).  So a literal with its percent signs doubled has none,
wherever it stands in the statement (`countPlaceholders_doubled`).

A batch is checked as a whole before it is handed over (`forM_checkParams`); whatever is refused
leaves the driver without a statement (`statements_of_refused`).
`statements_with_counted_parameters` puts this together.
-/

namespace SqlDialect

/-! ### Statements that reach the driver -/

/-- A call that has the driver run a statement. -/
def DriverCall.runsStatement : DriverCall → Bool
  | .execute .. | .executeMany .. => true
  | _ => false

/-- The statements that the driver was handed during a run. -/
def Run.statements {α : Type} (r : Run α) : List DriverCall :=
  r.received.filter DriverCall.runsStatement

namespace Postgres

/-! ### Percent signs -/

/-- How many percent signs a text ends in. -/
def percents (s : List Char) : Nat :=
  (s.rtakeWhile (· = '%')).length

@[simp]
theorem percents_concat (s : List Char) : percents (s ++ ['%']) = percents s + 1 := by
  rw [percents, List.rtakeWhile_concat_pos (fun c => decide (c = '%')) _ _ (decide_eq_true rfl),
    List.length_append]
  rfl

theorem percents_concat_of_ne {c : Char} (h : c ≠ '%') (s : List Char) :
    percents (s ++ [c]) = 0 := by
  rw [percents, List.rtakeWhile_concat_neg _ _ _ (by simpa using h), List.length_nil]

/-! ### Placeholders -/

/-- A place of a text has the `s` of a placeholder: an odd number of percent signs stands before
it. -/
def IsPlaceholder (s : List Char) (i : Nat) : Prop :=
  s[i]? = some 's' ∧ Odd (percents (s.take i))

instance (s : List Char) : DecidablePred (IsPlaceholder s) := fun _ =>
  inferInstanceAs (Decidable (_ ∧ _))

/-- What follows a place does not make it one of a placeholder. -/
theorem isPlaceholder_append {s : List Char} {i : Nat} (h : i < s.length) (rest : List Char) :
    IsPlaceholder (s ++ rest) i ↔ IsPlaceholder s i := by
  rw [IsPlaceholder, IsPlaceholder, List.getElem?_append_left h,
    List.take_append_of_le_length h.le]

/-- How many placeholders a text has where it follows another one. -/
def placeholdersAfter (before s : List Char) : Nat :=
  (List.range s.length).countP fun i => IsPlaceholder (before ++ s) (before.length + i)

theorem placeholdersAfter_append (before s rest : List Char) :
    placeholdersAfter before (s ++ rest) =
      placeholdersAfter before s + placeholdersAfter (before ++ s) rest := by
  have hsplit : List.range (s ++ rest).length =
      List.range s.length ++ (List.range rest.length).map (s.length + ·) := by
    rw [List.length_append, List.range_add]
  rw [placeholdersAfter, hsplit, List.countP_append, List.countP_map]
  refine congrArg₂ (· + ·) (List.countP_congr fun i hi => ?_) (List.countP_congr fun i _ => ?_)
  · have hlt : before.length + i < (before ++ s).length := by
      rw [List.length_append]
      exact Nat.add_lt_add_left (List.mem_range.1 hi) _
    rw [decide_eq_true_iff, decide_eq_true_iff, ← List.append_assoc, isPlaceholder_append hlt]
  · rw [Function.comp_apply, decide_eq_true_iff, decide_eq_true_iff, List.length_append,
      ← List.append_assoc, Nat.add_assoc]

/-- Whether the first character makes a placeholder is a matter of what stands before it. -/
theorem placeholdersAfter_singleton (before : List Char) (c : Char) :
    placeholdersAfter before [c] = if c = 's' ∧ Odd (percents before) then 1 else 0 := by
  have hfirst : IsPlaceholder (before ++ [c]) before.length ↔ c = 's' ∧ Odd (percents before) := by
    rw [IsPlaceholder, List.getElem?_concat_length, Option.some_inj, List.take_left]
  rw [placeholdersAfter, List.length_singleton, List.range_one, List.countP_singleton,
    Nat.add_zero]
  simp only [decide_eq_true_iff, hfirst]

theorem placeholdersAfter_cons (before : List Char) (c : Char) (s : List Char) :
    placeholdersAfter before (c :: s) =
      (if c = 's' ∧ Odd (percents before) then 1 else 0) + placeholdersAfter (before ++ [c]) s := by
  rw [← placeholdersAfter_singleton, ← placeholdersAfter_append, List.singleton_append]

theorem placeholdersAfter_cons_of_ne {c : Char} (h : c ≠ 's') (before s : List Char) :
    placeholdersAfter before (c :: s) = placeholdersAfter (before ++ [c]) s := by
  rw [placeholdersAfter_cons, if_neg fun hc => h hc.1, Nat.zero_add]

/-! ### The scan -/

/-- Where the scan of a text can be: what stands before ends in whole pairs of percent signs, or in
a single one that the next character makes nothing of. -/
def Aligned (before rest : List Char) : Prop :=
  Even (percents before) ∨ ∀ c ∈ rest.head?, c ≠ 's' ∧ c ≠ '%'

theorem Aligned.even {before rest : List Char} {c : Char} (h : Aligned before (c :: rest))
    (hc : c = 's' ∨ c = '%') : Even (percents before) := by
  rcases h with heven | hhead
  · exact heven
  · obtain ⟨hs, hpercent⟩ := hhead c rfl
    exact (hc.elim hs hpercent).elim

/-- The scan counts the placeholders from wherever it can be. -/
theorem countPlaceholders_eq_after {before s : List Char} (h : Aligned before s) :
    countPlaceholders s = placeholdersAfter before s := by
  fun_induction countPlaceholders s generalizing before with
  | case1 rest ih =>
    have heven : Even (percents before) := h.even (.inr rfl)
    have hodd : Odd (percents (before ++ ['%'])) := by
      rw [percents_concat]
      exact heven.add_one
    have hzero : percents (before ++ ['%'] ++ ['s']) = 0 := percents_concat_of_ne (by decide) _
    rw [placeholdersAfter_cons_of_ne (by decide), placeholdersAfter_cons, if_pos ⟨rfl, hodd⟩,
      ih (.inl (hzero ▸ Even.zero)), Nat.add_comm]
  | case2 rest ih =>
    have heven : Even (percents (before ++ ['%'] ++ ['%'])) := by
      rw [percents_concat, percents_concat]
      exact (h.even (.inr rfl)).add (by decide : Even 2)
    rw [placeholdersAfter_cons_of_ne (by decide), placeholdersAfter_cons_of_ne (by decide),
      ih (.inl heven)]
  | case3 c rest not_marker not_pair ih =>
    have hnone : ¬ (c = 's' ∧ Odd (percents before)) := fun ⟨hc, hodd⟩ =>
      Nat.not_even_iff_odd.2 hodd (h.even (.inl hc))
    have haligned : Aligned (before ++ [c]) rest := by
      by_cases hc : c = '%'
      · refine .inr fun d hd => ⟨?_, ?_⟩
        · rintro rfl
          exact not_marker _ hc (List.cons_head?_tail hd).symm
        · rintro rfl
          exact not_pair _ hc (List.cons_head?_tail hd).symm
      · exact .inl (percents_concat_of_ne hc before ▸ Even.zero)
    rw [placeholdersAfter_cons, if_neg hnone, Nat.zero_add, ih haligned]
  | case4 => rfl

/-- The scan counts the placeholders of a text. -/
theorem countPlaceholders_eq_countP (s : List Char) :
    countPlaceholders s = (List.range s.length).countP fun i => IsPlaceholder s i := by
  rw [countPlaceholders_eq_after (.inl Even.zero : Aligned [] s), placeholdersAfter]
  simp only [List.nil_append, List.length_nil, Nat.zero_add]

/-! ### Doubled percent signs -/

/-- A literal with every percent sign doubled. -/
def doubled (literal : List Char) : List Char :=
  literal.flatMap fun c => if c = '%' then ['%', '%'] else [c]

theorem doubled_cons_percent (literal : List Char) :
    doubled ('%' :: literal) = '%' :: '%' :: doubled literal := rfl

theorem doubled_cons_of_ne {c : Char} (h : c ≠ '%') (literal : List Char) :
    doubled (c :: literal) = c :: doubled literal := by
  rw [doubled, List.flatMap_cons, if_neg h]
  rfl

/-- A literal with doubled percent signs has no placeholder, and leaves whole pairs behind. -/
theorem doubled_after {before : List Char} (h : Even (percents before)) (literal : List Char) :
    placeholdersAfter before (doubled literal) = 0 ∧
      Even (percents (before ++ doubled literal)) := by
  induction literal generalizing before with
  | nil => exact ⟨rfl, by rwa [doubled, List.flatMap_nil, List.append_nil]⟩
  | cons c literal ih =>
    by_cases hc : c = '%'
    · subst hc
      have heven : Even (percents (before ++ ['%'] ++ ['%'])) := by
        rw [percents_concat, percents_concat]
        exact h.add (by decide : Even 2)
      rw [doubled_cons_percent, placeholdersAfter_cons_of_ne (by decide),
        placeholdersAfter_cons_of_ne (by decide)]
      simpa only [List.append_assoc, List.cons_append, List.nil_append] using ih heven
    · have heven : Even (percents (before ++ [c])) := percents_concat_of_ne hc before ▸ Even.zero
      rw [doubled_cons_of_ne hc, placeholdersAfter_cons,
        if_neg fun hs => Nat.not_even_iff_odd.2 hs.2 h, Nat.zero_add]
      simpa only [List.append_assoc, List.singleton_append] using ih heven

/-- A literal with doubled percent signs has no placeholder, and does not change how many there are
before and after it. -/
theorem countPlaceholders_doubled {before : List Char} (h : Even (percents before))
    (literal rest : List Char) :
    countPlaceholders (before ++ doubled literal ++ rest) =
      countPlaceholders before + countPlaceholders rest := by
  obtain ⟨hnone, heven⟩ := doubled_after h literal
  have hbefore : Aligned [] before := .inl Even.zero
  have hall : Aligned [] (before ++ doubled literal ++ rest) := .inl Even.zero
  have hrest : Aligned (before ++ doubled literal) rest := .inl heven
  rw [countPlaceholders_eq_after hall, countPlaceholders_eq_after hbefore,
    countPlaceholders_eq_after hrest, placeholdersAfter_append, placeholdersAfter_append,
    List.nil_append, List.nil_append, hnone, Nat.add_zero]

theorem not_isPlaceholder_doubled {before : List Char} (h : Even (percents before))
    {literal : List Char} {i : Nat} (hi : i < (doubled literal).length) (rest : List Char) :
    ¬ IsPlaceholder (before ++ doubled literal ++ rest) (before.length + i) := by
  have hlt : before.length + i < (before ++ doubled literal).length := by
    rw [List.length_append]
    exact Nat.add_lt_add_left hi _
  rw [isPlaceholder_append hlt]
  have hnone := List.countP_eq_zero.1 (doubled_after h literal).1 i (List.mem_range.2 hi)
  rwa [decide_eq_true_iff] at hnone

/-! ### Checks -/

theorem checkParams_eq (sql : String) (params : List Value) :
    checkParams sql params =
      if params.length ≠ countPlaceholders sql.toList then
        .error (.parameterCount (countPlaceholders sql.toList) params.length)
      else .ok () := by
  rw [checkParams, ite_not]
  simp only [eq_comm]

/-- A batch is refused for its first row with another number of values. -/
theorem forM_checkParams (sql : String) (rows : List (List Value)) :
    rows.forM (checkParams sql) =
      match rows.find? fun row => row.length ≠ countPlaceholders sql.toList with
      | some row => .error (.parameterCount (countPlaceholders sql.toList) row.length)
      | none => .ok () := by
  induction rows with
  | nil => rfl
  | cons row rows ih =>
    have hcons : (row :: rows).forM (checkParams sql) =
        (checkParams sql row >>= fun _ => rows.forM (checkParams sql)) := rfl
    rw [hcons, checkParams_eq]
    by_cases h : row.length ≠ countPlaceholders sql.toList
    · rw [if_pos h, List.find?_cons, decide_eq_true h]
      rfl
    · rw [if_neg h, List.find?_cons, decide_eq_false h]
      exact ih

/-! ### Statements -/

variable {script : DriverScript} {s : Session} {id : Nat}

/-- A statement gets its cursor on a connection: on the one in use, or on one that is opened in its
place because it was lost. -/
inductive GetsCursor (script : DriverScript) (s : Session) : Nat → Prop
  | kept {link : Link} (linked : s.adapter.link? = some link)
      (kept : s.hasLost link.connection = false) (made : script.fails .cursor = none) :
      GetsCursor script s link.connection
  | reopened {link : Link} {id : Nat} (linked : s.adapter.link? = some link)
      (lost : s.hasLost link.connection = true)
      (opened : (connect link.config script s).result = .ok id)
      (made : script.fails .cursor = none) : GetsCursor script s id

theorem GetsCursor.made (h : GetsCursor script s id) : script.fails .cursor = none := by
  cases h with
  | kept _ _ made => exact made
  | reopened _ _ _ made => exact made

theorem GetsCursor.connection_eq (h : GetsCursor script s id) :
    (connection script s).result = .ok id := by
  cases h with
  | kept linked kept made => rw [connection_of_kept linked kept]
  | reopened linked lost opened made => rw [connection_of_lost linked lost, opened]

/-- Opening a connection runs no statement. -/
theorem connect_statements (config : ConnectionConfig) (script : DriverScript) (s : Session) :
    (connect config script s).statements = [] := by
  rw [connect_eq]
  split
  · split <;> rfl
  · rfl

/-- Asking for the connection runs no statement. -/
theorem connection_statements (script : DriverScript) (s : Session) :
    (connection script s).statements = [] := by
  cases hlink : s.adapter.link? with
  | none =>
    rw [connection_of_unlinked hlink]
    rfl
  | some link =>
    cases lost : s.hasLost link.connection with
    | false =>
      rw [connection_of_kept hlink lost]
      rfl
    | true =>
      rw [connection_of_lost hlink lost]
      exact connect_statements link.config script s

section Checked

variable {checked : Except AdapterError Unit} {name sql : String} {params : Value}
  {kind : CallKind} {c : Nat → DriverCall}

/-- What comes of a statement: without a cursor, or with the wrong parameters, nothing more is asked
of the driver. -/
theorem runOn_eq (id : Nat) :
    runOn id checked name sql params kind (c id) script s =
      match script.fails .cursor, checked with
      | some message, _ =>
        { result := .error (.driver message), session := s, received := [.cursor id] }
      | none, .error e => { result := .error e, session := s, received := [.cursor id] }
      | none, .ok () =>
        { result := match script.fails kind with
            | some message => .error (.driver message)
            | none => .ok script.cursor
          session := s
          received := [.cursor id, c id]
          log := [timedRecord name logger s.adapter.slowAfter (.text sql) params script.clock] } := by
  cases hmade : script.fails .cursor with
  | some message => simp [runOn, Action.makeCursor, Action.call, Action.andThen, hmade]
  | none =>
    cases checked with
    | error e => simp [runOn, Action.makeCursor, Action.call, Action.andThen, hmade]
    | ok =>
      cases hran : script.fails kind with
      | some message =>
        simp [runOn, Action.makeCursor, Action.call, Action.andThen, Action.timed_apply, hmade, hran]
      | none =>
        simp [runOn, Action.makeCursor, Action.call, Action.andThen, Action.timed_apply, hmade, hran]

/-- The statements of work on the connection are those after the connection was asked for. -/
theorem bind_connection_statements {α : Type} (work : Nat → Action α)
    (hid : (connection script s).result = .ok id) :
    ((connection >>= work) script s).statements =
      (work id script (connection script s).session).statements := by
  rw [Action.bind_of_ok work hid, Run.statements, List.filter_append]
  exact congrArg (· ++ _) (connection_statements script s)

/-- With a cursor, what is not refused is handed to the driver once. -/
theorem statements_of_checked (hcursor : GetsCursor script s id) (accepted : checked = .ok ())
    (hc : (c id).runsStatement = true) :
    ((connection >>= fun id => runOn id checked name sql params kind (c id)) script s).statements =
      [c id] := by
  rw [bind_connection_statements _ hcursor.connection_eq, runOn_eq, hcursor.made, accepted]
  exact List.filter_cons_of_pos hc

/-- What is refused is not handed to the driver. -/
theorem statements_of_refused {e : AdapterError} (refused : checked = .error e) :
    ((connection >>= fun id => runOn id checked name sql params kind (c id)) script s).statements =
      [] := by
  cases hid : (connection script s).result with
  | error e' =>
    rw [Action.bind_of_error _ hid]
    exact connection_statements script s
  | ok id =>
    rw [bind_connection_statements _ hid, runOn_eq, refused]
    cases script.fails .cursor <;> rfl

/-- With a cursor, what is refused fails for the reason it is refused for. -/
theorem result_of_refused (hcursor : GetsCursor script s id) {e : AdapterError}
    (refused : checked = .error e) :
    ((connection >>= fun id => runOn id checked name sql params kind (c id)) script s).result =
      .error e := by
  rw [Action.bind_of_ok _ hcursor.connection_eq, runOn_eq, hcursor.made, refused]

end Checked

/-- **Statements and their parameters.**  A statement, or a batch of any length, whose rows all have
as many values as the statement has placeholders is handed to the driver once and whole; if any row
has not, nothing is handed over and the first such row is reported.  The placeholders are the `s`
after an odd number of percent signs, wherever they stand, so that a literal with its percent signs
doubled has none. -/
theorem statements_with_counted_parameters (script : DriverScript) (s : Session) (sql : String) :
    let expected := countPlaceholders sql.toList
    (∀ params : List Value, params.length = expected → ∀ id, GetsCursor script s id →
      (execute sql params script s).statements = [.execute id sql params]) ∧
    (∀ params : List Value, params.length ≠ expected →
      (execute sql params script s).statements = [] ∧
      ∀ id, GetsCursor script s id →
        (execute sql params script s).result =
          .error (.parameterCount expected params.length)) ∧
    (∀ rows : List (List Value), (∀ row ∈ rows, row.length = expected) →
      ∀ id, GetsCursor script s id →
        (executeMany sql rows script s).statements = [.executeMany id sql rows]) ∧
    (∀ rows : List (List Value), (∃ row ∈ rows, row.length ≠ expected) →
      (executeMany sql rows script s).statements = [] ∧
      ∀ id, GetsCursor script s id → ∃ row ∈ rows.find? fun row => row.length ≠ expected,
        (executeMany sql rows script s).result =
          .error (.parameterCount expected row.length)) ∧
    expected = (List.range sql.toList.length).countP (fun i => IsPlaceholder sql.toList i) ∧
    ∀ before literal rest : List Char, Even (percents before) →
      countPlaceholders (before ++ doubled literal ++ rest) =
        countPlaceholders before + countPlaceholders rest ∧
      ∀ i < (doubled literal).length,
        ¬ IsPlaceholder (before ++ doubled literal ++ rest) (before.length + i) := by
  intro expected
  refine ⟨fun params counted id hcursor => ?_, fun params other => ?_,
    fun rows counted id hcursor => ?_, fun rows other => ?_,
    countPlaceholders_eq_countP sql.toList, fun before literal rest heven =>
      ⟨countPlaceholders_doubled heven literal rest,
        fun i hi => not_isPlaceholder_doubled heven hi rest⟩⟩
  · have accepted : checkParams sql params = .ok () := by
      rw [checkParams_eq, if_neg (not_not_intro counted)]
    exact statements_of_checked hcursor accepted rfl
  · have refused : checkParams sql params = .error (.parameterCount expected params.length) := by
      rw [checkParams_eq, if_pos other]
    exact ⟨statements_of_refused refused, fun id hcursor => result_of_refused hcursor refused⟩
  · have hfind : (rows.find? fun row => row.length ≠ expected) = none :=
      List.find?_eq_none.2 fun row hrow => by simpa using counted row hrow
    have accepted : rows.forM (checkParams sql) = .ok () := by
      rw [forM_checkParams, hfind]
    exact statements_of_checked hcursor accepted rfl
  · obtain ⟨row, hrow⟩ : ∃ row, (rows.find? fun row => row.length ≠ expected) = some row := by
      refine Option.isSome_iff_exists.1 (List.find?_isSome.2 ?_)
      simpa using other
    have refused : rows.forM (checkParams sql) =
        .error (.parameterCount expected row.length) := by
      rw [forM_checkParams, hrow]
    exact ⟨statements_of_refused refused,
      fun id hcursor => ⟨row, hrow, result_of_refused hcursor refused⟩⟩

/-- A batch whose second row is too long is refused, the batch without it is handed over, and a
pattern with a doubled percent sign before its `s` asks for no parameter. -/
theorem batch_with_long_row :
    let s : Session :=
      { adapter := { backend := .postgres, link? := some ⟨0, { url := "postgresql://h/db" }⟩ }
        opened := 1 }
    let sql := "INSERT INTO t VALUES (%s, 'a%%s')"
    (executeMany sql [[.int 1], [.int 2, .int 3]] {} s).statements = [] ∧
      (executeMany sql [[.int 1], [.int 2, .int 3]] {} s).result = .error (.parameterCount 1 2) ∧
      (executeMany sql [[.int 1]] {} s).statements = [.executeMany 0 sql [[.int 1]]] ∧
      (execute sql [.int 1] {} s).statements = [.execute 0 sql [.int 1]] ∧
      (execute sql [] {} s).result = .error (.parameterCount 1 0) ∧
      countPlaceholders (['%', 's', ' '] ++ doubled ['%', 's'] ++ ['%', 's']) = 2 := by
  intro s sql
  have hlinked : s.adapter.link? = some ⟨0, { url := "postgresql://h/db" }⟩ := rfl
  have hcursor : GetsCursor {} s 0 := .kept hlinked rfl rfl
  have hcount : countPlaceholders sql.toList = 1 := by decide +kernel
  obtain ⟨hparams, hother, hrows, hany, -, hdoubled⟩ :=
    statements_with_counted_parameters {} s sql
  simp only [hcount] at hparams hother hrows hany
  have hlong : ∃ row ∈ [[.int 1], [.int 2, .int 3]], (row : List Value).length ≠ 1 :=
    ⟨[.int 2, .int 3], .tail _ (.head _), by decide⟩
  obtain ⟨hnone, hresult⟩ := hany _ hlong
  obtain ⟨row, hrow, hreported⟩ := hresult 0 hcursor
  obtain rfl : [.int 2, .int 3] = row := Option.some.inj hrow
  exact ⟨hnone, hreported, hrows [[.int 1]] (by simp) 0 hcursor,
    hparams [.int 1] rfl 0 hcursor, (hother [] (by decide)).2 0 hcursor,
    (hdoubled ['%', 's', ' '] ['%', 's'] ['%', 's'] (by decide)).1⟩

end Postgres

end SqlDialect
