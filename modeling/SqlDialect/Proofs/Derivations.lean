import SqlDialect.Proofs.FieldRules

/-!
# Derivations

A node that comes out of constructors and derivations, whatever they were given, is well formed at
every depth, and so is whatever derivations come to from there; a derivation with changes is the
constructor on the fields and the changes, and on the fields alone the constructor gives the node
back (`Node.derivation_laws`).

`Value.Obtained` holds of every value that a caller can come by, and by induction over it such
values are well formed.  A constructor looks at nothing but the value of each name
(`Node.build_congr`), so it does not matter in which order the fields and the changes are handed
over.
-/

namespace SqlDialect

/-! ### Named values -/

namespace Arguments

variable {args args' : Arguments}

theorem any_eq_isSome_lookup (args : Arguments) (name : String) :
    args.any (fun a => a.1 = name) = (args.lookup name).isSome := by
  rw [Bool.eq_iff_iff, List.any_eq_true, List.lookup_isSome_iff]
  simp only [decide_eq_true_eq, beq_iff_eq]
  exact exists_congr fun _ => and_congr_right fun _ => eq_comm

theorem lookup_map_value (f : String → Value → Value) (args : Arguments) (name : String) :
    (args.map fun a => (a.1, f a.1 a.2)).lookup name = (args.lookup name).map (f name) := by
  induction args with
  | nil => rfl
  | cons a rest ih =>
    obtain ⟨key, v⟩ := a
    rw [List.map_cons, List.lookup_cons, List.lookup_cons, ih]
    by_cases h : name = key
    · subst h
      simp
    · have hne : (name == key) = false := beq_eq_false_iff_ne.2 h
      simp [hne]

theorem lookup_filter_key {p : String → Bool} {name : String} (hname : p name = true)
    (args : Arguments) : (args.filter fun a => p a.1).lookup name = args.lookup name := by
  induction args with
  | nil => rfl
  | cons a rest ih =>
    obtain ⟨key, v⟩ := a
    rw [List.filter_cons]
    by_cases h : name = key
    · subst h
      simp [hname]
    · have hne : (name == key) = false := beq_eq_false_iff_ne.2 h
      split <;> simp [hne, ih, List.lookup_cons]

/-- The value of a name after some are replaced is the new one, if there is one. -/
theorem lookup_override (args changes : Arguments) (name : String) :
    (args.override changes).lookup name = (changes.lookup name).or (args.lookup name) := by
  have hkept := lookup_map_value (fun key v => (changes.lookup key).getD v) args name
  show (_ ++ _ : Arguments).lookup name = _
  rw [List.lookup_append]
  refine (congrArg (Option.or · _) hkept).trans ?_
  cases hname : args.lookup name with
  | some v => cases changes.lookup name <;> rfl
  | none =>
    -- a name that was not there comes with the changes that are new
    have hnew : (!args.any (fun a => a.1 = name)) = true := by
      rw [any_eq_isSome_lookup, hname]
      rfl
    have hadded := lookup_filter_key (p := fun key => !args.any (fun a => a.1 = key)) hnew changes
    rw [hadded]
    cases changes.lookup name <;> rfl

theorem forall_mem_override {P : Value → Prop} {args changes : Arguments}
    (hargs : ∀ a ∈ args, P a.2) (hchanges : ∀ a ∈ changes, P a.2) :
    ∀ a ∈ args.override changes, P a.2 := by
  intro a ha
  obtain ha | ha := List.mem_append.1 ha
  · obtain ⟨⟨name, v⟩, hv, rfl⟩ := List.mem_map.1 ha
    show P ((changes.lookup name).getD v)
    cases h : changes.lookup name with
    | none => exact hargs _ hv
    | some w =>
      obtain ⟨before, after, rfl, -⟩ := List.lookup_eq_some_iff.1 h
      exact hchanges (name, w) (by simp)
  · exact hchanges a (List.mem_filter.1 ha).1

theorem all_keys_iff {p : String → Bool} :
    args.all (fun a => p a.1) = true ↔ ∀ name, (args.lookup name).isSome → p name = true := by
  rw [List.all_eq_true]
  constructor
  · intro h name hname
    obtain ⟨a, ha, hkey⟩ := List.lookup_isSome_iff.1 hname
    exact eq_of_beq hkey ▸ h a ha
  · intro h a ha
    exact h a.1 (List.lookup_isSome_iff.2 ⟨a, ha, BEq.rfl⟩)

variable (h : ∀ name, args.lookup name = args'.lookup name)
include h

/-- Whether names fit depends on which names there are only. -/
theorem fit_congr (kind : NodeKind) : args.fit kind = args'.fit kind := by
  have hall : args.all (fun a => kind.fieldNames.contains a.1) =
      args'.all fun a => kind.fieldNames.contains a.1 := by
    rw [Bool.eq_iff_iff, all_keys_iff, all_keys_iff]
    simp only [h]
  unfold fit
  simp only [hall, any_eq_isSome_lookup, h]

theorem get_congr : args.get = args'.get := by
  funext name default
  rw [get, get, h]

end Arguments

namespace Node

/-- A constructor looks at nothing but the value of each name. -/
theorem build_congr {args args' : Arguments} (h : ∀ name, args.lookup name = args'.lookup name)
    (serial : Nat) (kind : NodeKind) : build serial kind args = build serial kind args' := by
  have hget := Arguments.get_congr h
  unfold build
  rw [Arguments.fit_congr h]
  simp only [buildForeignKey, buildAction, buildColumn, buildCreateTable, buildDropTable, hget]

/-- Only the bare bases are told apart by serial numbers. -/
theorem build_serial {n : Node} (hfields : n.isBare = false) (serial : Nat) (args : Arguments) :
    build 0 n.kind args = build serial n.kind args := by
  cases n with
  | constraint c => cases c <;> rfl
  | bareStatement i => cases hfields
  | bareExpression i => cases hfields
  | _ => rfl

/-- A derivation with changes is the constructor on the fields with the changes over them. -/
theorem withChanges_eq_build {n : Node} (hfields : n.isBare = false) {changes args : Arguments}
    (hargs : ∀ name, args.lookup name = (changes.lookup name).or (n.fields.lookup name))
    (serial : Nat) : n.withChanges changes = build serial n.kind args := by
  have hsame (name : String) :
      (Arguments.override n.fields changes).lookup name = args.lookup name := by
    rw [Arguments.lookup_override, hargs]
  rw [withChanges, hfields, if_neg Bool.false_ne_true, build_congr hsame, build_serial hfields]

end Node

/-! ### Values that can be obtained -/

/-- The values that a derivation brings in. -/
def Derivation.values : Derivation → List Value
  | .changes given => given.map Prod.snd
  | .column v => [v]
  | .constraint v => [v]

/-- The values that a caller can come by: plain values and collections, what constructors and
derivations make of values, and the parts of all these. -/
inductive Value.Obtained : Value → Prop
  | plain {v : Value} (h : v.isPlain = true) : Obtained v
  | list {items : List Value} (h : ∀ v ∈ items, Obtained v) : Obtained (.list items)
  | tuple {items : List Value} (h : ∀ v ∈ items, Obtained v) : Obtained (.tuple items)
  | record {entries : List (String × Value)} (h : ∀ e ∈ entries, Obtained e.2) :
      Obtained (.record entries)
  | item {items : List Value} {v : Value} (h : Obtained (.tuple items)) (hv : v ∈ items) :
      Obtained v
  | field {kind : NodeKind} {fields : List (String × Value)} {f : String × Value}
      (h : Obtained (.node kind fields)) (hf : f ∈ fields) : Obtained f.2
  | build {serial : Nat} {kind : NodeKind} {args : Arguments} {n : Node}
      (hargs : ∀ a ∈ args, Obtained a.2) (h : Node.build serial kind args = .ok n) :
      Obtained n.toValue
  | derive {n m : Node} {d : Derivation} (hn : Obtained n.toValue)
      (hd : ∀ v ∈ d.values, Obtained v) (h : n.derive d = .ok m) : Obtained m.toValue

namespace Node

theorem toValue_eq_node {n : Node} (hfields : n.isBare = false) :
    n.toValue = .node n.kind n.fields := by
  cases n with
  | constraint c => cases c <;> rfl
  | bareStatement i => cases hfields
  | bareExpression i => cases hfields
  | _ => rfl

theorem wellFormed_withChanges {n m : Node} {changes : Arguments} (hn : n.toValue.WellFormed)
    (hchanges : ∀ a ∈ changes, a.2.WellFormed) (h : n.withChanges changes = .ok m) :
    m.toValue.WellFormed ∧ m.kind = n.kind := by
  unfold withChanges at h
  split at h
  · cases h
  · rename_i hfields
    rw [toValue_eq_node (Bool.not_eq_true _ ▸ hfields)] at hn
    exact wellFormed_build (Arguments.forall_mem_override hn.of_mem_fields hchanges) h

/-- One more item in a list of parts is a change as any other. -/
theorem wellFormed_addItem {n m : Node} {field : String} {items : List Value} {v : Value}
    (hn : n.toValue.WellFormed) (hitems : (Value.tuple items).WellFormed) (hv : v.WellFormed)
    (h : n.withChanges [(field, .tuple (items ++ [v]))] = .ok m) :
    m.toValue.WellFormed ∧ m.kind = n.kind := by
  have hmore : (Value.tuple (items ++ [v])).WellFormed := by
    refine .tuple fun w hw => ?_
    obtain hw | hw := List.mem_append.1 hw
    · exact hitems.of_mem_tuple w hw
    · exact List.mem_singleton.1 hw ▸ hv
  exact wellFormed_withChanges hn (fun a ha => List.mem_singleton.1 ha ▸ hmore) h

/-- A derivation with well-formed values gives a well-formed node of the same kind. -/
theorem wellFormed_derive {n m : Node} {d : Derivation} (hn : n.toValue.WellFormed)
    (hd : ∀ v ∈ d.values, v.WellFormed) (h : n.derive d = .ok m) :
    m.toValue.WellFormed ∧ m.kind = n.kind := by
  cases d with
  | changes given =>
    exact wellFormed_withChanges hn (fun a ha => hd a.2 (List.mem_map_of_mem ha)) h
  | column v =>
    cases n with
    | createTable t =>
      have hcolumns : (Value.tuple (t.columns.map Column.toValue)).WellFormed :=
        hn.of_mem_fields ("columns", _) (by simp)
      have h : (Node.createTable t).withChanges
          [("columns", .tuple (t.columns.map Column.toValue ++ [v]))] = .ok m := h
      exact wellFormed_addItem hn hcolumns (hd v (List.mem_singleton_self v)) h
    | _ => cases h
  | constraint v =>
    cases n with
    | createTable t =>
      have hconstraints : (Value.tuple (t.constraints.map Constraint.toValue)).WellFormed :=
        hn.of_mem_fields ("constraints", _) (by simp)
      have h : (Node.createTable t).withChanges
          [("constraints", .tuple (t.constraints.map Constraint.toValue ++ [v]))] = .ok m := h
      exact wellFormed_addItem hn hconstraints (hd v (List.mem_singleton_self v)) h
    | _ => cases h

end Node

/-- Every value that can be obtained is well formed. -/
theorem Value.Obtained.wellFormed {v : Value} (h : v.Obtained) : v.WellFormed := by
  induction h with
  | plain h => exact .plain h
  | list _ ih => exact .list ih
  | tuple _ ih => exact .tuple ih
  | record _ ih => exact .record ih
  | item _ hv ih => exact ih.of_mem_tuple _ hv
  | field _ hf ih => exact ih.of_mem_fields _ hf
  | build _ h ih => exact (Node.wellFormed_build ih h).1
  | derive _ _ h ihn ihd => exact (Node.wellFormed_derive ihn ihd h).1

/-- The short forms of actions are constructions too. -/
theorem ReferentialAction.obtained_short {name : String} {columns : List Value}
    (hcolumns : ∀ v ∈ columns, v.Obtained) {a : ReferentialAction}
    (h : short name columns = .ok a) : a.toValue.Obtained := by
  -- the forms without columns refuse any that are given
  have halone {type : ActionType}
      (h : (if columns.isEmpty then Except.ok ⟨type, []⟩
        else .error BuildError.arguments) = Except.ok a) : a.columns = columns := by
    split at h
    · obtain rfl := Except.ok.inj h
      exact (List.isEmpty_iff.1 ‹_›).symm
    · cases h
  have hsame : a.columns = columns := by
    unfold short at h
    dsimp only at h
    split at h
    · exact halone h
    · obtain rfl := Except.ok.inj h
      rfl
    · obtain rfl := Except.ok.inj h
      rfl
    · exact halone h
    · exact halone h
    · cases h
  have hbuild : Node.build 0 .referentialAction (Node.action a).fields = .ok (.action a) := by
    show (Node.buildAction (Node.action a).fields).map _ = _
    rw [Node.buildAction_fields]
    rfl
  refine .build (n := .action a) (fun f hf => ?_) hbuild
  obtain rfl | hf := List.mem_cons.1 hf
  · exact .plain rfl
  · obtain rfl := List.mem_singleton.1 hf
    exact .tuple (hsame ▸ hcolumns)

/-! ### Derivations in turn -/

namespace Node

/-- A derivation that fails leaves the node at hand as it was. -/
theorem after_of_error {n : Node} {d : Derivation} {e : BuildError} (h : n.derive d = .error e) :
    n.after d = n := by
  rw [after, h]

theorem after_of_ok {n m : Node} {d : Derivation} (h : n.derive d = .ok m) : n.after d = m := by
  rw [after, h]

/-- What derivations in turn come to can be obtained, and is of the same kind. -/
theorem obtained_afterAll {ds : List Derivation} (hds : ∀ d ∈ ds, ∀ v ∈ d.values, v.Obtained)
    {n : Node} (hn : n.toValue.Obtained) :
    (n.afterAll ds).toValue.Obtained ∧ (n.afterAll ds).kind = n.kind := by
  induction ds generalizing n with
  | nil => exact ⟨hn, rfl⟩
  | cons d ds ih =>
    obtain ⟨hd, hds⟩ := List.forall_mem_cons.1 hds
    show ((n.after d).afterAll ds).toValue.Obtained ∧ ((n.after d).afterAll ds).kind = n.kind
    cases h : n.derive d with
    | error e =>
      rw [after_of_error h]
      exact ih hds hn
    | ok m =>
      have hkind := (wellFormed_derive hn.wellFormed (fun v hv => (hd v hv).wellFormed) h).2
      obtain ⟨hobtained, hsame⟩ := ih hds (.derive hn hd h)
      rw [after_of_ok h]
      exact ⟨hobtained, hsame.trans hkind⟩

/-- **What constructors and derivations keep.**  A node that they give is well formed, and so is
whatever derivations come to from there.  A derivation with changes is the constructor on the fields
and the changes, in success and in failure; on the fields alone it gives the node back; and a
derivation that fails leaves the node as it was. -/
theorem derivation_laws {n : Node} (hn : n.toValue.Obtained) (hfields : n.isBare = false) :
    n.toValue.WellFormed ∧
      (∀ ds : List Derivation, (∀ d ∈ ds, ∀ v ∈ d.values, v.Obtained) →
        (n.afterAll ds).toValue.WellFormed ∧ (n.afterAll ds).kind = n.kind) ∧
      (∀ (serial : Nat) (changes args : Arguments),
        (∀ name, args.lookup name = (changes.lookup name).or (n.fields.lookup name)) →
          n.withChanges changes = build serial n.kind args) ∧
      (∀ serial : Nat, build serial n.kind n.fields = .ok n) ∧
      ∀ (d : Derivation) (e : BuildError), n.derive d = .error e → n.after d = n := by
  refine ⟨hn.wellFormed, fun ds hds => ?_, fun serial changes args hargs => ?_, fun serial => ?_,
    fun d e h => after_of_error h⟩
  · obtain ⟨hobtained, hkind⟩ := obtained_afterAll hds hn
    exact ⟨hobtained.wellFormed, hkind⟩
  · exact withChanges_eq_build hfields hargs serial
  · exact build_fields hn.wellFormed hfields serial

/-- A table with a column that was added to it, and that has a constraint of its own.  A blank name
is refused, by the derivation as by the constructor, and a constraint that is added afterwards is
taken. -/
theorem derivation_laws_of_added_column :
    let unique : Constraint := .unique ⟨[.text "a"], .int 0⟩
    let column : Column := ⟨"a", "int", .bool true, .null, [unique]⟩
    let t : Node := .createTable ⟨"t", .bool false, [column], []⟩
    let blank : Arguments := [("table_name", .text " ")]
    t.toValue.Obtained ∧ t.toValue.WellFormed ∧
      (t.afterAll [.changes blank, .constraint unique.toValue]).toValue.WellFormed ∧
      t.withChanges blank = build 0 .createTable (Arguments.override t.fields blank) ∧
      build 0 .createTable t.fields = .ok t ∧ t.after (.changes blank) = t := by
  intro unique column t blank
  have hunique : unique.toValue.Obtained := by
    have hbuild : build 0 .unique [("column_names", .text "a"), ("nulls_distinct", .int 0)] =
      .ok (.constraint unique) := rfl
    exact .build (List.forall_mem_cons.2 ⟨.plain rfl, List.forall_mem_singleton.2 (.plain rfl)⟩)
      hbuild
  have hcolumn : column.toValue.Obtained := by
    have hbuild : build 0 .column [("name", .text "a"), ("data_type", .text "int"),
      ("constraints", .list [unique.toValue])] = .ok (.column column) := rfl
    have hlist : (Value.list [unique.toValue]).Obtained :=
      .list (List.forall_mem_singleton.2 hunique)
    exact .build (List.forall_mem_cons.2 ⟨.plain rfl, List.forall_mem_cons.2
      ⟨.plain rfl, List.forall_mem_singleton.2 hlist⟩⟩) hbuild
  have hbase : (Node.createTable ⟨"t", .bool false, [], []⟩).toValue.Obtained := by
    have hbuild : build 0 .createTable [("table_name", .text "t")] =
      .ok (.createTable ⟨"t", .bool false, [], []⟩) := rfl
    exact .build (fun a ha => List.mem_singleton.1 ha ▸ .plain rfl) hbuild
  -- the table is not built with its column but derived from one without
  have hderive : (Node.createTable ⟨"t", .bool false, [], []⟩).derive (.column column.toValue) =
    .ok t := rfl
  have hadded : ∀ v ∈ (Derivation.column column.toValue).values, v.Obtained :=
    List.forall_mem_singleton.2 hcolumn
  have ht : t.toValue.Obtained := .derive hbase hadded hderive
  obtain ⟨hform, hkeep, hchanges, hagain, hfail⟩ := derivation_laws ht rfl
  have hvalues : ∀ d ∈ [Derivation.changes blank, .constraint unique.toValue],
      ∀ v ∈ d.values, v.Obtained := by
    have hblank : ∀ v ∈ (Derivation.changes blank).values, v.Obtained :=
      List.forall_mem_singleton.2 (.plain rfl)
    have hconstraint : ∀ v ∈ (Derivation.constraint unique.toValue).values, v.Obtained :=
      List.forall_mem_singleton.2 hunique
    exact List.forall_mem_cons.2 ⟨hblank, List.forall_mem_singleton.2 hconstraint⟩
  exact ⟨ht, hform, (hkeep _ hvalues).1,
    hchanges 0 blank _ (Arguments.lookup_override t.fields blank), hagain 0, hfail _ _ rfl⟩

end Node

end SqlDialect
