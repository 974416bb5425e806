import SqlDialect.Node.Build
import SqlDialect.Proofs.Acceptance
import SqlDialect.Proofs.Releases
import SqlDialect.Support

/-!
# Declared support and rendering

The registry of declared support and the renderers tell apart the same targets
(`strict_renders_iff_declared`), although neither reads the other: the registry compares a version
with those of its entries, each cut to its own length, and the renderers choose forms by layers.

The registry's answer depends on the platform that an accepted version stands for and on nothing
else (`isSupported_eq_declares`), and platform by platform it is whether the target has the feature
(`declares_eq_expresses`).  What is left is to compare the fields that a node uses
(`Node.gatedFields`) with the hurdles of the node, part by part (`Target.Clears`).
-/

namespace SqlDialect

/-! ### The registry, platform by platform -/

namespace Registry

/-- Whether a field is declared for a platform, or not declared at all. -/
def declares (r : Registry) (field : NodeKind × String) (p : Platform) : Bool :=
  (r.find field.1 field.2).isEmpty || (r.find field.1 field.2).any (·.platform = p)

/-- The registry is about known platforms. -/
theorem mem_all_of_mem_find {kind : NodeKind} {field : String} {s : PlatformSupport}
    (h : s ∈ builtin.find kind field) : s.platform ∈ Platform.all := by
  have hentries : ∀ entry ∈ builtin.entries, ∀ s ∈ entry.2, s.platform ∈ Platform.all := by decide
  unfold find at h
  cases hlookup : builtin.entries.lookup (kind, field) with
  | none =>
    rw [hlookup] at h
    exact absurd h List.not_mem_nil
  | some supports =>
    rw [hlookup] at h
    obtain ⟨l, l', hl, -⟩ := List.lookup_eq_some_iff.mp hlookup
    have hmem : ((kind, field), supports) ∈ builtin.entries := by
      rw [hl]
      exact List.mem_append_right _ List.mem_cons_self
    exact hentries _ hmem s h

variable {e : Engine} (he : e ∈ Engine.builtin)

include he

/-- An entry covers a release exactly if its platform is the one that the release stands for. -/
theorem covers_iff {w : Version} {s : PlatformSupport} (hs : s.platform ∈ Platform.all) :
    covers s e.name w = true ↔ s.platform = ⟨e.name, w.truncate (e.precision w)⟩ := by
  have hknown : ∀ e ∈ Engine.builtin, ∀ p ∈ Platform.all, p.engine = e.name →
      p.version ∈ e.versions := by decide
  rw [covers, Bool.and_eq_true, decide_eq_true_eq]
  constructor
  · rintro ⟨hname, hsame⟩
    have hv := hknown e he _ hs hname
    have hprefix := (Version.same_truncate_iff (Engine.parts_pos he hv) w).mp hsame
    rw [(Engine.truncate_precision_eq_iff he hv w).mpr hprefix, ← hname]
  · intro hplatform
    have hname : s.platform.engine = e.name := by rw [hplatform]
    have hv := hknown e he _ hs hname
    have hcut : w.truncate (e.precision w) = s.platform.version := by rw [hplatform]
    refine ⟨hname, ?_⟩
    rw [Version.same_truncate_iff (Engine.parts_pos he hv)]
    exact (Engine.truncate_precision_eq_iff he hv w).mp hcut

/-- **The answer of the registry for an accepted version** is the declaration for the known version
that it stands for. -/
theorem isSupported_eq_declares {given : Value} {v : Version} (h : e.normalize given = .ok v)
    (field : NodeKind × String) :
    builtin.isSupported field.1 field.2 e.name given = .ok (builtin.declares field ⟨e.name, v⟩) := by
  obtain ⟨hv, w, hparse, hprefix⟩ := (Engine.normalize_eq_ok_iff he given).mp h
  have hcut := (Engine.truncate_precision_eq_iff he hv w).mpr hprefix
  have hall (s : PlatformSupport) (hs : s ∈ builtin.find field.1 field.2) :=
    mem_all_of_mem_find hs
  unfold isSupported declares
  generalize builtin.find field.1 field.2 = supports at hall ⊢
  cases supports with
  | nil => rfl
  | cons s rest =>
    have hany : (s :: rest).any (fun s => covers s e.name w) =
        (s :: rest).any (·.platform = ⟨e.name, v⟩) := by
      rw [Bool.eq_iff_iff, List.any_eq_true, List.any_eq_true]
      refine exists_congr fun s => and_congr_right fun hs => ?_
      rw [covers_iff he (hall s hs), hcut, decide_eq_true_eq]
    rw [hparse, List.isEmpty_cons, Bool.false_or, ← hany]

end Registry

/-! ### Features and their fields -/

/-- The field that holds what needs a feature.  Columns of an action that accepts none are no use of
a field that could be declared. -/
def Feature.field? : Feature → Option (NodeKind × String)
  | .dropTableIfExists => some (.dropTable, "if_exists")
  | .dropTableMultiple => some (.dropTable, "table_names")
  | .actionColumns => some (.referentialAction, "columns")
  | .actionColumnsOther => none
  | .uniqueNullsNotDistinct => some (.unique, "nulls_distinct")

namespace Target

/-- The platform of a target. -/
def platform (t : Target) : Platform :=
  ⟨t.engine.name, t.version⟩

/-- **The registry declares a field for the targets that have the feature.** -/
theorem declares_eq_expresses {t : Target} (ht : t ∈ builtin) {f : Feature}
    {field : NodeKind × String} (hf : f.field? = some field) :
    Registry.builtin.declares field t.platform = t.expresses f := by
  have h : ∀ t ∈ builtin, ∀ f ∈ Feature.all, ∀ field ∈ f.field?,
      Registry.builtin.declares field t.platform = t.expresses f := by decide
  exact h t ht f (by cases f <;> decide) field hf

theorem declares_ifNotExists {t : Target} (ht : t ∈ builtin) :
    Registry.builtin.declares (.createTable, "if_not_exists") t.platform = true := by
  have h : ∀ t ∈ builtin,
      Registry.builtin.declares (.createTable, "if_not_exists") t.platform = true := by decide
  exact h t ht

end Target

/-! ### The fields that a node uses -/

/-- The use of columns in an action that accepts them. -/
def ReferentialAction.gatedFields (a : ReferentialAction) : List (NodeKind × String) :=
  if a.type.acceptsColumns && !a.columns.isEmpty then [(.referentialAction, "columns")] else []

/-- The use of columns in the actions of a foreign key, or of nulls that are not distinct. -/
def Constraint.gatedFields : Constraint → List (NodeKind × String)
  | .foreignKey f => f.actions.flatMap ReferentialAction.gatedFields
  | .unique u => if u.nullsDistinct.isTrue then [] else [(.unique, "nulls_distinct")]
  | _ => []

/-- The fields that the constraints of a column use. -/
def Column.gatedFields (c : Column) : List (NodeKind × String) :=
  c.constraints.flatMap Constraint.gatedFields

/-- The fields that a node uses and that only some platforms accept, once for each use. -/
def Node.gatedFields : Node → List (NodeKind × String)
  | .constraint c => c.gatedFields
  | .action a => a.gatedFields
  | .column c => c.gatedFields
  | .createTable c =>
    (if c.ifNotExists.isTrue then [(.createTable, "if_not_exists")] else []) ++
      (c.columns.flatMap Column.gatedFields ++ c.constraints.flatMap Constraint.gatedFields)
  | .dropTable d =>
    (if d.ifExists.isTrue then [(.dropTable, "if_exists")] else []) ++
      if 1 < d.tableNames.length then [(.dropTable, "table_names")] else []
  | _ => []

/-- The actions of a constraint. -/
def Constraint.actions : Constraint → List ReferentialAction
  | .foreignKey f => f.actions
  | _ => []

/-- The actions of the constraints of a column. -/
def Column.actions (c : Column) : List ReferentialAction :=
  c.constraints.flatMap Constraint.actions

/-- Every action in a node. -/
def Node.actions : Node → List ReferentialAction
  | .constraint c => c.actions
  | .action a => [a]
  | .column c => c.actions
  | .createTable c => c.columns.flatMap Column.actions ++ c.constraints.flatMap Constraint.actions
  | _ => []

/-- An action carries columns only if it accepts them. -/
def ReferentialAction.Fits (a : ReferentialAction) : Prop :=
  a.type.acceptsColumns = false → a.columns = []

instance (a : ReferentialAction) : Decidable a.Fits :=
  inferInstanceAs (Decidable (_ → _))

/-! ### Fields and hurdles -/

namespace Target

/-- The target meets none of some hurdles exactly if the fields used are declared for its platform
and the actions fit. -/
def Clears (t : Target) (hs : List Hurdle) (fields : List (NodeKind × String))
    (actions : List ReferentialAction) : Prop :=
  hs.filter t.blocks = [] ↔
    (∀ field ∈ fields, Registry.builtin.declares field t.platform = true) ∧
      ∀ a ∈ actions, a.Fits

namespace Clears

variable {t : Target}

theorem nil : t.Clears [] [] [] :=
  iff_of_true rfl ⟨List.forall_mem_nil _, List.forall_mem_nil _⟩

theorem append {hs hs' : List Hurdle} {fields fields' : List (NodeKind × String)}
    {actions actions' : List ReferentialAction} (h : t.Clears hs fields actions)
    (h' : t.Clears hs' fields' actions') :
    t.Clears (hs ++ hs') (fields ++ fields') (actions ++ actions') := by
  unfold Clears at *
  rw [List.filter_append, List.append_eq_nil_iff, h, h', List.forall_mem_append,
    List.forall_mem_append]
  exact and_and_and_comm

theorem flatMap {α : Type} {xs : List α} {hurdles : α → List Hurdle}
    {fields : α → List (NodeKind × String)} {actions : α → List ReferentialAction}
    (h : ∀ x ∈ xs, t.Clears (hurdles x) (fields x) (actions x)) :
    t.Clears (xs.flatMap hurdles) (xs.flatMap fields) (xs.flatMap actions) := by
  induction xs with
  | nil => exact nil
  | cons x rest ih =>
    obtain ⟨hx, hrest⟩ := List.forall_mem_cons.mp h
    rw [List.flatMap_cons, List.flatMap_cons, List.flatMap_cons]
    exact hx.append (ih hrest)

variable (ht : t ∈ builtin)

include ht

/-- One part that needs a feature, held by a field. -/
theorem gap (construct : Node) {f : Feature} {field : NodeKind × String}
    (hf : f.field? = some field) : t.Clears [.gap construct (.feature f)] [field] [] := by
  unfold Clears
  rw [List.forall_mem_singleton, declares_eq_expresses ht hf]
  simp [blocks]

/-- The same, where the part may be missing. -/
theorem gapIf (construct : Node) {f : Feature} {field : NodeKind × String}
    (hf : f.field? = some field) (used : Prop) [Decidable used] :
    t.Clears (if used then [.gap construct (.feature f)] else []) (if used then [field] else [])
      [] := by
  split
  · exact gap ht construct hf
  · exact nil

end Clears

variable {t : Target} (ht : t ∈ builtin)

include ht

theorem clears_action {a : ReferentialAction} (h : ¬ a.Malformed) :
    t.Clears a.hurdles a.gatedFields [a] := by
  unfold ReferentialAction.hurdles ReferentialAction.gatedFields
  cases hc : a.columns with
  | nil =>
    have hfits : a.Fits := fun _ => hc
    simp [Clears, hfits]
  | cons v rest =>
    have hnamed : ¬ Unnamed (v :: rest) := ReferentialAction.not_unnamed_of_cons h hc
    rw [List.isEmpty_cons, if_neg Bool.false_ne_true, namesHurdles_of_named hnamed,
      ReferentialAction.columnsFeature]
    cases haccepts : a.type.acceptsColumns with
    | true =>
      have hfits : a.Fits := fun hnot => absurd (haccepts.symm.trans hnot) Bool.noConfusion
      have hgap := Clears.gap ht (.action a) (f := .actionColumns) rfl
      unfold Clears at hgap ⊢
      simpa [hfits] using hgap
    | false =>
      -- no target has the feature, and no field declares it
      have hfits : ¬ a.Fits := fun hfits => List.cons_ne_nil v rest (hc.symm.trans (hfits haccepts))
      simp [Clears, blocks, expresses, hfits]

theorem clears_unique (u : Unique) :
    t.Clears u.hurdles (Constraint.unique u).gatedFields [] := by
  rw [Unique.hurdles, Constraint.gatedFields]
  split
  · exact Clears.nil
  · exact Clears.gap ht _ (f := .uniqueNullsNotDistinct) rfl

theorem clears_foreignKey {f : ForeignKey} (h : ¬ f.MalformedReferences) :
    t.Clears f.hurdles (Constraint.foreignKey f).gatedFields (Constraint.foreignKey f).actions := by
  obtain ⟨hnamed, hactions⟩ := not_or.mp h
  rw [ForeignKey.hurdles, namesHurdles_of_named hnamed, Constraint.gatedFields, Constraint.actions]
  have hparts : t.Clears (f.actions.flatMap ReferentialAction.hurdles)
      (f.actions.flatMap ReferentialAction.gatedFields) (f.actions.flatMap fun a => [a]) :=
    Clears.flatMap fun a ha => clears_action ht fun hm => hactions ⟨a, ha, hm⟩
  rwa [List.flatMap_singleton'] at hparts

theorem clears_tableConstraint {c : Constraint} (h : ¬ c.MalformedOnTable) :
    t.Clears c.tableHurdles c.gatedFields c.actions := by
  cases c with
  | check c => exact Clears.nil
  | foreignKey f =>
    obtain ⟨hnamed, hreferences⟩ := not_or.mp h
    rw [Constraint.tableHurdles, namesHurdles_of_named hnamed]
    exact clears_foreignKey ht hreferences
  | primaryKey p =>
    rw [Constraint.tableHurdles, namesHurdles_of_named h]
    exact Clears.nil
  | unique u =>
    rw [Constraint.tableHurdles, namesHurdles_of_named h]
    exact clears_unique ht u

theorem clears_columnConstraint {c : Constraint} (h : ¬ c.MalformedOnColumn) :
    t.Clears c.columnHurdles c.gatedFields c.actions := by
  cases c with
  | check c => exact Clears.nil
  | foreignKey f => exact clears_foreignKey ht h
  | primaryKey p => exact Clears.nil
  | unique u => exact clears_unique ht u

theorem clears_column {c : Column} (h : ¬ c.Malformed) :
    t.Clears c.hurdles c.gatedFields c.actions :=
  Clears.flatMap fun k hk => clears_columnConstraint ht fun hm => h ⟨k, hk, hm⟩

theorem clears_createTable {c : CreateTable} (h : ¬ c.Malformed) :
    t.Clears c.hurdles (Node.createTable c).gatedFields (Node.createTable c).actions := by
  obtain ⟨hcolumns, hconstraints⟩ := not_or.mp h
  have hparts : t.Clears c.hurdles
      (c.columns.flatMap Column.gatedFields ++ c.constraints.flatMap Constraint.gatedFields)
      (Node.createTable c).actions := by
    refine Clears.append (Clears.flatMap ?_) (Clears.flatMap ?_)
    · intro column hmem
      exact clears_column ht fun hm => hcolumns ⟨column, hmem, hm⟩
    · intro k hmem
      exact clears_tableConstraint ht fun hm => hconstraints ⟨k, hmem, hm⟩
  -- existence is expressed on every target, and declared on every platform
  have hexists : t.Clears []
      (if c.ifNotExists.isTrue then [(.createTable, "if_not_exists")] else []) [] := by
    split
    · simp [Clears, declares_ifNotExists ht]
    · exact Clears.nil
  exact hexists.append hparts

theorem clears_dropTable {d : DropTable} (h : ¬ Unnamed d.tableNames) :
    t.Clears d.hurdles (Node.dropTable d).gatedFields (Node.dropTable d).actions := by
  rw [DropTable.hurdles, namesHurdles_of_named h]
  exact (Clears.gapIf ht (.dropTable d) rfl _).append (Clears.gapIf ht (.dropTable d) rfl _)

/-- **The hurdles that a target meets are the uses of fields that are not declared for it**, and the
columns of actions that accept none. -/
theorem clears_node {n : Node} {p : Position} (hbare : n.isBare = false)
    (h : ¬ n.MalformedAt p) : t.Clears (n.hurdles p) n.gatedFields n.actions := by
  obtain ⟨hslot, hpart⟩ := not_or.mp h
  cases Node.stands_of_slot hslot with
  | createTable c => exact clears_createTable ht hpart
  | dropTable d => exact clears_dropTable ht hpart
  | bareStatement serial => exact absurd hbare Bool.noConfusion
  | tableConstraint c => exact clears_tableConstraint ht hpart
  | columnConstraint c => exact clears_columnConstraint ht hpart
  | column c => exact clears_column ht hpart
  | action a => exact clears_action ht hpart

end Target

/-! ### Strict rendering -/

namespace Visitor

/-- **The registry and the renderers agree.**  For the engine of a name and any version that it
accepts, strict rendering of a node that is not malformed succeeds exactly if every gated field that
the node uses is declared for that engine and version and no action carries columns that it does not
accept. -/
theorem strict_renders_iff_declared {engine : String}
    (hengine : engine = Platform.postgresql ∨ engine = Platform.sqlite) {version : Value}
    {s : Strategy} {v : Visitor} (hv : Visitor.find (.text engine) version s = .ok v) (n : Node)
    (p : Position) (hbare : n.isBare = false) (htext : n.hasTextDefaults = true)
    (hwell : ¬ n.MalformedAt p) :
    (∃ sql omitted, (v.strict.render n p).outcome = .rendered sql omitted) ↔
      (∀ field ∈ n.gatedFields,
        Registry.builtin.isSupported field.1 field.2 engine version = .ok true) ∧
      ∀ a ∈ n.actions, a.type.acceptsColumns = false → a.columns = [] := by
  have hfound := (Visitor.of_find hv).1
  have ht := Target.mem_builtin_of_find hfound
  obtain ⟨hfind, hversion⟩ := Target.of_find hfound
  have he := Engine.mem_builtin_of_find hfind
  have hname : v.target.engine.name = engine := by
    have hnamed : ∃ e ∈ Engine.builtin, e.name = engine := by
      rcases hengine with rfl | rfl
      · exact ⟨.postgresql, List.mem_cons_self, rfl⟩
      · exact ⟨.sqlite, List.mem_cons_of_mem _ List.mem_cons_self, rfl⟩
    obtain ⟨e, hmem, hname⟩ := hnamed
    rw [← hname, Engine.find_name hmem] at hfind
    rw [← Except.ok.inj hfind, hname]
  have hclears : v.target.hurdles n p = [] ↔
      (∀ field ∈ n.gatedFields,
        Registry.builtin.declares field v.target.platform = true) ∧ ∀ a ∈ n.actions, a.Fits :=
    Target.clears_node ht hbare hwell
  rw [strict_renders_iff ht htext, hclears]
  refine and_congr_left fun _ => forall₂_congr fun field _ => ?_
  rw [← hname, Registry.isSupported_eq_declares he hversion, Except.ok.injEq]
  rfl

/-- PostgreSQL 15.2 takes a unique constraint in which nulls are not distinct next to an action on
some columns of a column's foreign key: both fields are declared for it. -/
theorem strict_renders_minor_release :
    let v : Visitor := ⟨⟨.postgresql, ⟨[15]⟩⟩, {}⟩
    let f : ForeignKey :=
      { refTable := "u", refColumns := [.text "id"], onDelete := some ⟨.setNull, [.text "a"]⟩ }
    let n : Node := .createTable
      { tableName := "t", ifNotExists := .bool true
        columns := [{ name := "a", dataType := "int", constraints := [.foreignKey f] }]
        constraints := [.unique { columnNames := [.text "a"], nullsDistinct := .bool false }] }
    Visitor.find (.text Platform.postgresql) (.text "15.2") {} = .ok v ∧ n.isBare = false ∧
      n.hasTextDefaults = true ∧ ¬ n.MalformedAt .statement ∧
      n.gatedFields =
        [(.createTable, "if_not_exists"), (.referentialAction, "columns"),
          (.unique, "nulls_distinct")] ∧
      ∃ sql omitted, (v.strict.render n .statement).outcome = .rendered sql omitted := by
  intro v f n
  have hv : Visitor.find (.text Platform.postgresql) (.text "15.2") {} = .ok v := rfl
  have hwell : ¬ n.MalformedAt .statement := by decide
  have hfields : n.gatedFields =
      [(.createTable, "if_not_exists"), (.referentialAction, "columns"),
        (.unique, "nulls_distinct")] := rfl
  have hdeclared : ∀ field ∈ n.gatedFields, Registry.builtin.isSupported field.1 field.2
      Platform.postgresql (.text "15.2") = .ok true := by
    have hall : ∀ field ∈ n.gatedFields,
        Registry.builtin.declares field v.target.platform = true := by decide
    have hversion := (Target.of_find (Visitor.of_find hv).1).2
    intro field hmem
    rw [← hall field hmem]
    exact Registry.isSupported_eq_declares List.mem_cons_self hversion field
  have hfit : ∀ a ∈ n.actions, a.type.acceptsColumns = false → a.columns = [] := by
    intro a ha
    rw [List.mem_singleton.mp (show a ∈ [_] from ha)]
    exact nofun
  exact ⟨hv, rfl, rfl, hwell, hfields,
    (strict_renders_iff_declared (.inl rfl) hv n _ rfl rfl hwell).mpr ⟨hdeclared, hfit⟩⟩

end Visitor

end SqlDialect
