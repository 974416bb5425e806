import Mathlib.Data.List.Forall2
import SqlDialect.Node.Build

/-!
# Rules for the fields of nodes

Every kind of node has a rule for each of its fields (`NodeKind.rules`), and a value is well formed
if all the nodes in it, at every depth, keep to the rules of their kinds (`Value.WellFormed`).

What a constructor checks and brings into form is what the rules ask for, so a node that is built
from well-formed values is well formed (`Node.wellFormed_build`).  The other way round, a
constructor has nothing to refuse or to change in what keeps to the rules: it builds a well-formed
node again from its own fields (`Node.build_fields`).
-/

namespace SqlDialect

/-! ### The rules -/

/-- What a field of a node holds. -/
inductive FieldRule
  /-- A text that is not blank. -/
  | text
  /-- A tuple, of names or of whatever was given for them. -/
  | names
  /-- A tuple of nodes of some kinds. -/
  | parts (kinds : List NodeKind)
  /-- A node of a kind, or nothing. -/
  | optionalPart (kind : NodeKind)
  /-- One of some words. -/
  | choice (words : List String)
  /-- One of some words, or nothing. -/
  | optionalChoice (words : List String)
  /-- Anything. -/
  | free
  deriving DecidableEq, Repr

/-- The kind of a node, if the value is one with fields. -/
def Value.nodeKind? : Value → Option NodeKind
  | .node kind _ => some kind
  | _ => none

/-- Whether a value keeps to a rule. -/
def FieldRule.holds : FieldRule → Value → Bool
  | .text, .text s => !Text.isBlank s
  | .names, .tuple _ => true
  | .parts kinds, .tuple items => items.all fun v => v.nodeKind?.any kinds.contains
  | .optionalPart _, .null => true
  | .optionalPart kind, v => v.nodeKind? = some kind
  | .choice words, .text s => words.contains s
  | .optionalChoice _, .null => true
  | .optionalChoice words, .text s => words.contains s
  | .free, _ => true
  | _, _ => false

namespace NodeKind

/-- The kinds of constraints. -/
def constraints : List NodeKind :=
  [.check, .foreignKey, .primaryKey, .unique]

/-- The rules for the fields of a kind of node, in order. -/
def rules : NodeKind → List (String × FieldRule)
  | .check => [("expression", .text)]
  | .foreignKey =>
    [("column_names", .names), ("ref_table", .text), ("ref_columns", .names),
      ("on_update", .optionalPart .referentialAction),
      ("on_delete", .optionalPart .referentialAction)]
  | .primaryKey => [("column_names", .names)]
  | .unique => [("column_names", .names), ("nulls_distinct", .free)]
  | .referentialAction =>
    [("type", .choice (ActionType.all.map ActionType.sqlText)), ("columns", .names)]
  | .column =>
    [("name", .text), ("data_type", .text), ("nullable", .free), ("default", .free),
      ("constraints", .parts constraints)]
  | .createTable =>
    [("table_name", .text), ("if_not_exists", .free), ("columns", .parts [.column]),
      ("constraints", .parts constraints)]
  | .dropTable =>
    [("table_names", .names), ("if_exists", .free),
      ("action", .optionalChoice (DropAction.all.map DropAction.sqlText))]
  | .bareStatement => []
  | .bareExpression => []

/-- There is a rule for every field. -/
theorem map_fst_rules (kind : NodeKind) : kind.rules.map Prod.fst = kind.fieldNames := by
  cases kind <;> rfl

end NodeKind

/-! ### Well-formed values -/

/-- Whether a value is no collection and no node with fields. -/
def Value.isPlain : Value → Bool
  | .list _ => false
  | .tuple _ => false
  | .record _ => false
  | .node _ _ => false
  | _ => true

/-- All the nodes in a value keep to the rules of their kinds. -/
inductive Value.WellFormed : Value → Prop
  | plain {v : Value} (h : v.isPlain = true) : WellFormed v
  | list {items : List Value} (h : ∀ v ∈ items, WellFormed v) : WellFormed (.list items)
  | tuple {items : List Value} (h : ∀ v ∈ items, WellFormed v) : WellFormed (.tuple items)
  | record {entries : List (String × Value)} (h : ∀ e ∈ entries, WellFormed e.2) :
      WellFormed (.record entries)
  | node {kind : NodeKind} {fields : List (String × Value)}
      (hrules : List.Forall₂ (fun rule field => rule.1 = field.1 ∧ rule.2.holds field.2 = true)
        kind.rules fields)
      (h : ∀ f ∈ fields, WellFormed f.2) : WellFormed (.node kind fields)

namespace Value.WellFormed

theorem of_mem_tuple {items : List Value} (h : WellFormed (.tuple items)) :
    ∀ v ∈ items, WellFormed v := by
  cases h with
  | plain h => cases h
  | tuple h => exact h

theorem of_mem_fields {kind : NodeKind} {fields : List (String × Value)}
    (h : WellFormed (.node kind fields)) : ∀ f ∈ fields, WellFormed f.2 := by
  cases h with
  | plain h => cases h
  | node _ h => exact h

theorem rules {kind : NodeKind} {fields : List (String × Value)}
    (h : WellFormed (.node kind fields)) :
    List.Forall₂ (fun rule field => rule.1 = field.1 ∧ rule.2.holds field.2 = true)
      kind.rules fields := by
  cases h with
  | plain h => cases h
  | node hrules _ => exact hrules

/-- The items of a well-formed value are well formed. -/
theorem of_mem_items {v : Value} {items : List Value} (h : v.WellFormed)
    (hitems : v.items? = some items) : ∀ w ∈ items, w.WellFormed := by
  have hplain {α : Type} {f : α → Value} {xs : List α} (hf : ∀ x, (f x).isPlain = true) :
      ∀ w ∈ xs.map f, w.WellFormed := by
    intro w hw
    obtain ⟨x, -, rfl⟩ := List.mem_map.1 hw
    exact .plain (hf x)
  cases v with
  | list items' =>
    cases h with
    | plain h => cases h
    | list h => exact Option.some.inj hitems ▸ h
  | tuple items' => exact Option.some.inj hitems ▸ h.of_mem_tuple
  | hostType t =>
    cases t with
    | sqlType => exact Option.some.inj hitems ▸ hplain fun _ => rfl
    | _ => cases hitems
  | text s => exact Option.some.inj hitems ▸ hplain fun _ => rfl
  | sqlType t => exact Option.some.inj hitems ▸ hplain fun _ => rfl
  | record entries => exact Option.some.inj hitems ▸ hplain fun _ => rfl
  | bytes kind data => exact Option.some.inj hitems ▸ hplain fun _ => rfl
  | _ => cases hitems

end Value.WellFormed

/-- A value that a rule admits: it keeps to the rule, and all the nodes in it keep to theirs. -/
structure FieldRule.Admits (rule : FieldRule) (v : Value) : Prop where
  holds : rule.holds v = true
  wellFormed : v.WellFormed

/-- A node is well formed if the rules for its fields admit them. -/
theorem Value.WellFormed.of_admits {kind : NodeKind} {fields : List (String × Value)}
    (h : List.Forall₂ (fun rule field => rule.1 = field.1 ∧ rule.2.Admits field.2)
      kind.rules fields) : (Value.node kind fields).WellFormed := by
  refine .node (h.imp fun _ _ hf => ⟨hf.1, hf.2.holds⟩) ?_
  generalize kind.rules = rules at h
  induction h with
  | nil => exact nofun
  | cons hf hrest ih => exact List.forall_mem_cons.2 ⟨hf.2.wellFormed, ih⟩

theorem FieldRule.admits_free {v : Value} (h : v.WellFormed) : free.Admits v :=
  ⟨by cases v <;> rfl, h⟩

theorem FieldRule.holds_optionalPart {kind : NodeKind} {v : Value} (h : v.nodeKind? = some kind) :
    (optionalPart kind).holds v = true := by
  cases v with
  | node k fields => exact decide_eq_true h
  | _ => cases h

/-! ### Nested parts -/

theorem ReferentialAction.toValue_of_ofValue? {v : Value} {a : ReferentialAction}
    (h : ofValue? v = some a) : a.toValue = v := by
  unfold ofValue? at h
  split at h
  case h_2 => cases h
  rename_i type columns
  obtain ⟨t, ht, rfl⟩ := Option.map_eq_some_iff.1 h
  -- an action is found by its text, so it is shown as the text it was found by
  have htext : t.sqlText = type := by
    have := List.find?_some ht
    exact of_decide_eq_true this
  rw [toValue, htext]

theorem ReferentialAction.toValue_of_ofOptional? {v : Value} {a : Option ReferentialAction}
    (h : ofOptional? v = some a) : optionalValue (a.map toValue) = v := by
  unfold ofOptional? at h
  split at h
  · obtain rfl := Option.some.inj h
    rfl
  · obtain ⟨b, hb, rfl⟩ := Option.map_eq_some_iff.1 h
    exact toValue_of_ofValue? hb

theorem Constraint.toValue_of_ofValue? {v : Value} {c : Constraint} (h : ofValue? v = some c) :
    c.toValue = v := by
  unfold ofValue? at h
  split at h
  · obtain rfl := Option.some.inj h
    rfl
  · split at h
    case h_2 => cases h
    rename_i u d hu hd
    obtain rfl := Option.some.inj h
    show Value.node .foreignKey _ = _
    rw [ReferentialAction.toValue_of_ofOptional? hu, ReferentialAction.toValue_of_ofOptional? hd]
  · obtain rfl := Option.some.inj h
    rfl
  · obtain rfl := Option.some.inj h
    rfl
  · cases h

theorem map_toValue_of_mapM_ofValue? {α : Type} {toValue : α → Value} {ofValue? : Value → Option α}
    (h : ∀ {v a}, ofValue? v = some a → toValue a = v) {vs : List Value} {xs : List α}
    (hxs : vs.mapM ofValue? = some xs) : xs.map toValue = vs := by
  induction vs generalizing xs with
  | nil =>
    obtain rfl : [] = xs := by simpa using hxs
    rfl
  | cons v vs ih =>
    simp only [List.mapM_cons, Option.bind_eq_bind, Option.bind_eq_some_iff] at hxs
    obtain ⟨a, ha, as, has, hpure⟩ := hxs
    obtain rfl := Option.some.inj hpure
    rw [List.map_cons, h ha, ih has]

theorem Column.toValue_of_ofValue? {v : Value} {c : Column} (h : ofValue? v = some c) :
    c.toValue = v := by
  unfold ofValue? at h
  split at h
  case h_2 => cases h
  obtain ⟨cs, hcs, rfl⟩ := Option.map_eq_some_iff.1 h
  show Value.node .column _ = _
  rw [map_toValue_of_mapM_ofValue? Constraint.toValue_of_ofValue? hcs]

/-! ### What a constructor makes of its values -/

/-- Binding gives a result only if both steps do. -/
theorem exists_of_bind_eq_ok {ε α β : Type} {x : Except ε α} {f : α → Except ε β} {b : β}
    (h : (x >>= f) = .ok b) : ∃ a, x = .ok a ∧ f a = .ok b := by
  cases x with
  | error e => cases h
  | ok a => exact ⟨a, rfl, h⟩

theorem exists_of_map_eq_ok {ε α β : Type} {x : Except ε α} {f : α → β} {b : β}
    (h : x.map f = .ok b) : ∃ a, x = .ok a ∧ f a = b := by
  cases x with
  | error e => cases h
  | ok a => exact ⟨a, rfl, Except.ok.inj h⟩

namespace Node

variable {kind : NodeKind} {field : String} {v : Value}

theorem admits_of_requireName {s : String} (h : requireName kind field v = .ok s) :
    FieldRule.text.Admits (.text s) := by
  unfold requireName at h
  split at h
  · split at h
    · cases h
    · obtain rfl := Except.ok.inj h
      rename_i hblank
      exact ⟨by simpa [FieldRule.holds] using hblank, .plain rfl⟩
  · cases h

theorem admits_of_namesOf {names : List Value} (hv : v.WellFormed) (h : namesOf v = .ok names) :
    FieldRule.names.Admits (.tuple names) := by
  refine ⟨rfl, .tuple ?_⟩
  -- nothing, a text, a type, and then whatever has items
  unfold namesOf at h
  split at h
  · obtain rfl := Except.ok.inj h
    exact nofun
  · obtain rfl := Except.ok.inj h
    exact List.forall_mem_singleton.2 hv
  · obtain rfl := Except.ok.inj h
    exact List.forall_mem_singleton.2 hv
  · split at h
    · obtain rfl := Except.ok.inj h
      exact hv.of_mem_items ‹_›
    · cases h

section Parts

variable {α : Type} {toValue : α → Value} {ofValue? : Value → Option α}
  (hback : ∀ {v a}, ofValue? v = some a → toValue a = v)
include hback

theorem toValue_of_requirePart {a : α} (h : requirePart ofValue? kind field v = .ok a) :
    toValue a = v := by
  unfold requirePart at h
  split at h
  · obtain rfl := Except.ok.inj h
    exact hback ‹_›
  · cases h

theorem map_toValue_of_mapM_requirePart {items : List Value} {parts : List α}
    (h : items.mapM (requirePart ofValue? kind field) = .ok parts) : parts.map toValue = items := by
  induction items generalizing parts with
  | nil =>
    obtain rfl := Except.ok.inj h
    rfl
  | cons v items ih =>
    rw [List.mapM_cons] at h
    obtain ⟨a, ha, h⟩ := exists_of_bind_eq_ok h
    obtain ⟨as, has, h⟩ := exists_of_bind_eq_ok h
    obtain rfl := Except.ok.inj h
    rw [List.map_cons, toValue_of_requirePart hback ha, ih has]

theorem admits_of_requireParts {kinds : List NodeKind}
    (hkinds : ∀ a, (toValue a).nodeKind?.any kinds.contains = true) {parts : List α}
    (hv : v.WellFormed) (h : requireParts ofValue? kind field v = .ok parts) :
    (FieldRule.parts kinds).Admits (.tuple (parts.map toValue)) := by
  unfold requireParts at h
  split at h
  case h_2 => cases h
  rename_i items hitems
  refine ⟨by simpa [FieldRule.holds] using fun a _ => hkinds a, .tuple ?_⟩
  rw [map_toValue_of_mapM_requirePart hback h]
  exact hv.of_mem_items hitems

theorem admits_of_optionalPart {part : NodeKind} (hkind : ∀ a, (toValue a).nodeKind? = some part)
    {a : Option α} (hv : v.WellFormed)
    (h : optionalPart (requirePart ofValue? kind field) v = .ok a) :
    (FieldRule.optionalPart part).Admits (optionalValue (a.map toValue)) := by
  unfold optionalPart at h
  split at h
  · obtain rfl := Except.ok.inj h
    exact ⟨rfl, .plain rfl⟩
  · obtain ⟨b, hb, rfl⟩ := exists_of_map_eq_ok h
    have hb : toValue b = v := toValue_of_requirePart hback hb
    rw [Option.map_some, optionalValue, Option.getD_some, hb]
    exact ⟨FieldRule.holds_optionalPart (hb ▸ hkind b), hv⟩

end Parts

theorem admits_actionType (a : ActionType) :
    (FieldRule.choice (ActionType.all.map ActionType.sqlText)).Admits (.text a.sqlText) :=
  ⟨by cases a <;> decide, .plain rfl⟩

theorem admits_dropAction (a : Option DropAction) :
    (FieldRule.optionalChoice (DropAction.all.map DropAction.sqlText)).Admits
      (optionalValue (a.map fun a => .text a.sqlText)) := by
  cases a with
  | none => exact ⟨rfl, .plain rfl⟩
  | some a => exact ⟨by cases a <;> decide, .plain rfl⟩

/-! ### Building from well-formed values -/

theorem wellFormed_get {args : Arguments} (hargs : ∀ a ∈ args, a.2.WellFormed) {name : String}
    {default : Value} (hdefault : default.WellFormed) : (args.get name default).WellFormed := by
  unfold Arguments.get
  cases h : args.lookup name with
  | none => exact hdefault
  | some v =>
    obtain ⟨before, after, rfl, -⟩ := List.lookup_eq_some_iff.1 h
    exact hargs (name, v) (by simp)

theorem wellFormed_noItem : (Value.tuple []).WellFormed :=
  .tuple nofun

section Build

variable {args : Arguments} (hargs : ∀ a ∈ args, a.2.WellFormed)
include hargs

theorem wellFormed_buildAction {a : ReferentialAction} (h : buildAction args = .ok a) :
    a.toValue.WellFormed := by
  obtain ⟨type, htype, h⟩ := exists_of_bind_eq_ok h
  obtain ⟨columns, hcolumns, h⟩ := exists_of_bind_eq_ok h
  obtain rfl := Except.ok.inj h
  exact .of_admits (.cons ⟨rfl, admits_actionType type⟩
    (.cons ⟨rfl, admits_of_namesOf (wellFormed_get hargs wellFormed_noItem) hcolumns⟩ .nil))

theorem wellFormed_buildForeignKey {f : ForeignKey} (h : buildForeignKey args = .ok f) :
    (Constraint.foreignKey f).toValue.WellFormed := by
  obtain ⟨refTable, htable, h⟩ := exists_of_bind_eq_ok h
  obtain ⟨columnNames, hnames, h⟩ := exists_of_bind_eq_ok h
  obtain ⟨refColumns, hcolumns, h⟩ := exists_of_bind_eq_ok h
  obtain ⟨onUpdate, hupdate, h⟩ := exists_of_bind_eq_ok h
  obtain ⟨onDelete, hdelete, h⟩ := exists_of_bind_eq_ok h
  obtain rfl := Except.ok.inj h
  have haction {field : String} {a : Option ReferentialAction}
      (h : optionalPart (requirePart ReferentialAction.ofValue? .foreignKey field)
        (args.get field .null) = .ok a) :
      (FieldRule.optionalPart .referentialAction).Admits
        (optionalValue (a.map ReferentialAction.toValue)) :=
    admits_of_optionalPart ReferentialAction.toValue_of_ofValue? (fun _ => rfl)
      (wellFormed_get hargs (.plain rfl)) h
  exact .of_admits
    (.cons ⟨rfl, admits_of_namesOf (wellFormed_get hargs wellFormed_noItem) hnames⟩
      (.cons ⟨rfl, admits_of_requireName htable⟩
        (.cons ⟨rfl, admits_of_namesOf (wellFormed_get hargs wellFormed_noItem) hcolumns⟩
          (.cons ⟨rfl, haction hupdate⟩ (.cons ⟨rfl, haction hdelete⟩ .nil)))))

theorem admits_of_requireParts_constraint {kind : NodeKind} {field : String}
    {cs : List Constraint}
    (h : requireParts Constraint.ofValue? kind field (args.get field (.tuple [])) = .ok cs) :
    (FieldRule.parts NodeKind.constraints).Admits (.tuple (cs.map Constraint.toValue)) :=
  admits_of_requireParts Constraint.toValue_of_ofValue? (fun c => by cases c <;> rfl)
    (wellFormed_get hargs wellFormed_noItem) h

theorem wellFormed_buildColumn {c : Column} (h : buildColumn args = .ok c) :
    c.toValue.WellFormed := by
  obtain ⟨name, hname, h⟩ := exists_of_bind_eq_ok h
  obtain ⟨dataType, htype, h⟩ := exists_of_bind_eq_ok h
  obtain ⟨constraints, hconstraints, h⟩ := exists_of_bind_eq_ok h
  obtain rfl := Except.ok.inj h
  exact .of_admits
    (.cons ⟨rfl, admits_of_requireName hname⟩
      (.cons ⟨rfl, admits_of_requireName htype⟩
        (.cons ⟨rfl, FieldRule.admits_free (wellFormed_get hargs (.plain rfl))⟩
          (.cons ⟨rfl, FieldRule.admits_free (wellFormed_get hargs (.plain rfl))⟩
            (.cons ⟨rfl, admits_of_requireParts_constraint hargs hconstraints⟩ .nil)))))

theorem wellFormed_buildCreateTable {t : CreateTable} (h : buildCreateTable args = .ok t) :
    t.toValue.WellFormed := by
  obtain ⟨tableName, hname, h⟩ := exists_of_bind_eq_ok h
  obtain ⟨columns, hcolumns, h⟩ := exists_of_bind_eq_ok h
  obtain ⟨constraints, hconstraints, h⟩ := exists_of_bind_eq_ok h
  obtain rfl := Except.ok.inj h
  have hcolumns : (FieldRule.parts [.column]).Admits (.tuple (columns.map Column.toValue)) :=
    admits_of_requireParts Column.toValue_of_ofValue? (fun _ => rfl)
      (wellFormed_get hargs wellFormed_noItem) hcolumns
  exact .of_admits
    (.cons ⟨rfl, admits_of_requireName hname⟩
      (.cons ⟨rfl, FieldRule.admits_free (wellFormed_get hargs (.plain rfl))⟩
        (.cons ⟨rfl, hcolumns⟩
          (.cons ⟨rfl, admits_of_requireParts_constraint hargs hconstraints⟩ .nil))))

theorem wellFormed_buildDropTable {d : DropTable} (h : buildDropTable args = .ok d) :
    d.toValue.WellFormed := by
  obtain ⟨tableNames, hnames, h⟩ := exists_of_bind_eq_ok h
  obtain ⟨action, haction, h⟩ := exists_of_bind_eq_ok h
  obtain rfl := Except.ok.inj h
  exact .of_admits
    (.cons ⟨rfl, admits_of_namesOf (wellFormed_get hargs wellFormed_noItem) hnames⟩
      (.cons ⟨rfl, FieldRule.admits_free (wellFormed_get hargs (.plain rfl))⟩
        (.cons ⟨rfl, admits_dropAction action⟩ .nil)))

/-- A node that is built from well-formed values is well formed, and of the kind asked for. -/
theorem wellFormed_build {serial : Nat} {kind : NodeKind} {n : Node}
    (h : build serial kind args = .ok n) : n.toValue.WellFormed ∧ n.kind = kind := by
  unfold build at h
  split at h
  · cases h
  cases kind with
  | check =>
    obtain ⟨e, he, rfl⟩ := exists_of_map_eq_ok h
    exact ⟨.of_admits (.cons ⟨rfl, admits_of_requireName he⟩ .nil), rfl⟩
  | foreignKey =>
    obtain ⟨f, hf, rfl⟩ := exists_of_map_eq_ok h
    exact ⟨wellFormed_buildForeignKey hargs hf, rfl⟩
  | primaryKey =>
    obtain ⟨names, hnames, rfl⟩ := exists_of_map_eq_ok h
    have hnames := admits_of_namesOf (wellFormed_get hargs wellFormed_noItem) hnames
    exact ⟨.of_admits (.cons ⟨rfl, hnames⟩ .nil), rfl⟩
  | unique =>
    obtain ⟨names, hnames, rfl⟩ := exists_of_map_eq_ok h
    have hnames := admits_of_namesOf (wellFormed_get hargs wellFormed_noItem) hnames
    have hflag : FieldRule.free.Admits (args.get "nulls_distinct" (.bool true)) :=
      FieldRule.admits_free (wellFormed_get hargs (.plain rfl))
    exact ⟨.of_admits (.cons ⟨rfl, hnames⟩ (.cons ⟨rfl, hflag⟩ .nil)), rfl⟩
  | referentialAction =>
    obtain ⟨a, ha, rfl⟩ := exists_of_map_eq_ok h
    exact ⟨wellFormed_buildAction hargs ha, rfl⟩
  | column =>
    obtain ⟨c, hc, rfl⟩ := exists_of_map_eq_ok h
    exact ⟨wellFormed_buildColumn hargs hc, rfl⟩
  | createTable =>
    obtain ⟨t, ht, rfl⟩ := exists_of_map_eq_ok h
    exact ⟨wellFormed_buildCreateTable hargs ht, rfl⟩
  | dropTable =>
    obtain ⟨d, hd, rfl⟩ := exists_of_map_eq_ok h
    exact ⟨wellFormed_buildDropTable hargs hd, rfl⟩
  | bareStatement =>
    obtain rfl := Except.ok.inj h
    exact ⟨.plain rfl, rfl⟩
  | bareExpression =>
    obtain rfl := Except.ok.inj h
    exact ⟨.plain rfl, rfl⟩

end Build

/-! ### Building a node again -/

section Rebuild

variable {kind : NodeKind} {field : String}

theorem requireName_text {s : String} (h : FieldRule.text.holds (.text s) = true) :
    requireName kind field (.text s) = .ok s := by
  have hblank : Text.isBlank s = false := by simpa [FieldRule.holds] using h
  simp [requireName, Value.text?, hblank]

theorem requireParts_map {α : Type} {toValue : α → Value} {ofValue? : Value → Option α}
    (h : ∀ a, ofValue? (toValue a) = some a) (parts : List α) :
    requireParts ofValue? kind field (.tuple (parts.map toValue)) = .ok parts := by
  show (parts.map toValue).mapM (requirePart ofValue? kind field) = .ok parts
  induction parts with
  | nil => rfl
  | cons a parts ih =>
    have ha : requirePart ofValue? kind field (toValue a) = .ok a := by rw [requirePart, h]
    rw [List.map_cons, List.mapM_cons, ha, ih]
    rfl

theorem optionalPart_action (a : Option ReferentialAction) :
    optionalPart (requirePart ReferentialAction.ofValue? kind field)
      (optionalValue (a.map ReferentialAction.toValue)) = .ok a := by
  cases a with
  | none => rfl
  | some a =>
    show (requirePart ReferentialAction.ofValue? kind field a.toValue).map some = .ok (some a)
    rw [requirePart, ReferentialAction.ofValue?_toValue]
    rfl

theorem optionalPart_dropAction (choices : List String) (a : Option DropAction) :
    optionalPart (requireChoice DropAction.ofText? choices kind field)
      (optionalValue (a.map fun a => .text a.sqlText)) = .ok a := by
  cases a with
  | none => rfl
  | some a => cases a <;> rfl

theorem buildForeignKey_fields {f : ForeignKey}
    (htable : FieldRule.text.holds (.text f.refTable) = true) :
    buildForeignKey (Node.constraint (.foreignKey f)).fields = .ok f := by
  show (do
    let refTable ← requireName .foreignKey "ref_table" (.text f.refTable)
    let columnNames ← namesOf (.tuple f.columnNames)
    let refColumns ← namesOf (.tuple f.refColumns)
    let onUpdate ← optionalPart (requirePart ReferentialAction.ofValue? .foreignKey "on_update")
      (optionalValue (f.onUpdate.map ReferentialAction.toValue))
    let onDelete ← optionalPart (requirePart ReferentialAction.ofValue? .foreignKey "on_delete")
      (optionalValue (f.onDelete.map ReferentialAction.toValue))
    return { f with columnNames, refTable, refColumns, onUpdate, onDelete }) = _
  rw [requireName_text htable, optionalPart_action, optionalPart_action]
  rfl

theorem buildAction_fields (a : ReferentialAction) :
    buildAction (Node.action a).fields = .ok a := by
  obtain ⟨type, columns⟩ := a
  cases type <;> rfl

theorem buildColumn_fields {c : Column} (hname : FieldRule.text.holds (.text c.name) = true)
    (htype : FieldRule.text.holds (.text c.dataType) = true) :
    buildColumn (Node.column c).fields = .ok c := by
  show (do
    let name ← requireName .column "name" (.text c.name)
    let dataType ← requireName .column "data_type" (.text c.dataType)
    let constraints ← requireParts Constraint.ofValue? .column "constraints"
      (.tuple (c.constraints.map Constraint.toValue))
    return { c with name, dataType, constraints }) = _
  rw [requireName_text hname, requireName_text htype, requireParts_map Constraint.ofValue?_toValue]
  rfl

theorem buildCreateTable_fields {t : CreateTable}
    (hname : FieldRule.text.holds (.text t.tableName) = true) :
    buildCreateTable (Node.createTable t).fields = .ok t := by
  show (do
    let tableName ← requireName .createTable "table_name" (.text t.tableName)
    let columns ← requireParts Column.ofValue? .createTable "columns"
      (.tuple (t.columns.map Column.toValue))
    let constraints ← requireParts Constraint.ofValue? .createTable "constraints"
      (.tuple (t.constraints.map Constraint.toValue))
    return { t with tableName, columns, constraints }) = _
  rw [requireName_text hname, requireParts_map Column.ofValue?_toValue,
    requireParts_map Constraint.ofValue?_toValue]
  rfl

theorem buildDropTable_fields (d : DropTable) :
    buildDropTable (Node.dropTable d).fields = .ok d := by
  show (do
    let tableNames ← namesOf (.tuple d.tableNames)
    let action ← optionalPart (requireChoice DropAction.ofText?
      (DropAction.all.map DropAction.sqlText) .dropTable "action")
      (optionalValue (d.action.map fun a : DropAction => .text a.sqlText))
    return { d with tableNames, action }) = _
  rw [optionalPart_dropAction]
  rfl

/-- A well-formed node with fields is built again from its own fields. -/
theorem build_fields {n : Node} (h : n.toValue.WellFormed) (hfields : n.isBare = false)
    (serial : Nat) : build serial n.kind n.fields = .ok n := by
  -- the names of the fields fit, so all that is left is the builder of the kind
  cases n with
  | constraint c =>
    cases c with
    | check c =>
      obtain _ | ⟨⟨-, htext⟩, -⟩ := h.rules
      show (requireName .check "expression" (.text c.expression)).map _ = _
      rw [requireName_text htext]
      rfl
    | foreignKey f =>
      obtain _ | ⟨-, _ | ⟨⟨-, htable⟩, -⟩⟩ := h.rules
      show (buildForeignKey (Node.constraint (.foreignKey f)).fields).map _ = _
      rw [buildForeignKey_fields htable]
      rfl
    | primaryKey p => rfl
    | unique u => rfl
  | action a =>
    show (buildAction (Node.action a).fields).map _ = _
    rw [buildAction_fields]
    rfl
  | column c =>
    obtain _ | ⟨⟨-, hname⟩, _ | ⟨⟨-, htype⟩, -⟩⟩ := h.rules
    show (buildColumn (Node.column c).fields).map _ = _
    rw [buildColumn_fields hname htype]
    rfl
  | createTable t =>
    obtain _ | ⟨⟨-, hname⟩, -⟩ := h.rules
    show (buildCreateTable (Node.createTable t).fields).map _ = _
    rw [buildCreateTable_fields hname]
    rfl
  | dropTable d =>
    show (buildDropTable (Node.dropTable d).fields).map _ = _
    rw [buildDropTable_fields]
    rfl
  | bareStatement i => cases hfields
  | bareExpression i => cases hfields

end Rebuild

end Node

end SqlDialect
