import SqlDialect.Proofs.Undated

/-!
# Layers that do not interfere

What rendering a node asks an engine for are the forms of the slots that it visits
(`Visitor.Visits`): the slot of the node, and those of its parts if the node has a form of its own,
up to the first part that fails.  Engines that agree on these slots render the node to the same
outcome, but for the versions that omissions name (`Visitor.alike_draft`).

`form?_insert` is what a further layer does to one slot, and `render_insert_layer` puts the two
together: a layer that comes with a later version, or that has no form for any slot that is visited,
changes nothing.
-/

namespace SqlDialect

open Draft (Alike read reached)

/-! ### Slots that are visited -/

/-- Whether a form is fixed keywords. -/
def Form.isLiteral {slot : Slot} : Form slot → Bool
  | .literal _ _ => true
  | _ => false

/-- The parts that a node visits at a position, in order.  A foreign key that is rejected for its own
names visits none. -/
def Node.parts : Node → Position → List (Node × Position)
  | .constraint (.foreignKey f), .table =>
    if Unnamed f.columnNames ∨ Unnamed f.refColumns then []
    else f.actions.map fun a => (.action a, .clause)
  | .constraint (.foreignKey f), .column =>
    if Unnamed f.refColumns then [] else f.actions.map fun a => (.action a, .clause)
  | .column c, .clause => c.constraints.map fun k => (.constraint k, .column)
  | .createTable c, .statement =>
    c.columns.map (fun column => (.column column, .clause)) ++
      c.constraints.map fun k => (.constraint k, .table)
  | _, _ => []

namespace Visitor

/-- Whether rendering a part fails. -/
def fails (v : Visitor) (q : Node × Position) : Bool :=
  (v.render q.1 q.2).outcome.isFailure

/-- Rendering a node at a position asks for the form of a slot. -/
inductive Visits (v : Visitor) : Node → Position → Slot → Prop
  | own {n : Node} {p : Position} {slot : Slot} (h : Slot.of? n.kind p = some slot) :
    v.Visits n p slot
  | part {n : Node} {p : Position} {slot visited : Slot} {form : Form slot} {q : Node × Position}
    (hslot : Slot.of? n.kind p = some slot) (hform : v.target.form? slot = some form)
    (hown : form.isLiteral = false) (hq : q ∈ reached v.fails (n.parts p))
    (h : v.Visits q.1 q.2 visited) : v.Visits n p visited

/-- A target has the same forms as that of a visitor for all slots that rendering a node visits. -/
def Agrees (v : Visitor) (t : Target) (n : Node) (p : Position) : Prop :=
  ∀ slot, v.Visits n p slot → t.form? slot = v.target.form? slot

variable {v : Visitor} {t : Target} {n : Node} {p : Position}

theorem Agrees.part (h : v.Agrees t n p) {slot : Slot} {form : Form slot}
    (hslot : Slot.of? n.kind p = some slot) (hform : v.target.form? slot = some form)
    (hown : form.isLiteral = false) {q : Node × Position} (hq : q ∈ reached v.fails (n.parts p)) :
    v.Agrees t q.1 q.2 :=
  fun visited hvisited => h visited (.part hslot hform hown hq hvisited)

/-- A part that fails is no fragment that is read to its end. -/
theorem not_complete_fragment_of_fails {q : Node × Position} (h : v.fails q = true) :
    (read v.strategy.skipUnsupported (.fragment (v.target.draft q.1 q.2))).ending ≠ .complete := by
  intro hcomplete
  obtain ⟨hend, hjoinable⟩ := Draft.complete_fragment_iff.1 hcomplete
  rw [fails, render_outcome, outcome, outcomeOf_complete hend hjoinable] at h
  cases h

theorem not_complete_of_fails {q : Node × Position} (h : v.fails q = true)
    (hplain : Draft.Plain (v.target.draft q.1 q.2)) :
    (read v.strategy.skipUnsupported (v.target.draft q.1 q.2)).ending ≠ .complete := by
  have hfragment := not_complete_fragment_of_fails h
  rwa [hplain.fragment_eq] at hfragment

end Visitor

/-! ### Engines that agree on them -/

namespace Target

open Draft

/-- A target with other layers. -/
def withLayers (t : Target) (layers : List Layer) : Target :=
  { t with engine := { t.engine with layers } }

variable {t : Target} {layers : List Layer} {lenient : Bool}

theorem alike_lack (construct : Node) (f : Feature) :
    Alike (read lenient (t.lack construct f))
      (read lenient ((t.withLayers layers).lack construct f)) :=
  .leaveOut rfl

theorem alike_missing (construct : Node) (slot : Slot) :
    Alike (read lenient (t.missing construct slot))
      (read lenient ((t.withLayers layers).missing construct slot)) :=
  .leaveOut rfl

theorem alike_withNames {construct : Node} {list : NameList} {names : List Value}
    {k k' : List String → Draft}
    (h : ¬ Unnamed names → Alike (read lenient (k (textsOf names)))
      (read lenient (k' (textsOf names)))) :
    Alike (read lenient (withNames construct list names k))
      (read lenient (withNames construct list names k')) := by
  by_cases hnames : Unnamed names
  · obtain ⟨cause, hcause⟩ := Option.ne_none_iff_exists'.1
      (mt (list.cause?_eq_none_iff names).1 (not_not_intro hnames))
    rw [withNames_eq, withNames_eq, hcause]
    exact .refl _
  · rw [withNames_of_named hnames, withNames_of_named hnames]
    exact h hnames

theorem alike_draftAction (a : ReferentialAction)
    (h : (t.withLayers layers).form? .action = t.form? .action) :
    Alike (read lenient (t.draftAction a)) (read lenient ((t.withLayers layers).draftAction a)) := by
  unfold draftAction
  rw [h]
  cases t.form? .action with
  | none => exact alike_missing _ _
  | some form =>
    cases form with
    | literal slot text => exact .refl _
    | actionAlone =>
      exact .append_left _ (.ite (.refl _) (alike_withNames fun _ => alike_lack _ _))
    | actionWithColumns =>
      exact .append_left _ (.ite (.refl _)
        (alike_withNames fun _ => .ite (.refl _) (alike_lack _ _)))

end Target

namespace Visitor

open Draft

variable {v : Visitor} {layers : List Layer}

/-- A clause with its words reads alike if its action does. -/
theorem alike_draftClause (words : String) {a? : Option ReferentialAction}
    (h : ∀ a, a? = some a → v.Agrees (v.target.withLayers layers) (.action a) .clause)
    (lenient : Bool) :
    Alike (read lenient (v.target.draftClause words a?))
      (read lenient ((v.target.withLayers layers).draftClause words a?)) := by
  cases a? with
  | none => exact .refl _
  | some a => exact .append_left _ (Target.alike_draftAction a (h a rfl _ (.own rfl)))

/-- A foreign key's actions read alike if those that are reached do. -/
theorem alike_draftReferences (f : ForeignKey)
    (h : ¬ Unnamed f.refColumns →
      ∀ q ∈ reached v.fails (f.actions.map fun a => (Node.action a, Position.clause)),
        v.Agrees (v.target.withLayers layers) q.1 q.2) :
    Alike (read v.strategy.skipUnsupported (v.target.draftReferences f))
      (read v.strategy.skipUnsupported ((v.target.withLayers layers).draftReferences f)) := by
  refine Target.alike_withNames fun hnamed => ?_
  have h := h hnamed
  rw [ForeignKey.actions] at h
  have hupdate : ∀ a, f.onUpdate = some a →
      v.Agrees (v.target.withLayers layers) (.action a) .clause := by
    intro a ha
    rw [ha] at h
    exact h (.action a, .clause) List.mem_cons_self
  refine (Alike.append_left _ (alike_draftClause _ hupdate _)).append fun hcomplete =>
    alike_draftClause _ (fun b hb => ?_) _
  rw [hb] at h
  cases ha : f.onUpdate with
  | none =>
    rw [ha] at h
    exact h (.action b, .clause) List.mem_cons_self
  | some a =>
    -- the action on update was read to its end, so the one on delete is reached
    rw [ha] at h hcomplete
    have hpass : ¬ v.fails (.action a, .clause) = true := fun hfails =>
      not_complete_of_fails hfails (v.target.plain_draftAction a)
        (complete_append_iff.1 (complete_append_iff.1 hcomplete).2).2
    have hreached := h (.action b, .clause)
    rw [List.map_append, Option.toList_some, Option.toList_some, List.map_singleton,
      List.map_singleton, List.singleton_append, reached, if_neg hpass] at hreached
    exact hreached (List.mem_cons_of_mem _ List.mem_cons_self)

/-- The constraints of a table. -/
theorem alike_draftTableConstraint (c : Constraint)
    (h : v.Agrees (v.target.withLayers layers) (.constraint c) .table) :
    Alike (read v.strategy.skipUnsupported (v.target.draftTableConstraint c))
      (read v.strategy.skipUnsupported ((v.target.withLayers layers).draftTableConstraint c)) := by
  cases c with
  | check c =>
    rw [Target.draftTableConstraint, Target.draftTableConstraint, Target.draftTableCheck,
      Target.draftTableCheck, h _ (.own rfl)]
    cases v.target.form? .tableCheck with
    | none => exact Target.alike_missing _ _
    | some form => cases form <;> exact .refl _
  | primaryKey p =>
    rw [Target.draftTableConstraint, Target.draftTableConstraint, Target.draftTablePrimaryKey,
      Target.draftTablePrimaryKey, h _ (.own rfl)]
    cases v.target.form? .tablePrimaryKey with
    | none => exact Target.alike_missing _ _
    | some form => cases form <;> exact .refl _
  | unique u =>
    rw [Target.draftTableConstraint, Target.draftTableConstraint, Target.draftTableUnique,
      Target.draftTableUnique, h _ (.own rfl)]
    cases v.target.form? .tableUnique with
    | none => exact Target.alike_missing _ _
    | some form =>
      cases form with
      | literal slot text => exact .refl _
      | tableUnique =>
        exact Target.alike_withNames fun _ =>
          (Alike.append_left _ (.ite (.refl _) (Target.alike_lack _ _))).append_right _
      | tableUniqueNulls => exact .refl _
  | foreignKey f =>
    rw [Target.draftTableConstraint, Target.draftTableConstraint, Target.draftTableForeignKey,
      Target.draftTableForeignKey, h _ (.own rfl)]
    cases hform : v.target.form? .tableForeignKey with
    | none => exact Target.alike_missing _ _
    | some form =>
      cases form with
      | literal slot text => exact .refl _
      | tableForeignKey =>
        refine Target.alike_withNames fun hcolumns => Target.alike_withNames fun hreferenced =>
          .append_left _ (alike_draftReferences f fun _ q hq => ?_)
        refine h.part rfl hform rfl ?_
        rw [Node.parts, if_neg (not_or.2 ⟨hcolumns, hreferenced⟩)]
        exact hq

/-- The constraints of a column. -/
theorem alike_draftColumnConstraint (c : Constraint)
    (h : v.Agrees (v.target.withLayers layers) (.constraint c) .column) :
    Alike (read v.strategy.skipUnsupported (v.target.draftColumnConstraint c))
      (read v.strategy.skipUnsupported
        ((v.target.withLayers layers).draftColumnConstraint c)) := by
  cases c with
  | check c =>
    rw [Target.draftColumnConstraint, Target.draftColumnConstraint, Target.draftColumnCheck,
      Target.draftColumnCheck, h _ (.own rfl)]
    cases v.target.form? .columnCheck with
    | none => exact Target.alike_missing _ _
    | some form => cases form <;> exact .refl _
  | primaryKey p =>
    rw [Target.draftColumnConstraint, Target.draftColumnConstraint, Target.draftColumnPrimaryKey,
      Target.draftColumnPrimaryKey, h _ (.own rfl)]
    cases v.target.form? .columnPrimaryKey with
    | none => exact Target.alike_missing _ _
    | some form => cases form <;> exact .refl _
  | unique u =>
    rw [Target.draftColumnConstraint, Target.draftColumnConstraint, Target.draftColumnUnique,
      Target.draftColumnUnique, h _ (.own rfl)]
    cases v.target.form? .columnUnique with
    | none => exact Target.alike_missing _ _
    | some form =>
      cases form with
      | literal slot text => exact .refl _
      | columnUnique => exact .append_left _ (.ite (.refl _) (Target.alike_lack _ _))
      | columnUniqueNulls => exact .refl _
  | foreignKey f =>
    rw [Target.draftColumnConstraint, Target.draftColumnConstraint, Target.draftColumnForeignKey,
      Target.draftColumnForeignKey, h _ (.own rfl)]
    cases hform : v.target.form? .columnForeignKey with
    | none => exact Target.alike_missing _ _
    | some form =>
      cases form with
      | literal slot text => exact .refl _
      | columnForeignKey =>
        refine .append_left _ (alike_draftReferences f fun hreferenced q hq => ?_)
        refine h.part rfl hform rfl ?_
        rw [Node.parts, if_neg hreferenced]
        exact hq

theorem alike_draftColumn (c : Column)
    (h : v.Agrees (v.target.withLayers layers) (.column c) .clause) :
    Alike (read v.strategy.skipUnsupported (v.target.draftColumn c))
      (read v.strategy.skipUnsupported ((v.target.withLayers layers).draftColumn c)) := by
  rw [Target.draftColumn, Target.draftColumn, h _ (.own rfl)]
  cases hform : v.target.form? .column with
  | none => exact Target.alike_missing _ _
  | some form =>
    cases form with
    | literal slot text => exact .refl _
    | column =>
      have hparts (t : Target) : c.constraints.flatMap t.draftColumnConstraint =
          ((Node.column c).parts .clause).flatMap fun q => t.draft q.1 q.2 := by
        rw [Node.parts, List.flatMap_map]
        rfl
      rw [hparts, hparts]
      refine .append_left _ (.flatMap v.fails (fun q hq hfails => ?_) fun q hq => ?_)
      · obtain ⟨k, -, rfl⟩ := List.mem_map.1 hq
        exact not_complete_of_fails hfails (v.target.plain_draftColumnConstraint k)
      · have hagrees := h.part rfl hform rfl hq
        obtain ⟨k, -, rfl⟩ := List.mem_map.1 (mem_of_mem_reached hq)
        exact alike_draftColumnConstraint k hagrees

theorem alike_draftCreateTable (c : CreateTable)
    (h : v.Agrees (v.target.withLayers layers) (.createTable c) .statement) :
    Alike (read v.strategy.skipUnsupported (v.target.draftCreateTable c))
      (read v.strategy.skipUnsupported ((v.target.withLayers layers).draftCreateTable c)) := by
  rw [Target.draftCreateTable, Target.draftCreateTable, h _ (.own rfl)]
  cases hform : v.target.form? .createTable with
  | none => exact Target.alike_missing _ _
  | some form =>
    cases form with
    | literal slot text => exact .refl _
    | createTable =>
      have hparts (t : Target) :
          (c.columns.map (fun column => fragment (t.draftColumn column)) ++
            c.constraints.map fun k => fragment (t.draftTableConstraint k)) =
          ((Node.createTable c).parts .statement).map fun q => fragment (t.draft q.1 q.2) := by
        rw [Node.parts, List.map_append, List.map_map, List.map_map]
        rfl
      dsimp only
      rw [hparts, hparts]
      refine (Alike.append_left _ (.commaSeparated v.fails
        (fun q _ hfails => not_complete_fragment_of_fails hfails) (fun q hq => ?_) _)).append_right _
      have hagrees := h.part rfl hform rfl hq
      rcases List.mem_append.1 (mem_of_mem_reached hq) with hcolumn | hconstraint
      · obtain ⟨column, -, rfl⟩ := List.mem_map.1 hcolumn
        exact (alike_draftColumn column hagrees).fragment
      · obtain ⟨k, -, rfl⟩ := List.mem_map.1 hconstraint
        exact (alike_draftTableConstraint k hagrees).fragment

theorem alike_draftDropTable (d : DropTable)
    (h : v.Agrees (v.target.withLayers layers) (.dropTable d) .statement) (lenient : Bool) :
    Alike (read lenient (v.target.draftDropTable d))
      (read lenient ((v.target.withLayers layers).draftDropTable d)) := by
  rw [Target.draftDropTable, Target.draftDropTable, h _ (.own rfl)]
  cases v.target.form? .dropTable with
  | none => exact Target.alike_missing _ _
  | some form =>
    cases form with
    | literal slot text => exact .refl _
    | dropFirst =>
      exact Target.alike_withNames fun _ =>
        (((Alike.append_left _ (.ite (Target.alike_lack _ _) (.refl _))).append_right
          _).append_right _).append_right _
    | dropEvery =>
      exact Target.alike_withNames fun _ =>
        (((Alike.append_left _ (.ite (Target.alike_lack _ _) (.refl _))).append_right
          _).append_right _).append_right _

/-- A node reads alike on engines that agree on the slots that are visited. -/
theorem alike_draft (n : Node) (p : Position) (h : v.Agrees (v.target.withLayers layers) n p) :
    Alike (read v.strategy.skipUnsupported (v.target.draft n p))
      (read v.strategy.skipUnsupported ((v.target.withLayers layers).draft n p)) := by
  unfold Target.draft
  split
  · exact alike_draftCreateTable _ h
  · exact alike_draftDropTable _ h _
  · rw [Target.draftBareStatement, Target.draftBareStatement, h _ (.own rfl)]
    cases v.target.form? .statement with
    | none => exact Target.alike_missing _ _
    | some form =>
      cases form
      exact .refl _
  · exact alike_draftTableConstraint _ h
  · exact alike_draftColumnConstraint _ h
  · exact alike_draftColumn _ h
  · exact Target.alike_draftAction _ (h _ (.own rfl))
  · exact .refl _

end Visitor

/-! ### A further layer -/

/-- A layer that does not apply, or that has no form for a slot, does not change its form. -/
theorem Target.form?_insert (t : Target) {before after : List Layer}
    (hlayers : t.engine.layers = before ++ after) {l : Layer} {slot : Slot}
    (h : l.appliesTo t.version = false ∨ l.find? slot = none) :
    (t.withLayers (before ++ l :: after)).form? slot = t.form? slot := by
  unfold form? layers Engine.layersFor
  show ((before ++ l :: after).filter (·.appliesTo t.version)).reverse.findSome? (·.find? slot) = _
  rw [hlayers, List.filter_append, List.filter_append]
  by_cases happlies : l.appliesTo t.version = true
  · have hfind : l.find? slot = none := h.resolve_left (by simp [happlies])
    have hkeep : (l :: after).filter (·.appliesTo t.version) =
        [l] ++ after.filter (·.appliesTo t.version) := by simp [happlies]
    have hnone : [l].findSome? (·.find? slot) = none := by simp [hfind]
    rw [hkeep, List.reverse_append, List.reverse_append, List.reverse_append,
      List.reverse_singleton, List.findSome?_append, List.findSome?_append, List.findSome?_append,
      hnone, Option.or_none]
  · have hskip : (l :: after).filter (·.appliesTo t.version) =
        after.filter (·.appliesTo t.version) := by simp [happlies]
    rw [hskip]

namespace Visitor

/-- A visitor of an engine with other layers. -/
def withLayers (v : Visitor) (layers : List Layer) : Visitor :=
  { v with target := v.target.withLayers layers }

/-- The records of a note do not show the versions of omissions. -/
theorem noteRecord_undated (note : Draft.Note) : noteRecord note.undated = noteRecord note := by
  cases note <;> rfl

/-- Neither do the last records of a rendering. -/
theorem conclude_snd_of_alike (v : Visitor) (layers : List Layer) (s : Subject)
    {r r' : Draft.Reading} (h : Alike r r') :
    ((v.withLayers layers).conclude s r').2 = (v.conclude s r).2 := by
  have hlayers (r : Draft.Reading) :
      ((v.withLayers layers).conclude s r).2 = (v.conclude s r).2 := by
    unfold conclude
    cases r.ending <;> rfl
  -- the last record tells the ending, and of an omission its message
  have hundated (r : Draft.Reading) :
      (v.conclude s { r with ending := r.ending.undated }).2 = (v.conclude s r).2 := by
    unfold conclude
    cases r.ending <;> rfl
  have hending (e : Draft.End) :
      (v.conclude s { r with ending := e }).2 = (v.conclude s { r' with ending := e }).2 := by
    cases e <;> rfl
  rw [hlayers, ← hundated r', ← hundated r, h.ending]
  exact (hending _).symm

theorem log_eq_of_alike (v : Visitor) (layers : List Layer) (s : Subject)
    {r r' : Draft.Reading} (h : Alike r r') :
    r'.notes.map noteRecord ++ ((v.withLayers layers).conclude s r').2 =
      r.notes.map noteRecord ++ (v.conclude s r).2 := by
  have hnotes (r : Draft.Reading) :
      r.notes.map noteRecord = (r.notes.map Draft.Note.undated).map noteRecord := by
    rw [List.map_map]
    exact List.map_congr_left fun note _ => (noteRecord_undated note).symm
  rw [v.conclude_snd_of_alike layers s h, hnotes, hnotes, h.notes]

/-- **Layers that do not apply do not interfere.**  Take any engine and put one more layer anywhere
among its layers.  If the layer comes with a version after the one in use, or if it has no form for
any slot that rendering a node visits, then the node renders to the same outcome but for the versions
that omissions name, and with the same log. -/
theorem render_insert_layer (v : Visitor) {before after : List Layer}
    (hlayers : v.target.engine.layers = before ++ after) (l : Layer) (n : Node) (p : Position)
    (h : (∃ w, l.version = some w ∧ v.target.version.before w = true) ∨
      ∀ slot, v.Visits n p slot → l.find? slot = none) :
    ((v.withLayers (before ++ l :: after)).render n p).outcome.undated =
        (v.render n p).outcome.undated ∧
      ((v.withLayers (before ++ l :: after)).render n p).log = (v.render n p).log := by
  have hagrees : v.Agrees (v.target.withLayers (before ++ l :: after)) n p := by
    intro slot hvisits
    refine v.target.form?_insert hlayers ?_
    rcases h with ⟨w, hversion, hbefore⟩ | hnone
    · left
      rw [Layer.appliesTo, hversion]
      exact Version.upTo_eq_false_of_before hbefore
    · exact .inr (hnone slot hvisits)
  have halike := alike_draft n p hagrees
  constructor
  · rw [render_outcome, render_outcome]
    exact (outcomeOf_undated_of_alike rfl rfl halike).symm
  · exact v.log_eq_of_alike _ (.node n) halike

/-- A layer that writes checks changes nothing about a foreign key, whose action no layer writes. -/
theorem render_insert_layer_of_checks :
    let standard := Layer.standard.restrict [.tableForeignKey]
    let checks := Layer.standard.restrict [.tableCheck]
    let engine : Engine := ⟨"custom", [standard], [⟨[1]⟩], .double, fun _ => 1⟩
    let v : Visitor := ⟨⟨engine, ⟨[1]⟩⟩, ⟨true, .lower, false⟩⟩
    let action : ReferentialAction := ⟨.cascade, []⟩
    let key : Node := .constraint (.foreignKey
      { columnNames := [.text "a"], refTable := "u", refColumns := [.text "b"]
        onDelete := some action })
    ((v.withLayers [standard, checks]).render key .table).outcome.undated =
      .rendered "foreign key (a) references u (b) on delete "
        [⟨.action action, .form .action, "custom", ⟨[1]⟩, none⟩] := by
  intro standard checks engine v action key
  have hvisits : ∀ slot, v.Visits key .table slot → checks.find? slot = none := by
    intro slot h
    cases h with
    | own h =>
      cases h
      rfl
    | part hslot hform hown hq h =>
      obtain rfl := List.mem_singleton.1 (Draft.mem_of_mem_reached hq)
      cases h with
      | own h =>
        cases h
        rfl
      | part hslot hform hown hq h => cases hq
  have hlayers : v.target.engine.layers = [standard] ++ [] := rfl
  have h := (render_insert_layer v hlayers checks key .table (.inr hvisits)).1
  rw [List.singleton_append] at h
  rw [h]
  rfl

end Visitor

end SqlDialect
