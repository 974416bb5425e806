import SqlDialect.Proofs.Omissions
import SqlDialect.Proofs.VersionOrder

/-!
# Constructs without a form

A target that has no form for the slot of a node reports the node as a whole, with the first later
version whose layer has a form for this very slot.  The form itself is found in another way: a layer
renders a statement also in its form for any statement (`Layer.anyStatement?`).

Take an engine that declares its layers in the order of their versions (`Engine.Ascending`).  The
reported version is the first one at which the slot has a form (`Engine.IsFirstForm`) exactly if no
later layer renders the slot as any statement before one has a form of its own for it
(`Engine.OwnFormFirst`), which can fail for the two statements only.  `Visitor.missing_since_iff`
says so of whatever a rendering reports; it puts together what the search over the layers finds
(`Engine.since?_eq_some`, `Engine.since?_eq_none`) and which later layers give a slot a form
(`Engine.isSome_form?_iff`).
-/

namespace SqlDialect

/-! ### Versions one after the other -/

namespace Version

theorem upTo_self (v : Version) : v.upTo v = true := by
  rw [upTo, same_self, Bool.or_true]

theorem before_of_upTo_eq_false {v w : Version} (h : v.upTo w = false) : w.before v = true := by
  have hgt : ¬ compareParts v.parts w.parts ≠ .gt := by
    rw [← upTo_iff, h]
    exact Bool.false_ne_true
  have hlt : compareParts w.parts v.parts = .lt := by
    rw [compareParts_swap, not_not.mp hgt]
    rfl
  exact decide_eq_true hlt

end Version

/-! ### Later layers -/

/-- A layer has a form for a slot exactly if it has one of its own or one for any statement. -/
theorem Layer.isSome_find?_iff (l : Layer) (slot : Slot) :
    (l.find? slot).isSome = true ↔
      l.handles slot = true ∨ (l.anyStatement? slot).isSome = true := by
  unfold find? handles
  cases l.form? slot <;> simp

namespace Engine

variable {e : Engine} {v w : Version} {p : Layer → Bool} {slot : Slot}

/-- Layers that come with a version are declared in the order of their versions. -/
def Ascending (e : Engine) : Prop :=
  (e.layers.filterMap Layer.version).Pairwise fun v w => v.upTo w = true

/-- A layer of the engine comes with a version after another one. -/
structure IsLater (e : Engine) (v : Version) (l : Layer) (w : Version) : Prop where
  mem : l ∈ e.layers
  version : l.version = some w
  before : v.before w = true

/-- The search asks each layer for its version, if that is a later one and the layer has the
property. -/
theorem since?_eq_findSome? (e : Engine) (v : Version) (p : Layer → Bool) :
    e.since? v p = e.layers.findSome? fun l => l.version.filter fun w => v.before w && p l := by
  unfold since?
  congr 1
  funext l
  cases l.version <;> rfl

theorem IsLater.filter_eq {l : Layer} (h : e.IsLater v l w) (hp : p l = true) :
    (l.version.filter fun u => v.before u && p l) = some w := by
  rw [h.version, Option.filter_some, h.before, hp]
  rfl

/-- What the search finds comes with a layer that has the property, and no such layer comes
earlier. -/
theorem since?_eq_some (hascending : e.Ascending) (h : e.since? v p = some w) :
    (∃ l, e.IsLater v l w ∧ p l = true) ∧
      ∀ m u, e.IsLater v m u → p m = true → w.upTo u = true := by
  rw [since?_eq_findSome?] at h
  obtain ⟨before, l, after, hlayers, hl, hbefore⟩ := List.findSome?_eq_some_iff.mp h
  obtain ⟨hversion, hlater⟩ := Option.filter_eq_some_iff.mp hl
  obtain ⟨hlater, hp⟩ := Bool.and_eq_true_iff.mp hlater
  refine ⟨⟨l, ⟨by simp [hlayers], hversion, hlater⟩, hp⟩, fun m u hm hpm => ?_⟩
  have hmem := hm.mem
  rw [hlayers, List.mem_append, List.mem_cons] at hmem
  rcases hmem with hmem | rfl | hmem
  · -- the search would have stopped there
    have hnone := hbefore m hmem
    rw [hm.filter_eq hpm] at hnone
    cases hnone
  · obtain rfl : w = u := Option.some.inj (hversion.symm.trans hm.version)
    exact w.upTo_self
  · rw [Ascending, hlayers, List.filterMap_append, List.filterMap_cons_some hversion] at hascending
    have hafter := (List.pairwise_append.mp hascending).2.1
    exact (List.pairwise_cons.mp hafter).1 u (List.mem_filterMap.mpr ⟨m, hmem, hm.version⟩)

theorem since?_eq_none (h : e.since? v p = none) {l : Layer} (hl : e.IsLater v l w) :
    p l = false := by
  rw [since?_eq_findSome?] at h
  have hnone := List.findSome?_eq_none_iff.mp h l hl.mem
  by_contra hp
  rw [hl.filter_eq (Bool.not_eq_false _ ▸ hp)] at hnone
  cases hnone

/-- A slot without a form has one at a later version exactly if a later layer up to that version
has one for it. -/
theorem isSome_form?_iff (hmissing : Target.form? ⟨e, v⟩ slot = none) {u : Version} :
    (Target.form? ⟨e, u⟩ slot).isSome = true ↔
      ∃ l w, e.IsLater v l w ∧ w.upTo u = true ∧ (l.find? slot).isSome = true := by
  have hform (u : Version) : (Target.form? ⟨e, u⟩ slot).isSome = true ↔
      ∃ l ∈ e.layers, l.appliesTo u = true ∧ (l.find? slot).isSome = true := by
    simp [Target.form?, Target.layers, layersFor, and_assoc]
  -- a layer that has a form for the slot does not apply to the version without one
  have hnot : ∀ l ∈ e.layers, (l.find? slot).isSome = true → l.appliesTo v = false := by
    intro l hl hfind
    by_contra happlies
    have hsome := (hform v).mpr ⟨l, hl, Bool.not_eq_false _ ▸ happlies, hfind⟩
    rw [hmissing] at hsome
    cases hsome
  rw [hform]
  constructor
  · rintro ⟨l, hl, happlies, hfind⟩
    have hnot := hnot l hl hfind
    unfold Layer.appliesTo at happlies hnot
    cases hversion : l.version with
    | none =>
      rw [hversion] at hnot
      cases hnot
    | some w =>
      rw [hversion] at hnot happlies
      exact ⟨l, w, ⟨hl, hversion, Version.before_of_upTo_eq_false hnot⟩, happlies, hfind⟩
  · rintro ⟨l, w, hlater, hle, hfind⟩
    refine ⟨l, hlater.mem, ?_, hfind⟩
    rw [Layer.appliesTo, hlater.version]
    exact hle

/-! ### The first form -/

/-- A version is the first one after `v` at which the engine has a form for a slot; without such a
version it has none at any version of a later layer. -/
def IsFirstForm (e : Engine) (v : Version) (slot : Slot) : Option Version → Prop
  | some w =>
    (∃ l, e.IsLater v l w) ∧ (Target.form? ⟨e, w⟩ slot).isSome = true ∧
      ∀ l u, e.IsLater v l u → (Target.form? ⟨e, u⟩ slot).isSome = true → w.upTo u = true
  | none => ∀ l u, e.IsLater v l u → Target.form? ⟨e, u⟩ slot = none

/-- Where a later layer renders a slot as any statement, one up to its version has a form of its own
for the slot. -/
def OwnFormFirst (e : Engine) (v : Version) (slot : Slot) : Prop :=
  ∀ l u, e.IsLater v l u → (l.anyStatement? slot).isSome = true →
    ∃ m w, e.IsLater v m w ∧ m.handles slot = true ∧ w.upTo u = true

/-- Only the two statements are rendered in a form for any statement that is not their own. -/
theorem ownFormFirst_of_ne (hcreate : slot ≠ .createTable) (hdrop : slot ≠ .dropTable) :
    e.OwnFormFirst v slot := by
  intro l u hl hany
  by_cases hstatement : slot = .statement
  · subst hstatement
    refine ⟨l, u, hl, ?_, u.upTo_self⟩
    unfold Layer.anyStatement? at hany
    unfold Layer.handles
    cases hform : l.form? .statement with
    | none => simp [hform] at hany
    | some form => rfl
  · have hnone : slot.isStatement = false := by cases slot <;> simp_all [Slot.isStatement, Slot.position]
    rw [Layer.anyStatement?, hnone] at hany
    cases hany

/-- **The first later layer with a form of its own comes with the first version with a form exactly
if own forms come first.** -/
theorem isFirstForm_since?_iff (hascending : e.Ascending)
    (hmissing : Target.form? ⟨e, v⟩ slot = none) :
    e.IsFirstForm v slot (e.since? v fun l => l.handles slot) ↔ e.OwnFormFirst v slot := by
  have hown {l : Layer} (h : l.handles slot = true) : (l.find? slot).isSome = true :=
    (l.isSome_find?_iff slot).mpr (.inl h)
  have hany {l : Layer} (h : (l.anyStatement? slot).isSome = true) :
      (l.find? slot).isSome = true := (l.isSome_find?_iff slot).mpr (.inr h)
  cases hsince : e.since? v fun l => l.handles slot with
  | none =>
    constructor
    · intro hfirst l u hl hstatement
      have hform := (isSome_form?_iff hmissing).mpr ⟨l, u, hl, u.upTo_self, hany hstatement⟩
      rw [hfirst l u hl] at hform
      cases hform
    · intro hfirst l u hl
      by_contra hform
      obtain ⟨m, w, hm, -, hfind⟩ :=
        (isSome_form?_iff hmissing).mp (Option.isSome_iff_ne_none.mpr hform)
      have hnone := since?_eq_none hsince hm
      rcases (m.isSome_find?_iff slot).mp hfind with hhandles | hstatement
      · exact Bool.false_ne_true (hnone.symm.trans hhandles)
      · obtain ⟨k, x, hk, hhandles, -⟩ := hfirst m w hm hstatement
        exact Bool.false_ne_true ((since?_eq_none hsince hk).symm.trans hhandles)
  | some w =>
    obtain ⟨⟨l, hl, hhandles⟩, hleast⟩ := since?_eq_some hascending hsince
    constructor
    · rintro ⟨-, -, hfirst⟩ m u hm hstatement
      have hform := (isSome_form?_iff hmissing).mpr ⟨m, u, hm, u.upTo_self, hany hstatement⟩
      exact ⟨l, w, hl, hhandles, hfirst m u hm hform⟩
    · intro hfirst
      refine ⟨⟨l, hl⟩, (isSome_form?_iff hmissing).mpr ⟨l, w, hl, w.upTo_self, hown hhandles⟩, ?_⟩
      intro _ u _ hform
      obtain ⟨m, x, hm, hle, hfind⟩ := (isSome_form?_iff hmissing).mp hform
      rcases (m.isSome_find?_iff slot).mp hfind with hother | hstatement
      · exact Version.upTo_trans (hleast m x hm hother) hle
      · obtain ⟨k, y, hk, hother, hbefore⟩ := hfirst m x hm hstatement
        exact Version.upTo_trans (Version.upTo_trans (hleast k y hk hother) hbefore) hle

end Engine

/-! ### What is reported -/

namespace Target

/-- A node without a form is left out as a whole. -/
theorem draft_of_form?_eq_none {t : Target} {n : Node} {p : Position} {slot : Slot}
    (hslot : Slot.of? n.kind p = some slot) (h : t.form? slot = none) :
    t.draft n p = t.missing n slot := by
  have hsome : Slot.of? n.kind p ≠ none := by
    rw [hslot]
    exact nofun
  cases Node.stands_of_slot hsome with
  | createTable c =>
    cases hslot
    show t.draftCreateTable c = _
    rw [draftCreateTable, h]
  | dropTable d =>
    cases hslot
    show t.draftDropTable d = _
    rw [draftDropTable, h]
  | bareStatement serial =>
    cases hslot
    show t.draftBareStatement serial = _
    rw [draftBareStatement, h]
  | tableConstraint c =>
    show t.draftTableConstraint c = _
    cases c with
    | check c =>
      cases hslot
      rw [draftTableConstraint, draftTableCheck, h]
    | foreignKey f =>
      cases hslot
      rw [draftTableConstraint, draftTableForeignKey, h]
    | primaryKey p =>
      cases hslot
      rw [draftTableConstraint, draftTablePrimaryKey, h]
    | unique u =>
      cases hslot
      rw [draftTableConstraint, draftTableUnique, h]
  | columnConstraint c =>
    show t.draftColumnConstraint c = _
    cases c with
    | check c =>
      cases hslot
      rw [draftColumnConstraint, draftColumnCheck, h]
    | foreignKey f =>
      cases hslot
      rw [draftColumnConstraint, draftColumnForeignKey, h]
    | primaryKey p =>
      cases hslot
      rw [draftColumnConstraint, draftColumnPrimaryKey, h]
    | unique u =>
      cases hslot
      rw [draftColumnConstraint, draftColumnUnique, h]
  | column c =>
    cases hslot
    show t.draftColumn c = _
    rw [draftColumn, h]
  | action a =>
    cases hslot
    show t.draftAction a = _
    rw [draftAction, h]

end Target

namespace Visitor

/-- An omission is reported: the strict rendering of a node refuses it, or the lenient one leaves it
out. -/
def Reports (v : Visitor) (n : Node) (p : Position) (o : Omission) : Prop :=
  (v.strict.render n p).outcome = .unsupported o ∨
    ∃ sql os, (v.lenient.render n p).outcome = .rendered sql os ∧ o ∈ os

/-- What is reported is an omission that the target makes. -/
theorem Reports.warrants {v : Visitor} {n : Node} {p : Position} {o : Omission}
    (h : v.Reports n p o) : v.target.Warrants (n.MalformedAt p) (.leaveOut o) := by
  rcases h with hstrict | ⟨sql, os, hlenient, ho⟩
  · exact warrants_of_unsupported hstrict
  · exact warrants_of_mem_omitted hlenient ho

/-- **When the version reported of a missing construct is the first one with a form.**  On an engine
whose layers are declared in the order of their versions, take a slot without a form.  A node of the
slot is refused as a whole by the strict rendering, and left out as a whole by the lenient one; a
node that has parts of the slot reports them in the same way.  The version that is reported is that
of the first later layer at which the engine has a form for the slot, and none is reported only if
there is no such layer, exactly if own forms come first.  They do but for the two statements. -/
theorem missing_since_iff (v : Visitor) (hascending : v.target.engine.Ascending) {slot : Slot}
    (hmissing : v.target.form? slot = none) :
    (∀ n p, Slot.of? n.kind p = some slot → ∃ o, o.construct = n ∧ o.gap = .form slot ∧
      (v.strict.render n p).outcome = .unsupported o ∧
      (v.lenient.render n p).outcome = .rendered "" [o]) ∧
    (∀ n p o, v.Reports n p o → o.gap = .form slot →
      o.notice.since = o.since.map Version.text ∧
      (v.target.engine.IsFirstForm v.target.version slot o.since ↔
        v.target.engine.OwnFormFirst v.target.version slot)) ∧
    (slot ≠ .createTable → slot ≠ .dropTable →
      v.target.engine.OwnFormFirst v.target.version slot) := by
  refine ⟨?_, ?_, Engine.ownFormFirst_of_ne⟩
  · intro n p hslot
    refine ⟨v.target.omission n (.form slot), rfl, rfl, ?_, ?_⟩
    · rw [strict_outcome, Target.draft_of_form?_eq_none hslot hmissing]
      rfl
    · rw [lenient_outcome, Target.draft_of_form?_eq_none hslot hmissing]
      rfl
  · intro n p o h hgap
    refine ⟨rfl, ?_⟩
    cases h.warrants with
    | lack construct f => cases hgap
    | missing construct hform =>
      cases hgap
      exact Engine.isFirstForm_since?_iff hascending hmissing

/-- Version 3 renders any statement; before it, version 2 begins to create tables, and is reported
of a table creation that version 1 is asked for. -/
theorem missing_since_own_form_first :
    let creating : Layer := { Layer.standard.restrict [.createTable] with version := some ⟨[2]⟩ }
    let rendering : Layer :=
      { Layer.empty.withLiteral .statement "statement" with version := some ⟨[3]⟩ }
    let e : Engine :=
      ⟨"custom", [.empty, creating, rendering], [⟨[1]⟩, ⟨[2]⟩, ⟨[3]⟩], .double, fun _ => 1⟩
    let v : Visitor := ⟨⟨e, ⟨[1]⟩⟩, {}⟩
    let n : Node := .createTable { tableName := "t" }
    e.Ascending ∧ v.target.form? .createTable = none ∧
      ∃ o, v.Reports n .statement o ∧ o.gap = .form .createTable ∧ o.since = some ⟨[2]⟩ ∧
        e.IsFirstForm ⟨[1]⟩ .createTable (some ⟨[2]⟩) := by
  intro creating rendering e v n
  have hascending : e.Ascending := by
    unfold Engine.Ascending
    decide
  have hmissing : v.target.form? .createTable = none := rfl
  have hown : e.OwnFormFirst ⟨[1]⟩ .createTable := by
    intro l u hl hstatement
    have hcreating : e.IsLater ⟨[1]⟩ creating ⟨[2]⟩ :=
      ⟨List.mem_cons_of_mem _ List.mem_cons_self, rfl, rfl⟩
    refine ⟨creating, ⟨[2]⟩, hcreating, rfl, ?_⟩
    obtain ⟨hmem, hversion, -⟩ := hl
    rcases List.mem_cons.mp hmem with rfl | hmem
    · cases hversion
    rcases List.mem_pair.mp hmem with rfl | rfl
    · cases hversion
      rfl
    · cases hversion
      rfl
  obtain ⟨hreported, hfirst, -⟩ := missing_since_iff v hascending hmissing
  obtain ⟨o, hconstruct, hgap, hrefused, -⟩ := hreported n .statement rfl
  have hsince : o.since = some ⟨[2]⟩ := by
    injection hrefused with ho
    rw [← ho]
    rfl
  refine ⟨hascending, hmissing, o, .inl hrefused, hgap, hsince, ?_⟩
  rw [← hsince]
  exact (hfirst n .statement o (.inl hrefused) hgap).2.mpr hown

/-- **The reported version is not always the first one with a form**: version 1 reports none for a
table creation, which version 2 renders as any statement. -/
theorem not_missing_since_first_form :
    ¬ ∀ (v : Visitor) (given : Value), Target.of v.target.engine given = .ok v.target →
      v.target.engine.Ascending → ∀ slot, v.target.form? slot = none →
        ∀ n p o, v.Reports n p o → o.gap = .form slot →
          v.target.engine.IsFirstForm v.target.version slot o.since := by
  intro h
  let rendering : Layer :=
    { Layer.empty.withLiteral .statement "statement" with version := some ⟨[2]⟩ }
  let e : Engine := ⟨"custom", [.empty, rendering], [⟨[1]⟩, ⟨[2]⟩], .double, fun _ => 1⟩
  let v : Visitor := ⟨⟨e, ⟨[1]⟩⟩, {}⟩
  let n : Node := .createTable { tableName := "t" }
  have hascending : e.Ascending := by
    unfold Engine.Ascending
    decide
  have hrefused : (v.strict.render n .statement).outcome =
      .unsupported ⟨n, .form .createTable, "custom", ⟨[1]⟩, none⟩ := rfl
  have hnone := h v (.text "1") rfl hascending .createTable rfl n .statement _ (.inl hrefused) rfl
  have hlater : e.IsLater ⟨[1]⟩ rendering ⟨[2]⟩ :=
    ⟨List.mem_cons_of_mem _ List.mem_cons_self, rfl, rfl⟩
  have hform := hnone rendering ⟨[2]⟩ hlater
  cases hform

end Visitor

end SqlDialect
