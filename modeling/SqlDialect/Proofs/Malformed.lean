import SqlDialect.Proofs.Hurdles
import SqlDialect.Proofs.Strictness

/-!
# Malformed nodes

Whether a node is malformed at a position (`Node.MalformedAt`) is told from its own lists of names
and those of its parts, and from nothing about the target: the malformed nodes are those with a
defect among their hurdles (`hasDefect_hurdles`).

* Lenient rendering fails exactly at the malformed nodes, and on every built-in target with the same
  error (`lenient_fails_iff_malformedAt`).
* Strict rendering fails at a malformed node too, but with the first hurdle that the target meets,
  which need not be a defect (`strict_of_lenient_malformed`).
-/

namespace SqlDialect

/-! ### The rules -/

instance (names : List Value) : Decidable (Unnamed names) :=
  decidable_of_iff (names.isEmpty = true ∨ ∃ v ∈ names, v.isName = false) (by
    rw [Unnamed, List.isEmpty_iff])

/-- An action is malformed if one of its columns is no name. -/
def ReferentialAction.Malformed (a : ReferentialAction) : Prop :=
  ∃ v ∈ a.columns, v.isName = false

instance (a : ReferentialAction) : Decidable a.Malformed :=
  inferInstanceAs (Decidable (∃ v ∈ a.columns, v.isName = false))

theorem ReferentialAction.not_unnamed_of_cons {a : ReferentialAction} (h : ¬ a.Malformed)
    {v : Value} {rest : List Value} (hc : a.columns = v :: rest) : ¬ Unnamed (v :: rest) := by
  rw [Malformed, hc] at h
  exact fun hu => h (hu.resolve_left (List.cons_ne_nil v rest))

/-- What a foreign key says after its own columns is malformed: the referenced columns, or an
action. -/
def ForeignKey.MalformedReferences (f : ForeignKey) : Prop :=
  Unnamed f.refColumns ∨ ∃ a ∈ f.actions, a.Malformed

instance (f : ForeignKey) : Decidable f.MalformedReferences :=
  inferInstanceAs (Decidable (_ ∨ ∃ a ∈ f.actions, a.Malformed))

namespace Constraint

/-- A constraint is malformed on a table. -/
def MalformedOnTable : Constraint → Prop
  | .check _ => False
  | .foreignKey f => Unnamed f.columnNames ∨ f.MalformedReferences
  | .primaryKey p => Unnamed p.columnNames
  | .unique u => Unnamed u.columnNames

/-- A constraint is malformed on a column, where its own column names are not used. -/
def MalformedOnColumn : Constraint → Prop
  | .foreignKey f => f.MalformedReferences
  | _ => False

instance : (c : Constraint) → Decidable c.MalformedOnTable
  | .check _ => instDecidableFalse
  | .foreignKey f => inferInstanceAs (Decidable (Unnamed f.columnNames ∨ f.MalformedReferences))
  | .primaryKey p => inferInstanceAs (Decidable (Unnamed p.columnNames))
  | .unique u => inferInstanceAs (Decidable (Unnamed u.columnNames))

instance : (c : Constraint) → Decidable c.MalformedOnColumn
  | .check _ => instDecidableFalse
  | .foreignKey f => inferInstanceAs (Decidable f.MalformedReferences)
  | .primaryKey _ => instDecidableFalse
  | .unique _ => instDecidableFalse

end Constraint

/-- A column is malformed if one of its constraints is. -/
def Column.Malformed (c : Column) : Prop :=
  ∃ k ∈ c.constraints, k.MalformedOnColumn

instance (c : Column) : Decidable c.Malformed :=
  inferInstanceAs (Decidable (∃ k ∈ c.constraints, k.MalformedOnColumn))

/-- A table creation is malformed if a column or a constraint of the table is. -/
def CreateTable.Malformed (c : CreateTable) : Prop :=
  (∃ column ∈ c.columns, column.Malformed) ∨ ∃ k ∈ c.constraints, k.MalformedOnTable

instance (c : CreateTable) : Decidable c.Malformed :=
  inferInstanceAs (Decidable ((∃ column ∈ c.columns, column.Malformed) ∨
    ∃ k ∈ c.constraints, k.MalformedOnTable))

namespace Node

/-- Whether a node has a malformed part, for a node that may stand at the position. -/
def HasMalformedPart (n : Node) (p : Position) : Prop :=
  match n, p with
  | .createTable c, _ => c.Malformed
  | .dropTable d, _ => Unnamed d.tableNames
  | .constraint c, .table => c.MalformedOnTable
  | .constraint c, _ => c.MalformedOnColumn
  | .column c, _ => c.Malformed
  | .action a, _ => a.Malformed
  | .bareStatement _, _ => False
  | .bareExpression _, _ => False

/-- A node is malformed at a position if its type is not allowed there or a part is malformed. -/
def MalformedAt (n : Node) (p : Position) : Prop :=
  Slot.of? n.kind p = none ∨ n.HasMalformedPart p

instance : (n : Node) → (p : Position) → Decidable (n.HasMalformedPart p)
  | .createTable c, _ => inferInstanceAs (Decidable c.Malformed)
  | .dropTable d, _ => inferInstanceAs (Decidable (Unnamed d.tableNames))
  | .constraint c, .table => inferInstanceAs (Decidable c.MalformedOnTable)
  | .constraint c, .statement => inferInstanceAs (Decidable c.MalformedOnColumn)
  | .constraint c, .column => inferInstanceAs (Decidable c.MalformedOnColumn)
  | .constraint c, .clause => inferInstanceAs (Decidable c.MalformedOnColumn)
  | .column c, _ => inferInstanceAs (Decidable c.Malformed)
  | .action a, _ => inferInstanceAs (Decidable a.Malformed)
  | .bareStatement _, _ => instDecidableFalse
  | .bareExpression _, _ => instDecidableFalse

instance (n : Node) (p : Position) : Decidable (n.MalformedAt p) :=
  inferInstanceAs (Decidable (_ ∨ n.HasMalformedPart p))

end Node

/-! ### Defects among hurdles -/

namespace Hurdle

/-- There is a defect among hurdles. -/
def HasDefect (hs : List Hurdle) : Prop :=
  ∃ d, .defect d ∈ hs

theorem not_hasDefect_nil : ¬ HasDefect [] := by
  rintro ⟨d, hd⟩
  exact absurd hd List.not_mem_nil

theorem not_hasDefect_gap (construct : Node) (g : Gap) : ¬ HasDefect [.gap construct g] := by
  rintro ⟨d, hd⟩
  rw [List.mem_singleton] at hd
  exact Hurdle.noConfusion hd

theorem hasDefect_append (hs ks : List Hurdle) :
    HasDefect (hs ++ ks) ↔ HasDefect hs ∨ HasDefect ks := by
  unfold HasDefect
  rw [← exists_or]
  exact exists_congr fun d => List.mem_append

theorem hasDefect_flatMap {α : Type} (xs : List α) (f : α → List Hurdle) :
    HasDefect (xs.flatMap f) ↔ ∃ x ∈ xs, HasDefect (f x) := by
  constructor
  · rintro ⟨d, hd⟩
    obtain ⟨x, hx, hdx⟩ := List.mem_flatMap.mp hd
    exact ⟨x, hx, d, hdx⟩
  · rintro ⟨x, hx, d, hdx⟩
    exact ⟨d, List.mem_flatMap.mpr ⟨x, hx, hdx⟩⟩

/-- Names that have to be checked bring a defect, or let the defects of what follows through. -/
theorem hasDefect_namesHurdles (construct : Node) (list : NameList) (names : List Value)
    (rest : List Hurdle) :
    HasDefect (namesHurdles construct list names rest) ↔ Unnamed names ∨ HasDefect rest := by
  by_cases h : Unnamed names
  · have hcause : list.cause? names ≠ none := by
      rw [Ne, list.cause?_eq_none_iff, not_not]
      exact h
    obtain ⟨cause, hc⟩ := Option.ne_none_iff_exists'.mp hcause
    rw [namesHurdles, hc]
    exact ⟨fun _ => .inl h, fun _ => ⟨_, List.mem_singleton_self _⟩⟩
  · rw [namesHurdles_of_named h, or_iff_right h]

/-- There is a first defect exactly where there is one. -/
theorem firstDefect?_eq_none_iff (hs : List Hurdle) : firstDefect? hs = none ↔ ¬ HasDefect hs := by
  induction hs with
  | nil => exact ⟨fun _ => not_hasDefect_nil, fun _ => rfl⟩
  | cons h rest ih =>
    have hcons : HasDefect (h :: rest) ↔ HasDefect [h] ∨ HasDefect rest :=
      hasDefect_append [h] rest
    cases h with
    | defect d =>
      have hd : HasDefect [.defect d] := ⟨d, List.mem_singleton_self _⟩
      rw [hcons, firstDefect?_defect]
      exact ⟨nofun, fun hn => absurd (.inl hd) hn⟩
    | gap construct g =>
      rw [hcons, firstDefect?_gap, ih, or_iff_right (not_hasDefect_gap construct g)]

/-- Every target meets the same first defect. -/
theorem firstDefect?_filter_blocks (t : Target) (hs : List Hurdle) :
    firstDefect? (hs.filter t.blocks) = firstDefect? hs := by
  induction hs with
  | nil => rfl
  | cons h rest ih =>
    cases h with
    | defect d => rfl
    | gap construct g =>
      rw [List.filter_cons]
      split
      · rw [firstDefect?_gap, firstDefect?_gap, ih]
      · rw [firstDefect?_gap, ih]

end Hurdle

open Hurdle

theorem ReferentialAction.hasDefect_hurdles (a : ReferentialAction) :
    HasDefect a.hurdles ↔ a.Malformed := by
  unfold hurdles Malformed
  cases hc : a.columns with
  | nil => simp [not_hasDefect_nil]
  | cons v rest =>
    rw [List.isEmpty_cons, if_neg Bool.false_ne_true, hasDefect_namesHurdles,
      or_iff_left (not_hasDefect_gap _ _), Unnamed]
    exact or_iff_right (List.cons_ne_nil v rest)

theorem ForeignKey.hasDefect_hurdles (f : ForeignKey) :
    HasDefect f.hurdles ↔ f.MalformedReferences := by
  unfold hurdles MalformedReferences
  rw [hasDefect_namesHurdles, hasDefect_flatMap]
  simp only [ReferentialAction.hasDefect_hurdles]

theorem Unique.not_hasDefect_hurdles (u : Unique) : ¬ HasDefect u.hurdles := by
  unfold hurdles
  split
  · exact not_hasDefect_nil
  · exact not_hasDefect_gap _ _

namespace Constraint

theorem hasDefect_tableHurdles (c : Constraint) :
    HasDefect c.tableHurdles ↔ c.MalformedOnTable := by
  cases c with
  | check c => exact iff_of_false not_hasDefect_nil id
  | foreignKey f =>
    rw [tableHurdles, hasDefect_namesHurdles, f.hasDefect_hurdles]
    rfl
  | primaryKey p =>
    rw [tableHurdles, hasDefect_namesHurdles]
    exact or_iff_left not_hasDefect_nil
  | unique u =>
    rw [tableHurdles, hasDefect_namesHurdles]
    exact or_iff_left u.not_hasDefect_hurdles

theorem hasDefect_columnHurdles (c : Constraint) :
    HasDefect c.columnHurdles ↔ c.MalformedOnColumn := by
  cases c with
  | check c => exact iff_of_false not_hasDefect_nil id
  | foreignKey f => exact f.hasDefect_hurdles
  | primaryKey p => exact iff_of_false not_hasDefect_nil id
  | unique u => exact iff_of_false u.not_hasDefect_hurdles id

end Constraint

theorem Column.hasDefect_hurdles (c : Column) : HasDefect c.hurdles ↔ c.Malformed := by
  unfold hurdles Malformed
  rw [hasDefect_flatMap]
  simp only [Constraint.hasDefect_columnHurdles]

theorem CreateTable.hasDefect_hurdles (c : CreateTable) : HasDefect c.hurdles ↔ c.Malformed := by
  unfold hurdles Malformed
  rw [hasDefect_append, hasDefect_flatMap, hasDefect_flatMap]
  simp only [Column.hasDefect_hurdles, Constraint.hasDefect_tableHurdles]

theorem DropTable.hasDefect_hurdles (d : DropTable) :
    HasDefect d.hurdles ↔ Unnamed d.tableNames := by
  unfold hurdles
  rw [hasDefect_namesHurdles, hasDefect_append]
  refine or_iff_left (not_or.mpr ⟨?_, ?_⟩)
  · split
    · exact not_hasDefect_gap _ _
    · exact not_hasDefect_nil
  · split
    · exact not_hasDefect_gap _ _
    · exact not_hasDefect_nil

namespace Node

/-- Where a node stands, it is malformed if a part is. -/
theorem Stands.malformedAt_iff {n : Node} {p : Position} (h : n.Stands p) :
    n.MalformedAt p ↔ n.HasMalformedPart p :=
  or_iff_right h.slot_ne_none

/-- **The malformed nodes are those with a defect among their hurdles.** -/
theorem hasDefect_hurdles (n : Node) (p : Position) :
    HasDefect (n.hurdles p) ↔ n.MalformedAt p := by
  by_cases h : n.Stands p
  · rw [h.malformedAt_iff]
    cases h with
    | createTable c => exact c.hasDefect_hurdles
    | dropTable d => exact d.hasDefect_hurdles
    | bareStatement serial => exact iff_of_false (not_hasDefect_gap _ _) id
    | tableConstraint c => exact c.hasDefect_tableHurdles
    | columnConstraint c => exact c.hasDefect_columnHurdles
    | column c => exact c.hasDefect_hurdles
    | action a => exact a.hasDefect_hurdles
  · -- a misplaced node is itself the defect
    have hslot : Slot.of? n.kind p = none := by
      by_contra hne
      exact h (stands_of_slot hne)
    rw [hurdles_of_not_stands h]
    exact iff_of_true ⟨_, List.mem_singleton_self _⟩ (.inl hslot)

end Node

/-! ### Lenient rendering -/

namespace Visitor

/-- What lenient rendering on a built-in target comes to, from the hurdles of the node: the first
defect, or else a text with as many omissions as the target meets hurdles. -/
theorem lenient_outcome_builtin {v : Visitor} (hv : v.target ∈ Target.builtin) {n : Node}
    (h : n.hasTextDefaults = true) (p : Position) :
    match firstDefect? (n.hurdles p) with
    | some d => (v.lenient.render n p).outcome = .ofDefect d
    | none => ∃ sql os, (v.lenient.render n p).outcome = .rendered sql os ∧
        os.length = (v.target.hurdles n p).length := by
  -- the draft is read without a failing join, and what its reading says of the hurdles of the
  -- draft holds of those of the node
  have hplain := (v.target.plain_draft h p).read true
  have hfirst := (v.target.draft n p).firstDefect?_of_lenient
  have hunsupported := (v.target.draft n p).ending_read_lenient_ne_unsupported
  rw [Target.hurdles_draft hv] at hfirst
  rw [lenient_outcome]
  generalize (v.target.draft n p).read true = r at hplain hfirst hunsupported ⊢
  rw [← firstDefect?_filter_blocks v.target]
  change match firstDefect? (v.target.hurdles n p) with
    | some d => v.outcomeOf r = .ofDefect d
    | none => ∃ sql os, v.outcomeOf r = .rendered sql os ∧
        os.length = (v.target.hurdles n p).length
  cases he : r.ending with
  | complete =>
    rw [he] at hfirst
    rw [hfirst.1]
    exact ⟨_, _, outcomeOf_complete he hplain.1, hfirst.2⟩
  | malformed d =>
    rw [he] at hfirst
    rw [show firstDefect? (v.target.hurdles n p) = some d from hfirst]
    exact outcomeOf_malformed he
  | unsupported o => exact absurd he (hunsupported o)
  | unjoinable => exact absurd he hplain.2

/-- **Lenient rendering fails exactly at the malformed nodes**, and where it fails, it does so at the
same defect on all built-in targets: they report the same error, or none of them can write it. -/
theorem lenient_fails_iff_malformedAt (n : Node) (p : Position) (h : n.hasTextDefaults = true) :
    (∀ v : Visitor, v.target ∈ Target.builtin →
      ((∀ sql os, (v.lenient.render n p).outcome ≠ .rendered sql os) ↔ n.MalformedAt p)) ∧
    (n.MalformedAt p →
      ∃ d, ∀ v : Visitor, v.target ∈ Target.builtin →
        (v.lenient.render n p).outcome = .ofDefect d) := by
  have houtcome := fun (v : Visitor) (hv : v.target ∈ Target.builtin) =>
    lenient_outcome_builtin hv h p
  have hnone := firstDefect?_eq_none_iff (n.hurdles p)
  rw [n.hasDefect_hurdles p] at hnone
  -- the first defect is a matter of the node alone
  cases hfirst : firstDefect? (n.hurdles p) with
  | none =>
    have hwell : ¬ n.MalformedAt p := hnone.mp hfirst
    simp only [hfirst] at houtcome
    refine ⟨?_, fun hm => absurd hm hwell⟩
    intro v hv
    refine iff_of_false ?_ hwell
    intro hfails
    obtain ⟨sql, os, ho, -⟩ := houtcome v hv
    exact hfails sql os ho
  | some d =>
    have hmalformed : n.MalformedAt p := by
      by_contra hwell
      rw [hnone.mpr hwell] at hfirst
      exact Option.some_ne_none d hfirst.symm
    simp only [hfirst] at houtcome
    refine ⟨?_, fun _ => ⟨d, houtcome⟩⟩
    intro v hv
    refine iff_of_true ?_ hmalformed
    intro sql os ho
    rw [houtcome v hv] at ho
    exact Outcome.ofDefect_ne_rendered ho

/-- A blank name deep in a tree: in an action of a foreign key of a column. -/
theorem lenient_fails_blank_action_column :
    let f : ForeignKey :=
      { refTable := "u", refColumns := [.text "id"], onDelete := some ⟨.setNull, [.text " "]⟩ }
    let n : Node := .createTable
      { tableName := "t"
        columns := [{ name := "a", dataType := "int", default := .text "0"
                      constraints := [.foreignKey f] }] }
    n.hasTextDefaults = true ∧ n.MalformedAt .statement ∧
      ∃ d, ∀ v : Visitor, v.target ∈ Target.builtin →
        (v.lenient.render n .statement).outcome = .malformed d := by
  intro f n
  obtain ⟨d, hd⟩ := (lenient_fails_iff_malformedAt n .statement rfl).2 (by decide)
  -- one target shows which defect it is, and that its text can be written
  let x : Defect := ⟨.node (.action ⟨.setNull, [.text " "]⟩), .blankName (.text " ")⟩
  have hsqlite : ((lenient ⟨⟨.sqlite, ⟨[3]⟩⟩, {}⟩).render n .statement).outcome = .malformed x := rfl
  obtain ⟨rfl, hmessage⟩ := Outcome.ofDefect_eq_malformed
    ((hd _ (Target.sqlite_mem_builtin (by decide))).symm.trans hsqlite)
  exact ⟨rfl, by decide, x, fun v hv => (hd v hv).trans (Outcome.ofDefect_of_isSome hmessage)⟩

/-! ### Strict rendering -/

/-- Where lenient rendering finds a malformed node, strict rendering reports the first hurdle. -/
theorem strict_outcome_of_malformed {v : Visitor} (hv : v.target ∈ Target.builtin) {n : Node}
    {p : Position} {d : Defect} (h : (v.lenient.render n p).outcome = .malformed d) :
    (∃ rest, v.target.hurdles n p = .defect d :: rest ∧
      (v.strict.render n p).outcome = .malformed d) ∨
    ∃ o rest, v.target.hurdles n p = .gap o.construct o.gap :: rest ∧
      (v.strict.render n p).outcome = .unsupported o := by
  rw [lenient_outcome] at h
  rw [strict_outcome, ← Target.hurdles_draft hv]
  have hhead := (v.target.draft n p).head?_hurdles_of_strict
  have hending := (v.target.draft n p).ending_read_strict
  obtain ⟨hd, hmessage⟩ := outcomeOf_eq_malformed h
  rw [hd] at hending
  cases homitted : ((v.target.draft n p).read true).omitted with
  | nil =>
    -- nothing was left out before the defect, so the strict reading ends there too
    rw [homitted] at hending
    rw [hending] at hhead
    obtain ⟨rest, hrest⟩ := List.head?_eq_some_iff.mp hhead
    exact .inl ⟨rest, hrest,
      (outcomeOf_malformed hending).trans (Outcome.ofDefect_of_isSome hmessage)⟩
  | cons o os =>
    rw [homitted] at hending
    rw [hending] at hhead
    obtain ⟨rest, hrest⟩ := List.head?_eq_some_iff.mp hhead
    exact .inr ⟨o, rest, hrest, outcomeOf_unsupported hending⟩

/-- **When a malformed node is reported as such in strict mode.**  Strict rendering reports the
defect that lenient rendering reports exactly if no part that the target cannot express comes before
it; otherwise it reports the first such part. -/
theorem strict_of_lenient_malformed {v : Visitor} (hv : v.target ∈ Target.builtin) (n : Node)
    (p : Position) (d : Defect) (h : (v.lenient.render n p).outcome = .malformed d) :
    ((∃ x, (v.strict.render n p).outcome = .malformed x) ↔
      ∃ rest, v.target.hurdles n p = .defect d :: rest) ∧
    (∀ x, (v.strict.render n p).outcome = .malformed x → x = d) ∧
    (∀ construct g,
      (∃ o, (v.strict.render n p).outcome = .unsupported o ∧ o.construct = construct ∧
        o.gap = g) ↔
      ∃ rest, v.target.hurdles n p = .gap construct g :: rest) := by
  rcases strict_outcome_of_malformed hv h with ⟨rest, hrest, hd⟩ | ⟨o, rest, hrest, ho⟩
  · rw [hd, hrest]
    refine ⟨iff_of_true ⟨d, rfl⟩ ⟨rest, rfl⟩, ?_, ?_⟩
    · intro x hx
      injection hx with hx
      exact hx.symm
    · intro construct g
      refine iff_of_false ?_ ?_
      · rintro ⟨o, ho, -⟩
        exact Outcome.noConfusion ho
      · rintro ⟨rest', hrest'⟩
        injection hrest' with hgap
        exact Hurdle.noConfusion hgap
  · rw [ho, hrest]
    refine ⟨iff_of_false ?_ ?_, ?_, ?_⟩
    · rintro ⟨x, hx⟩
      exact Outcome.noConfusion hx
    · rintro ⟨rest', hrest'⟩
      injection hrest' with hdefect
      exact Hurdle.noConfusion hdefect
    · intro x hx
      exact Outcome.noConfusion hx
    · intro construct g
      constructor
      · rintro ⟨o', ho', rfl, rfl⟩
        injection ho' with ho'
        exact ⟨rest, ho' ▸ rfl⟩
      · rintro ⟨rest', hrest'⟩
        injection hrest' with hgap
        injection hgap with hconstruct hg
        exact ⟨o, rfl, hconstruct, hg⟩

/-- A primary key without columns, before a part that PostgreSQL 14 cannot express. -/
theorem strict_malformed_primary_key_first :
    let v : Visitor := ⟨⟨.postgresql, ⟨[14]⟩⟩, {}⟩
    let n : Node := .createTable
      { tableName := "t"
        constraints := [.primaryKey {},
          .unique { columnNames := [.text "a"], nullsDistinct := .bool false }] }
    v.target ∈ Target.builtin ∧
      (v.lenient.render n .statement).outcome =
        .malformed ⟨.node (.constraint (.primaryKey {})), .noName .primaryKeyColumns⟩ ∧
      ∃ x, (v.strict.render n .statement).outcome = .malformed x :=
  have hv := Target.postgresql_mem_builtin (by decide)
  ⟨hv, rfl, (strict_of_lenient_malformed hv _ _ _ rfl).1.mpr ⟨_, rfl⟩⟩

/-- Strict rendering does not always report that a node is malformed: a part that PostgreSQL 14
cannot express may come before a primary key without columns. -/
theorem not_strict_malformed_of_lenient_malformed :
    ¬ ∀ v : Visitor, v.target ∈ Target.builtin → ∀ (n : Node) (p : Position) (d : Defect),
      (v.lenient.render n p).outcome = .malformed d →
        ∃ x, (v.strict.render n p).outcome = .malformed x := by
  intro hall
  have hlenient :
      ((lenient ⟨⟨.postgresql, ⟨[14]⟩⟩, {}⟩).render
        (.createTable
          { tableName := "t"
            constraints := [.unique { columnNames := [.text "a"], nullsDistinct := .bool false },
              .primaryKey {}] })
        .statement).outcome =
        .malformed ⟨.node (.constraint (.primaryKey {})), .noName .primaryKeyColumns⟩ := by rfl
  obtain ⟨x, hx⟩ := hall _ (Target.postgresql_mem_builtin (by decide)) _ _ _ hlenient
  -- the unique constraint comes first, and strict rendering stops there
  exact absurd hx (show Outcome.unsupported _ ≠ _ from nofun)

end Visitor

end SqlDialect
