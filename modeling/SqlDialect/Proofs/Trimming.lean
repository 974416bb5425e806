import SqlDialect.Proofs.Composition
import SqlDialect.Proofs.Omissions

/-!
# Trimmed nodes

Trimming a node for a target (`Target.trim`) takes out the constructs inside it for which the target
has no form: columns and constraints out of a table creation, constraints out of a column, actions
out of a foreign key.  `Target.skippedIn` lists what goes, with its positions.

`Visitor.Skips` relates a draft to one with some constructs skipped: it leaves them out once each and
otherwise leaves out the same, and the two texts are the same unless one of them is a referential
action.  It is closed under appending, so the relation of two nodes is put together from that of
their parts; `Visitor.SkipsAll` is for parts with commas between them.
-/

namespace SqlDialect

/-! ### Trimmed nodes -/

/-- Every form of a layer is one of its own: none is a fixed text. -/
def Layer.HasOwnForms (l : Layer) : Prop :=
  ∀ slot text, l.form? slot ≠ some (.literal slot text)

namespace Target

variable (t : Target)

/-- Whether a target has a form for a node at a position. -/
def handles (n : Node) (p : Position) : Bool :=
  (Slot.of? n.kind p).any fun slot => (t.form? slot).isSome

/-- Takes the actions without a form out of a foreign key. -/
def trimForeignKey (f : ForeignKey) : ForeignKey :=
  { f with
    onUpdate := f.onUpdate.filter fun a => t.handles (.action a) .clause
    onDelete := f.onDelete.filter fun a => t.handles (.action a) .clause }

/-- Trims a constraint. -/
def trimConstraint : Constraint → Constraint
  | .check c => .check c
  | .foreignKey f => .foreignKey (t.trimForeignKey f)
  | .primaryKey p => .primaryKey p
  | .unique u => .unique u

/-- Takes the constraints without a form out of a column and trims the others. -/
def trimColumn (c : Column) : Column :=
  { c with
    constraints :=
      (c.constraints.filter fun k => t.handles (.constraint k) .column).map t.trimConstraint }

/-- Takes the columns and constraints without a form out of a table creation and trims the
others. -/
def trimCreateTable (c : CreateTable) : CreateTable :=
  { c with
    columns := (c.columns.filter fun column => t.handles (.column column) .clause).map t.trimColumn
    constraints :=
      (c.constraints.filter fun k => t.handles (.constraint k) .table).map t.trimConstraint }

/-- Takes everything without a form out of a node. -/
def trim : Node → Node
  | .constraint c => .constraint (t.trimConstraint c)
  | .action a => .action a
  | .column c => .column (t.trimColumn c)
  | .createTable c => .createTable (t.trimCreateTable c)
  | .dropTable d => .dropTable d
  | .bareStatement serial => .bareStatement serial
  | .bareExpression serial => .bareExpression serial

/-- What is skipped of a part at a position: the part, or what is skipped inside it. -/
def skippedPart (n : Node) (p : Position) (inside : List (Node × Position)) :
    List (Node × Position) :=
  if t.handles n p then inside else [(n, p)]

/-- What is skipped inside a constraint. -/
def skippedInConstraint : Constraint → List (Node × Position)
  | .check _ => []
  | .foreignKey f => f.actions.flatMap fun a => t.skippedPart (.action a) .clause []
  | .primaryKey _ => []
  | .unique _ => []

/-- What is skipped inside a column. -/
def skippedInColumn (c : Column) : List (Node × Position) :=
  c.constraints.flatMap fun k => t.skippedPart (.constraint k) .column (t.skippedInConstraint k)

/-- What is skipped inside a table creation. -/
def skippedInCreateTable (c : CreateTable) : List (Node × Position) :=
  c.columns.flatMap (fun column =>
      t.skippedPart (.column column) .clause (t.skippedInColumn column)) ++
    c.constraints.flatMap fun k => t.skippedPart (.constraint k) .table (t.skippedInConstraint k)

/-- The constructs inside a node that trimming takes out, with their positions, in order. -/
def skippedIn : Node → List (Node × Position)
  | .constraint c => t.skippedInConstraint c
  | .action _ => []
  | .column c => t.skippedInColumn c
  | .createTable c => t.skippedInCreateTable c
  | .dropTable _ => []
  | .bareStatement _ => []
  | .bareExpression _ => []

/-- Where all layers have forms of their own, no slot is filled by a fixed text. -/
theorem form?_ne_literal {t : Target} (h : ∀ l ∈ t.engine.layers, l.HasOwnForms) (slot : Slot)
    (text : String) : t.form? slot ≠ some (.literal slot text) := by
  intro hform
  obtain ⟨l, hl, hfind⟩ := List.exists_of_findSome?_eq_some hform
  have hlayer : l ∈ t.engine.layers := by
    rw [layers, List.mem_reverse] at hl
    exact (List.mem_filter.mp hl).1
  -- a form for any statement is a fixed text too
  have hnone : l.form? .statement = none := by
    cases hstatement : l.form? .statement with
    | none => rfl
    | some form =>
      cases form with
      | literal _ words => exact absurd hstatement (h l hlayer .statement words)
  unfold Layer.find? at hfind
  cases hown : l.form? slot with
  | some form =>
    rw [hown] at hfind
    obtain rfl := Option.some.inj hfind
    exact h l hlayer slot text hown
  | none =>
    rw [hown] at hfind
    simp [Layer.anyStatement?, hnone] at hfind

end Target

/-! ### What a lenient reading comes to -/

/-- The construct that an omission is about and its position, if the target has no form for it. -/
def Omission.skipped? (o : Omission) : Option (Node × Position) :=
  match o.gap with
  | .form slot => some (o.construct, slot.position)
  | .feature _ => none

/-- Whether a step skips no construct. -/
def Step.isFormed : Step → Bool
  | .leaveOut o => o.skipped?.isNone
  | _ => true

namespace Draft

/-- What a draft leaves out. -/
def omissions (d : Draft) : List Omission :=
  d.filterMap fun
    | .leaveOut o => some o
    | _ => none

@[simp] theorem omissions_append (a b : Draft) : omissions (a ++ b) = omissions a ++ omissions b :=
  List.filterMap_append

/-- A lenient reading that passes every step has all the pieces and all the omissions. -/
theorem read_of_passed {d : Draft} (h : ∀ s ∈ d, s.isPassed = true) :
    (read true d).joinable = true ∧ (read true d).omitted = d.omissions ∧
      (read true d).ending = .complete := by
  induction d with
  | nil => exact ⟨rfl, rfl, rfl⟩
  | cons step rest ih =>
    obtain ⟨hstep, hrest⟩ := List.forall_mem_cons.mp h
    obtain ⟨hjoin, homitted, hending⟩ := ih hrest
    cases step with
    | emit s => exact ⟨hjoin, homitted, hending⟩
    | emitValue v => exact absurd hstep Bool.false_ne_true
    | leaveOut o => exact ⟨hjoin, congrArg (o :: ·) homitted, hending⟩
    | reject x => exact absurd hstep Bool.false_ne_true
    | announceDrop tables => exact ⟨hjoin, homitted, hending⟩
    | failJoin => exact absurd hstep Bool.false_ne_true

/-- Every construct of the draft has a form. -/
def Formed (d : Draft) : Prop :=
  ∀ s ∈ d, s.isFormed = true

@[simp] theorem formed_nil : Formed [] :=
  List.forall_mem_nil _

@[simp] theorem formed_append (a b : Draft) : Formed (a ++ b) ↔ Formed a ∧ Formed b :=
  List.forall_mem_append

@[simp] theorem formed_cons (s : Step) (d : Draft) :
    Formed (s :: d) ↔ s.isFormed = true ∧ Formed d :=
  List.forall_mem_cons

@[simp] theorem formed_keyword (text : String) : Formed (keyword text) := by
  simp [keyword, Step.isFormed]

@[simp] theorem formed_identifier (name : String) : Formed (identifier name) := by
  simp [identifier, Step.isFormed]

@[simp] theorem formed_verbatim (text : String) : Formed (verbatim text) := by
  simp [verbatim, Step.isFormed]

@[simp] theorem formed_names (ns : List String) : Formed (names ns) := by
  fun_induction names ns with
  | case1 => exact formed_nil
  | case2 name => exact formed_identifier name
  | case3 name rest _ ih => simp [comma, ih]

@[simp] theorem formed_ite {p : Prop} [Decidable p] (a b : Draft) :
    Formed (if p then a else b) ↔ (p → Formed a) ∧ (¬ p → Formed b) := by
  split <;> simp_all

end Draft

theorem Visitor.outcomeOf_of_passed (v : Visitor) {d : Draft} (h : ∀ s ∈ d, s.isPassed = true) :
    v.outcomeOf (d.read true) = .rendered (v.textOf d) d.omissions := by
  obtain ⟨hjoin, homitted, hending⟩ := Draft.read_of_passed h
  rw [outcomeOf_complete hending hjoin, homitted, sqlOf, Draft.segments_of_complete hending]
  rfl

/-! ### Drafts that differ in what is skipped -/

/-- The first draft is the second one with the listed constructs skipped: it leaves them out and
everything that the second one leaves out, and its text is longer if an action is among them and
the same if not. -/
structure Visitor.Skips (v : Visitor) (d d' : Draft) (skipped : List (Node × Position)) : Prop where
  /-- Each construct is skipped once. -/
  skipped_eq : d.omissions.filterMap Omission.skipped? = skipped
  /-- The other omissions are those of the second draft. -/
  others_eq : d.omissions.filter (fun o => o.skipped?.isNone) = d'.omissions
  /-- The second draft has no step that stops a reading if the first has none. -/
  passed : (∀ s ∈ d, s.isPassed = true) → ∀ s ∈ d', s.isPassed = true
  /-- No other construct leaves anything in the text. -/
  text_eq : (∀ x ∈ skipped, x.1.kind ≠ .referentialAction) → v.textOf d = v.textOf d'
  /-- An action leaves the words that introduce it. -/
  text_longer : (∃ x ∈ skipped, x.1.kind = .referentialAction) →
    (v.textOf d').length < (v.textOf d).length

namespace Visitor.Skips

open Draft

variable {v : Visitor} {a a' b b' d : Draft} {xs ys : List (Node × Position)}

theorem length_le (h : v.Skips a a' xs) : (v.textOf a').length ≤ (v.textOf a).length := by
  by_cases haction : ∃ x ∈ xs, x.1.kind = .referentialAction
  · exact Nat.le_of_lt (h.text_longer haction)
  · have htext := h.text_eq fun x hx hkind => haction ⟨x, hx, hkind⟩
    exact Nat.le_of_eq (congrArg String.length htext.symm)

theorem append (ha : v.Skips a a' xs) (hb : v.Skips b b' ys) :
    v.Skips (a ++ b) (a' ++ b') (xs ++ ys) where
  skipped_eq := by
    rw [omissions_append, List.filterMap_append, ha.skipped_eq, hb.skipped_eq]
  others_eq := by
    rw [omissions_append, List.filter_append, ha.others_eq, hb.others_eq, omissions_append]
  passed h := by
    obtain ⟨hpassed, hpassed'⟩ := List.forall_mem_append.mp h
    exact List.forall_mem_append.mpr ⟨ha.passed hpassed, hb.passed hpassed'⟩
  text_eq h := by
    obtain ⟨hxs, hys⟩ := List.forall_mem_append.mp h
    rw [textOf_append, textOf_append, ha.text_eq hxs, hb.text_eq hys]
  text_longer := by
    rintro ⟨x, hx, hkind⟩
    rw [textOf_append, textOf_append, String.length_append, String.length_append]
    rcases List.mem_append.mp hx with hx | hx
    · exact Nat.add_lt_add_of_lt_of_le (ha.text_longer ⟨x, hx, hkind⟩) hb.length_le
    · exact Nat.add_lt_add_of_le_of_lt ha.length_le (hb.text_longer ⟨x, hx, hkind⟩)

/-- A draft in which every construct has a form skips nothing. -/
theorem of_formed (h : Formed d) : v.Skips d d [] := by
  have hnone : ∀ o ∈ d.omissions, o.skipped? = none := by
    intro o ho
    obtain ⟨s, hs, hso⟩ := List.mem_filterMap.mp ho
    cases s with
    | leaveOut o' =>
      obtain rfl := Option.some.inj hso
      exact Option.isNone_iff_eq_none.mp (h _ hs)
    | _ => exact absurd hso nofun
  exact {
    skipped_eq := List.filterMap_eq_nil_iff.mpr hnone
    others_eq := List.filter_eq_self.mpr fun o ho => Option.isNone_iff_eq_none.mpr (hnone o ho)
    passed := id
    text_eq := fun _ => rfl
    text_longer := fun ⟨x, hx, _⟩ => absurd hx List.not_mem_nil }

theorem nil : v.Skips [] [] [] :=
  of_formed formed_nil

/-- A construct without a form leaves nothing in the text. -/
theorem missing {t : Target} {construct : Node} (slot : Slot)
    (h : construct.kind ≠ .referentialAction) :
    v.Skips (t.missing construct slot) [] [(construct, slot.position)] where
  skipped_eq := rfl
  others_eq := rfl
  passed _ := List.forall_mem_nil _
  text_eq _ := rfl
  text_longer := by
    rintro ⟨x, hx, hkind⟩
    rw [List.mem_singleton.mp hx] at hkind
    exact absurd hkind h

/-- The words that introduce an action without a form stay. -/
theorem missing_after_words {t : Target} {words : String} (hwords : words ≠ "")
    (a : ReferentialAction) :
    v.Skips (keyword words ++ t.missing (.action a) .action) [] [(.action a, .clause)] where
  skipped_eq := rfl
  others_eq := rfl
  passed _ := List.forall_mem_nil _
  text_eq h := absurd rfl (h _ List.mem_cons_self)
  text_longer _ := by
    have htext : v.textOf (keyword words ++ t.missing (.action a) .action) =
        v.strategy.formatKeyword words := by
      simp [textOf, pieces, keyword, Target.missing, Strategy.formatAll, Strategy.format]
    have hne : v.strategy.formatKeyword words ≠ "" :=
      fun h => hwords (v.strategy.formatKeyword_eq_empty_iff.mp h)
    have hnil : v.textOf [] = "" := rfl
    rw [htext, hnil, String.length_empty, Nat.pos_iff_ne_zero]
    exact fun h => hne (String.length_eq_zero_iff.mp h)

/-- Parts in a row: those without a form are taken out, the others are trimmed. -/
theorem flatMap {α : Type} {items : List α} {keep : α → Bool} {f f' : α → Draft}
    {skipped : α → List (Node × Position)}
    (hkeep : ∀ x ∈ items, keep x = true → v.Skips (f x) (f' x) (skipped x))
    (hskip : ∀ x ∈ items, keep x = false → v.Skips (f x) [] (skipped x)) :
    v.Skips (items.flatMap f) ((items.filter keep).flatMap f') (items.flatMap skipped) := by
  induction items with
  | nil => exact nil
  | cons x rest ih =>
    obtain ⟨hx, hrest⟩ := List.forall_mem_cons.mp hkeep
    obtain ⟨hx', hrest'⟩ := List.forall_mem_cons.mp hskip
    rw [List.flatMap_cons, List.flatMap_cons]
    cases hk : keep x with
    | true =>
      rw [List.filter_cons_of_pos hk, List.flatMap_cons]
      exact (hx hk).append (ih hrest hrest')
    | false =>
      rw [List.filter_cons_of_neg (by simp [hk])]
      exact (hx' hk).append (ih hrest hrest')

end Visitor.Skips

/-- Drafts of parts, of which those without a form are taken out.  What stays has a text in either
list and what goes has none, so that both lists have their commas at the same places. -/
inductive Visitor.SkipsAll (v : Visitor) :
    List Draft → List Draft → List (Node × Position) → Prop
  | nil : SkipsAll v [] [] []
  | keep {d d' : Draft} {ds ds' : List Draft} {xs ys : List (Node × Position)}
    (hd : d.isEmptyText = false) (hd' : d'.isEmptyText = false) (h : v.Skips d d' xs)
    (hs : SkipsAll v ds ds' ys) : SkipsAll v (d :: ds) (d' :: ds') (xs ++ ys)
  | skip {d : Draft} {ds ds' : List Draft} {xs ys : List (Node × Position)}
    (hd : d.isEmptyText = true) (h : v.Skips d [] xs) (hs : SkipsAll v ds ds' ys) :
    SkipsAll v (d :: ds) ds' (xs ++ ys)

namespace Visitor.SkipsAll

open Draft

variable {v : Visitor} {ds ds' es es' : List Draft} {xs ys : List (Node × Position)}

theorem append (h : v.SkipsAll ds ds' xs) (h' : v.SkipsAll es es' ys) :
    v.SkipsAll (ds ++ es) (ds' ++ es') (xs ++ ys) := by
  induction h with
  | nil => exact h'
  | keep hd hd' h _ ih =>
    rw [List.append_assoc]
    exact .keep hd hd' h ih
  | skip hd h _ ih =>
    rw [List.append_assoc]
    exact .skip hd h ih

theorem of_filter {α : Type} {items : List α} {keep : α → Bool} {f f' : α → Draft}
    {skipped : α → List (Node × Position)}
    (hkeep : ∀ x ∈ items, keep x = true → isEmptyText (f x) = false ∧
      isEmptyText (f' x) = false ∧ v.Skips (f x) (f' x) (skipped x))
    (hskip : ∀ x ∈ items, keep x = false →
      isEmptyText (f x) = true ∧ v.Skips (f x) [] (skipped x)) :
    v.SkipsAll (items.map f) ((items.filter keep).map f') (items.flatMap skipped) := by
  induction items with
  | nil => exact .nil
  | cons x rest ih =>
    obtain ⟨hx, hrest⟩ := List.forall_mem_cons.mp hkeep
    obtain ⟨hx', hrest'⟩ := List.forall_mem_cons.mp hskip
    rw [List.map_cons, List.flatMap_cons]
    cases hk : keep x with
    | true =>
      obtain ⟨hempty, hempty', h⟩ := hx hk
      rw [List.filter_cons_of_pos hk, List.map_cons]
      exact .keep hempty hempty' h (ih hrest hrest')
    | false =>
      obtain ⟨hempty, h⟩ := hx' hk
      rw [List.filter_cons_of_neg (by simp [hk])]
      exact .skip hempty h (ih hrest hrest')

/-- No comma is left of a part that is skipped. -/
theorem commaSeparated (h : v.SkipsAll ds ds' xs) (started : Bool) :
    v.Skips (commaSeparated started ds) (commaSeparated started ds') xs := by
  induction h generalizing started with
  | nil => exact .nil
  | @keep d d' ds ds' xs ys hd hd' h _ ih =>
    have hcomma : v.Skips (if started then comma else []) (if started then comma else []) [] :=
      .of_formed (by cases started <;> simp [comma])
    rw [Draft.commaSeparated, Draft.commaSeparated, hd, hd', if_neg Bool.false_ne_true,
      if_neg Bool.false_ne_true]
    exact (hcomma.append h).append (ih true)
  | skip hd h _ ih =>
    rw [Draft.commaSeparated, if_pos hd]
    exact h.append (ih started)

end Visitor.SkipsAll

end SqlDialect
