import SqlDialect.Proofs.Malformed

/-!
# What drafts leave out and reject

On any target, whatever its layers are made of, the steps of a draft are of few kinds
(`Target.Warrants`): a part is left out only as the omission that the target makes of it
(`Target.omission`), a construct only where the target has no form for its slot, and nothing is
rejected but in a malformed node.  `warranted_draft` says so of every draft, part by part.

* What a rendering reports as left out or unsupported is such an omission
  (`warrants_of_mem_omitted`, `warrants_of_unsupported`).
* A lenient reading stops at no step of a node that is not malformed (`isPassed_of_wellFormed`).
-/

namespace SqlDialect

/-- Whether a layer closes a gap: it introduces the feature, or it has a form for the slot. -/
def Layer.closes (l : Layer) : Gap → Bool
  | .feature f => l.introduces.contains f
  | .form slot => l.handles slot

namespace Target

open Draft

/-- The omission that a target makes of a construct for a gap. -/
def omission (t : Target) (construct : Node) (g : Gap) : Omission :=
  ⟨construct, g, t.engine.name, t.version, t.since? fun l => l.closes g⟩

/-- The steps that a target may take for a node; `malformed` says whether the node may be
rejected. -/
inductive Warrants (t : Target) (malformed : Prop) : Step → Prop
  | emit (s : Segment) : Warrants t malformed (.emit s)
  | emitValue (v : Value) : Warrants t malformed (.emitValue v)
  | announceDrop (tables : List String) : Warrants t malformed (.announceDrop tables)
  | failJoin : Warrants t malformed .failJoin
  | lack (construct : Node) (f : Feature) :
    Warrants t malformed (.leaveOut (t.omission construct (.feature f)))
  | missing (construct : Node) {slot : Slot} (h : t.form? slot = none) :
    Warrants t malformed (.leaveOut (t.omission construct (.form slot)))
  | reject (d : Defect) (h : malformed) : Warrants t malformed (.reject d)

/-- Every step of a draft is one that the target may take. -/
def Warranted (t : Target) (malformed : Prop) (d : Draft) : Prop :=
  ∀ s ∈ d, t.Warrants malformed s

variable {t : Target} {m : Prop}

/-! ### Drafts put together -/

namespace Warranted

theorem nil : t.Warranted m [] :=
  List.forall_mem_nil _

theorem append {a b : Draft} (ha : t.Warranted m a) (hb : t.Warranted m b) :
    t.Warranted m (a ++ b) :=
  List.forall_mem_append.mpr ⟨ha, hb⟩

theorem single {s : Step} (h : t.Warrants m s) : t.Warranted m [s] :=
  (List.forall_mem_singleton).mpr h

theorem keyword (text : String) : t.Warranted m (keyword text) :=
  single (.emit _)

theorem identifier (name : String) : t.Warranted m (identifier name) :=
  single (.emit _)

theorem verbatim (text : String) : t.Warranted m (verbatim text) :=
  single (.emit _)

theorem names (ns : List String) : t.Warranted m (names ns) := by
  fun_induction Draft.names ns with
  | case1 => exact nil
  | case2 name => exact identifier name
  | case3 name rest _ ih => exact ((identifier name).append (verbatim _)).append ih

theorem inParentheses (ns : List String) : t.Warranted m (inParentheses ns) :=
  ((verbatim _).append (names ns)).append (verbatim _)

theorem lack (construct : Node) (f : Feature) : t.Warranted m (t.lack construct f) :=
  single (.lack construct f)

theorem missing (construct : Node) {slot : Slot} (h : t.form? slot = none) :
    t.Warranted m (t.missing construct slot) :=
  single (.missing construct h)

theorem ite {p : Prop} [Decidable p] {a b : Draft} (ha : t.Warranted m a)
    (hb : t.Warranted m b) : t.Warranted m (if p then a else b) := by
  split
  · exact ha
  · exact hb

theorem flatMap {α : Type} {xs : List α} {f : α → Draft} (h : ∀ x ∈ xs, t.Warranted m (f x)) :
    t.Warranted m (xs.flatMap f) := by
  intro s hs
  obtain ⟨x, hx, hsx⟩ := List.mem_flatMap.mp hs
  exact h x hx s hsx

theorem fragment {d : Draft} (h : t.Warranted m d) : t.Warranted m (fragment d) := by
  unfold Draft.fragment
  exact ite (h.append (single .failJoin)) h

theorem commaSeparated (started : Bool) {ds : List Draft} (h : ∀ d ∈ ds, t.Warranted m d) :
    t.Warranted m (commaSeparated started ds) := by
  induction ds generalizing started with
  | nil => exact nil
  | cons d rest ih =>
    obtain ⟨hd, hrest⟩ := List.forall_mem_cons.mp h
    exact ite (hd.append (ih _ hrest)) (((ite (verbatim _) nil).append hd).append (ih _ hrest))

/-- Names are rejected only where something is wrong with them. -/
theorem withNames {construct : Node} {list : NameList} {names : List Value}
    {k : List String → Draft} (hnames : Unnamed names → m) (hk : ∀ texts, t.Warranted m (k texts)) :
    t.Warranted m (withNames construct list names k) := by
  rw [withNames_eq]
  cases hc : list.cause? names with
  | none => exact hk _
  | some cause =>
    have hunnamed : Unnamed names := by
      by_contra h
      rw [(list.cause?_eq_none_iff names).mpr h] at hc
      exact absurd hc nofun
    exact single (.reject _ (hnames hunnamed))

end Warranted

/-! ### The drafts of constructs -/

theorem warranted_draftAction (a : ReferentialAction) :
    t.Warranted a.Malformed (t.draftAction a) := by
  have hnames (h : a.columns.isEmpty = false) : Unnamed a.columns → a.Malformed := by
    intro hu
    refine hu.resolve_left fun hnil => ?_
    rw [hnil] at h
    exact absurd h nofun
  unfold draftAction
  dsimp only
  split
  · exact .missing _ ‹_›
  · exact .keyword _
  · refine (Warranted.keyword _).append ?_
    split
    · exact .nil
    · exact .withNames (hnames (Bool.eq_false_iff.mpr ‹_›)) fun _ => .lack _ _
  · refine (Warranted.keyword _).append ?_
    split
    · exact .nil
    · refine .withNames (hnames (Bool.eq_false_iff.mpr ‹_›)) fun columns => ?_
      exact .ite ((Warranted.verbatim _).append (.inParentheses _)) (.lack _ _)

theorem Warranted.mono {m' : Prop} (h : m → m') {d : Draft} (hd : t.Warranted m d) :
    t.Warranted m' d := by
  intro s hs
  cases hd s hs with
  | emit s => exact .emit s
  | emitValue v => exact .emitValue v
  | announceDrop tables => exact .announceDrop tables
  | failJoin => exact .failJoin
  | lack construct f => exact .lack construct f
  | missing construct hform => exact .missing construct hform
  | reject d hm => exact .reject d (h hm)

theorem warranted_draftClause (words : String) (a : Option ReferentialAction)
    (h : ∀ b ∈ a.toList, b.Malformed → m) : t.Warranted m (t.draftClause words a) := by
  cases a with
  | none => exact .nil
  | some a =>
    have ha : a.Malformed → m := h a (List.mem_singleton_self a)
    exact (Warranted.keyword _).append ((warranted_draftAction a).mono ha)

theorem warranted_draftReferences (f : ForeignKey) :
    t.Warranted f.MalformedReferences (t.draftReferences f) := by
  have haction : ∀ a ∈ f.actions, a.Malformed → f.MalformedReferences :=
    fun a ha hm => .inr ⟨a, ha, hm⟩
  refine .withNames .inl fun columns => ?_
  refine .append (.append ?_ ?_) ?_
  · exact (((Warranted.keyword _).append (.identifier _)).append (.verbatim _)).append
      (.inParentheses _)
  · exact warranted_draftClause _ _ fun a ha => haction a (List.mem_append_left _ ha)
  · exact warranted_draftClause _ _ fun a ha => haction a (List.mem_append_right _ ha)

theorem warranted_draftTableConstraint (c : Constraint) :
    t.Warranted c.MalformedOnTable (t.draftTableConstraint c) := by
  cases c with
  | check c =>
    simp only [draftTableConstraint, draftTableCheck]
    split
    · exact .missing _ ‹_›
    · exact .keyword _
    · exact ((Warranted.keyword _).append (.verbatim _)).append (.verbatim _)
  | foreignKey f =>
    simp only [draftTableConstraint, draftTableForeignKey]
    split
    · exact .missing _ ‹_›
    · exact .keyword _
    · refine .withNames .inl fun columns => .withNames (fun h => .inr (.inl h)) fun _ => ?_
      refine .append ?_ ((warranted_draftReferences f).mono .inr)
      exact ((Warranted.keyword _).append (.names _)).append (.verbatim _)
  | primaryKey p =>
    simp only [draftTableConstraint, draftTablePrimaryKey]
    split
    · exact .missing _ ‹_›
    · exact .keyword _
    · refine .withNames id fun columns => ?_
      exact ((Warranted.keyword _).append (.names _)).append (.verbatim _)
  | unique u =>
    simp only [draftTableConstraint, draftTableUnique]
    split
    · exact .missing _ ‹_›
    · exact .keyword _
    · refine .withNames id fun columns => ?_
      exact ((Warranted.keyword _).append (.ite .nil (.lack _ _))).append (.inParentheses _)
    · refine .withNames id fun columns => ?_
      exact ((Warranted.keyword _).append (.ite .nil (.keyword _))).append (.inParentheses _)

theorem warranted_draftColumnConstraint (c : Constraint) :
    t.Warranted c.MalformedOnColumn (t.draftColumnConstraint c) := by
  cases c with
  | check c =>
    simp only [draftColumnConstraint, draftColumnCheck]
    split
    · exact .missing _ ‹_›
    · exact .keyword _
    · exact ((Warranted.keyword _).append (.verbatim _)).append (.verbatim _)
  | foreignKey f =>
    simp only [draftColumnConstraint, draftColumnForeignKey]
    split
    · exact .missing _ ‹_›
    · exact .keyword _
    · exact (Warranted.verbatim _).append (warranted_draftReferences f)
  | primaryKey p =>
    simp only [draftColumnConstraint, draftColumnPrimaryKey]
    split
    · exact .missing _ ‹_›
    · exact .keyword _
    · exact .keyword _
  | unique u =>
    simp only [draftColumnConstraint, draftColumnUnique]
    split
    · exact .missing _ ‹_›
    · exact .keyword _
    · exact (Warranted.keyword _).append (.ite .nil (.lack _ _))
    · exact (Warranted.keyword _).append (.ite .nil (.keyword _))

theorem warranted_draftDefault (v : Value) : t.Warranted m (draftDefault v) := by
  unfold draftDefault
  refine .ite .nil (.append (.keyword _) ?_)
  split
  · exact .verbatim _
  · exact .single (.emitValue v)

theorem warranted_draftColumn (c : Column) : t.Warranted c.Malformed (t.draftColumn c) := by
  unfold draftColumn
  split
  · exact .missing _ ‹_›
  · exact .keyword _
  · refine .append (.append (.append (.append (.identifier _) (.verbatim _)) ?_) ?_) ?_
    · exact .ite .nil (.keyword _)
    · exact warranted_draftDefault _
    · exact .flatMap fun k hk => (warranted_draftColumnConstraint k).mono fun h => ⟨k, hk, h⟩

theorem warranted_draftCreateTable (c : CreateTable) :
    t.Warranted c.Malformed (t.draftCreateTable c) := by
  unfold draftCreateTable
  split
  · exact .missing _ ‹_›
  · exact .keyword _
  · refine .append (.append (.append (.append (.append (.keyword _) ?_) (.identifier _))
      (.verbatim _)) (.commaSeparated _ ?_)) (.verbatim _)
    · exact .ite (.keyword _) .nil
    · intro d hd
      rw [List.mem_append, List.mem_map, List.mem_map] at hd
      rcases hd with ⟨column, hmem, rfl⟩ | ⟨k, hmem, rfl⟩
      · exact ((warranted_draftColumn column).mono fun h => .inl ⟨column, hmem, h⟩).fragment
      · exact ((warranted_draftTableConstraint k).mono fun h => .inr ⟨k, hmem, h⟩).fragment

theorem warranted_draftDropTable (d : DropTable) :
    t.Warranted (Unnamed d.tableNames) (t.draftDropTable d) := by
  have haction : t.Warranted (Unnamed d.tableNames) (draftDropAction d.action) := by
    cases d.action with
    | none => exact .nil
    | some a => exact .keyword _
  have hannounce (tables : List String) :
      t.Warranted (Unnamed d.tableNames) [.announceDrop tables] := .single (.announceDrop tables)
  unfold draftDropTable
  dsimp only
  split
  · exact .missing _ ‹_›
  · exact .keyword _
  · refine .withNames id fun tables => ?_
    refine .append (.append (.append (.append (.append (.keyword _) ?_) ?_) (.names _)) haction)
      (hannounce _)
    · exact .ite (.keyword _) .nil
    · exact .ite (.lack _ _) .nil
  · refine .withNames id fun tables => ?_
    refine .append (.append (.append (.append (.keyword _) ?_) (.names _)) haction) (hannounce _)
    exact .ite (.lack _ _) .nil

/-- **Every step of the draft of a node is one that the target may take**: it is rejected only if it
is malformed, and what is left out is left out for what the target lacks. -/
theorem warranted_draft (t : Target) (n : Node) (p : Position) :
    t.Warranted (n.MalformedAt p) (t.draft n p) := by
  by_cases h : n.Stands p
  · have hpart := h.malformedAt_iff.mpr
    cases h with
    | createTable c => exact (warranted_draftCreateTable c).mono hpart
    | dropTable d => exact (warranted_draftDropTable d).mono hpart
    | bareStatement serial =>
      show t.Warranted _ (t.draftBareStatement serial)
      unfold draftBareStatement
      split
      · exact .missing _ ‹_›
      · exact .keyword _
    | tableConstraint c => exact (warranted_draftTableConstraint c).mono hpart
    | columnConstraint c => exact (warranted_draftColumnConstraint c).mono hpart
    | column c => exact (warranted_draftColumn c).mono hpart
    | action a => exact (warranted_draftAction a).mono hpart
  · have hslot : Slot.of? n.kind p = none := by
      by_contra hne
      exact h (Node.stands_of_slot hne)
    rw [draft_of_not_stands h]
    exact .single (.reject _ (.inl hslot))

end Target

/-! ### What renderings report -/

namespace Draft

/-- What a reading has left out was left out by a step. -/
theorem leaveOut_mem_of_mem_omitted {lenient : Bool} {d : Draft} {o : Omission}
    (h : o ∈ (read lenient d).omitted) : .leaveOut o ∈ d := by
  induction d with
  | nil => exact absurd h List.not_mem_nil
  | cons step rest ih =>
    cases step with
    | emit s => exact List.mem_cons_of_mem _ (ih h)
    | emitValue v => exact List.mem_cons_of_mem _ (ih h)
    | leaveOut o' =>
      cases lenient with
      | true =>
        rcases List.mem_cons.mp h with rfl | hrest
        · exact List.mem_cons_self
        · exact List.mem_cons_of_mem _ (ih hrest)
      | false => exact absurd h List.not_mem_nil
    | reject x => exact absurd h List.not_mem_nil
    | announceDrop tables => exact List.mem_cons_of_mem _ (ih h)
    | failJoin => exact absurd h List.not_mem_nil

/-- A reading ends at an omission of the draft. -/
theorem leaveOut_mem_of_unsupported {lenient : Bool} {d : Draft} {o : Omission}
    (h : (read lenient d).ending = .unsupported o) : .leaveOut o ∈ d := by
  induction d with
  | nil => exact absurd h nofun
  | cons step rest ih =>
    cases step with
    | emit s => exact List.mem_cons_of_mem _ (ih h)
    | emitValue v => exact List.mem_cons_of_mem _ (ih h)
    | leaveOut o' =>
      cases lenient with
      | true => exact List.mem_cons_of_mem _ (ih h)
      | false =>
        injection h with h
        exact h ▸ List.mem_cons_self
    | reject x => exact absurd h nofun
    | announceDrop tables => exact List.mem_cons_of_mem _ (ih h)
    | failJoin => exact absurd h nofun

end Draft

namespace Visitor

variable {v : Visitor} {n : Node} {p : Position}

/-- What the lenient rendering leaves out is an omission that the target makes. -/
theorem warrants_of_mem_omitted {sql : String} {os : List Omission} {o : Omission}
    (h : (v.lenient.render n p).outcome = .rendered sql os) (ho : o ∈ os) :
    v.target.Warrants (n.MalformedAt p) (.leaveOut o) := by
  rw [lenient_outcome] at h
  rw [← (outcomeOf_eq_rendered h).2.2] at ho
  exact v.target.warranted_draft n p _ (Draft.leaveOut_mem_of_mem_omitted ho)

/-- What the strict rendering refuses is an omission that the target makes. -/
theorem warrants_of_unsupported {o : Omission}
    (h : (v.strict.render n p).outcome = .unsupported o) :
    v.target.Warrants (n.MalformedAt p) (.leaveOut o) := by
  rw [strict_outcome] at h
  exact v.target.warranted_draft n p _ (Draft.leaveOut_mem_of_unsupported (outcomeOf_eq_unsupported h))

end Visitor

/-! ### Well-formed nodes -/

/-- Whether a lenient reading passes a step and its pieces can be joined. -/
def Step.isPassed : Step → Bool
  | .emit _ => true
  | .leaveOut _ => true
  | .announceDrop _ => true
  | _ => false

/-- A lenient reading of the draft of a node that is not malformed passes every step, on any
target. -/
theorem Target.isPassed_of_wellFormed (t : Target) {n : Node} {p : Position}
    (htext : n.hasTextDefaults = true) (hwell : ¬ n.MalformedAt p) :
    ∀ s ∈ t.draft n p, s.isPassed = true := by
  intro s hs
  have hplain := t.plain_draft htext p s hs
  cases t.warranted_draft n p s hs with
  | emit s => rfl
  | emitValue x => exact absurd hplain Bool.false_ne_true
  | announceDrop tables => rfl
  | failJoin => exact absurd hplain Bool.false_ne_true
  | lack construct f => rfl
  | missing construct h => rfl
  | reject d h => exact absurd h hwell

end SqlDialect
