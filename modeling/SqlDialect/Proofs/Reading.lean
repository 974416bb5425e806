import SqlDialect.Dialect.Draft

/-!
# The two modes of reading a draft

`Draft.read` follows a draft leniently or strictly.  Both modes do the same up to the first
omission; there the strict one stops (`ending_read_strict`), so a draft whose lenient reading omits
nothing is read in one way only (`read_strict_of_omitted_nil`).

Three views of a draft say what its readings come to, without following it step by step:

* `hurdles`, its omissions and rejections in order: the lenient reading ends at the first rejection
  among them (`firstDefect?_of_lenient`), the strict one at the first of all
  (`head?_hurdles_of_strict`);
* `expressible`, the draft without its omissions: reading it strictly writes what reading the draft
  leniently writes (`read_expressible`);
* `Plain`, that every piece is a text: then joining the pieces cannot fail.
-/

namespace SqlDialect

/-- What stands in the way of rendering a part of a tree: a defect, on every target, or a gap, on
the targets that have it. -/
inductive Hurdle
  | defect (d : Defect)
  | gap (construct : Node) (gap : Gap)

namespace Hurdle

/-- The defect, if the hurdle is one. -/
def defect? : Hurdle → Option Defect
  | .defect d => some d
  | .gap _ _ => none

/-- The first defect among hurdles. -/
def firstDefect? (hs : List Hurdle) : Option Defect :=
  hs.findSome? defect?

@[simp] theorem firstDefect?_defect (d : Defect) (hs : List Hurdle) :
    firstDefect? (.defect d :: hs) = some d := rfl

@[simp] theorem firstDefect?_gap (construct : Node) (g : Gap) (hs : List Hurdle) :
    firstDefect? (.gap construct g :: hs) = firstDefect? hs := rfl

end Hurdle

/-- The hurdle that a step is. -/
def Step.hurdle? : Step → Option Hurdle
  | .leaveOut o => some (.gap o.construct o.gap)
  | .reject d => some (.defect d)
  | _ => none

/-- Whether a step writes something that the target can express. -/
def Step.isExpressible : Step → Bool
  | .leaveOut _ => false
  | _ => true

/-- Whether a step is about texts only. -/
def Step.isPlain : Step → Bool
  | .emitValue _ => false
  | .failJoin => false
  | _ => true

namespace Draft

/-! ### The strict reading, from the lenient one -/

/-- A strict reading is the lenient one if that omits nothing. -/
theorem read_strict_of_omitted_nil (d : Draft) (h : (read true d).omitted = []) :
    read false d = read true d := by
  -- the modes differ at omissions only, and the hypothesis passes to the rest at every other step
  induction d with
  | nil => rfl
  | cons step rest ih =>
    cases step with
    | emit s =>
      simp only [read] at h ⊢
      rw [ih h]
    | emitValue v =>
      simp only [read] at h ⊢
      rw [ih h]
    | leaveOut o => simp [read] at h
    | reject x => rfl
    | announceDrop tables =>
      simp only [read] at h ⊢
      rw [ih h]
    | failJoin => rfl

/-- A strict reading ends at the first thing that the lenient one omits, and otherwise as it does. -/
theorem ending_read_strict (d : Draft) :
    (read false d).ending =
      match (read true d).omitted with
      | [] => (read true d).ending
      | o :: _ => .unsupported o := by
  induction d with
  | nil => rfl
  | cons step rest ih => cases step <;> simp only [read, ↓reduceIte, Bool.false_eq_true, ih]

/-- A lenient reading never ends at an omission. -/
theorem ending_read_lenient_ne_unsupported (d : Draft) (o : Omission) :
    (read true d).ending ≠ .unsupported o := by
  induction d with
  | nil => exact nofun
  | cons step rest ih =>
    cases step with
    | emit s => exact ih
    | emitValue v => exact ih
    | leaveOut o' => exact ih
    | reject x => exact nofun
    | announceDrop tables => exact ih
    | failJoin => exact nofun

/-! ### Hurdles -/

/-- The omissions and rejections of a draft, in order. -/
def hurdles (d : Draft) : List Hurdle :=
  d.filterMap Step.hurdle?

@[simp] theorem hurdles_nil : hurdles [] = [] := rfl

@[simp] theorem hurdles_append (a b : Draft) : hurdles (a ++ b) = hurdles a ++ hurdles b :=
  List.filterMap_append

theorem hurdles_flatMap {α : Type} (xs : List α) (f : α → Draft) :
    hurdles (xs.flatMap f) = xs.flatMap fun x => hurdles (f x) :=
  List.filterMap_flatMap ..

@[simp] theorem hurdles_keyword (text : String) : hurdles (keyword text) = [] := rfl

@[simp] theorem hurdles_identifier (name : String) : hurdles (identifier name) = [] := rfl

@[simp] theorem hurdles_verbatim (text : String) : hurdles (verbatim text) = [] := rfl

@[simp] theorem hurdles_names (ns : List String) : hurdles (names ns) = [] := by
  fun_induction names ns with
  | case1 => rfl
  | case2 name => rfl
  | case3 name rest _ ih => rw [hurdles_append, hurdles_append, ih]; rfl

@[simp] theorem hurdles_fragment (d : Draft) : hurdles (fragment d) = hurdles d := by
  unfold fragment
  split
  · rw [hurdles_append]
    exact List.append_nil _
  · rfl

/-- Joining fragments puts no hurdle between them. -/
theorem hurdles_commaSeparated (started : Bool) (ds : List Draft) :
    hurdles (commaSeparated started ds) = ds.flatMap hurdles := by
  fun_induction commaSeparated started ds with
  | case1 => rfl
  | case2 started d rest _ ih => rw [hurdles_append, ih, List.flatMap_cons]
  | case3 started d rest _ ih =>
    rw [hurdles_append, hurdles_append, ih, List.flatMap_cons]
    cases started <;> rfl

/-- A lenient reading that ends at a rejection ends at the first defect among the hurdles; one that
comes to its end has passed no defect and omitted every hurdle. -/
theorem firstDefect?_of_lenient (d : Draft) :
    match (read true d).ending with
    | .complete =>
      Hurdle.firstDefect? (hurdles d) = none ∧ (read true d).omitted.length = (hurdles d).length
    | .malformed x => Hurdle.firstDefect? (hurdles d) = some x
    | _ => True := by
  induction d with
  | nil => exact ⟨rfl, rfl⟩
  | cons step rest ih =>
    cases step with
    | emit s => exact ih
    | emitValue v => exact ih
    | leaveOut o =>
      -- one hurdle more, which is no defect, and one omission more
      show match (read true rest).ending with
        | .complete => Hurdle.firstDefect? (hurdles rest) = none ∧
            (read true rest).omitted.length + 1 = (hurdles rest).length + 1
        | .malformed x => Hurdle.firstDefect? (hurdles rest) = some x
        | _ => True
      split <;> simp_all
    | reject x => exact rfl
    | announceDrop tables => exact ih
    | failJoin => trivial

/-- A strict reading ends at the first hurdle, and comes to its end only where there is none. -/
theorem head?_hurdles_of_strict (d : Draft) :
    match (read false d).ending with
    | .complete => hurdles d = []
    | .malformed x => (hurdles d).head? = some (.defect x)
    | .unsupported o => (hurdles d).head? = some (.gap o.construct o.gap)
    | .unjoinable => True := by
  induction d with
  | nil => exact rfl
  | cons step rest ih =>
    cases step with
    | emit s => exact ih
    | emitValue v => exact ih
    | leaveOut o => exact rfl
    | reject x => exact rfl
    | announceDrop tables => exact ih
    | failJoin => trivial

/-! ### The expressible part -/

/-- A draft without its omissions. -/
def expressible (d : Draft) : Draft :=
  d.filter Step.isExpressible

@[simp] theorem expressible_nil : expressible [] = [] := rfl

@[simp] theorem expressible_append (a b : Draft) :
    expressible (a ++ b) = expressible a ++ expressible b :=
  List.filter_append ..

@[simp] theorem expressible_keyword (text : String) :
    expressible (keyword text) = keyword text := rfl

@[simp] theorem expressible_identifier (name : String) :
    expressible (identifier name) = identifier name := rfl

@[simp] theorem expressible_verbatim (text : String) :
    expressible (verbatim text) = verbatim text := rfl

@[simp] theorem expressible_names (ns : List String) : expressible (names ns) = names ns := by
  fun_induction names ns with
  | case1 => rfl
  | case2 name => rfl
  | case3 name rest _ ih => rw [expressible_append, expressible_append, ih]; rfl

/-- Omissions add nothing to the text of a draft. -/
theorem isEmptyText_expressible (d : Draft) : isEmptyText (expressible d) = isEmptyText d := by
  induction d with
  | nil => rfl
  | cons step rest ih =>
    cases step with
    | leaveOut o => exact ih
    | emit s => exact congrArg (isSilent (.emit s) && ·) ih
    | emitValue v => rfl
    | reject x => exact ih
    | announceDrop tables => exact ih
    | failJoin => exact ih

/-- Dropping the omissions of fragments leaves the commas between them as they are. -/
theorem expressible_commaSeparated (started : Bool) (ds : List Draft) :
    expressible (commaSeparated started ds) = commaSeparated started (ds.map expressible) := by
  induction ds generalizing started with
  | nil => rfl
  | cons d rest ih =>
    -- whether a comma comes before a fragment depends on texts alone, and omissions have none
    rw [List.map_cons, commaSeparated, commaSeparated, isEmptyText_expressible]
    split
    · rw [expressible_append, ih]
    · rw [expressible_append, expressible_append, ih]
      cases started <;> rfl

/-- Reading the expressible part strictly writes what reading the draft leniently writes, ends in
the same way and omits nothing. -/
theorem read_expressible (d : Draft) :
    (read false (expressible d)).segments = (read true d).segments ∧
    (read false (expressible d)).joinable = (read true d).joinable ∧
    (read false (expressible d)).ending = (read true d).ending ∧
    (read false (expressible d)).omitted = [] := by
  induction d with
  | nil => exact ⟨rfl, rfl, rfl, rfl⟩
  | cons step rest ih =>
    obtain ⟨hs, hj, he, ho⟩ := ih
    cases step with
    | emit s => exact ⟨congrArg (s :: ·) hs, hj, he, ho⟩
    | emitValue v => exact ⟨hs, rfl, he, ho⟩
    | leaveOut o => exact ⟨hs, hj, he, ho⟩
    | reject x => exact ⟨rfl, rfl, rfl, rfl⟩
    | announceDrop tables => exact ⟨hs, hj, he, ho⟩
    | failJoin => exact ⟨rfl, rfl, rfl, rfl⟩

/-! ### Plain drafts -/

/-- Every piece of the draft is a text. -/
def Plain (d : Draft) : Prop :=
  ∀ s ∈ d, s.isPlain = true

@[simp] theorem plain_nil : Plain [] :=
  List.forall_mem_nil _

@[simp] theorem plain_append (a b : Draft) : Plain (a ++ b) ↔ Plain a ∧ Plain b :=
  List.forall_mem_append

@[simp] theorem plain_cons (s : Step) (d : Draft) : Plain (s :: d) ↔ s.isPlain = true ∧ Plain d :=
  List.forall_mem_cons

@[simp] theorem plain_keyword (text : String) : Plain (keyword text) := by
  simp [keyword, Step.isPlain]

@[simp] theorem plain_identifier (name : String) : Plain (identifier name) := by
  simp [identifier, Step.isPlain]

@[simp] theorem plain_verbatim (text : String) : Plain (verbatim text) := by
  simp [verbatim, Step.isPlain]

@[simp] theorem plain_names (ns : List String) : Plain (names ns) := by
  fun_induction names ns with
  | case1 => exact plain_nil
  | case2 name => exact plain_identifier name
  | case3 name rest _ ih => simp [comma, ih]

theorem Plain.expressible {d : Draft} (hd : Plain d) : Plain (expressible d) :=
  fun s hs => hd s (List.mem_filter.mp hs).1

/-- A plain draft is joined to its own text at once. -/
theorem Plain.fragment_eq {d : Draft} (hd : Plain d) : fragment d = d := by
  have h : emitsValue d = false := by
    rw [emitsValue, List.any_eq_false]
    intro s hs
    have := hd s hs
    cases s <;> simp_all [Step.isPlain]
  rw [fragment, h]
  rfl

theorem plain_flatMap {α : Type} {xs : List α} {f : α → Draft} (h : ∀ x ∈ xs, Plain (f x)) :
    Plain (xs.flatMap f) := by
  intro s hs
  obtain ⟨x, hx, hsx⟩ := List.mem_flatMap.mp hs
  exact h x hx s hsx

theorem plain_commaSeparated (started : Bool) {ds : List Draft} (h : ∀ d ∈ ds, Plain d) :
    Plain (commaSeparated started ds) := by
  induction ds generalizing started with
  | nil => exact plain_nil
  | cons d rest ih =>
    obtain ⟨hd, hrest⟩ := List.forall_mem_cons.mp h
    rw [commaSeparated]
    split
    · exact (plain_append _ _).mpr ⟨hd, ih _ hrest⟩
    · cases started <;> simp [comma, hd, ih _ hrest]

/-- The pieces of a plain draft can be joined, and neither reading of it ends at a join. -/
theorem Plain.read {d : Draft} (hd : Plain d) (lenient : Bool) :
    (Draft.read lenient d).joinable = true ∧ (Draft.read lenient d).ending ≠ .unjoinable := by
  induction d with
  | nil => exact ⟨rfl, nofun⟩
  | cons step rest ih =>
    rw [plain_cons] at hd
    have hrest := ih hd.2
    cases step with
    | emit s => exact hrest
    | emitValue v => exact absurd hd.1 Bool.false_ne_true
    | leaveOut o =>
      cases lenient with
      | true => exact hrest
      | false => exact ⟨rfl, nofun⟩
    | reject x => exact ⟨rfl, nofun⟩
    | announceDrop tables => exact hrest
    | failJoin => exact absurd hd.1 Bool.false_ne_true

end Draft

end SqlDialect
