import SqlDialect.Proofs.Malformed

/-!
# Accepted nodes

On a built-in target, both modes of rendering are told from the hurdles of a node that the target
meets (`Target.hurdles`).

* Strict rendering accepts a node exactly if the target meets none (`strict_renders_iff`).
* Where lenient rendering writes a text, it has left out all of them, in order
  (`hurdles_of_lenient_renders`).
-/

namespace SqlDialect

/-- The hurdle that was left out. -/
def Omission.hurdle (o : Omission) : Hurdle :=
  .gap o.construct o.gap

namespace Draft

/-- A strict reading of a plain draft comes to its end exactly if nothing stands in its way. -/
theorem Plain.complete_iff {d : Draft} (hd : Plain d) :
    (Draft.read false d).ending = .complete ↔ hurdles d = [] := by
  have hhead := head?_hurdles_of_strict d
  constructor
  · intro he
    rw [he] at hhead
    exact hhead
  · intro hnone
    rw [hnone] at hhead
    cases he : (Draft.read false d).ending with
    | complete => rfl
    | malformed x =>
      rw [he] at hhead
      exact absurd hhead nofun
    | unsupported o =>
      rw [he] at hhead
      exact absurd hhead nofun
    | unjoinable => exact absurd he (hd.read false).2

theorem omitted_read_strict (d : Draft) : (Draft.read false d).omitted = [] := by
  induction d with
  | nil => rfl
  | cons step rest ih =>
    cases step with
    | emit s => exact ih
    | emitValue v => exact ih
    | leaveOut o => rfl
    | reject x => rfl
    | announceDrop tables => exact ih
    | failJoin => rfl

/-- A lenient reading that comes to its end has left out every hurdle. -/
theorem hurdles_of_complete {d : Draft} (h : (Draft.read true d).ending = .complete) :
    hurdles d = (Draft.read true d).omitted.map Omission.hurdle := by
  induction d with
  | nil => rfl
  | cons step rest ih =>
    cases step with
    | emit s => exact ih h
    | emitValue v => exact ih h
    | leaveOut o => exact congrArg (o.hurdle :: ·) (ih h)
    | reject x => exact absurd h nofun
    | announceDrop tables => exact ih h
    | failJoin => exact absurd h nofun

end Draft

namespace Visitor

/-- **Strict rendering accepts the nodes without hurdles.** -/
theorem strict_renders_iff {v : Visitor} (hv : v.target ∈ Target.builtin) {n : Node}
    (h : n.hasTextDefaults = true) (p : Position) :
    (∃ sql os, (v.strict.render n p).outcome = .rendered sql os) ↔
      v.target.hurdles n p = [] := by
  have hplain := v.target.plain_draft h p
  rw [strict_outcome, ← Target.hurdles_draft hv, ← hplain.complete_iff]
  constructor
  · rintro ⟨sql, os, ho⟩
    exact (outcomeOf_eq_rendered ho).1
  · intro hcomplete
    exact ⟨_, _, outcomeOf_complete hcomplete (hplain.read false).1⟩

/-- Strict rendering accepts no malformed node. -/
theorem not_malformedAt_of_strict_renders {v : Visitor} (hv : v.target ∈ Target.builtin) {n : Node}
    (htext : n.hasTextDefaults = true) {p : Position} {sql : String} {os : List Omission}
    (h : (v.strict.render n p).outcome = .rendered sql os) : ¬ n.MalformedAt p := by
  have hclear := (strict_renders_iff hv htext p).mp ⟨sql, os, h⟩
  rw [← n.hasDefect_hurdles]
  rintro ⟨d, hd⟩
  have hmem : Hurdle.defect d ∈ v.target.hurdles n p := List.mem_filter.mpr ⟨hd, rfl⟩
  rw [hclear] at hmem
  exact absurd hmem List.not_mem_nil

/-- Strict rendering leaves nothing out. -/
theorem omitted_of_strict_renders {v : Visitor} {n : Node} {p : Position} {sql : String}
    {os : List Omission} (h : (v.strict.render n p).outcome = .rendered sql os) : os = [] := by
  rw [strict_outcome] at h
  rw [← (outcomeOf_eq_rendered h).2.2]
  exact Draft.omitted_read_strict _

/-- Lenient rendering accepts the nodes that are not malformed. -/
theorem lenient_renders_iff {v : Visitor} (hv : v.target ∈ Target.builtin) {n : Node}
    (h : n.hasTextDefaults = true) (p : Position) :
    (∃ sql os, (v.lenient.render n p).outcome = .rendered sql os) ↔ ¬ n.MalformedAt p := by
  have houtcome := lenient_outcome_builtin hv h p
  rw [← n.hasDefect_hurdles, ← Hurdle.firstDefect?_eq_none_iff]
  cases hfirst : Hurdle.firstDefect? (n.hurdles p) with
  | none =>
    rw [hfirst] at houtcome
    obtain ⟨sql, os, ho, -⟩ := houtcome
    exact iff_of_true ⟨sql, os, ho⟩ rfl
  | some d =>
    rw [hfirst] at houtcome
    refine iff_of_false ?_ nofun
    rintro ⟨sql, os, ho⟩
    exact Outcome.ofDefect_ne_rendered (houtcome.symm.trans ho)

/-- **Lenient rendering leaves out the hurdles.** -/
theorem hurdles_of_lenient_renders {v : Visitor} (hv : v.target ∈ Target.builtin) {n : Node}
    {p : Position} {sql : String} {os : List Omission}
    (h : (v.lenient.render n p).outcome = .rendered sql os) :
    v.target.hurdles n p = os.map Omission.hurdle := by
  rw [lenient_outcome] at h
  obtain ⟨hcomplete, -, homitted⟩ := outcomeOf_eq_rendered h
  rw [← Target.hurdles_draft hv, Draft.hurdles_of_complete hcomplete, homitted]

end Visitor

end SqlDialect
