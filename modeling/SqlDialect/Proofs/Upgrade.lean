import SqlDialect.Proofs.Template

/-!
# Upgrading the target

A later known version of PostgreSQL has every feature of an earlier one (`expresses_of_upTo`), so of
the hurdles of a node it meets some of those that the earlier one meets, in the same order
(`hurdles_sublist_of_upTo`).  Both modes of rendering follow the hurdles: what the earlier version
accepts strictly the later one accepts with the same text, and of what the earlier version leaves
out leniently the later one leaves out a part (`render_upgrade`).
-/

namespace SqlDialect

namespace Target

variable {v w : Version} (hv : v ∈ Platform.postgresqlVersions)
  (hw : w ∈ Platform.postgresqlVersions) (hle : v.upTo w = true)

include hv hw hle

/-- A later version has the features of an earlier one. -/
theorem expresses_of_upTo {f : Feature} (h : expresses ⟨.postgresql, v⟩ f = true) :
    expresses ⟨.postgresql, w⟩ f = true := by
  -- one feature depends on the version, and it is there from 15 on
  have hfrom : ∀ v ∈ Platform.postgresqlVersions, ∀ w ∈ Platform.postgresqlVersions,
      v.upTo w = true → (⟨[15]⟩ : Version).upTo v = true → (⟨[15]⟩ : Version).upTo w = true := by
    decide
  cases f with
  | uniqueNullsNotDistinct =>
    simp only [expresses, Bool.and_eq_true] at h ⊢
    exact ⟨h.1, hfrom v hv w hw hle h.2⟩
  | _ => exact h

/-- The later version meets some of the hurdles that the earlier one meets, in their order. -/
theorem hurdles_sublist_of_upTo (n : Node) (p : Position) :
    (hurdles ⟨.postgresql, w⟩ n p).Sublist (hurdles ⟨.postgresql, v⟩ n p) := by
  refine List.monotone_filter_right _ fun h hblocks => ?_
  cases h with
  | defect d => rfl
  | gap construct g =>
    cases g with
    | form slot => rfl
    | feature f =>
      simp only [blocks, Bool.not_eq_true'] at hblocks ⊢
      by_contra hexpresses
      rw [Bool.not_eq_false] at hexpresses
      exact absurd (expresses_of_upTo hv hw hle hexpresses) (by simp [hblocks])

end Target

/-- What an omission is about: the construct and what the target lacks for it. -/
def Omission.subject (o : Omission) : Node × Gap :=
  (o.construct, o.gap)

/-- The construct and the gap of a hurdle that is one. -/
def Hurdle.subject? : Hurdle → Option (Node × Gap)
  | .defect _ => none
  | .gap construct g => some (construct, g)

/-- Omissions are about the gaps that they leave out. -/
theorem Omission.map_subject (os : List Omission) :
    os.map Omission.subject = (os.map Omission.hurdle).filterMap Hurdle.subject? := by
  rw [List.filterMap_map, ← List.filterMap_eq_map]
  rfl

namespace Visitor

/-- **An upgrade neither breaks nor changes what was accepted.**  Where strict rendering for a
PostgreSQL version gives a text, it gives the same for every later version; where lenient rendering
gives one, it gives one for every later version, and leaves out no more. -/
theorem render_upgrade {v w : Version} (hv : v ∈ Platform.postgresqlVersions)
    (hw : w ∈ Platform.postgresqlVersions) (hle : v.upTo w = true) (s : Strategy) (n : Node)
    (p : Position) (htext : n.hasTextDefaults = true) :
    let earlier : Visitor := ⟨⟨.postgresql, v⟩, s⟩
    let later : Visitor := ⟨⟨.postgresql, w⟩, s⟩
    (∀ sql omitted, (earlier.strict.render n p).outcome = .rendered sql omitted →
      (later.strict.render n p).outcome = .rendered sql omitted) ∧
    ∀ sql omitted, (earlier.lenient.render n p).outcome = .rendered sql omitted →
      ∃ sql' omitted', (later.lenient.render n p).outcome = .rendered sql' omitted' ∧
        (omitted'.map Omission.subject).Sublist (omitted.map Omission.subject) := by
  intro earlier later
  have hearlier : earlier.target ∈ Target.builtin := Target.postgresql_mem_builtin hv
  have hlater : later.target ∈ Target.builtin := Target.postgresql_mem_builtin hw
  have hfewer : (later.target.hurdles n p).Sublist (earlier.target.hurdles n p) :=
    Target.hurdles_sublist_of_upTo hv hw hle n p
  constructor
  · intro sql omitted h
    have hclear := (strict_renders_iff hearlier htext p).mp ⟨sql, omitted, h⟩
    rw [hclear, List.sublist_nil] at hfewer
    obtain ⟨sql', omitted', h'⟩ := (strict_renders_iff hlater htext p).mpr hfewer
    -- both write the template, and strict rendering leaves nothing out
    have hsql : sql' = sql := by
      rw [sql_of_strict_renders hearlier htext h, sql_of_strict_renders hlater htext h']
    rw [h', hsql, omitted_of_strict_renders h, omitted_of_strict_renders h']
  · intro sql omitted h
    have hwell : ¬ n.MalformedAt p := (lenient_renders_iff hearlier htext p).mp ⟨sql, omitted, h⟩
    obtain ⟨sql', omitted', h'⟩ := (lenient_renders_iff hlater htext p).mpr hwell
    refine ⟨sql', omitted', h', ?_⟩
    rw [Omission.map_subject, Omission.map_subject, ← hurdles_of_lenient_renders hearlier h,
      ← hurdles_of_lenient_renders hlater h']
    exact hfewer.filterMap _

/-- From PostgreSQL 14 to 15: the later version leaves out the columns of an action that accepts
none, and no longer what is said about nulls. -/
theorem render_upgrade_nulls_not_distinct :
    let earlier : Visitor := ⟨⟨.postgresql, ⟨[14]⟩⟩, {}⟩
    let later : Visitor := ⟨⟨.postgresql, ⟨[15]⟩⟩, {}⟩
    let a : ReferentialAction := ⟨.cascade, [.text "a"]⟩
    let u : Unique := { columnNames := [.text "a"], nullsDistinct := .bool false }
    let f : ForeignKey :=
      { columnNames := [.text "a"], refTable := "u", refColumns := [.text "id"], onUpdate := some a }
    let n : Node := .createTable { tableName := "t", constraints := [.unique u, .foreignKey f] }
    earlier.target.version ∈ Platform.postgresqlVersions ∧
      later.target.version ∈ Platform.postgresqlVersions ∧
      earlier.target.version.upTo later.target.version = true ∧ n.hasTextDefaults = true ∧
      ∃ sql omitted sql' omitted',
        (earlier.lenient.render n .statement).outcome = .rendered sql omitted ∧
        omitted.map Omission.subject =
          [(.constraint (.unique u), .feature .uniqueNullsNotDistinct),
            (.action a, .feature .actionColumnsOther)] ∧
        (later.lenient.render n .statement).outcome = .rendered sql' omitted' ∧
        (omitted'.map Omission.subject).Sublist (omitted.map Omission.subject) := by
  intro earlier later a u f n
  have hv : earlier.target.version ∈ Platform.postgresqlVersions := by decide
  have hw : later.target.version ∈ Platform.postgresqlVersions := by decide
  have hbuiltin : earlier.target ∈ Target.builtin := Target.postgresql_mem_builtin hv
  obtain ⟨sql, omitted, hearlier⟩ :=
    (lenient_renders_iff hbuiltin (n := n) rfl .statement).mpr (by decide)
  have hsubjects : omitted.map Omission.subject =
      (earlier.target.hurdles n .statement).filterMap Hurdle.subject? := by
    rw [Omission.map_subject, hurdles_of_lenient_renders hbuiltin hearlier]
  obtain ⟨sql', omitted', hlater, hfewer⟩ :=
    (render_upgrade hv hw (by decide) {} n .statement rfl).2 sql omitted hearlier
  exact ⟨hv, hw, by decide, rfl, sql, omitted, sql', omitted', hearlier, hsubjects, hlater, hfewer⟩

end Visitor

end SqlDialect
