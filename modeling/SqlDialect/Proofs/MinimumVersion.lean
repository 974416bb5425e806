import SqlDialect.Proofs.Omissions
import SqlDialect.Proofs.Upgrade

/-!
# The first version that can express a part

An omission names the first later version that can express what was left out, if there is one.  On
the built-in engines that version is exact (`since_exact`): the same part is left out at every known
version before it, and at none from it on; a part without such a version is left out for good.

The version is computed from what layers introduce, and a part is left out by the forms that layers
have; the two agree feature by feature (`isFirstWithout_since?`).  From there the hurdles of a node
tell both modes: lenient rendering leaves out the hurdles that the target meets
(`lenient_omits_iff`), strict rendering refuses the first of them (`strict_refuses_iff`).
-/

namespace SqlDialect

/-! ### The first version without a lack -/

/-- A version of the engine is the first one, after `v`, at which something is not lacking: it is
lacking at every known version from `v` up to there, and at none from there on.  Without such a
version it is lacking at every known version from `v` on. -/
def Engine.IsFirstWithout (e : Engine) (v : Version) (lacking : Version → Prop) :
    Option Version → Prop
  | some first =>
    first ∈ e.versions ∧ v.before first = true ∧
      (∀ w ∈ e.versions, v.upTo w = true → w.before first = true → lacking w) ∧
      ∀ w ∈ e.versions, first.upTo w = true → ¬ lacking w
  | none => ∀ w ∈ e.versions, v.upTo w = true → lacking w

namespace Engine

instance (e : Engine) (v : Version) (lacking : Version → Prop) [DecidablePred lacking] :
    (first? : Option Version) → Decidable (e.IsFirstWithout v lacking first?)
  | some first => inferInstanceAs (Decidable (first ∈ e.versions ∧ v.before first = true ∧
      (∀ w ∈ e.versions, v.upTo w = true → w.before first = true → lacking w) ∧
      ∀ w ∈ e.versions, first.upTo w = true → ¬ lacking w))
  | none => inferInstanceAs (Decidable (∀ w ∈ e.versions, v.upTo w = true → lacking w))

theorem IsFirstWithout.congr {e : Engine} {v : Version} {lacking lacking' : Version → Prop}
    {first? : Option Version} (h : e.IsFirstWithout v lacking first?)
    (himp : ∀ w ∈ e.versions, v.upTo w = true → lacking w → lacking' w)
    (hback : ∀ w ∈ e.versions, lacking' w → lacking w) :
    e.IsFirstWithout v lacking' first? := by
  cases first? with
  | none =>
    intro w hw hle
    exact himp w hw hle (h w hw hle)
  | some first =>
    obtain ⟨hknown, hlater, hbefore, hfrom⟩ := h
    refine ⟨hknown, hlater, ?_, ?_⟩
    · intro w hw hle hlt
      exact himp w hw hle (hbefore w hw hle hlt)
    · intro w hw hle hlacking
      exact hfrom w hw hle (hback w hw hlacking)

end Engine

namespace Target

/-- What needs a feature is met by the targets without it. -/
theorem blocks_feature_iff (t : Target) (construct : Node) (f : Feature) :
    t.blocks (.gap construct (.feature f)) = true ↔ t.expresses f = false := by
  simp [blocks]

variable {e : Engine} (he : e ∈ Engine.builtin) {v : Version} (hv : v ∈ e.versions)

include he hv

theorem mem_builtin_of_mem : ⟨e, v⟩ ∈ builtin :=
  List.mem_flatMap.mpr ⟨e, he, List.mem_map_of_mem hv⟩

/-- A later version meets only hurdles that an earlier one meets. -/
theorem blocks_of_upTo {w : Version} (hw : w ∈ e.versions) (hle : v.upTo w = true) {h : Hurdle}
    (hblocks : blocks ⟨e, w⟩ h = true) : blocks ⟨e, v⟩ h = true := by
  rcases List.mem_pair.mp he with rfl | rfl
  · cases h with
    | defect d => rfl
    | gap construct g =>
      cases g with
      | form slot => rfl
      | feature f =>
        rw [blocks_feature_iff] at hblocks ⊢
        by_contra hexpresses
        rw [Bool.not_eq_false] at hexpresses
        rw [expresses_of_upTo hv hw hle hexpresses] at hblocks
        exact Bool.noConfusion hblocks
  · have hsame : v = w := (List.mem_singleton.mp hv).trans (List.mem_singleton.mp hw).symm
    rw [hsame]
    exact hblocks

/-- **The reported version of a gap is exact**, for each gap that a built-in target has. -/
theorem isFirstWithout_since? {malformed : Prop} {o : Omission}
    (ho : Warrants ⟨e, v⟩ malformed (.leaveOut o))
    (hblocks : blocks ⟨e, v⟩ o.hurdle = true) :
    e.IsFirstWithout v (fun w => blocks ⟨e, w⟩ o.hurdle = true) o.since := by
  have hfeatures : ∀ e ∈ Engine.builtin, ∀ v ∈ e.versions, ∀ f ∈ Feature.all,
      expresses ⟨e, v⟩ f = false →
        e.IsFirstWithout v (fun w => expresses ⟨e, w⟩ f = false)
          (since? ⟨e, v⟩ fun l => l.closes (.feature f)) := by decide +kernel
  have hstatement : ∀ e ∈ Engine.builtin, ∀ v ∈ e.versions,
      since? ⟨e, v⟩ (fun l => l.closes (.form .statement)) = none := by decide +kernel
  have hforms : ∀ t ∈ builtin, ∀ slot ∈ Slot.all, t.builtinForm? slot = none →
      slot = .statement := by decide
  cases ho with
  | lack construct f =>
    have hlacks : expresses ⟨e, v⟩ f = false := (blocks_feature_iff _ construct f).mp hblocks
    refine (hfeatures e he v hv f (by cases f <;> decide) hlacks).congr ?_ ?_
    · intro w _ _ hw
      exact (blocks_feature_iff _ construct f).mpr hw
    · intro w _ hw
      exact (blocks_feature_iff _ construct f).mp hw
  | missing construct hform =>
    -- the only slot without a form is that of a bare statement, and no layer has one
    rename_i slot
    have ht := mem_builtin_of_mem he hv
    rw [form?_builtin ht] at hform
    obtain rfl : slot = .statement := hforms _ ht slot (by cases slot <;> decide) hform
    show e.IsFirstWithout v _ (since? ⟨e, v⟩ fun l => l.closes (.form .statement))
    rw [hstatement e he v hv]
    intro w _ _
    rfl

end Target

/-! ### Hurdles and the two modes -/

namespace Visitor

variable {v : Visitor} (hv : v.target ∈ Target.builtin) {n : Node} {p : Position}

/-- The lenient rendering of a node succeeds and leaves a part out. -/
def LenientlyOmits (v : Visitor) (n : Node) (p : Position) (part : Node × Gap) : Prop :=
  ∃ sql os, (v.lenient.render n p).outcome = .rendered sql os ∧ part ∈ os.map Omission.subject

/-- The strict rendering of a node refuses a part. -/
def StrictlyRefuses (v : Visitor) (n : Node) (p : Position) (part : Node × Gap) : Prop :=
  ∃ o, (v.strict.render n p).outcome = .unsupported o ∧ o.subject = part

include hv

theorem lenient_omits_iff (htext : n.hasTextDefaults = true) (hwell : ¬ n.MalformedAt p)
    (construct : Node) (g : Gap) :
    v.LenientlyOmits n p (construct, g) ↔ .gap construct g ∈ v.target.hurdles n p := by
  obtain ⟨sql, os, h⟩ := (lenient_renders_iff hv htext p).mpr hwell
  rw [hurdles_of_lenient_renders hv h]
  have hmem : (construct, g) ∈ os.map Omission.subject ↔
      .gap construct g ∈ os.map Omission.hurdle := by
    simp [Omission.subject, Omission.hurdle]
  constructor
  · rintro ⟨sql', os', h', hpart⟩
    rw [h] at h'
    injection h' with _ hos
    exact hmem.mp (hos ▸ hpart)
  · intro hpart
    exact ⟨sql, os, h, hmem.mpr hpart⟩

theorem strict_refuses_iff (htext : n.hasTextDefaults = true) (construct : Node) (g : Gap) :
    v.StrictlyRefuses n p (construct, g) ↔
      (v.target.hurdles n p).head? = some (.gap construct g) := by
  have hhead := (v.target.draft n p).head?_hurdles_of_strict
  have hjoin := ((v.target.plain_draft htext p).read false).2
  rw [Target.hurdles_draft hv] at hhead
  unfold StrictlyRefuses
  rw [strict_outcome]
  constructor
  · rintro ⟨o, ho, hpart⟩
    rw [outcomeOf_eq_unsupported ho] at hhead
    rw [hhead]
    injection hpart with hconstruct hg
    rw [hconstruct, hg]
  · intro hfirst
    cases he : ((v.target.draft n p).read false).ending with
    | complete =>
      rw [he] at hhead
      rw [show v.target.hurdles n p = [] from hhead] at hfirst
      exact absurd hfirst nofun
    | malformed d =>
      rw [he] at hhead
      rw [show (v.target.hurdles n p).head? = _ from hhead] at hfirst
      exact absurd hfirst nofun
    | unsupported o =>
      rw [he] at hhead
      rw [show (v.target.hurdles n p).head? = _ from hhead] at hfirst
      injection hfirst with hgap
      injection hgap with hconstruct hg
      exact ⟨o, outcomeOf_unsupported he, Prod.ext hconstruct hg⟩
    | unjoinable => exact absurd he hjoin

end Visitor

/-! ### Exactness -/

/-- What comes first among the members with a property comes first among those with a narrower one,
if it has that one too. -/
theorem head?_filter_of_imp {α : Type} {p q : α → Bool} (himp : ∀ x, q x = true → p x = true)
    {xs : List α} {x : α} (h : (xs.filter p).head? = some x) (hx : q x = true) :
    (xs.filter q).head? = some x := by
  rw [List.head?_filter, List.find?_eq_some_iff_append] at h ⊢
  obtain ⟨-, before, after, hxs, hbefore⟩ := h
  refine ⟨hx, before, after, hxs, ?_⟩
  intro y hy
  have hnot := hbefore y hy
  rw [Bool.not_eq_true'] at hnot ⊢
  by_contra hq
  rw [Bool.not_eq_false] at hq
  rw [himp y hq] at hnot
  exact Bool.noConfusion hnot

namespace Visitor

/-- **The reported version is exact on the built-in engines.**  A node that is not malformed is
rendered leniently at every known version.  What is left out at one of them is left out at every
known version from there up to the reported one and at none from that on, or for good if no version
is reported.  What strict rendering refuses is so left out, and so refused. -/
theorem since_exact {e : Engine} (he : e ∈ Engine.builtin) {v : Version} (hv : v ∈ e.versions)
    (s : Strategy) (n : Node) (p : Position) (htext : n.hasTextDefaults = true)
    (hwell : ¬ n.MalformedAt p) :
    let visitor : Version → Visitor := fun w => ⟨⟨e, w⟩, s⟩
    (∀ w ∈ e.versions, ∃ sql os, ((visitor w).lenient.render n p).outcome = .rendered sql os) ∧
    (∀ sql os, ((visitor v).lenient.render n p).outcome = .rendered sql os → ∀ o ∈ os,
      e.IsFirstWithout v (fun w => (visitor w).LenientlyOmits n p o.subject) o.since) ∧
    ∀ o, ((visitor v).strict.render n p).outcome = .unsupported o →
      e.IsFirstWithout v (fun w => (visitor w).LenientlyOmits n p o.subject) o.since ∧
      e.IsFirstWithout v (fun w => (visitor w).StrictlyRefuses n p o.subject) o.since := by
  intro visitor
  have hbuiltin : ∀ w ∈ e.versions, (visitor w).target ∈ Target.builtin :=
    fun w hw => Target.mem_builtin_of_mem he hw
  -- a part that is left out at some version is a hurdle of the node, whatever the version
  have hlenient {o : Omission} (hwarrants : (visitor v).target.Warrants (n.MalformedAt p) (.leaveOut o))
      (hmet : o.hurdle ∈ (visitor v).target.hurdles n p) :
      e.IsFirstWithout v (fun w => (visitor w).LenientlyOmits n p o.subject) o.since := by
    obtain ⟨hmem, hblocks⟩ := List.mem_filter.mp hmet
    have hiff : ∀ w ∈ e.versions,
        (visitor w).LenientlyOmits n p o.subject ↔ (visitor w).target.blocks o.hurdle = true := by
      intro w hw
      rw [Omission.subject, lenient_omits_iff (hbuiltin w hw) htext hwell]
      exact List.mem_filter.trans (and_iff_right hmem)
    refine (Target.isFirstWithout_since? he hv hwarrants hblocks).congr ?_ ?_
    · intro w hw _ hw'
      exact (hiff w hw).mpr hw'
    · intro w hw hw'
      exact (hiff w hw).mp hw'
  refine ⟨?_, ?_, ?_⟩
  · intro w hw
    exact (lenient_renders_iff (hbuiltin w hw) htext p).mpr hwell
  · intro sql os h o ho
    refine hlenient (warrants_of_mem_omitted h ho) ?_
    rw [hurdles_of_lenient_renders (hbuiltin v hv) h]
    exact List.mem_map_of_mem ho
  · intro o h
    have hwarrants := warrants_of_unsupported h
    have hfirst : ((visitor v).target.hurdles n p).head? = some o.hurdle :=
      (strict_refuses_iff (hbuiltin v hv) htext _ _).mp ⟨o, h, rfl⟩
    have hmet : o.hurdle ∈ (visitor v).target.hurdles n p := List.mem_of_mem_head? hfirst
    have hblocks := (List.mem_filter.mp hmet).2
    refine ⟨hlenient hwarrants hmet, ?_⟩
    refine (Target.isFirstWithout_since? he hv hwarrants hblocks).congr ?_ ?_
    · -- a later version meets no other hurdle before it
      intro w hw hle hw'
      refine (strict_refuses_iff (hbuiltin w hw) htext _ _).mpr ?_
      exact head?_filter_of_imp (fun _ => Target.blocks_of_upTo he hv hw hle) hfirst hw'
    · intro w hw hw'
      have hmet' := List.mem_of_mem_head? ((strict_refuses_iff (hbuiltin w hw) htext _ _).mp hw')
      exact (List.mem_filter.mp hmet').2

/-- PostgreSQL 9.6 cannot say that nulls are not distinct; 15 is reported, and every version from 10
to 14 leaves it out and refuses it too. -/
theorem since_exact_nulls_not_distinct :
    let e : Engine := .postgresql
    let v : Version := ⟨[9, 6]⟩
    let visitor : Version → Visitor := fun w => ⟨⟨e, w⟩, {}⟩
    let a : ReferentialAction := ⟨.cascade, [.text "a"]⟩
    let u : Unique := { columnNames := [.text "a"], nullsDistinct := .bool false }
    let f : ForeignKey :=
      { columnNames := [.text "a"], refTable := "u", refColumns := [.text "id"], onUpdate := some a }
    let n : Node := .createTable { tableName := "t", constraints := [.unique u, .foreignKey f] }
    let part : Node × Gap := (.constraint (.unique u), .feature .uniqueNullsNotDistinct)
    e ∈ Engine.builtin ∧ v ∈ e.versions ∧ n.hasTextDefaults = true ∧ ¬ n.MalformedAt .statement ∧
      (∃ o, ((visitor v).strict.render n .statement).outcome = .unsupported o ∧
        o.subject = part ∧ o.since = some ⟨[15]⟩) ∧
      e.IsFirstWithout v (fun w => (visitor w).LenientlyOmits n .statement part) (some ⟨[15]⟩) ∧
      e.IsFirstWithout v (fun w => (visitor w).StrictlyRefuses n .statement part)
        (some ⟨[15]⟩) := by
  intro e v visitor a u f n part
  have he : e ∈ Engine.builtin := List.mem_cons_self
  have hv : v ∈ e.versions := by decide
  have hwell : ¬ n.MalformedAt .statement := by decide
  have hrefused : ((visitor v).strict.render n .statement).outcome =
      .unsupported ⟨part.1, part.2, e.name, v, some ⟨[15]⟩⟩ := rfl
  exact ⟨he, hv, rfl, hwell, ⟨_, hrefused, rfl, rfl⟩,
    (since_exact he hv {} n .statement rfl hwell).2.2 _ hrefused⟩

end Visitor

end SqlDialect
