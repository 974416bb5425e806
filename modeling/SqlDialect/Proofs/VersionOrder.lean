import SqlDialect.Proofs.Releases

/-!
# The order of versions, and what follows it

Comparing two versions is comparing their first components and, where these are the same, the other
ones (`compareParts_eq_then`); a missing component is a zero on either side.  So being up to another
version is transitive (`upTo_trans`), and cutting two versions to the same number of components
keeps them in order (`upTo_truncate`).

The main fact is what `Engine.normalize` does on a built-in engine (`normalize_releases`): it
accepts the releases of the known versions and no others, a known version stands for itself, and an
earlier release stands for an earlier known version.  The layers of a built-in engine begin to apply
in the order in which they are declared, so those that apply to an earlier version are the first
ones of those that apply to a later one (`layersFor_prefix`).
-/

namespace SqlDialect

namespace Version

/-! ### The order -/

/-- The first components decide, and after equal ones the rest does. -/
theorem compareParts_eq_then (xs ys : List Nat) :
    compareParts xs ys =
      (Ord.compare (xs.headD 0) (ys.headD 0)).then (compareParts xs.tail ys.tail) := by
  cases xs with
  | nil =>
    cases ys with
    | nil => rfl
    | cons y ys =>
      rw [List.headD_nil, List.headD_cons, List.tail_nil, List.tail_cons, compareParts,
        compareParts, List.all_cons]
      cases y with
      | zero => simp
      | succ y => rw [Nat.compare_eq_lt.mpr (Nat.succ_pos y)]; simp
  | cons x xs =>
    rw [compareParts, List.headD_cons, List.tail_cons]
    rcases Nat.lt_trichotomy x (ys.headD 0) with h | h | h
    · rw [if_pos h, Nat.compare_eq_lt.mpr h]
      rfl
    · rw [if_neg (by omega), if_neg (by omega), Nat.compare_eq_eq.mpr h]
      rfl
    · rw [if_neg (by omega), if_pos h, Nat.compare_eq_gt.mpr h]
      rfl

/-- Components are up to others exactly if their first one is less, or the same with the rest up to
the rest. -/
theorem compareParts_ne_gt_iff (xs ys : List Nat) :
    compareParts xs ys ≠ .gt ↔
      xs.headD 0 < ys.headD 0 ∨
        xs.headD 0 = ys.headD 0 ∧ compareParts xs.tail ys.tail ≠ .gt := by
  rw [compareParts_eq_then]
  rcases Nat.lt_trichotomy (xs.headD 0) (ys.headD 0) with h | h | h
  · rw [Nat.compare_eq_lt.mpr h]
    exact iff_of_true nofun (.inl h)
  · rw [Nat.compare_eq_eq.mpr h, Ordering.eq_then]
    exact ⟨fun hrest => .inr ⟨h, hrest⟩, fun hor => (hor.resolve_left (by omega)).2⟩
  · rw [Nat.compare_eq_gt.mpr h]
    exact iff_of_false (fun hne => hne rfl) (by omega)

theorem upTo_iff (v w : Version) : v.upTo w = true ↔ compareParts v.parts w.parts ≠ .gt := by
  unfold upTo before same compare
  cases compareParts v.parts w.parts <;> decide

theorem compareParts_trans {xs ys zs : List Nat} (h : compareParts xs ys ≠ .gt)
    (h' : compareParts ys zs ≠ .gt) : compareParts xs zs ≠ .gt := by
  induction xs generalizing ys zs with
  | nil =>
    rw [compareParts]
    split <;> decide
  | cons x xs ih =>
    rw [compareParts_ne_gt_iff] at h h' ⊢
    rcases h with hlt | ⟨heq, hrest⟩
    · -- the first component is less already, and stays so
      rcases h' with hlt' | ⟨heq', -⟩ <;> exact .inl (by omega)
    · rcases h' with hlt' | ⟨heq', hrest'⟩
      · exact .inl (by omega)
      · exact .inr ⟨heq.trans heq', ih hrest hrest'⟩

theorem upTo_trans {u v w : Version} (h : u.upTo v = true) (h' : v.upTo w = true) :
    u.upTo w = true := by
  rw [upTo_iff] at h h' ⊢
  exact compareParts_trans h h'

/-- The first `n` components of two lists are in the order of the lists. -/
theorem compareParts_take {xs ys : List Nat} (h : compareParts xs ys ≠ .gt) (n : Nat) :
    compareParts (xs.take n) (ys.take n) ≠ .gt := by
  induction n generalizing xs ys with
  | zero => exact nofun
  | succ n ih =>
    have hhead (zs : List Nat) : (zs.take (n + 1)).headD 0 = zs.headD 0 := by cases zs <;> rfl
    have htail (zs : List Nat) : (zs.take (n + 1)).tail = zs.tail.take n := by cases zs <;> simp
    rw [compareParts_ne_gt_iff] at h
    rw [compareParts_ne_gt_iff, hhead, hhead, htail, htail]
    exact h.imp_right fun hrest => ⟨hrest.1, ih hrest.2⟩

theorem upTo_truncate {v w : Version} (h : v.upTo w = true) (n : Nat) :
    (v.truncate n).upTo (w.truncate n) = true := by
  rw [upTo_iff, parts_truncate, parts_truncate]
  exact compareParts_take ((upTo_iff v w).mp h) n

end Version

/-! ### Layers that begin to apply one after the other -/

/-- Of items where each later one that is kept has all the earlier ones kept, keeping fewer keeps
the first ones. -/
theorem filter_prefix_filter {α : Type} {p q : α → Bool} {xs : List α}
    (hxs : xs.Pairwise fun x y => p y = true → p x = true) (hpq : ∀ x, p x = true → q x = true) :
    xs.filter p <+: xs.filter q := by
  induction xs with
  | nil => exact List.nil_prefix
  | cons x xs ih =>
    obtain ⟨hx, hrest⟩ := List.pairwise_cons.mp hxs
    by_cases hp : p x = true
    · rw [List.filter_cons_of_pos hp, List.filter_cons_of_pos (hpq x hp)]
      exact List.cons_prefix_cons.mpr ⟨rfl, ih hrest⟩
    · -- nothing after an item that is not kept is kept
      have hnone : (x :: xs).filter p = [] := by
        rw [List.filter_cons_of_neg hp, List.filter_eq_nil_iff]
        exact fun y hy hpy => hp (hx y hy hpy)
      rw [hnone]
      exact List.nil_prefix

theorem Layer.appliesTo_of_upTo {l : Layer} {v w : Version} (h : v.upTo w = true)
    (hv : l.appliesTo v = true) : l.appliesTo w = true := by
  unfold appliesTo at hv ⊢
  split at hv
  · rfl
  · exact Version.upTo_trans hv h

namespace Engine

variable {e : Engine} (he : e ∈ builtin)

include he

/-- A layer of a built-in engine applies wherever a later layer does. -/
theorem pairwise_layers (v : Version) :
    e.layers.Pairwise fun l m => m.appliesTo v = true → l.appliesTo v = true := by
  have hstandard : Layer.standard.appliesTo v = true := rfl
  rcases List.mem_pair.mp he with rfl | rfl
  · have hnewer (h : Layer.postgresql15.appliesTo v = true) :
        Layer.postgresql91.appliesTo v = true :=
      Version.upTo_trans (v := ⟨[15]⟩) (by decide) h
    simpa [postgresql, hstandard] using hnewer
  · simp [sqlite, hstandard]

/-- **The layers of an earlier version come first among those of a later one.** -/
theorem layersFor_prefix {v w : Version} (h : v.upTo w = true) :
    e.layersFor v <+: e.layersFor w :=
  filter_prefix_filter (pairwise_layers he v) fun _ => Layer.appliesTo_of_upTo h

/-! ### Releases in order -/

/-- An earlier release is one of an earlier known version. -/
theorem upTo_of_release {v v' w w' : Version} (hv : v ∈ e.versions) (hv' : v' ∈ e.versions)
    (hw : v.parts <+: w.parts) (hw' : v'.parts <+: w'.parts) (h : w.upTo w' = true) :
    v.upTo v' = true := by
  have hcut := (truncate_precision_eq_iff he hv w).mpr hw
  have hcut' := (truncate_precision_eq_iff he hv' w').mpr hw'
  have hhead : v.parts.headD 0 = w.parts.headD 0 := by
    rw [← hcut]
    exact headD_parts_truncate_precision he w
  have hhead' : v'.parts.headD 0 = w'.parts.headD 0 := by
    rw [← hcut']
    exact headD_parts_truncate_precision he w'
  rcases (Version.compareParts_ne_gt_iff _ _).mp ((Version.upTo_iff w w').mp h) with hlt | ⟨heq, -⟩
  · rw [Version.upTo_iff, Version.compareParts_ne_gt_iff, hhead, hhead']
    exact .inl hlt
  · -- the same first component means that both are cut to as many components
    have hlength : e.precision w = v.parts.length := precision_of_release he hv hw
    have hlength' : e.precision w' = v.parts.length :=
      precision_of_headD he hv (heq.symm.trans hhead.symm)
    rw [hlength] at hcut
    rw [hlength'] at hcut'
    rw [← hcut, ← hcut']
    exact Version.upTo_truncate h _

/-- A known version is a release of itself. -/
theorem release?_self {v : Version} (hv : v ∈ e.versions) : e.release? v = some v :=
  (release?_eq_some_iff he v).mpr ⟨hv, List.prefix_refl _⟩

/-- The text of a known version names it. -/
theorem normalize_text {v : Version} (hv : v ∈ e.versions) :
    e.normalize (.text v.text) = .ok v := by
  have h : ∀ e ∈ builtin, ∀ v ∈ e.versions,
      Version.readParts? v.text.toList = some v.parts := by decide +kernel
  rw [normalize_eq_ok_iff he]
  refine ⟨hv, v, ?_, List.prefix_refl _⟩
  rw [Version.parse]
  simp only [Value.toText?, h e he v hv]

/-- **The releases of the known versions are accepted, in order.**  A version that is read is
accepted as a known one exactly if it begins with the components of that one, and refused as unknown
if it begins with those of none.  What is accepted is accepted again, as itself.  Of two accepted
versions the earlier one stands for an earlier known version, and the layers for it are the first
ones of those for the later one. -/
theorem normalize_releases :
    (∀ given w, Version.parse given = .ok w →
      (∀ v, e.normalize given = .ok v ↔ v ∈ e.versions ∧ v.parts <+: w.parts) ∧
      ((∃ v, e.normalize given = .ok v) ↔ ∃ v ∈ e.versions, v.parts <+: w.parts) ∧
      ((¬ ∃ v ∈ e.versions, v.parts <+: w.parts) →
        e.normalize given = .error (.unknownVersion e.name given e.versions))) ∧
    (∀ given v, e.normalize given = .ok v →
      e.normalize (.text v.text) = .ok v ∧ e.release? v = some v) ∧
    ∀ given given' w w' v v', Version.parse given = .ok w → Version.parse given' = .ok w' →
      e.normalize given = .ok v → e.normalize given' = .ok v' → w.upTo w' = true →
        v.upTo v' = true ∧ e.layersFor v <+: e.layersFor v' ∧
          e.layersFor w <+: e.layersFor w' := by
  have haccepted {given : Value} {w : Version} (hw : Version.parse given = .ok w) (v : Version) :
      e.normalize given = .ok v ↔ v ∈ e.versions ∧ v.parts <+: w.parts := by
    rw [normalize_eq_ok_iff he, hw]
    simp
  refine ⟨?_, ?_, ?_⟩
  · intro given w hw
    refine ⟨haccepted hw, exists_congr (haccepted hw), fun hnone => ?_⟩
    have hrelease : e.release? w = none := by
      rw [Option.eq_none_iff_forall_ne_some]
      intro v hv
      exact hnone ⟨v, (release?_eq_some_iff he w).mp hv⟩
    rw [normalize, hw]
    simp only [hrelease]
  · intro given v h
    have hv := ((normalize_eq_ok_iff he given).mp h).1
    exact ⟨normalize_text he hv, release?_self he hv⟩
  · intro given given' w w' v v' hw hw' h h' hle
    obtain ⟨hv, hprefix⟩ := (haccepted hw v).mp h
    obtain ⟨hv', hprefix'⟩ := (haccepted hw' v').mp h'
    have hknown := upTo_of_release he hv hv' hprefix hprefix' hle
    exact ⟨hknown, layersFor_prefix he hknown, layersFor_prefix he hle⟩

omit he in
/-- Two releases on either side of the change in how many components tell releases apart. -/
theorem normalize_releases_across_ten :
    postgresql ∈ builtin ∧
      postgresql.normalize (.text "9.6.24") = .ok ⟨[9, 6]⟩ ∧
      postgresql.normalize (.text "15.2") = .ok ⟨[15]⟩ ∧
      (⟨[9, 6]⟩ : Version).upTo ⟨[15]⟩ = true ∧
      (postgresql.layersFor ⟨[9, 6]⟩).map (·.name) <+:
        (postgresql.layersFor ⟨[15]⟩).map (·.name) ∧
      postgresql.normalize (.text "9.10") =
        .error (.unknownVersion "postgresql" (.text "9.10") Platform.postgresqlVersions) := by
  have he : postgresql ∈ builtin := List.mem_cons_self
  obtain ⟨haccepts, -, hmonotone⟩ := normalize_releases he
  have hw : Version.parse (.text "9.6.24") = .ok ⟨[9, 6, 24]⟩ := rfl
  have hw' : Version.parse (.text "15.2") = .ok ⟨[15, 2]⟩ := rfl
  have h := ((haccepts _ _ hw).1 ⟨[9, 6]⟩).mpr (by decide)
  have h' := ((haccepts _ _ hw').1 ⟨[15]⟩).mpr (by decide)
  obtain ⟨hle, hlayers, -⟩ := hmonotone _ _ _ _ _ _ hw hw' h h' (by decide)
  refine ⟨he, h, h', hle, hlayers.map _, ?_⟩
  exact (haccepts (.text "9.10") ⟨[9, 10]⟩ rfl).2.2 (by decide)

end Engine

end SqlDialect
