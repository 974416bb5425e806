import Mathlib.Data.List.Basic
import SqlDialect.Proofs.Builtin
import SqlDialect.Render

/-!
# Known versions and their releases

A built-in engine accepts the releases of its known versions: a version is accepted if the
components of a known one are its first ones, and it then stands for that known version
(`normalize_eq_ok_iff`).  So whoever finds a visitor of a built-in engine has one of a built-in
target (`Target.mem_builtin_of_find`).
-/

namespace SqlDialect

/-! ### Equal versions -/

namespace Version

theorem compareParts_nil_eq_iff (ys : List Nat) :
    compareParts [] ys = .eq ↔ ∀ y ∈ ys, y = 0 := by
  rw [compareParts]
  split
  · rename_i h
    simpa using h
  · rename_i h
    simpa using h

theorem compareParts_cons_eq_iff (x : Nat) (xs ys : List Nat) :
    compareParts (x :: xs) ys = .eq ↔ x = ys.headD 0 ∧ compareParts xs ys.tail = .eq := by
  rw [compareParts]
  split
  · exact iff_of_false (by decide) (by omega)
  · split
    · exact iff_of_false (by decide) (by omega)
    · exact (and_iff_right (by omega)).symm

theorem compareParts_nil_right (xs : List Nat) :
    compareParts xs [] = if xs.all (· = 0) then .eq else .gt := by
  induction xs with
  | nil => rfl
  | cons x xs ih =>
    rw [compareParts, List.headD_nil, List.tail_nil, ih, List.all_cons]
    cases x with
    | zero => simp
    | succ x => simp

/-- Comparing the other way round gives the other order. -/
theorem compareParts_swap (xs ys : List Nat) :
    compareParts ys xs = (compareParts xs ys).swap := by
  induction xs generalizing ys with
  | nil =>
    rw [compareParts_nil_right, compareParts]
    split <;> rfl
  | cons x xs ih =>
    cases ys with
    | nil =>
      rw [compareParts_nil_right, compareParts]
      split <;> rfl
    | cons y ys =>
      rw [compareParts, compareParts, List.headD_cons, List.headD_cons, List.tail_cons,
        List.tail_cons, ih]
      rcases Nat.lt_trichotomy x y with h | h | h
      · rw [if_neg (by omega), if_pos h, if_pos h]
        rfl
      · rw [if_neg (by omega), if_neg (by omega), if_neg (by omega), if_neg (by omega)]
      · rw [if_pos h, if_neg (by omega), if_pos h]
        rfl

theorem compareParts_eq_symm {xs ys : List Nat} (h : compareParts xs ys = .eq) :
    compareParts ys xs = .eq := by
  rw [compareParts_swap, h]
  rfl

theorem headD_eq_of_compareParts_eq {xs ys : List Nat} (h : compareParts xs ys = .eq) :
    xs.headD 0 = ys.headD 0 := by
  cases xs with
  | nil =>
    cases ys with
    | nil => rfl
    | cons y ys => exact ((compareParts_nil_eq_iff _).mp h y List.mem_cons_self).symm
  | cons x xs => exact ((compareParts_cons_eq_iff x xs ys).mp h).1

/-- Components without zeros equal no other ones that are not more. -/
theorem eq_of_compareParts_eq {xs ys : List Nat} (h : compareParts xs ys = .eq)
    (hpos : ∀ x ∈ xs, 0 < x) (hlen : ys.length ≤ xs.length) : xs = ys := by
  induction xs generalizing ys with
  | nil => exact (List.length_eq_zero_iff.mp (Nat.le_zero.mp hlen)).symm
  | cons x xs ih =>
    obtain ⟨hhead, htail⟩ := (compareParts_cons_eq_iff x xs ys).mp h
    obtain ⟨hx, hxs⟩ := List.forall_mem_cons.mp hpos
    cases ys with
    | nil =>
      rw [List.headD_nil] at hhead
      omega
    | cons y ys =>
      have hxy : x = y := hhead
      have hrest : xs = ys := ih htail hxs (Nat.le_of_succ_le_succ hlen)
      rw [hxy, hrest]

theorem same_comm (v w : Version) : v.same w = w.same v := by
  unfold same compare
  exact decide_eq_decide.mpr ⟨compareParts_eq_symm, compareParts_eq_symm⟩

/-- A version that comes before another is not reached by it. -/
theorem upTo_eq_false_of_before {v w : Version} (h : v.before w = true) : w.upTo v = false := by
  have hlt : compareParts v.parts w.parts = .lt := of_decide_eq_true h
  rw [upTo, before, same, compare, compareParts_swap, hlt]
  rfl

theorem same_self (v : Version) : v.same v = true := by
  have h (xs : List Nat) : compareParts xs xs = .eq := by
    induction xs with
    | nil => rfl
    | cons x xs ih => exact (compareParts_cons_eq_iff x xs _).mpr ⟨rfl, ih⟩
  exact decide_eq_true (h v.parts)

theorem parts_truncate (v : Version) (n : Nat) : (v.truncate n).parts = v.parts.take n := by
  simp [truncate]

/-- A version without zeros equals the start of another one, of its own length, exactly if its
components are the first ones there. -/
theorem same_truncate_iff {v : Version} (hpos : ∀ x ∈ v.parts, 0 < x) (w : Version) :
    v.same (w.truncate v.parts.length) = true ↔ v.parts <+: w.parts := by
  rw [List.prefix_iff_eq_take, ← parts_truncate]
  constructor
  · intro h
    have hlen : (w.truncate v.parts.length).parts.length ≤ v.parts.length := by
      rw [parts_truncate]
      exact List.length_take_le ..
    exact eq_of_compareParts_eq (of_decide_eq_true h) hpos hlen
  · intro h
    rw [show w.truncate v.parts.length = v from congrArg Version.mk h.symm]
    exact v.same_self

end Version

/-! ### Accepted versions -/

namespace Engine

variable {e : Engine} (he : e ∈ builtin) {v : Version}

include he

theorem parts_pos (hv : v ∈ e.versions) : ∀ x ∈ v.parts, 0 < x := by
  have h : ∀ e ∈ builtin, ∀ v ∈ e.versions, ∀ x ∈ v.parts, 0 < x := by decide
  exact h e he v hv

/-- How many components tell the releases of a known version apart is told by the first one. -/
theorem precision_of_headD (hv : v ∈ e.versions) {w : Version}
    (h : w.parts.headD 0 = v.parts.headD 0) : e.precision w = v.parts.length := by
  have hknown : ∀ e ∈ builtin, ∀ v ∈ e.versions, e.precision v = v.parts.length := by decide
  have hmajor : w.major?.getD 0 = v.major?.getD 0 := by
    simpa [Version.major?, List.headD_eq_head?_getD] using h
  rw [← hknown e he v hv]
  rcases List.mem_pair.mp he with rfl | rfl
  · simp only [postgresql, hmajor]
  · rfl

/-- A release of a known version is told apart by as many components as that has. -/
theorem precision_of_release (hv : v ∈ e.versions) {w : Version} (h : v.parts <+: w.parts) :
    e.precision w = v.parts.length := by
  have hne : ∀ e ∈ builtin, ∀ v ∈ e.versions, v.parts ≠ [] := by decide
  obtain ⟨x, xs, hx⟩ := List.exists_cons_of_ne_nil (hne e he v hv)
  obtain ⟨rest, hrest⟩ := h
  apply precision_of_headD he hv
  rw [← hrest, hx]
  rfl

/-- A cut version keeps its first component. -/
theorem headD_parts_truncate_precision (w : Version) :
    (w.truncate (e.precision w)).parts.headD 0 = w.parts.headD 0 := by
  have hcut (n : Nat) : (w.truncate (n + 1 : Nat)).parts.headD 0 = w.parts.headD 0 := by
    rw [Version.parts_truncate]
    cases w.parts <;> rfl
  rcases List.mem_pair.mp he with rfl | rfl
  · by_cases h : w.major?.getD 0 < 10
    · have hp : postgresql.precision w = (1 + 1 : Nat) := if_pos h
      rw [hp, hcut]
    · have hp : postgresql.precision w = (0 + 1 : Nat) := if_neg h
      rw [hp, hcut]
  · exact hcut 0

/-- A version is cut to one that equals a known version exactly if it begins with the components of
that one. -/
theorem same_truncate_precision_iff (hv : v ∈ e.versions) (w : Version) :
    (w.truncate (e.precision w)).same v = true ↔ v.parts <+: w.parts := by
  constructor
  · intro h
    have hhead : w.parts.headD 0 = v.parts.headD 0 := by
      rw [← headD_parts_truncate_precision he w]
      exact Version.headD_eq_of_compareParts_eq (of_decide_eq_true h)
    rw [precision_of_headD he hv hhead, Version.same_comm] at h
    exact (Version.same_truncate_iff (parts_pos he hv) w).mp h
  · intro h
    rw [precision_of_release he hv h, Version.same_comm]
    exact (Version.same_truncate_iff (parts_pos he hv) w).mpr h

/-- It is then cut to that known version. -/
theorem truncate_precision_eq_iff (hv : v ∈ e.versions) (w : Version) :
    w.truncate (e.precision w) = v ↔ v.parts <+: w.parts := by
  constructor
  · intro h
    rw [← same_truncate_precision_iff he hv, h]
    exact v.same_self
  · intro h
    rw [precision_of_release he hv h]
    have hparts : (w.truncate v.parts.length).parts = v.parts := by
      rw [Version.parts_truncate]
      exact (List.prefix_iff_eq_take.mp h).symm
    exact congrArg Version.mk hparts

/-- A version is a release of a known one exactly if it begins with the components of that one. -/
theorem release?_eq_some_iff (w : Version) :
    e.release? w = some v ↔ v ∈ e.versions ∧ v.parts <+: w.parts := by
  unfold release?
  dsimp only
  constructor
  · intro h
    split at h
    · rename_i hknown
      obtain ⟨u, hu, hsame⟩ := List.any_eq_true.mp hknown
      -- the known version that the cut one equals is the cut one itself
      have hprefix := (same_truncate_precision_iff he hu w).mp hsame
      have hcut := (truncate_precision_eq_iff he hu w).mpr hprefix
      rw [hcut] at h
      injection h with huv
      exact ⟨huv ▸ hu, huv ▸ hprefix⟩
    · exact absurd h nofun
  · rintro ⟨hv, hprefix⟩
    have hcut := (truncate_precision_eq_iff he hv w).mpr hprefix
    have hknown : e.versions.any (w.truncate (e.precision w)).same = true :=
      List.any_eq_true.mpr ⟨v, hv, (same_truncate_precision_iff he hv w).mpr hprefix⟩
    rw [if_pos hknown, hcut]

omit he in
/-- A value names a known version through the version that is read from it. -/
theorem normalize_eq_ok_iff_release? (given : Value) :
    e.normalize given = .ok v ↔ ∃ w, Version.parse given = .ok w ∧ e.release? w = some v := by
  unfold normalize
  cases Version.parse given with
  | error cause => simp
  | ok w =>
    dsimp only
    cases hrelease : e.release? w with
    | none => simp [hrelease]
    | some u => simp [hrelease]

/-- **The accepted versions are the releases of the known ones.**  A version is accepted as a known
one exactly if its components begin with those of the known one. -/
theorem normalize_eq_ok_iff (given : Value) :
    e.normalize given = .ok v ↔
      v ∈ e.versions ∧ ∃ w, Version.parse given = .ok w ∧ v.parts <+: w.parts := by
  rw [normalize_eq_ok_iff_release?]
  constructor
  · rintro ⟨w, hw, hrelease⟩
    obtain ⟨hv, hprefix⟩ := (release?_eq_some_iff he w).mp hrelease
    exact ⟨hv, w, hw, hprefix⟩
  · rintro ⟨hv, w, hw, hprefix⟩
    exact ⟨w, hw, (release?_eq_some_iff he w).mpr ⟨hv, hprefix⟩⟩

end Engine

/-! ### Accepted targets -/

theorem Engine.mem_builtin_of_find {given : Value} {e : Engine} (h : Engine.find given = .ok e) :
    e ∈ Engine.builtin := by
  unfold Engine.find at h
  split at h
  · exact absurd h nofun
  · dsimp only at h
    split at h
    · rename_i hfind
      injection h with h
      exact h ▸ List.mem_of_find?_eq_some hfind
    · exact absurd h nofun

/-- A built-in engine is found by its name. -/
theorem Engine.find_name {e : Engine} (he : e ∈ Engine.builtin) :
    Engine.find (.text e.name) = .ok e := by
  rcases List.mem_pair.mp he with rfl | rfl <;> rfl

/-- A target that is found is an engine that is found, at a version that it accepts. -/
theorem Target.of_find {engine version : Value} {t : Target}
    (h : Target.find engine version = .ok t) :
    Engine.find engine = .ok t.engine ∧ t.engine.normalize version = .ok t.version := by
  unfold Target.find at h
  split at h
  · rename_i e he
    unfold Target.of at h
    split at h
    · rename_i v hv
      injection h with h
      subst h
      exact ⟨he, hv⟩
    · exact absurd h nofun
  · exact absurd h nofun

theorem Target.mem_builtin_of_find {engine version : Value} {t : Target}
    (h : Target.find engine version = .ok t) : t ∈ builtin := by
  obtain ⟨hengine, hversion⟩ := Target.of_find h
  have he := Engine.mem_builtin_of_find hengine
  have hv := ((Engine.normalize_eq_ok_iff he version).mp hversion).1
  exact List.mem_flatMap.mpr ⟨t.engine, he, List.mem_map.mpr ⟨t.version, hv, rfl⟩⟩

/-- A visitor that is found renders for the target that is found, in the strategy given. -/
theorem Visitor.of_find {engine version : Value} {s : Strategy} {v : Visitor}
    (h : Visitor.find engine version s = .ok v) :
    Target.find engine version = .ok v.target ∧ v.strategy = s := by
  unfold Visitor.find at h
  split at h
  · rename_i t ht
    injection h with h
    subst h
    exact ⟨ht, rfl⟩
  · exact absurd h nofun

end SqlDialect
