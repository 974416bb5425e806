import Mathlib.Data.List.DropRight
import SqlDialect.Proofs.VersionOrder

/-!
# Versions are totally ordered

Two versions are compared as if the shorter one went on with zeros: `before` is the lexicographic
order of the padded components and `same` is their equality (`compareParts_padded`).  Each pair is
padded in its own way, so transitivity does not come from one lexicographic order; it is that of
`compareParts`, where a missing component is a zero at every length (`compareParts_trans`).

Equal versions share their canonical components, those without trailing zeros
(`same_iff_canonical`).  The way there is that cutting zeros off changes no comparison
(`compareParts_append_zeros`), and that components that end in no zero are told apart by every
comparison (`eq_of_compareParts_eq_of_last`).
-/

namespace SqlDialect.Version

/-! ### Padded components -/

/-- Components with zeros behind them, as many as another list has more. -/
def padded (xs ys : List Nat) : List Nat :=
  xs ++ List.replicate (ys.length - xs.length) 0

theorem padded_eq_cons {xs ys : List Nat} (h : xs ≠ [] ∨ ys ≠ []) :
    padded xs ys = xs.headD 0 :: padded xs.tail ys.tail := by
  cases xs with
  | nil =>
    cases ys with
    | nil => exact absurd rfl (h.elim id id)
    | cons y ys => simp [padded, List.replicate_succ]
  | cons x xs =>
    have hlength : ys.length - (xs.length + 1) = ys.tail.length - xs.length := by
      rw [List.length_tail]
      omega
    rw [padded, List.length_cons, hlength]
    rfl

/-- The comparison of two lists is the lexicographic one of the two padded lists. -/
theorem compareParts_padded (xs ys : List Nat) :
    (compareParts xs ys = .lt ↔ padded xs ys < padded ys xs) ∧
      (compareParts xs ys = .eq ↔ padded xs ys = padded ys xs) := by
  -- the lists get shorter together, until both of them are empty
  suffices h : ∀ n xs ys, xs.length ≤ n → ys.length ≤ n →
      (compareParts xs ys = .lt ↔ padded xs ys < padded ys xs) ∧
        (compareParts xs ys = .eq ↔ padded xs ys = padded ys xs) from
    h (max xs.length ys.length) xs ys (le_max_left _ _) (le_max_right _ _)
  intro n
  induction n with
  | zero =>
    intro xs ys hx hy
    obtain rfl := List.length_eq_zero_iff.mp (Nat.le_zero.mp hx)
    obtain rfl := List.length_eq_zero_iff.mp (Nat.le_zero.mp hy)
    exact ⟨by decide, by decide⟩
  | succ n ih =>
    intro xs ys hx hy
    by_cases hnil : xs = [] ∧ ys = []
    · obtain ⟨rfl, rfl⟩ := hnil
      exact ⟨by decide, by decide⟩
    · have hor : xs ≠ [] ∨ ys ≠ [] := by
        rcases not_and_or.mp hnil with h | h
        · exact .inl h
        · exact .inr h
      have hxs : xs.tail.length ≤ n := by rw [List.length_tail]; omega
      have hys : ys.tail.length ≤ n := by rw [List.length_tail]; omega
      obtain ⟨hlt, heq⟩ := ih xs.tail ys.tail hxs hys
      rw [compareParts_eq_then, padded_eq_cons hor, padded_eq_cons hor.symm, List.cons_lt_cons_iff,
        List.cons.injEq, ← hlt, ← heq]
      rcases Nat.lt_trichotomy (xs.headD 0) (ys.headD 0) with h | h | h
      · rw [Nat.compare_eq_lt.mpr h]
        exact ⟨iff_of_true rfl (.inl h), iff_of_false nofun (by omega)⟩
      · rw [Nat.compare_eq_eq.mpr h, Ordering.eq_then]
        exact ⟨⟨fun hrest => .inr ⟨h, hrest⟩, fun hor => (hor.resolve_left (by omega)).2⟩,
          (and_iff_right h).symm⟩
      · rw [Nat.compare_eq_gt.mpr h]
        exact ⟨iff_of_false nofun (by omega), iff_of_false nofun (by omega)⟩

/-! ### A lawful comparison -/

instance : Std.TransCmp compare where
  eq_swap := compareParts_swap _ _
  isLE_trans {u v w} h h' := by
    rw [Ordering.isLE_iff_ne_gt] at h h' ⊢
    exact compareParts_trans h h'

section Relations

variable (v w : Version)

theorem before_iff : v.before w = true ↔ v.compare w = .lt := decide_eq_true_iff

theorem same_iff : v.same w = true ↔ v.compare w = .eq := decide_eq_true_iff

/-- A version comes after those that come before it. -/
theorem after_eq_before : v.after w = w.before v := by
  have hswap : w.compare v = (v.compare w).swap := Std.OrientedCmp.eq_swap
  unfold after before same
  rw [hswap]
  cases v.compare w <;> rfl

/-- A version is at least those that are up to it. -/
theorem atLeast_eq_upTo : v.atLeast w = w.upTo v := by
  have hswap : w.compare v = (v.compare w).swap := Std.OrientedCmp.eq_swap
  unfold atLeast upTo before same
  rw [hswap]
  cases v.compare w <;> rfl

/-- Of two versions one comes before the other or they are equal, and no two of the three. -/
theorem count_before_same_before : [v.before w, v.same w, w.before v].count true = 1 := by
  have hswap : w.compare v = (v.compare w).swap := Std.OrientedCmp.eq_swap
  unfold before same
  rw [hswap]
  cases v.compare w <;> rfl

end Relations

/-- Equal versions are compared with equal versions in the same way. -/
theorem compare_congr {v v' w w' : Version} (hv : v.same v' = true) (hw : w.same w' = true) :
    v.compare w = v'.compare w' := by
  have hleft : v.compare w = v'.compare w := Std.TransCmp.congr_left ((same_iff v v').mp hv)
  have hright : v'.compare w = v'.compare w' := Std.TransCmp.congr_right ((same_iff w w').mp hw)
  exact hleft.trans hright

/-! ### Trailing zeros -/

/-- Zeros behind the components change no comparison. -/
theorem compareParts_append_zeros (xs : List Nat) (k : Nat) (ys : List Nat) :
    compareParts (xs ++ List.replicate k 0) ys = compareParts xs ys := by
  have hzeros : compare ⟨xs ++ List.replicate k 0⟩ ⟨xs⟩ = .eq := by
    show compareParts (xs ++ List.replicate k 0) xs = .eq
    induction xs with
    | nil =>
      apply compareParts_eq_symm
      rw [compareParts_nil_eq_iff]
      exact fun y hy => List.eq_of_mem_replicate hy
    | cons x xs ih => exact (compareParts_cons_eq_iff x _ _).mpr ⟨rfl, ih⟩
  have hcompare : compare ⟨xs ++ List.replicate k 0⟩ ⟨ys⟩ = compare ⟨xs⟩ ⟨ys⟩ :=
    Std.TransCmp.congr_left hzeros
  exact hcompare

theorem same_append_zeros (v : Version) (k : Nat) :
    v.same ⟨v.parts ++ List.replicate k 0⟩ = true := by
  rw [same_comm, same_iff]
  exact (compareParts_append_zeros v.parts k v.parts).trans ((same_iff v v).mp v.same_self)

/-- Components that end in no zero are told apart by comparing them. -/
theorem eq_of_compareParts_eq_of_last {xs ys : List Nat} (h : compareParts xs ys = .eq)
    (hx : xs.getLast? ≠ some 0) (hy : ys.getLast? ≠ some 0) : xs = ys := by
  -- a list of zeros that ends in no zero is empty
  have hempty {zs : List Nat} (hzeros : ∀ z ∈ zs, z = 0) (hlast : zs.getLast? ≠ some 0) :
      zs = [] := by
    by_contra hne
    apply hlast
    rw [List.getLast?_eq_some_getLast hne, hzeros _ (List.getLast_mem hne)]
  have hrest {z : Nat} {zs : List Nat} (hlast : (z :: zs).getLast? ≠ some 0) :
      zs.getLast? ≠ some 0 := by
    intro hzero
    apply hlast
    rw [List.getLast?_cons, hzero, Option.getD_some]
  induction xs generalizing ys with
  | nil => exact (hempty ((compareParts_nil_eq_iff ys).mp h) hy).symm
  | cons x xs ih =>
    cases ys with
    | nil => exact hempty ((compareParts_nil_eq_iff _).mp (compareParts_eq_symm h)) hx
    | cons y ys =>
      obtain ⟨hxy, htail⟩ := (compareParts_cons_eq_iff x xs (y :: ys)).mp h
      rw [ih htail (hrest hx) (hrest hy)]
      exact congrArg (· :: ys) hxy

/-! ### Canonical components -/

/-- A version with components is its canonical ones with zeros behind them.  There is a canonical
one, and if there is more than one then the last is no zero. -/
theorem canonical_spec {v : Version} (hv : v.parts ≠ []) :
    (∃ k, v.parts = v.canonical ++ List.replicate k 0) ∧ v.canonical ≠ [] ∧
      v.canonical.tail.getLast? ≠ some 0 := by
  obtain ⟨p, rest, hparts⟩ := List.exists_cons_of_ne_nil hv
  have hcanonical : v.canonical = p :: rest.rdropWhile (· = 0) := by
    rw [canonical, hparts, List.rdropWhile]
  rw [hcanonical, hparts]
  refine ⟨⟨(rest.rtakeWhile (· = 0)).length, ?_⟩, List.cons_ne_nil _ _, ?_⟩
  · have hzeros : rest.rtakeWhile (· = 0) =
        List.replicate (rest.rtakeWhile (· = 0)).length 0 := by
      rw [List.eq_replicate_iff]
      exact ⟨rfl, fun z hz => by simpa using List.mem_rtakeWhile_imp hz⟩
    rw [← hzeros, List.cons_append, List.rdropWhile_append_rtakeWhile]
  · rw [List.tail_cons]
    intro hzero
    have hne : rest.rdropWhile (· = 0) ≠ [] := by
      intro hnil
      rw [hnil] at hzero
      exact absurd hzero nofun
    rw [List.getLast?_eq_some_getLast hne, Option.some.injEq] at hzero
    exact List.rdropWhile_last_not _ _ hne (decide_eq_true hzero)

/-- **Equal versions share their canonical components**, and versions that share them are equal. -/
theorem same_iff_canonical {v w : Version} (hv : v.parts ≠ []) (hw : w.parts ≠ []) :
    v.same w = true ↔ v.canonical = w.canonical := by
  obtain ⟨⟨k, hk⟩, hv', hvlast⟩ := canonical_spec hv
  obtain ⟨⟨l, hl⟩, hw', hwlast⟩ := canonical_spec hw
  have hcompare : v.compare w = compareParts v.canonical w.canonical := by
    rw [compare, hk, compareParts_append_zeros, compareParts_swap, hl, compareParts_append_zeros,
      ← compareParts_swap]
  rw [same_iff, hcompare]
  constructor
  · intro heq
    obtain ⟨p, rest, hp⟩ := List.exists_cons_of_ne_nil hv'
    obtain ⟨q, rest', hq⟩ := List.exists_cons_of_ne_nil hw'
    rw [hp, List.tail_cons] at hvlast
    rw [hq, List.tail_cons] at hwlast
    rw [hp, hq] at heq ⊢
    obtain ⟨hpq, htail⟩ := (compareParts_cons_eq_iff p rest (q :: rest')).mp heq
    rw [eq_of_compareParts_eq_of_last htail hvlast hwlast]
    exact congrArg (· :: rest') hpq
  · intro heq
    rw [heq]
    exact (same_iff _ _).mp (same_self ⟨w.canonical⟩)

/-! ### The laws -/

theorem same_equivalence : Equivalence fun v w : Version => v.same w = true where
  refl v := v.same_self
  symm {v w} h := by rwa [same_comm]
  trans {u v w} h h' := by
    rw [same_iff] at h h' ⊢
    exact Std.TransCmp.eq_trans h h'

theorem before_trans {u v w : Version} (h : u.before v = true) (h' : v.before w = true) :
    u.before w = true := by
  rw [before_iff] at h h' ⊢
  exact Std.TransCmp.lt_trans h h'

/-- **Versions are totally ordered.**  A version comes before another exactly if its padded
components do so lexicographically, and equals it exactly if these are the same; one of the three
cases holds and no other, and the other comparisons are told by them.  Equality is an equivalence
relation, coming before is irreflexive and transitive, and equal versions are compared alike.
Trailing zeros make no difference: they are what the canonical components leave off, and versions
are equal exactly if these are the same.  Cutting two versions to as many components keeps them in
order. -/
theorem comparison_laws :
    (∀ v w : Version,
      (v.before w = true ↔ padded v.parts w.parts < padded w.parts v.parts) ∧
      (v.same w = true ↔ padded v.parts w.parts = padded w.parts v.parts) ∧
      [v.before w, v.same w, w.before v].count true = 1 ∧
      v.upTo w = (v.before w || v.same w) ∧ v.upTo w = !w.before v ∧
      v.after w = w.before v ∧ v.atLeast w = w.upTo v) ∧
    Equivalence (fun v w : Version => v.same w = true) ∧
    (∀ v : Version, v.before v = false) ∧
    (∀ u v w : Version, u.before v = true → v.before w = true → u.before w = true) ∧
    (∀ v v' w w' : Version, v.same v' = true → w.same w' = true →
      v.before w = v'.before w' ∧ v.same w = v'.same w' ∧ v.upTo w = v'.upTo w' ∧
        v.after w = v'.after w' ∧ v.atLeast w = v'.atLeast w') ∧
    (∀ (v : Version) (k : Nat), v.same ⟨v.parts ++ List.replicate k 0⟩ = true ∧
      (⟨v.parts ++ List.replicate k 0⟩ : Version).same v = true) ∧
    (∀ v : Version, v.parts ≠ [] →
      (∃ k, v.parts = v.canonical ++ List.replicate k 0) ∧ v.canonical ≠ [] ∧
        v.canonical.tail.getLast? ≠ some 0) ∧
    (∀ v w : Version, v.parts ≠ [] → w.parts ≠ [] →
      (v.same w = true ↔ v.canonical = w.canonical)) ∧
    ∀ (v w : Version) (n : Nat), v.upTo w = true → (v.truncate n).upTo (w.truncate n) = true := by
  refine ⟨fun v w => ?_, same_equivalence, fun v => ?_, fun u v w => before_trans, ?_,
    fun v k => ?_, fun v => canonical_spec, fun v w => same_iff_canonical,
    fun v w n h => upTo_truncate h n⟩
  · obtain ⟨hlt, heq⟩ := compareParts_padded v.parts w.parts
    refine ⟨(before_iff v w).trans hlt, (same_iff v w).trans heq, count_before_same_before v w, rfl,
      ?_, after_eq_before v w, atLeast_eq_upTo v w⟩
    rw [← atLeast_eq_upTo, atLeast]
  · have hself : v.compare v = .eq := (same_iff v v).mp v.same_self
    rw [before, hself]
    rfl
  · intro v v' w w' hv hw
    have hcompare : v.compare w = v'.compare w' := compare_congr hv hw
    unfold after atLeast upTo before same
    rw [hcompare]
    exact ⟨rfl, rfl, rfl, rfl, rfl⟩
  · have h := same_append_zeros v k
    exact ⟨h, same_equivalence.symm h⟩

/-- Versions of three lengths: two equal ones with the same canonical components, and a later one
that both of them come before. -/
theorem comparison_laws_across_lengths :
    let v : Version := ⟨[9, 6]⟩
    let v' : Version := ⟨[9, 6, 0, 0]⟩
    let w : Version := ⟨[10]⟩
    let w' : Version := ⟨[10, 0, 1]⟩
    v.same v' = true ∧ v.canonical = [9, 6] ∧ v.canonical = v'.canonical ∧
      v.before w = true ∧ w.before w' = true ∧ v.before w' = true ∧ v'.before w' = true ∧
      padded v'.parts w'.parts = [9, 6, 0, 0] ∧ padded w'.parts v'.parts = [10, 0, 1, 0] ∧
      (v'.truncate 1).upTo (w'.truncate 1) = true := by
  intro v v' w w'
  obtain ⟨hcases, -, -, htrans, hcongr, hzeros, -, hcanonical, htruncate⟩ := comparison_laws
  have hsame : v.same v' = true := (hzeros v 2).1
  have hfirst : v.before w = true := ((hcases v w).1).mpr (by decide)
  have hsecond : w.before w' = true := ((hcases w w').1).mpr (by decide)
  have hlater : v.before w' = true := htrans v w w' hfirst hsecond
  have hupTo : v'.upTo w' = true := by decide
  refine ⟨hsame, by decide, (hcanonical v v' (by decide) (by decide)).mp hsame, hfirst, hsecond,
    hlater, ?_, by decide, by decide, htruncate v' w' 1 hupTo⟩
  rw [← (hcongr v v' w' w' hsame w'.same_self).1]
  exact hlater

end SqlDialect.Version
