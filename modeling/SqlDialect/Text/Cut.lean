/-!
# Cutting a text at a separator

`cut c s` cuts at the first `c`, `cutLast c s` at the last one and `pieces c s` at every one; the
separator itself belongs to no part.  `cut_append` says that a text put together from two parts is
cut into them again; `cut_append_cons` and `cutLast_append_cons` say where it is cut if the parts
hold separators too.
-/

namespace SqlDialect.Text

/-- The part before the first `c`, and what follows it if there is one. -/
def cut (c : Char) : List Char → List Char × Option (List Char)
  | [] => ([], none)
  | x :: rest =>
    if x = c then ([], some rest)
    else (x :: (cut c rest).1, (cut c rest).2)

/-- The part before the last `c` if there is one, and what follows it. -/
def cutLast (c : Char) (s : List Char) : Option (List Char) × List Char :=
  let (after, before) := cut c s.reverse
  (before.map List.reverse, after.reverse)

/-- The parts between the separators. -/
def pieces (c : Char) : List Char → List (List Char)
  | [] => [[]]
  | x :: rest =>
    if x = c then [] :: pieces c rest
    else
      match pieces c rest with
      | [] => [[x]]
      | piece :: more => (x :: piece) :: more

/-- A text without the separator is one part. -/
theorem cut_of_not_mem {c : Char} {s : List Char} (h : c ∉ s) : cut c s = (s, none) := by
  induction s with
  | nil => rfl
  | cons x rest ih =>
    have hx : x ≠ c := fun e => h (by simp [e])
    simp [cut, hx, ih fun m => h (List.mem_cons_of_mem _ m)]

/-- Two parts around a separator are cut into the same parts. -/
theorem cut_append {c : Char} {s : List Char} (h : c ∉ s) (t : List Char) :
    cut c (s ++ c :: t) = (s, some t) := by
  induction s with
  | nil => simp [cut]
  | cons x rest ih =>
    have hx : x ≠ c := fun e => h (by simp [e])
    simp [cut, hx, ih fun m => h (List.mem_cons_of_mem _ m)]

/-- A separator is the first one after a part only if there is none in the part. -/
theorem cut_append_cons (c : Char) (s t : List Char) :
    cut c (s ++ c :: t) = ((cut c s).1, some (((cut c s).2.map (· ++ c :: t)).getD t)) := by
  induction s with
  | nil => simp [cut]
  | cons x rest ih =>
    by_cases hx : x = c
    · simp [cut, hx]
    · simp [cut, hx, ih]

/-- A separator is the last one before a part only if there is none in the part. -/
theorem cutLast_append_cons (c : Char) (s t : List Char) :
    cutLast c (s ++ c :: t) =
      (some (((cutLast c t).1.map (s ++ c :: ·)).getD s), (cutLast c t).2) := by
  have hreverse : (s ++ c :: t).reverse = t.reverse ++ c :: s.reverse := by simp
  rw [cutLast, cutLast, hreverse, cut_append_cons]
  obtain ⟨after, before?⟩ := cut c t.reverse
  cases before? <;> simp

/-- A text with the separator is cut at the first one. -/
theorem cut_of_mem {c : Char} {s : List Char} (h : c ∈ s) :
    ∃ before after, s = before ++ c :: after ∧ c ∉ before ∧ cut c s = (before, some after) := by
  obtain ⟨before, after, rfl, hbefore⟩ := List.eq_append_cons_of_mem h
  exact ⟨before, after, rfl, hbefore, cut_append hbefore after⟩

theorem cutLast_of_not_mem {c : Char} {s : List Char} (h : c ∉ s) : cutLast c s = (none, s) := by
  rw [cutLast, cut_of_not_mem (mt List.mem_reverse.1 h)]
  simp

theorem cutLast_append {c : Char} {t : List Char} (h : c ∉ t) (s : List Char) :
    cutLast c (s ++ c :: t) = (some s, t) := by
  rw [cutLast_append_cons, cutLast_of_not_mem h]
  rfl

/-- A text with the separator is cut at the last one. -/
theorem cutLast_of_mem {c : Char} {s : List Char} (h : c ∈ s) :
    ∃ before after, s = before ++ c :: after ∧ c ∉ after ∧ cutLast c s = (some before, after) := by
  obtain ⟨before, after, hreverse, hbefore⟩ := List.eq_append_cons_of_mem (List.mem_reverse.2 h)
  have hs : s = after.reverse ++ c :: before.reverse := by
    simpa using congrArg List.reverse hreverse
  have hafter : c ∉ before.reverse := mt List.mem_reverse.1 hbefore
  exact ⟨after.reverse, before.reverse, hs, hafter, hs ▸ cutLast_append hafter _⟩

/-- The part before a separator has none, and nothing that the text does not have. -/
theorem mem_of_mem_cut_fst {c x : Char} {s : List Char} (h : x ∈ (cut c s).1) : x ∈ s ∧ x ≠ c := by
  by_cases hc : c ∈ s
  · obtain ⟨before, after, rfl, hbefore, hcut⟩ := cut_of_mem hc
    rw [hcut] at h
    exact ⟨List.mem_append_left _ h, fun hx => hbefore (hx ▸ h)⟩
  · rw [cut_of_not_mem hc] at h
    exact ⟨h, fun hx => hc (hx ▸ h)⟩

theorem mem_of_mem_cut_snd {c x : Char} {s : List Char} (h : x ∈ (cut c s).2.getD []) : x ∈ s := by
  by_cases hc : c ∈ s
  · obtain ⟨before, after, rfl, hbefore, hcut⟩ := cut_of_mem hc
    rw [hcut] at h
    exact List.mem_append_right _ (List.mem_cons_of_mem _ h)
  · rw [cut_of_not_mem hc] at h
    cases h

/-- Whether a word stands somewhere in a text. -/
def contains (word : List Char) : List Char → Bool
  | [] => word.isEmpty
  | c :: rest => word.isPrefixOf (c :: rest) || contains word rest

theorem contains_iff {word s : List Char} : contains word s = true ↔ word <:+: s := by
  induction s with
  | nil => rw [contains, List.isEmpty_iff, List.infix_nil]
  | cons c rest ih =>
    rw [contains, Bool.or_eq_true, List.isPrefixOf_iff_prefix, ih, List.infix_cons_iff]

end SqlDialect.Text
