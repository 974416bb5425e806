import SqlDialect.Dsn

/-!
# Text in lower case

What is in lower case stays as it is (`lowerAfter_of_lowered`, `isLowered_of_mem_lowerAfter`), and a
text in lower case has no delimiter and no character that hides one but those that it had before
(`isNewLower_or_mem_of_mem_lowerAfter`).

Both follow from what the table of lower case letters moves its runs to: the runs of a list,
`CaseMap.avoided`, on none of which it moves anything.
-/

namespace SqlDialect.Text

namespace CaseMap

/-! ### Where the table moves its runs -/

/-- The run that a run is moved to. -/
def Run.image (r : Run) : Run :=
  ⟨(r.first + r.shift).toNat, (r.last + r.shift).toNat, r.step, 0⟩

/-- A test that two runs have no code point in common: one ends before the other begins, or they
alternate. -/
def Run.misses (r q : Run) : Bool :=
  Nat.blt r.last q.first || Nat.blt q.last r.first ||
    (Nat.blt 0 r.first && (Nat.beq r.step 2 || Nat.beq r.first r.last) && Nat.beq q.step 2 &&
      Nat.beq ((r.first + q.first) % 2) 1)

/-- What no letter is in lower case: ASCII delimiters, digits and capitals, the capital letters of
other scripts, and characters that hide a delimiter. -/
def avoided : List Run :=
  ⟨0, 0x60, 1, 0⟩ :: ⟨0x130, 0x130, 1, 0⟩ ::
    (delimiterLookalikes.map fun n => ⟨n, n, 1, 0⟩) ++ lowerRuns

theorem image_misses : (lowerRuns.all fun r => avoided.all r.image.misses) = true := by
  decide +kernel

theorem image_isValidChar :
    (lowerRuns.all fun r => r.image.last < 0xD800 ||
      (0xDFFF < r.image.first && r.image.last < 0x110000)) = true := by
  decide +kernel

theorem Run.covers_iff (r : Run) (n : Nat) :
    r.covers n = true ↔ r.first ≤ n ∧ n ≤ r.last ∧ (n - r.first) % r.step = 0 := by
  simp [covers, and_assoc]

/-- A code point that is moved lies between the ends of the image. -/
theorem Run.image_bounds {r : Run} {n : Nat} (h : r.covers n = true) :
    r.image.first ≤ (n + r.shift).toNat ∧ (n + r.shift).toNat ≤ r.image.last := by
  obtain ⟨hfirst, hlast, -⟩ := (r.covers_iff n).1 h
  exact ⟨Int.toNat_le_toNat (by omega), Int.toNat_le_toNat (by omega)⟩

/-- Runs that pass the test have no code point in common. -/
theorem Run.not_covers_of_misses {r q : Run} (hmisses : r.image.misses q = true) {n : Nat}
    (h : r.covers n = true) : q.covers (n + r.shift).toNat = false := by
  obtain ⟨hlow, hhigh⟩ := image_bounds h
  obtain ⟨hfirst, hlast, hstep⟩ := (r.covers_iff n).1 h
  refine Bool.eq_false_iff.2 fun hq => ?_
  obtain ⟨hqfirst, hqlast, hqstep⟩ := (q.covers_iff _).1 hq
  simp only [misses, Bool.or_eq_true, Bool.and_eq_true, Nat.blt_eq, Nat.beq_eq] at hmisses
  rcases hmisses with (hbefore | hbehind) | ⟨⟨⟨hpos, hkind⟩, hqstep2⟩, hodd⟩
  · omega
  · omega
  · -- the code points of both runs are of one parity each
    simp only [image] at hpos hkind hodd hlow hhigh
    rw [hqstep2] at hqstep
    have hshifted : (n + r.shift).toNat = (r.first + r.shift).toNat + (n - r.first) := by omega
    have heven : (n - r.first) % 2 = 0 := by
      rcases hkind with hkind | hkind
      · rwa [hkind] at hstep
      · omega
    omega

end CaseMap

open CaseMap

/-! ### Characters in lower case -/

/-- A character that lower case leaves as it is, wherever it stands. -/
def IsLowered (c : Char) : Prop :=
  c.toNat ≠ 0x3A3 ∧ lowerChar c = [c]

/-- A character that lower case may put in place of another one. -/
def IsNewLower (c : Char) : Prop :=
  ∀ r ∈ avoided, r.covers c.toNat = false

instance (c : Char) : Decidable (IsLowered c) :=
  inferInstanceAs (Decidable (c.toNat ≠ 0x3A3 ∧ lowerChar c = [c]))

instance (c : Char) : Decidable (IsNewLower c) :=
  inferInstanceAs (Decidable (∀ r ∈ avoided, r.covers c.toNat = false))

namespace IsNewLower

variable {c : Char}

theorem lt_toNat (h : IsNewLower c) : 0x60 < c.toNat := by
  have hrun := h ⟨0, 0x60, 1, 0⟩ List.mem_cons_self
  rw [← Bool.not_eq_true, Run.covers_iff] at hrun
  simp only [Nat.mod_one, and_true, Nat.zero_le, true_and] at hrun
  omega

theorem hidesDelimiter_eq_false (h : IsNewLower c) : hidesDelimiter c = false := by
  refine Bool.eq_false_iff.2 fun hhides => ?_
  have hmem : c.toNat ∈ delimiterLookalikes := List.contains_iff_mem.1 hhides
  have hrun := h ⟨c.toNat, c.toNat, 1, 0⟩ (List.mem_cons_of_mem _ (List.mem_cons_of_mem _
    (List.mem_append_left _ (List.mem_map_of_mem hmem))))
  rw [← Bool.not_eq_true, Run.covers_iff] at hrun
  exact hrun ⟨Nat.le_refl _, Nat.le_refl _, Nat.mod_one _⟩

theorem find?_lowerRuns (h : IsNewLower c) : lowerRuns.find? (·.covers c.toNat) = none := by
  refine List.find?_eq_none.2 fun r hr => ?_
  rw [h r (List.mem_cons_of_mem _ (List.mem_cons_of_mem _ (List.mem_append_right _ hr)))]
  exact Bool.false_ne_true

theorem isLowered (h : IsNewLower c) : IsLowered c := by
  have hascii := h.lt_toNat
  have hdotted : c.toNat ≠ 0x130 := by
    intro heq
    have hrun := h ⟨0x130, 0x130, 1, 0⟩ (List.mem_cons_of_mem _ List.mem_cons_self)
    rw [heq] at hrun
    cases hrun
  have hsigma : c.toNat ≠ 0x3A3 := by
    intro heq
    have hnone := h.find?_lowerRuns
    rw [heq] at hnone
    cases hnone
  refine ⟨hsigma, ?_⟩
  by_cases hlt : c.toNat < 0x80
  · rw [lowerChar, if_pos hlt, if_neg]
    intro hupper
    simp only [Bool.and_eq_true, decide_eq_true_eq, Char.le_def, UInt32.le_iff_toNat_le] at hupper
    have hZ : 'Z'.val.toNat = 0x5A := rfl
    have hc : c.val.toNat = c.toNat := rfl
    omega
  · rw [lowerChar, if_neg hlt, if_neg hdotted, shift, h.find?_lowerRuns]

end IsNewLower

theorem toNat_ofNat_of_isValidChar {n : Nat} (h : n.isValidChar) : (Char.ofNat n).toNat = n := by
  rw [Char.ofNat, dif_pos h]
  rfl

/-- A letter of the table becomes a new character. -/
theorem isNewLower_shift {c : Char} {r : CaseMap.Run} (hr : r ∈ lowerRuns)
    (hcovers : r.covers c.toNat = true) :
    IsNewLower (Char.ofNat (c.toNat + r.shift).toNat) := by
  obtain ⟨hlow, hhigh⟩ := Run.image_bounds hcovers
  have hvalid := List.all_eq_true.1 image_isValidChar r hr
  simp only [Bool.or_eq_true, Bool.and_eq_true, decide_eq_true_eq] at hvalid
  have htoNat : (Char.ofNat (c.toNat + r.shift).toNat).toNat = (c.toNat + r.shift).toNat := by
    refine toNat_ofNat_of_isValidChar ?_
    unfold Nat.isValidChar
    omega
  intro q hq
  rw [htoNat]
  exact Run.not_covers_of_misses
    (List.all_eq_true.1 (List.all_eq_true.1 image_misses r hr) q hq) hcovers

/-- A small letter of ASCII is a new character. -/
theorem isNewLower_of_ascii {c : Char} (hlow : 0x60 < c.toNat) (hhigh : c.toNat < 0x80) :
    IsNewLower c := by
  have hfirst : ∀ r ∈ avoided.tail, 0x80 ≤ r.first := by decide +kernel
  intro r hr
  refine Bool.eq_false_iff.2 fun hcovers => ?_
  obtain ⟨hrfirst, hrlast, -⟩ := (r.covers_iff _).1 hcovers
  rcases List.mem_cons.1 hr with rfl | hr
  · exact Nat.not_le_of_lt hlow hrlast
  · have hr := hfirst r hr
    omega

/-- A character in lower case is a new one, or the character itself. -/
theorem isNewLower_or_eq_of_mem_lowerChar {c d : Char} (h : d ∈ lowerChar c) :
    IsNewLower d ∨ (d = c ∧ IsLowered c) := by
  by_cases hascii : c.toNat < 0x80
  · rw [lowerChar, if_pos hascii, List.mem_singleton] at h
    split at h
    · rename_i hupper
      simp only [Bool.and_eq_true, decide_eq_true_eq, Char.le_def, UInt32.le_iff_toNat_le] at hupper
      have hA : 'A'.val.toNat = 0x41 := rfl
      have hZ : 'Z'.val.toNat = 0x5A := rfl
      have hc : c.val.toNat = c.toNat := rfl
      have hvalid : (c.toNat + 0x20).isValidChar := by
        unfold Nat.isValidChar
        omega
      have hd : d.toNat = c.toNat + 0x20 := by rw [h, toNat_ofNat_of_isValidChar hvalid]
      exact .inl (isNewLower_of_ascii (by omega) (by omega))
    · rename_i hupper
      exact .inr ⟨h, by omega, by rw [lowerChar, if_pos hascii, if_neg hupper]⟩
  · by_cases hdotted : c.toNat = 0x130
    · rw [lowerChar, if_neg hascii, if_pos hdotted, List.mem_cons, List.mem_singleton] at h
      rcases h with rfl | rfl
      · exact .inl (isNewLower_of_ascii (by decide) (by decide))
      · exact .inl (by decide +kernel)
    · rw [lowerChar, if_neg hascii, if_neg hdotted, List.mem_singleton] at h
      unfold shift at h
      split at h
      · rename_i r hfind
        have hcovers : r.covers c.toNat = true := by simpa using List.find?_some hfind
        rw [h]
        exact .inl (isNewLower_shift (List.mem_of_find?_eq_some hfind) hcovers)
      · rename_i hfind
        refine .inr ⟨h, fun hsigma => ?_, ?_⟩
        · rw [hsigma] at hfind
          cases hfind
        · rw [lowerChar, if_neg hascii, if_neg hdotted, shift, hfind]

/-- A text in lower case begins with the lower case of its first character. -/
theorem exists_lowerAfter_cons (before : List Char) (c : Char) (rest : List Char) :
    ∃ d more, lowerAfter before (c :: rest) = d :: (more ++ lowerAfter (c :: before) rest) ∧
      ∀ e ∈ d :: more, IsNewLower e ∨ (e = c ∧ IsLowered e) := by
  rw [lowerAfter]
  split
  · refine ⟨_, [], rfl, List.forall_mem_singleton.2 (.inl ?_)⟩
    -- either form of the small sigma
    split
    · decide +kernel
    · decide +kernel
  · obtain ⟨d, more, hcons⟩ := List.exists_cons_of_ne_nil (lowerChar_ne_nil c)
    refine ⟨d, more, by rw [hcons]; rfl, fun e he => ?_⟩
    rw [← hcons] at he
    rcases isNewLower_or_eq_of_mem_lowerChar he with hnew | ⟨heq, hlowered⟩
    · exact .inl hnew
    · exact .inr ⟨heq, heq ▸ hlowered⟩

/-- A character of a text in lower case is a new one, or one of the text. -/
theorem isNewLower_or_mem_of_mem_lowerAfter {before s : List Char} {d : Char}
    (h : d ∈ lowerAfter before s) : IsNewLower d ∨ (d ∈ s ∧ IsLowered d) := by
  induction s generalizing before with
  | nil => cases h
  | cons c rest ih =>
    obtain ⟨e, more, hcons, hfirst⟩ := exists_lowerAfter_cons before c rest
    rw [hcons, ← List.cons_append, List.mem_append] at h
    rcases h with hmem | hrest
    · rcases hfirst d hmem with hnew | ⟨heq, hlowered⟩
      · exact .inl hnew
      · exact .inr ⟨heq ▸ List.mem_cons_self, hlowered⟩
    · exact (ih hrest).imp id fun hmem => ⟨List.mem_cons_of_mem _ hmem.1, hmem.2⟩

theorem lowerAfter_ne_nil {s : List Char} (h : s ≠ []) (before : List Char) :
    lowerAfter before s ≠ [] := by
  obtain ⟨c, rest, rfl⟩ := List.exists_cons_of_ne_nil h
  obtain ⟨d, more, hcons, -⟩ := exists_lowerAfter_cons before c rest
  rw [hcons]
  exact List.cons_ne_nil _ _

theorem isLowered_of_mem_lowerAfter {before s : List Char} {d : Char}
    (h : d ∈ lowerAfter before s) : IsLowered d := by
  rcases isNewLower_or_mem_of_mem_lowerAfter h with hnew | ⟨-, hlowered⟩
  · exact hnew.isLowered
  · exact hlowered

/-- A text in lower case stays as it is. -/
theorem lowerAfter_of_lowered {s : List Char} (h : ∀ c ∈ s, IsLowered c) (before : List Char) :
    lowerAfter before s = s := by
  induction s generalizing before with
  | nil => rfl
  | cons c rest ih =>
    obtain ⟨⟨hsigma, hlower⟩, hrest⟩ := List.forall_mem_cons.1 h
    rw [lowerAfter, if_neg hsigma, hlower, ih hrest, List.singleton_append]

/-- A character in lower case stays in a text. -/
theorem mem_lowerAfter {s : List Char} {c : Char} (hc : IsLowered c) (h : c ∈ s)
    (before : List Char) : c ∈ lowerAfter before s := by
  induction s generalizing before with
  | nil => cases h
  | cons d rest ih =>
    rw [lowerAfter, List.mem_append]
    rcases List.mem_cons.1 h with rfl | hrest
    · rw [if_neg hc.1, hc.2]
      exact .inl List.mem_cons_self
    · exact .inr (ih hrest _)

end SqlDialect.Text

/-! ### Hosts -/

namespace SqlDialect.Dsn

open Text

theorem lowerHost_of_not_mem {host : List Char} (h : '%' ∉ host) :
    lowerHost host = lowerAfter [] host := by
  rw [lowerHost, cut_of_not_mem h]

theorem lowerHost_append {name : List Char} (h : '%' ∉ name) (zone : List Char) :
    lowerHost (name ++ '%' :: zone) = lowerAfter [] name ++ '%' :: zone := by
  rw [lowerHost, cut_append h]

/-- A character of a host in lower case is a new one, or one that it had before. -/
theorem isNewLower_or_mem_of_mem_lowerHost {host : List Char} {d : Char} (h : d ∈ lowerHost host) :
    IsNewLower d ∨ d ∈ host := by
  by_cases hpercent : '%' ∈ host
  · obtain ⟨name, zone, rfl, hname⟩ := List.eq_append_cons_of_mem hpercent
    rw [lowerHost_append hname, List.mem_append] at h
    rcases h with hlower | hzone
    · exact (isNewLower_or_mem_of_mem_lowerAfter hlower).imp id fun hmem =>
        List.mem_append_left _ hmem.1
    · exact .inr (List.mem_append_right _ hzone)
  · rw [lowerHost_of_not_mem hpercent] at h
    exact (isNewLower_or_mem_of_mem_lowerAfter h).imp id And.left

/-- No delimiter of ASCII comes from lower case. -/
theorem mem_of_mem_lowerHost {host : List Char} {d : Char} (hd : d.toNat ≤ 0x60)
    (h : d ∈ lowerHost host) : d ∈ host :=
  (isNewLower_or_mem_of_mem_lowerHost h).resolve_left fun hnew => Nat.not_le_of_lt hnew.lt_toNat hd

/-- A host in lower case stays as it is. -/
theorem lowerHost_lowerHost (host : List Char) : lowerHost (lowerHost host) = lowerHost host := by
  have hpercent {name : List Char} (h : '%' ∉ name) : '%' ∉ lowerAfter [] name := fun hmem =>
    (isNewLower_or_mem_of_mem_lowerAfter hmem).elim
      (fun hnew => absurd hnew.lt_toNat (by decide)) fun hold => h hold.1
  have hlower (name : List Char) : lowerAfter [] (lowerAfter [] name) = lowerAfter [] name :=
    lowerAfter_of_lowered (fun _ => isLowered_of_mem_lowerAfter) []
  by_cases hmem : '%' ∈ host
  · obtain ⟨name, zone, rfl, hname⟩ := List.eq_append_cons_of_mem hmem
    rw [lowerHost_append hname, lowerHost_append (hpercent hname), hlower]
  · rw [lowerHost_of_not_mem hmem, lowerHost_of_not_mem (hpercent hmem), hlower]

theorem lowerHost_ne_nil {host : List Char} (h : host ≠ []) : lowerHost host ≠ [] := by
  by_cases hmem : '%' ∈ host
  · obtain ⟨name, zone, rfl, hname⟩ := List.eq_append_cons_of_mem hmem
    rw [lowerHost_append hname]
    exact List.append_ne_nil_of_right_ne_nil _ (List.cons_ne_nil _ _)
  · rw [lowerHost_of_not_mem hmem]
    exact lowerAfter_ne_nil h []

/-- A character in lower case stays in a host. -/
theorem mem_lowerHost {host : List Char} {c : Char} (hc : IsLowered c) (h : c ∈ host) :
    c ∈ lowerHost host := by
  by_cases hmem : '%' ∈ host
  · obtain ⟨name, zone, rfl, hname⟩ := List.eq_append_cons_of_mem hmem
    rw [lowerHost_append hname, List.mem_append]
    rw [List.mem_append] at h
    exact h.imp (fun hmem => mem_lowerAfter hc hmem []) id
  · rw [lowerHost_of_not_mem hmem]
    exact mem_lowerAfter hc h []

/-- No host comes to begin with a delimiter of ASCII. -/
theorem head?_of_head?_lowerHost {host : List Char} {d : Char} (hd : d.toNat ≤ 0x60)
    (h : (lowerHost host).head? = some d) : host.head? = some d := by
  have hname : ∀ (name zone : List Char), name ≠ [] →
      (lowerAfter [] name ++ zone).head? = some d → (name ++ zone).head? = some d := by
    intro name zone hne hhead
    obtain ⟨c, rest, rfl⟩ := List.exists_cons_of_ne_nil hne
    obtain ⟨e, more, hcons, hfirst⟩ := exists_lowerAfter_cons [] c rest
    rw [hcons] at hhead
    obtain rfl : e = d := Option.some.inj hhead
    rcases hfirst e List.mem_cons_self with hnew | ⟨rfl, -⟩
    · exact absurd hnew.lt_toNat (Nat.not_lt_of_le hd)
    · rfl
  by_cases hmem : '%' ∈ host
  · obtain ⟨name, zone, rfl, hnotin⟩ := List.eq_append_cons_of_mem hmem
    rw [lowerHost_append hnotin] at h
    by_cases hnil : name = []
    · subst hnil
      exact h
    · exact hname name _ hnil h
  · rw [lowerHost_of_not_mem hmem] at h
    by_cases hnil : host = []
    · subst hnil
      cases h
    · simpa using hname host [] hnil (by simpa using h)

end SqlDialect.Dsn
