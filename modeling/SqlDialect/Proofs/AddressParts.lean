import Mathlib.Data.List.TakeWhile
import SqlDialect.Proofs.Lowering
import SqlDialect.Proofs.QueryCoding

/-!
# Parts of an address

Whatever is read as an address is `Dsn.Proper`: every part consists of characters that may stand in
it, the scheme and the host are in lower case, the path has no parameters left that its scheme would
drop, and the query can be written.  `Dsn.proper_of_read` collects this from the steps of reading,
each of which keeps some of it.

Brackets need the most care, since they may stand in a user name or in a zone: in an authority with
brackets the host is an internet address, and in lower case it still has the colon of an IPv6
address or the form of a later one (`Dsn.lowerHost_of_checkHost`).
-/

namespace SqlDialect.Dsn

open Text

/-! ### Cutting an address -/

/-- A scheme in lower case. -/
def IsLowerScheme (s : List Char) : Prop :=
  isScheme s = true ∧ s.map lowerAscii = s

theorem isAsciiLetter_iff (c : Char) :
    isAsciiLetter c = true ↔
      (0x61 ≤ c.toNat ∧ c.toNat ≤ 0x7A) ∨ (0x41 ≤ c.toNat ∧ c.toNat ≤ 0x5A) := by
  simp only [isAsciiLetter, Bool.or_eq_true, Bool.and_eq_true, decide_eq_true_eq, Char.le_def,
    UInt32.le_iff_toNat_le]
  rfl

/-- A capital letter of ASCII moves to its small letter; nothing else does. -/
theorem lowerAscii_cases (c : Char) :
    lowerAscii c = c ∨
      (0x41 ≤ c.toNat ∧ c.toNat ≤ 0x5A ∧ (lowerAscii c).toNat = c.toNat + 0x20) := by
  unfold lowerAscii
  split
  · rename_i hupper
    simp only [Bool.and_eq_true, decide_eq_true_eq, Char.le_def, UInt32.le_iff_toNat_le] at hupper
    have hA : 0x41 ≤ c.toNat := hupper.1
    have hZ : c.toNat ≤ 0x5A := hupper.2
    refine .inr ⟨hA, hZ, toNat_ofNat_of_isValidChar ?_⟩
    unfold Nat.isValidChar
    omega
  · exact .inl rfl

theorem isAsciiLetter_lowerAscii {c : Char} (h : isAsciiLetter c = true) :
    isAsciiLetter (lowerAscii c) = true := by
  rcases lowerAscii_cases c with heq | ⟨hlow, hhigh, hmoved⟩
  · rwa [heq]
  · rw [isAsciiLetter_iff]
    omega

theorem lowerAscii_lowerAscii (c : Char) : lowerAscii (lowerAscii c) = lowerAscii c := by
  rcases lowerAscii_cases (lowerAscii c) with heq | ⟨hlow, hhigh, -⟩
  · exact heq
  · -- a capital letter would be left where it was
    rcases lowerAscii_cases c with heq | ⟨hlow', -, hmoved⟩
    · rw [heq, heq]
    · omega

theorem isSchemeChar_lowerAscii {c : Char} (h : isSchemeChar c = true) :
    isSchemeChar (lowerAscii c) = true := by
  rcases lowerAscii_cases c with heq | ⟨hlow, hhigh, -⟩
  · rwa [heq]
  · have hletter := isAsciiLetter_lowerAscii ((isAsciiLetter_iff c).2 (.inr ⟨hlow, hhigh⟩))
    rw [isSchemeChar, hletter]
    rfl

theorem isLowerScheme_map {s : List Char} (h : isScheme s = true) :
    IsLowerScheme (s.map lowerAscii) := by
  constructor
  · cases s with
    | nil => cases h
    | cons c rest =>
      obtain ⟨hletter, hrest⟩ := Bool.and_eq_true_iff.1 h
      refine Bool.and_eq_true_iff.2 ⟨isAsciiLetter_lowerAscii hletter, ?_⟩
      rw [List.all_map, List.all_eq_true]
      exact fun d hd => isSchemeChar_lowerAscii (List.all_eq_true.1 hrest d hd)
  · rw [List.map_map]
    exact List.map_congr_left fun c _ => lowerAscii_lowerAscii c

/-- A scheme is read in lower case. -/
theorem cutScheme_fst (s : List Char) :
    (cutScheme s).1 = [] ∨ IsLowerScheme (cutScheme s).1 := by
  unfold cutScheme
  split
  · split
    · exact .inr (isLowerScheme_map ‹_›)
    · exact .inl rfl
  · exact .inl rfl

theorem mem_of_mem_cutScheme_snd {s : List Char} {c : Char} (h : c ∈ (cutScheme s).2) : c ∈ s := by
  unfold cutScheme at h
  split at h
  · rename_i before after hcut
    split at h
    · exact mem_of_mem_cut_snd (c := ':') (by rwa [hcut])
    · exact h
  · exact h

/-- A text that begins where an authority ends. -/
def Ended (s : List Char) : Prop :=
  ∀ c ∈ s.head?, endsAuthority c = true

theorem cutAuthority_of_slashes (s : List Char) :
    cutAuthority ('/' :: '/' :: s) =
      (s.takeWhile fun c => !endsAuthority c, s.dropWhile fun c => !endsAuthority c) := rfl

theorem endsAuthority_eq_false_of_mem_cutAuthority {s : List Char} {c : Char}
    (h : c ∈ (cutAuthority s).1) : endsAuthority c = false := by
  unfold cutAuthority at h
  split at h
  · simpa using List.mem_takeWhile_imp h
  · cases h

theorem mem_of_mem_cutAuthority_fst {s : List Char} {c : Char} (h : c ∈ (cutAuthority s).1) :
    c ∈ s := by
  unfold cutAuthority at h
  split at h
  · exact List.mem_cons_of_mem _ (List.mem_cons_of_mem _ (List.takeWhile_subset _ h))
  · cases h

theorem mem_of_mem_cutAuthority_snd {s : List Char} {c : Char} (h : c ∈ (cutAuthority s).2) :
    c ∈ s := by
  unfold cutAuthority at h
  split at h
  · exact List.mem_cons_of_mem _ (List.mem_cons_of_mem _ (List.dropWhile_subset _ h))
  · exact h

/-- An authority is followed by what ends it. -/
theorem ended_dropWhile (s : List Char) : Ended (s.dropWhile fun c => !endsAuthority c) := by
  intro c hc
  have hhead := List.head?_dropWhile_not (fun c => !endsAuthority c) s
  rw [Option.mem_def.1 hc] at hhead
  simpa using hhead

/-- An authority ends where it is followed by what ends it. -/
theorem cutAuthority_append {authority rest : List Char}
    (hauthority : ∀ c ∈ authority, endsAuthority c = false) (hrest : Ended rest) :
    cutAuthority ('/' :: '/' :: (authority ++ rest)) = (authority, rest) := by
  have hpos : ∀ c ∈ authority, (!endsAuthority c) = true := fun c hc => by simp [hauthority c hc]
  rw [cutAuthority_of_slashes, List.takeWhile_append_of_pos hpos,
    List.dropWhile_append_of_pos hpos]
  cases rest with
  | nil => simp
  | cons c more => simp [hrest c rfl]

/-- The path before a query and a fragment has neither of their signs. -/
theorem mem_of_mem_cutQuery_fst {s : List Char} {c : Char} (h : c ∈ (cutQuery s).1) :
    c ∈ s ∧ c ≠ '#' ∧ c ≠ '?' := by
  obtain ⟨hmem, hquery⟩ := mem_of_mem_cut_fst h
  obtain ⟨hs, hfragment⟩ := mem_of_mem_cut_fst hmem
  exact ⟨hs, hfragment, hquery⟩

/-- A path that is empty or begins with a slash. -/
def Rooted (path : List Char) : Prop :=
  ∀ c ∈ path.head?, c = '/'

instance : DecidablePred Rooted
  | [] => isTrue nofun
  | c :: _ => decidable_of_iff (c = '/')
      ⟨fun h _ hd => Option.some.inj hd ▸ h, fun h => h c rfl⟩

theorem rooted_cutQuery {s : List Char} (h : Ended s) : Rooted (cutQuery s).1 := by
  cases s with
  | nil => exact nofun
  | cons c rest =>
    have hends : endsAuthority c = true := h c rfl
    simp only [endsAuthority, Bool.or_eq_true, decide_eq_true_eq] at hends
    rcases hends with (rfl | rfl) | rfl
    · intro d hd
      exact (Option.some.inj hd).symm
    · exact nofun
    · exact nofun

/-- Nothing but an end of the path is dropped. -/
theorem dropParameters_start (path : List Char) : dropParameters path <+: path := by
  have hcut (s : List Char) : (cut ';' s).1 <+: s := by
    by_cases h : ';' ∈ s
    · obtain ⟨before, after, hs, -, hcut⟩ := cut_of_mem h
      rw [hcut, hs]
      exact List.prefix_append _ _
    · have hwhole : (cut ';' s).1 = s := congrArg Prod.fst (cut_of_not_mem h)
      exact hwhole.symm ▸ List.prefix_rfl
  unfold dropParameters
  by_cases h : '/' ∈ path
  · obtain ⟨before, after, hs, -, hcutLast⟩ := cutLast_of_mem h
    rw [hcutLast, hs]
    exact List.prefix_append_right_inj _ |>.2 (List.cons_prefix_cons.2 ⟨rfl, hcut after⟩)
  · rw [cutLast_of_not_mem h]
    exact hcut path

/-- Parameters are dropped behind the last slash. -/
theorem dropParameters_append {last : List Char} (h : '/' ∉ last) (before : List Char) :
    dropParameters (before ++ '/' :: last) = before ++ '/' :: (cut ';' last).1 := by
  rw [dropParameters, cutLast_append h]

/-- What stands before a path with a slash stays before it. -/
theorem dropParameters_append_left {path : List Char} (h : '/' ∈ path) (before : List Char) :
    dropParameters (before ++ path) = before ++ dropParameters path := by
  obtain ⟨start, last, rfl, hlast, -⟩ := cutLast_of_mem h
  rw [← List.append_assoc, dropParameters_append hlast, dropParameters_append hlast,
    List.append_assoc]

theorem slash_mem_dropParameters {path : List Char} (h : '/' ∈ path) :
    '/' ∈ dropParameters path := by
  obtain ⟨start, last, rfl, hlast, -⟩ := cutLast_of_mem h
  rw [dropParameters_append hlast]
  exact List.mem_append_right _ List.mem_cons_self

theorem dropParameters_dropParameters (path : List Char) :
    dropParameters (dropParameters path) = dropParameters path := by
  have hcut (s : List Char) : cut ';' (cut ';' s).1 = ((cut ';' s).1, none) :=
    cut_of_not_mem fun h => (mem_of_mem_cut_fst h).2 rfl
  by_cases h : '/' ∈ path
  · obtain ⟨start, last, rfl, hlast, -⟩ := cutLast_of_mem h
    have hdropped : '/' ∉ (cut ';' last).1 := fun hmem => hlast (mem_of_mem_cut_fst hmem).1
    rw [dropParameters_append hlast, dropParameters_append hdropped, hcut]
  · have hdrop : dropParameters path = (cut ';' path).1 := by
      rw [dropParameters, cutLast_of_not_mem h]
    have hlast : '/' ∉ (cut ';' path).1 := fun hmem => h (mem_of_mem_cut_fst hmem).1
    rw [hdrop, dropParameters, cutLast_of_not_mem hlast]
    dsimp only
    rw [hcut]

theorem Rooted.of_start {path start : List Char} (h : Rooted path) (hstart : start <+: path) :
    Rooted start := by
  cases start with
  | nil => exact nofun
  | cons c rest =>
    obtain ⟨more, rfl⟩ := hstart
    exact h

/-! ### Authorities -/

theorem mem_of_mem_cutLast_snd {c x : Char} {s : List Char} (h : x ∈ (cutLast c s).2) :
    x ∈ s ∧ x ≠ c := by
  by_cases hc : c ∈ s
  · obtain ⟨before, after, rfl, hafter, hcut⟩ := cutLast_of_mem hc
    rw [hcut] at h
    exact ⟨List.mem_append_right _ (List.mem_cons_of_mem _ h), fun hx => hafter (hx ▸ h)⟩
  · rw [cutLast_of_not_mem hc] at h
    exact ⟨h, fun hx => hc (hx ▸ h)⟩

theorem mem_of_mem_cutLast_fst {c x : Char} {s before : List Char}
    (hbefore : (cutLast c s).1 = some before) (h : x ∈ before) : x ∈ s := by
  by_cases hc : c ∈ s
  · obtain ⟨start, after, rfl, -, hcut⟩ := cutLast_of_mem hc
    rw [hcut] at hbefore
    obtain rfl := Option.some.inj hbefore
    exact List.mem_append_left _ h
  · rw [cutLast_of_not_mem hc] at hbefore
    cases hbefore

/-- A user name is a part of the authority and has no colon. -/
theorem mem_of_mem_username {s user : List Char} (huser : (Authority.read s).username = some user)
    {c : Char} (h : c ∈ user) : c ∈ s ∧ c ≠ ':' := by
  cases hinfo : (cutLast '@' s).1 with
  | none => simp [Authority.read, hinfo, readUser] at huser
  | some info =>
    have hcut : user = (cut ':' info).1 := by
      simpa [Authority.read, hinfo, readUser] using huser.symm
    rw [hcut] at h
    obtain ⟨hmem, hcolon⟩ := mem_of_mem_cut_fst h
    exact ⟨mem_of_mem_cutLast_fst hinfo hmem, hcolon⟩

theorem mem_of_mem_readPlace {place : List Char} {c : Char} (h : c ∈ (readPlace place).1) :
    c ∈ place := by
  unfold readPlace at h
  split at h
  · rename_i before bracketed hcut
    exact mem_of_mem_cut_snd (c := '[') (by rw [hcut]; exact (mem_of_mem_cut_fst h).1)
  · exact (mem_of_mem_cut_fst h).1

/-- A host is a part of the authority and has no `@`. -/
theorem mem_of_mem_host {s : List Char} {c : Char} (h : c ∈ (Authority.read s).host) :
    c ∈ s ∧ c ≠ '@' :=
  mem_of_mem_cutLast_snd (mem_of_mem_readPlace h)

theorem password_eq_none {s : List Char} (h : (Authority.read s).username = none) :
    (Authority.read s).password = none := by
  cases hinfo : (cutLast '@' s).1 with
  | none => simp [Authority.read, hinfo, readUser]
  | some info => simp [Authority.read, hinfo, readUser] at h

/-- What an authority that may be taken apart is like. -/
theorem checkAuthority_eq_ok_iff (s : List Char) :
    checkAuthority s = .ok () ↔
      ('[' ∈ s ↔ ']' ∈ s) ∧
      ('[' ∈ s → bracketsFit (cutLast '@' s).2 = true ∧
        checkHost (Authority.read s).host = .ok ()) ∧
      ∀ c ∈ s, hidesDelimiter c = false := by
  have hhides : s.any hidesDelimiter = false ↔ ∀ c ∈ s, hidesDelimiter c = false := by
    simp
  have hopen : s.contains '[' = decide ('[' ∈ s) := by simp
  have hclose : s.contains ']' = decide (']' ∈ s) := by simp
  have hhost : (Authority.read s).host = (readPlace (cutLast '@' s).2).1 := rfl
  rw [← hhides, hhost, checkAuthority, hopen, hclose]
  -- every test passes or ends the check
  by_cases h1 : '[' ∈ s <;> by_cases h2 : ']' ∈ s <;> cases s.any hidesDelimiter <;>
    cases bracketsFit (cutLast '@' s).2 <;>
    cases checkHost (readPlace (cutLast '@' s).2).1 <;>
    simp [h1, h2, throw, throwThe, MonadExceptOf.throw, Bind.bind, Except.bind, Pure.pure,
      Except.pure]

/-! ### Hosts in authorities with brackets -/

/-- A host with brackets is an address of a later version or of version 6. -/
theorem isLater_or_isVersion6_of_checkHost {host : List Char} (h : checkHost host = .ok ()) :
    IpAddress.isLater host = true ∨ IpAddress.isVersion6 host = true := by
  unfold checkHost at h
  split at h
  · split at h
    · exact .inl ‹_›
    · cases h
  · split at h
    · cases h
    · split at h
      · exact .inr ‹_›
      · cases h

/-- The first piece of a text that does not begin with the separator begins as the text does. -/
theorem exists_pieces_cons {c d : Char} (h : d ≠ c) (s : List Char) :
    ∃ p more, pieces c (d :: s) = (d :: p) :: more := by
  rw [pieces, if_neg h]
  split
  · exact ⟨_, _, rfl⟩
  · exact ⟨_, _, rfl⟩

/-- Nothing that begins with a bracket is a group, or ends an address of version 6. -/
theorem countGroups?_bracket (final : Bool) (s : List Char) :
    IpAddress.countGroups? final (pieces ':' ('[' :: s)) = none := by
  have hgroup (p : List Char) : IpAddress.isGroup ('[' :: p) = false := by
    have hdigit : IpAddress.isHexDigit '[' = false := rfl
    simp [IpAddress.isGroup, hdigit]
  have hversion4 (p : List Char) : IpAddress.isVersion4 ('[' :: p) = false := by
    obtain ⟨q, more, hpieces⟩ := exists_pieces_cons (c := '.') (d := '[') (by decide) p
    have hdigit : isAsciiDigit '[' = false := rfl
    simp [IpAddress.isVersion4, hpieces, IpAddress.isOctet, hdigit]
  obtain ⟨p, more, hpieces⟩ := exists_pieces_cons (c := ':') (d := '[') (by decide) s
  rw [hpieces]
  cases more with
  | nil => simp [IpAddress.countGroups?, hgroup, hversion4]
  | cons q more => simp [IpAddress.countGroups?, hgroup]

theorem hasGroups_bracket (s : List Char) : IpAddress.hasGroups ('[' :: s) = false := by
  have hgap : IpAddress.cutGap ('[' :: s) =
      ('[' :: (IpAddress.cutGap s).1, (IpAddress.cutGap s).2) := by
    rw [IpAddress.cutGap]
    exact nofun
  have hparts (t : List Char) : IpAddress.parts ('[' :: t) = pieces ':' ('[' :: t) := rfl
  rw [IpAddress.hasGroups, hgap]
  cases (IpAddress.cutGap s).2 with
  | none => simp [hparts, countGroups?_bracket]
  | some after => simp [hparts, countGroups?_bracket]

/-- An address of version 6 has a colon. -/
theorem colon_mem_of_hasGroups {s : List Char} (h : IpAddress.hasGroups s = true) : ':' ∈ s := by
  by_contra hcolon
  have hgap : IpAddress.cutGap s = (s, none) := by
    clear h
    induction s with
    | nil => rfl
    | cons c rest ih =>
      obtain ⟨hc, hrest⟩ := not_or.1 (mt List.mem_cons.2 hcolon)
      rw [IpAddress.cutGap, ih hrest]
      intro more heq
      exact absurd heq.symm hc
  -- without a colon there are two groups at most
  have hfew : ∀ n, IpAddress.countGroups? true (IpAddress.parts s) = some n → n ≤ 2 := by
    intro n hn
    rw [IpAddress.parts, pieces_of_not_mem hcolon] at hn
    split at hn
    · cases hn
      decide
    · rw [IpAddress.countGroups?] at hn
      split at hn
      · cases hn
        decide
      · split at hn
        · cases hn
          decide
        · cases hn
  rw [IpAddress.hasGroups, hgap] at h
  exact absurd (hfew 8 (of_decide_eq_true h)) (by decide)

/-- An address of version 6 has a colon and does not begin with a bracket. -/
theorem facts_of_isVersion6 {s : List Char} (h : IpAddress.isVersion6 s = true) :
    ':' ∈ s ∧ s.head? ≠ some '[' := by
  have hgroups : ∃ more, s = (cut '%' s).1 ++ more ∧ IpAddress.hasGroups (cut '%' s).1 = true := by
    unfold IpAddress.isVersion6 at h
    by_cases hpercent : '%' ∈ s
    · obtain ⟨groups, zone, hs, -, hcut⟩ := cut_of_mem hpercent
      rw [hcut] at h ⊢
      simp only [Bool.and_eq_true] at h
      exact ⟨'%' :: zone, hs, h.1.1⟩
    · rw [cut_of_not_mem hpercent] at h ⊢
      exact ⟨[], (List.append_nil s).symm, h⟩
  obtain ⟨more, hs, hgroups⟩ := hgroups
  generalize (cut '%' s).1 = groups at hs hgroups
  rw [hs]
  refine ⟨List.mem_append_left _ (colon_mem_of_hasGroups hgroups), fun hhead => ?_⟩
  cases groups with
  | nil => cases colon_mem_of_hasGroups hgroups
  | cons c rest =>
    obtain rfl := Option.some.inj hhead
    rw [hasGroups_bracket] at hgroups
    cases hgroups

/-- How an address of a later version is made up. -/
theorem isLater_iff (s : List Char) :
    IpAddress.isLater s = true ↔
      ∃ digits c rest, s = 'v' :: (digits ++ '.' :: c :: rest) ∧ digits ≠ [] ∧
        ∀ d ∈ digits, IpAddress.isHexDigit d = true := by
  constructor
  · intro h
    unfold IpAddress.isLater at h
    split at h
    · rename_i rest
      split at h
      · rename_i first more c last htake hdrop
        refine ⟨first :: more, c, last, ?_, List.cons_ne_nil _ _, ?_⟩
        · rw [← htake, ← hdrop, List.takeWhile_append_dropWhile]
        · rw [← htake]
          exact fun d hd => List.mem_takeWhile_imp hd
      · cases h
    · cases h
  · rintro ⟨digits, c, rest, rfl, hne, hdigits⟩
    have hpoint : IpAddress.isHexDigit '.' = false := rfl
    have htake : (digits ++ '.' :: c :: rest).takeWhile IpAddress.isHexDigit = digits := by
      simp [List.takeWhile_append_of_pos hdigits, hpoint]
    have hdrop : (digits ++ '.' :: c :: rest).dropWhile IpAddress.isHexDigit = '.' :: c :: rest := by
      simp [List.dropWhile_append_of_pos hdigits, hpoint]
    rw [IpAddress.isLater, htake, hdrop]
    obtain ⟨d, more, rfl⟩ := List.exists_cons_of_ne_nil hne
    rfl

/-- A hexadecimal digit is one in lower case. -/
theorem lowerChar_of_isHexDigit {d : Char} (h : IpAddress.isHexDigit d = true) :
    d.toNat ≠ 0x3A3 ∧ ∃ e, lowerChar d = [e] ∧ IpAddress.isHexDigit e = true := by
  have hascii : d.toNat < 0x80 := by
    simp only [IpAddress.isHexDigit, Percent.hexValue?, Bool.and_eq_true, decide_eq_true_eq,
      Char.le_def, UInt32.le_iff_toNat_le] at h
    have hd : d.val.toNat = d.toNat := rfl
    have h9 : '9'.val.toNat = 0x39 := rfl
    have hf : 'f'.val.toNat = 0x66 := rfl
    have hF : 'F'.val.toNat = 0x46 := rfl
    split at h
    · omega
    · split at h
      · omega
      · split at h
        · omega
        · cases h
  have hall : ∀ n : Fin 0x80, IpAddress.isHexDigit (Char.ofNat n) = true →
      (lowerChar (Char.ofNat n)).all IpAddress.isHexDigit = true ∧
        (lowerChar (Char.ofNat n)).length = 1 := by decide +kernel
  obtain ⟨hdigits, hlength⟩ := hall ⟨d.toNat, hascii⟩ (by rwa [Char.ofNat_toNat])
  rw [Char.ofNat_toNat] at hdigits hlength
  obtain ⟨e, he⟩ := List.length_eq_one_iff.1 hlength
  rw [he, List.all_cons, List.all_nil, Bool.and_true] at hdigits
  exact ⟨by omega, e, he, hdigits⟩

theorem lowerAfter_digits {digits : List Char}
    (h : ∀ d ∈ digits, IpAddress.isHexDigit d = true) (before more : List Char) :
    ∃ digits' before', lowerAfter before (digits ++ more) = digits' ++ lowerAfter before' more ∧
      (digits' = [] ↔ digits = []) ∧ ∀ d ∈ digits', IpAddress.isHexDigit d = true := by
  induction digits generalizing before with
  | nil => exact ⟨[], before, rfl, Iff.rfl, h⟩
  | cons d rest ih =>
    obtain ⟨hd, hrest⟩ := List.forall_mem_cons.1 h
    obtain ⟨hsigma, e, he, hdigit⟩ := lowerChar_of_isHexDigit hd
    obtain ⟨rest', before', hlower, -, hrest'⟩ := ih hrest (d :: before)
    refine ⟨e :: rest', before', ?_, by simp, List.forall_mem_cons.2 ⟨hdigit, hrest'⟩⟩
    rw [List.cons_append, lowerAfter, if_neg hsigma, he, hlower]
    rfl

/-- An address of a later version is one in lower case. -/
theorem isLater_lowerHost {host : List Char} (h : IpAddress.isLater host = true) :
    IpAddress.isLater (lowerHost host) = true := by
  obtain ⟨digits, c, rest, rfl, hne, hdigits⟩ := (isLater_iff host).1 h
  have hstart (more : List Char) : ∃ digits' before',
      lowerAfter [] ('v' :: (digits ++ '.' :: more)) =
        'v' :: (digits' ++ '.' :: lowerAfter before' more) ∧
      digits' ≠ [] ∧ ∀ d ∈ digits', IpAddress.isHexDigit d = true := by
    obtain ⟨digits', before', hlower, hnil, hdigits'⟩ :=
      lowerAfter_digits hdigits ['v'] ('.' :: more)
    refine ⟨digits', '.' :: before', ?_, mt hnil.1 hne, hdigits'⟩
    have hv : lowerAfter [] ('v' :: (digits ++ '.' :: more)) =
        'v' :: lowerAfter ['v'] (digits ++ '.' :: more) := rfl
    rw [hv, hlower]
    rfl
  rw [isLater_iff]
  by_cases hpercent : '%' ∈ c :: rest
  · obtain ⟨name, zone, hname, hnotin⟩ := List.eq_append_cons_of_mem hpercent
    have hcut : '%' ∉ 'v' :: (digits ++ '.' :: name) := by
      have hdigit : '%' ∉ digits := fun hmem => absurd (hdigits _ hmem) (by decide)
      simp [hdigit, hnotin]
    have hsplit : 'v' :: (digits ++ '.' :: c :: rest) =
        ('v' :: (digits ++ '.' :: name)) ++ '%' :: zone := by
      rw [hname]
      simp
    obtain ⟨digits', before', hlower, hne', hdigits'⟩ := hstart name
    have hmore : lowerAfter before' name ++ '%' :: zone ≠ [] := by simp
    obtain ⟨d, more, hd⟩ := List.exists_cons_of_ne_nil hmore
    refine ⟨digits', d, more, ?_, hne', hdigits'⟩
    rw [hsplit, lowerHost_append hcut, hlower, ← hd]
    simp
  · have hcut : '%' ∉ 'v' :: (digits ++ '.' :: c :: rest) := by
      have hdigit : '%' ∉ digits := fun hmem => absurd (hdigits _ hmem) (by decide)
      simpa [hdigit] using hpercent
    obtain ⟨digits', before', hlower, hne', hdigits'⟩ := hstart (c :: rest)
    obtain ⟨d, more, hd⟩ :=
      List.exists_cons_of_ne_nil (lowerAfter_ne_nil (List.cons_ne_nil c rest) before')
    refine ⟨digits', d, more, ?_, hne', hdigits'⟩
    rw [lowerHost_of_not_mem hcut, hlower, hd]

/-- A host keeps in lower case what it must have in an authority with brackets. -/
theorem lowerHost_of_checkHost {host : List Char} (h : checkHost host = .ok ()) :
    (IpAddress.isLater (lowerHost host) = true ∨ ':' ∈ lowerHost host) ∧
      (lowerHost host).head? ≠ some '[' := by
  have hcolon : IsLowered ':' := by decide
  rcases isLater_or_isVersion6_of_checkHost h with hlater | hversion6
  · refine ⟨.inl (isLater_lowerHost hlater), fun hhead => ?_⟩
    obtain ⟨digits, c, rest, rfl, -, -⟩ := (isLater_iff host).1 hlater
    cases head?_of_head?_lowerHost (by decide) hhead
  · obtain ⟨hmem, hfirst⟩ := facts_of_isVersion6 hversion6
    exact ⟨.inr (mem_lowerHost hcolon hmem), fun hhead =>
      hfirst (head?_of_head?_lowerHost (by decide) hhead)⟩

/-! ### Addresses that were read -/

/-- The characters of the user name. -/
def userChars (d : Dsn) : List Char :=
  (d.username.getD "").toList

/-- The characters of the host. -/
def hostChars (d : Dsn) : List Char :=
  (d.host.getD "").toList

/-- A character that may stand in an authority. -/
def MayStand (c : Char) : Prop :=
  endsAuthority c = false ∧ isDropped c = false ∧ hidesDelimiter c = false

/-- An address as it may be read. -/
structure Proper (d : Dsn) : Prop where
  scheme : d.scheme = "" ∨ IsLowerScheme d.scheme.toList
  username : ∀ c ∈ d.userChars, MayStand c ∧ c ≠ ':'
  password : d.username = none → d.password = none
  host : ∀ c ∈ d.hostChars, MayStand c ∧ c ≠ '@'
  host_ne : d.host ≠ some ""
  host_lower : lowerHost d.hostChars = d.hostChars
  host_bracket : '[' ∈ d.hostChars → d.hostChars.head? ≠ some '['
  user_bracket : '[' ∈ d.userChars →
    IpAddress.isLater d.hostChars = true ∨ ':' ∈ d.hostChars
  port : ∀ n, d.port = some n → n ≤ 65535
  path : ∀ c ∈ d.path.toList, isDropped c = false ∧ c ≠ '?' ∧ c ≠ '#'
  parameters : parameterSchemes.contains d.scheme = true →
    dropParameters d.path.toList = d.path.toList
  query : WellFormedQuery d.query

/-- The address that an authority and what follows it make. -/
def assemble (scheme authority rest : List Char) (port : Option Nat) : Dsn where
  scheme := String.ofList scheme
  username := (Authority.read authority).username.map String.ofList
  password := (Authority.read authority).password.map String.ofList
  host := if (Authority.read authority).host.isEmpty then none
    else some (String.ofList (lowerHost (Authority.read authority).host))
  port := port
  path := String.ofList
    (if parameterSchemes.contains (String.ofList scheme) then dropParameters (cutQuery rest).1
      else (cutQuery rest).1)
  query := readQuery (cutQuery rest).2

/-- An address is read exactly if its authority and its port pass. -/
theorem ofParts_eq_ok_iff {scheme authority rest : List Char} {d : Dsn} :
    ofParts scheme authority rest = .ok d ↔
      checkAuthority authority = .ok () ∧
        ∃ port, readPort (Authority.read authority).port = .ok port ∧
          d = assemble scheme authority rest port := by
  have hparts : ofParts scheme authority rest = (checkAuthority authority).bind fun _ =>
      (readPort (Authority.read authority).port).bind fun port =>
        .ok (assemble scheme authority rest port) := rfl
  rw [hparts]
  cases checkAuthority authority with
  | error e => simp [Except.bind]
  | ok u =>
    cases readPort (Authority.read authority).port with
    | error e => simp [Except.bind]
    | ok port => simpa [Except.bind] using eq_comm

theorem le_of_readPort {port : List Char} {n : Nat} (h : readPort port = .ok (some n)) :
    n ≤ 65535 := by
  unfold readPort at h
  split at h
  · cases h
  · split at h
    · cases h
    · split at h
      · cases h
      · dsimp only at h
        split at h
        · cases h
          assumption
        · cases h

section assemble

variable {scheme authority rest : List Char} {port : Option Nat}

theorem userChars_assemble :
    (assemble scheme authority rest port).userChars =
      (Authority.read authority).username.getD [] := by
  unfold userChars assemble
  cases (Authority.read authority).username <;> simp

theorem hostChars_assemble :
    (assemble scheme authority rest port).hostChars = lowerHost (Authority.read authority).host := by
  unfold hostChars assemble
  by_cases h : (Authority.read authority).host = [] <;> simp [h, lowerHost, cut, lowerAfter]

theorem path_assemble :
    (assemble scheme authority rest port).path.toList =
      if parameterSchemes.contains (String.ofList scheme) then dropParameters (cutQuery rest).1
      else (cutQuery rest).1 :=
  String.toList_ofList

/-- The path of an address is a start of what follows the authority. -/
theorem path_assemble_start :
    (assemble scheme authority rest port).path.toList <+: (cutQuery rest).1 := by
  rw [path_assemble]
  split
  · exact dropParameters_start _
  · exact List.prefix_rfl

end assemble

/-- No delimiter comes from lower case. -/
theorem mayStand_of_isNewLower {c : Char} (h : IsNewLower c) : MayStand c ∧ c ≠ '@' := by
  have hascii := h.lt_toNat
  have hne : ∀ d : Char, d.toNat ≤ 0x60 → c ≠ d := by
    rintro d hd rfl
    omega
  refine ⟨⟨?_, ?_, h.hidesDelimiter_eq_false⟩, hne _ (by decide)⟩
  · simp [endsAuthority, hne '/' (by decide), hne '?' (by decide), hne '#' (by decide)]
  · simp [isDropped, hne '\t' (by decide), hne '\r' (by decide), hne '\n' (by decide)]

/-- What has been put together from cleaned parts is proper. -/
theorem proper_of_ofParts {scheme authority rest : List Char} {d : Dsn}
    (hscheme : scheme = [] ∨ IsLowerScheme scheme)
    (hauthority : ∀ c ∈ authority, endsAuthority c = false ∧ isDropped c = false)
    (hrest : ∀ c ∈ rest, isDropped c = false) (h : ofParts scheme authority rest = .ok d) :
    d.Proper := by
  obtain ⟨hcheck, port, hport, rfl⟩ := ofParts_eq_ok_iff.1 h
  obtain ⟨-, hbrackets, hhides⟩ := (checkAuthority_eq_ok_iff authority).1 hcheck
  have hstand : ∀ c ∈ authority, MayStand c := fun c hc =>
    ⟨(hauthority c hc).1, (hauthority c hc).2, hhides c hc⟩
  have hbracket (hmem : '[' ∈ authority) := lowerHost_of_checkHost (hbrackets hmem).2
  constructor
  case scheme =>
    rcases hscheme with rfl | hlower
    · exact .inl rfl
    · exact .inr (by simpa [assemble] using hlower)
  case username =>
    rw [userChars_assemble]
    intro c hc
    cases huser : (Authority.read authority).username with
    | none => simp [huser] at hc
    | some user =>
      obtain ⟨hmem, hcolon⟩ := mem_of_mem_username huser (by simpa [huser] using hc)
      exact ⟨hstand c hmem, hcolon⟩
  case password =>
    intro hnone
    have huser : (Authority.read authority).username = none := by simpa [assemble] using hnone
    simp [assemble, password_eq_none huser]
  case host =>
    rw [hostChars_assemble]
    intro c hc
    rcases isNewLower_or_mem_of_mem_lowerHost hc with hlower | hold
    · exact mayStand_of_isNewLower hlower
    · exact ⟨hstand c (mem_of_mem_host hold).1, (mem_of_mem_host hold).2⟩
  case host_ne =>
    by_cases hnil : (Authority.read authority).host = []
    · simp [assemble, hnil]
    · simp [assemble, hnil, lowerHost_ne_nil hnil]
  case host_lower =>
    rw [hostChars_assemble, lowerHost_lowerHost]
  case host_bracket =>
    rw [hostChars_assemble]
    intro hmem
    exact (hbracket (mem_of_mem_host (mem_of_mem_lowerHost (by decide) hmem)).1).2
  case user_bracket =>
    rw [hostChars_assemble, userChars_assemble]
    intro hmem
    cases huser : (Authority.read authority).username with
    | none => simp [huser] at hmem
    | some user =>
      exact (hbracket (mem_of_mem_username huser (by simpa [huser] using hmem)).1).1
  case port =>
    rintro n hn
    obtain rfl : port = some n := hn
    exact le_of_readPort hport
  case path =>
    intro c hc
    obtain ⟨hmem, hfragment, hquery⟩ :=
      mem_of_mem_cutQuery_fst (path_assemble_start.subset hc)
    exact ⟨hrest c hmem, hquery, hfragment⟩
  case parameters =>
    intro hparameters
    have hparameters : parameterSchemes.contains (String.ofList scheme) = true := hparameters
    rw [path_assemble, if_pos hparameters, dropParameters_dropParameters]
  case query => exact wellFormedQuery_readQuery _

/-- **Whatever is read is proper.** -/
theorem proper_of_read {text : String} {d : Dsn} (h : Dsn.read text = .ok d) : d.Proper := by
  rw [Dsn.read, readChars] at h
  generalize hclean : (text.toList.dropWhile isLeading).filter (fun c => !isDropped c) = clean at h
  have hkept : ∀ c ∈ clean, isDropped c = false := by
    rw [← hclean]
    exact fun c hc => by simpa using (List.mem_filter.1 hc).2
  have hrest : ∀ c ∈ (cutScheme clean).2, isDropped c = false := fun c hc =>
    hkept c (mem_of_mem_cutScheme_snd hc)
  exact proper_of_ofParts (cutScheme_fst clean)
    (fun c hc => ⟨endsAuthority_eq_false_of_mem_cutAuthority hc,
      hrest c (mem_of_mem_cutAuthority_fst hc)⟩)
    (fun c hc => hrest c (mem_of_mem_cutAuthority_snd hc)) h

end SqlDialect.Dsn
