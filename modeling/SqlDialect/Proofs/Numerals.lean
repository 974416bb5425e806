import Mathlib.Data.List.TakeWhile
import Mathlib.Data.Nat.Digits.Defs
import SqlDialect.Text.Numeral

/-!
# The grammar of integer numerals

A numeral is white space, a sign, a run of digits and white space (`IsNumeral`).  The digits may be
of any script, and a single underscore may stand between two of them (`DigitRun`).  Reading accepts
the numerals, each as the integer that it writes, and nothing else (`readInteger_eq_ok_iff`).

What is read is taken apart by what trimming and splitting leave out (`exists_trimBy`,
`exists_sign`).  A numeral is read because its parts cannot be mistaken for each other: no digit is
white space, an underscore or a sign (`plain_of_digitValue?`).
-/

namespace SqlDialect.Text

/-! ### Trimming -/

/-- Trimming leaves out characters of the class only. -/
theorem exists_trimBy (p : Char → Bool) (s : List Char) :
    ∃ before after, s = before ++ trimBy p s ++ after ∧
      (∀ c ∈ before, p c = true) ∧ ∀ c ∈ after, p c = true := by
  set rest := s.dropWhile p with hrest
  refine ⟨s.takeWhile p, (rest.reverse.takeWhile p).reverse, ?_, ?_, ?_⟩
  · have hback :
        (rest.reverse.dropWhile p).reverse ++ (rest.reverse.takeWhile p).reverse = rest := by
      rw [← List.reverse_append, List.takeWhile_append_dropWhile, List.reverse_reverse]
    rw [trimBy, ← hrest, List.append_assoc, hback, hrest, List.takeWhile_append_dropWhile]
  · intro c hc
    exact List.mem_takeWhile_imp hc
  · intro c hc
    exact List.mem_takeWhile_imp (List.mem_reverse.mp hc)

/-- Nothing is trimmed from a text without characters of the class. -/
theorem dropWhile_of_forall_not {p : Char → Bool} {s : List Char} (h : ∀ c ∈ s, p c = false) :
    s.dropWhile p = s := by
  rw [List.dropWhile_eq_self_iff]
  intro hlength
  rw [h _ (List.getElem_mem hlength)]
  decide

/-- What stands between characters of the class, and holds none, is left. -/
theorem trimBy_append {p : Char → Bool} {before middle after : List Char}
    (hbefore : ∀ c ∈ before, p c = true) (hmiddle : ∀ c ∈ middle, p c = false)
    (hafter : ∀ c ∈ after, p c = true) : trimBy p (before ++ middle ++ after) = middle := by
  have hback : (after.reverse ++ middle.reverse).dropWhile p = middle.reverse := by
    rw [List.dropWhile_append_of_pos fun c hc => hafter c (List.mem_reverse.mp hc)]
    exact dropWhile_of_forall_not fun c hc => hmiddle c (List.mem_reverse.mp hc)
  rw [trimBy, List.append_assoc, List.dropWhile_append_of_pos hbefore]
  cases middle with
  | nil => rw [List.nil_append, List.dropWhile_eq_nil_iff.mpr hafter]; rfl
  | cons c rest =>
    have hc : p c = false := hmiddle c List.mem_cons_self
    rw [List.cons_append, List.dropWhile_cons_of_neg (by simp [hc]), ← List.cons_append,
      List.reverse_append, hback, List.reverse_reverse]

/-! ### Characters of a numeral -/

/-- A digit is one of the ten of its script. -/
theorem digitValue?_spec {c : Char} {d : Nat} (h : digitValue? c = some d) :
    d < 10 ∧ ∃ z ∈ digitZeros, c.toNat = z + d := by
  obtain ⟨z, hfind, hd⟩ := Option.map_eq_some_iff.mp h
  have hrange := List.find?_some hfind
  simp only [Bool.and_eq_true, decide_eq_true_eq] at hrange
  exact ⟨by omega, z, List.mem_of_find?_eq_some hfind, by omega⟩

/-- No digit is white space or one of the other characters that mean something in a numeral. -/
theorem plain_of_digitValue? {c : Char} {d : Nat} (h : digitValue? c = some d) :
    isSpace c = false ∧ c ∉ ['_', '+', '-', '.'] := by
  -- the ten digits of a script lie between two characters of white space
  have hgaps : ∀ z ∈ digitZeros, z = 0x30 ∨ (0x660 ≤ z ∧ z + 10 ≤ 0x1680) ∨
      (0x1681 ≤ z ∧ z + 10 ≤ 0x2000) ∨ 0x3001 ≤ z := by decide
  have hothers : ∀ x ∈ ['_', '+', '-', '.'], x.toNat < 0x30 ∨ x.toNat = 0x5F := by
    simp only [List.forall_mem_cons]
    exact ⟨by decide, by decide, by decide, by decide, List.forall_mem_nil _⟩
  obtain ⟨hd, z, hz, hcode⟩ := digitValue?_spec h
  have hgap := hgaps z hz
  constructor
  · simp only [isSpace, hcode, Bool.or_eq_false_iff, Bool.and_eq_false_iff,
      decide_eq_false_iff_not, beq_eq_false_iff_ne]
    omega
  · intro hc
    have hother := hothers c hc
    omega

/-- A mark of a numeral is an underscore or a digit. -/
theorem isNumeralMark_iff {c : Char} :
    isNumeralMark c = true ↔ c = '_' ∨ ∃ d, digitValue? c = some d := by
  rw [isNumeralMark, Bool.or_eq_true, decide_eq_true_eq, Option.isSome_iff_exists]

/-- An ASCII digit has the value of its place after zero. -/
theorem digitValue?_of_isDigit {c : Char} (h : c.isDigit = true) :
    digitValue? c = some (c.toNat - 0x30) := by
  have hrange : 0x30 ≤ c.toNat ∧ c.toNat < 0x30 + 10 := by
    have hbounds : 0x30 ≤ c.toNat ∧ c.toNat ≤ 0x39 := Char.isDigit_iff_toNat.mp h
    omega
  rw [digitValue?, digitZeros, List.find?_cons_of_pos (by simpa using hrange)]
  rfl

theorem isNumeralSpace_eq_false_of_isSpace {c : Char} (h : isSpace c = false) :
    isNumeralSpace c = false := by
  rw [isNumeralSpace, h, Bool.false_and]

/-! ### Runs of digits -/

/-- Digits of any script and their values; a single underscore may stand between two digits. -/
inductive DigitRun : List Char → List Nat → Prop
  | single {c : Char} {d : Nat} (h : digitValue? c = some d) : DigitRun [c] [d]
  | cons {c : Char} {d : Nat} {s : List Char} {ds : List Nat} (h : digitValue? c = some d)
      (hrest : DigitRun s ds) : DigitRun (c :: s) (d :: ds)
  | underscore {c : Char} {d : Nat} {s : List Char} {ds : List Nat} (h : digitValue? c = some d)
      (hrest : DigitRun s ds) : DigitRun (c :: '_' :: s) (d :: ds)

namespace DigitRun

theorem exists_head {s : List Char} {ds : List Nat} (h : DigitRun s ds) :
    ∃ c d rest, s = c :: rest ∧ digitValue? c = some d := by
  cases h with
  | single h => exact ⟨_, _, _, rfl, h⟩
  | cons h _ => exact ⟨_, _, _, rfl, h⟩
  | underscore h _ => exact ⟨_, _, _, rfl, h⟩

theorem isNumeralMark_of_mem {s : List Char} {ds : List Nat} (h : DigitRun s ds) :
    ∀ c ∈ s, isNumeralMark c = true := by
  induction h with
  | single h => simpa using isNumeralMark_iff.mpr (.inr ⟨_, h⟩)
  | cons h _ ih => exact List.forall_mem_cons.mpr ⟨isNumeralMark_iff.mpr (.inr ⟨_, h⟩), ih⟩
  | underscore h _ ih =>
    refine List.forall_mem_cons.mpr ⟨isNumeralMark_iff.mpr (.inr ⟨_, h⟩), ?_⟩
    exact List.forall_mem_cons.mpr ⟨by decide, ih⟩

theorem isSpace_of_mem {s : List Char} {ds : List Nat} (h : DigitRun s ds) :
    ∀ c ∈ s, isSpace c = false := by
  intro c hc
  rcases isNumeralMark_iff.mp (h.isNumeralMark_of_mem c hc) with rfl | ⟨d, hd⟩
  · decide
  · exact (plain_of_digitValue? hd).1

theorem lt_ten_of_mem {s : List Char} {ds : List Nat} (h : DigitRun s ds) :
    ∀ d ∈ ds, d < 10 := by
  induction h with
  | single h => simpa using (digitValue?_spec h).1
  | cons h _ ih => exact List.forall_mem_cons.mpr ⟨(digitValue?_spec h).1, ih⟩
  | underscore h _ ih => exact List.forall_mem_cons.mpr ⟨(digitValue?_spec h).1, ih⟩

theorem marks {s : List Char} {ds : List Nat} (h : DigitRun s ds) :
    underscoresInside (s.map digitValue?) = true ∧ (s.map digitValue?).filterMap id = ds := by
  induction h with
  | single h => simp [h, underscoresInside]
  | cons h hrest ih =>
    obtain ⟨c', d', rest, rfl, h'⟩ := hrest.exists_head
    rw [List.map_cons, h'] at ih
    simpa [h, h', underscoresInside] using ih
  | underscore h hrest ih =>
    obtain ⟨c', d', rest, rfl, h'⟩ := hrest.exists_head
    have hunderscore : digitValue? '_' = none := by decide
    simpa [h, hunderscore, underscoresInside] using ih

/-- Marks with every underscore between two digits are a run. -/
theorem of_marks : ∀ {s : List Char}, s ≠ [] → (∀ c ∈ s, isNumeralMark c = true) →
    underscoresInside (s.map digitValue?) = true →
      DigitRun s ((s.map digitValue?).filterMap id)
  | [], hne, _, _ => absurd rfl hne
  | [c], _, _, hinside => by
    cases hc : digitValue? c with
    | none => simp [hc, underscoresInside] at hinside
    | some d => simpa [hc] using DigitRun.single hc
  | c :: c' :: rest, _, hmarks, hinside => by
    obtain ⟨-, hmark', hrest⟩ : _ ∧ _ ∧ _ := by simpa only [List.forall_mem_cons] using hmarks
    cases hc : digitValue? c with
    | none => simp [hc, underscoresInside] at hinside
    | some d =>
      cases hc' : digitValue? c' with
      | some d' =>
        have hinside' : underscoresInside ((c' :: rest).map digitValue?) = true := by
          simpa [hc, hc', underscoresInside] using hinside
        have hrun := of_marks (List.cons_ne_nil c' rest)
          (List.forall_mem_cons.mpr ⟨hmark', hrest⟩) hinside'
        simpa [hc] using DigitRun.cons hc hrun
      | none =>
        -- a mark that is no digit is the underscore, and digits go on behind it
        have hunderscore : c' = '_' := by
          rcases isNumeralMark_iff.mp hmark' with h | ⟨d', h⟩
          · exact h
          · rw [hc'] at h
            cases h
        simp only [List.map_cons, hc, hc', underscoresInside, Bool.and_eq_true,
          Bool.not_eq_true', List.isEmpty_eq_false_iff, ne_eq, List.map_eq_nil_iff] at hinside
        have hrun := of_marks hinside.1 hrest hinside.2
        subst hunderscore
        simpa [hc, hc'] using DigitRun.underscore hc hrun

theorem of_isDigit {s : List Char} (hne : s ≠ []) (h : ∀ c ∈ s, c.isDigit = true) :
    DigitRun s (s.map fun c => c.toNat - 0x30) := by
  induction s with
  | nil => exact absurd rfl hne
  | cons c rest ih =>
    obtain ⟨hc, hrest⟩ := List.forall_mem_cons.mp h
    have hdigit := digitValue?_of_isDigit hc
    cases rest with
    | nil => exact .single hdigit
    | cons c' rest => exact .cons hdigit (ih (List.cons_ne_nil c' rest) hrest)

end DigitRun

/-! ### The number that digits write -/

theorem ofDigits_eq (ds : List Nat) : ofDigits ds = Nat.ofDigits 10 ds.reverse := by
  rw [Nat.ofDigits_eq_foldr, List.foldr_reverse, ofDigits]
  simp only [Nat.add_comm]
  rfl

theorem DigitRun.value_lt {s : List Char} {ds : List Nat} (h : DigitRun s ds) :
    Nat.ofDigits 10 ds.reverse < 10 ^ ds.length := by
  have hdigits : ∀ d ∈ ds.reverse, d < 10 := fun d hd => h.lt_ten_of_mem d (List.mem_reverse.mp hd)
  simpa using Nat.ofDigits_lt_base_pow_length (by decide : 1 < 10) hdigits

/-! ### Signs -/

/-- The signs that may stand before the digits of a numeral; `true` is minus. -/
inductive IsSign : List Char → Bool → Prop
  | none : IsSign [] false
  | plus : IsSign ['+'] false
  | minus : IsSign ['-'] true

theorem IsSign.isNumeralSpace_of_mem {sign : List Char} {negative : Bool}
    (h : IsSign sign negative) : ∀ c ∈ sign, isNumeralSpace c = false := by
  cases h with
  | none => exact List.forall_mem_nil _
  | plus => exact List.forall_mem_singleton.mpr (by decide)
  | minus => exact List.forall_mem_singleton.mpr (by decide)

/-- What is split off is a sign. -/
theorem exists_sign {s body : List Char} {negative : Bool}
    (h : splitSign s = (negative, body)) : ∃ sign, IsSign sign negative ∧ s = sign ++ body := by
  unfold splitSign at h
  split at h
  · obtain ⟨rfl, rfl⟩ := Prod.mk.inj h
    exact ⟨_, .minus, rfl⟩
  · obtain ⟨rfl, rfl⟩ := Prod.mk.inj h
    exact ⟨_, .plus, rfl⟩
  · obtain ⟨rfl, rfl⟩ := Prod.mk.inj h
    exact ⟨_, .none, rfl⟩

/-- A sign before a run of digits is the one that is split off. -/
theorem splitSign_append {sign run : List Char} {negative : Bool} {ds : List Nat}
    (hsign : IsSign sign negative) (hrun : DigitRun run ds) :
    splitSign (sign ++ run) = (negative, run) := by
  cases hsign with
  | plus => rfl
  | minus => rfl
  | none =>
    obtain ⟨c, d, rest, rfl, hc⟩ := hrun.exists_head
    have hplain := (plain_of_digitValue? hc).2
    rw [List.nil_append]
    unfold splitSign
    split
    · rename_i heq
      obtain ⟨rfl, -⟩ := List.cons.inj heq
      exact absurd (by decide) hplain
    · rename_i heq
      obtain ⟨rfl, -⟩ := List.cons.inj heq
      exact absurd (by decide) hplain
    · rfl

/-! ### Numerals -/

/-- A numeral of an integer: white space, a sign, at most `maxDigits` digits, and white space. -/
inductive IsNumeral (s : List Char) (z : Int) : Prop
  | intro {before sign run after : List Char} {negative : Bool} {digits : List Nat}
      (hs : s = before ++ (sign ++ run) ++ after)
      (hbefore : ∀ c ∈ before, isNumeralSpace c = true) (hsign : IsSign sign negative)
      (hrun : DigitRun run digits) (hlength : digits.length ≤ maxDigits)
      (hafter : ∀ c ∈ after, isNumeralSpace c = true)
      (hz : z = if negative then -((Nat.ofDigits 10 digits.reverse : Nat) : Int)
        else ((Nat.ofDigits 10 digits.reverse : Nat) : Int))

/-- After the sign the reader takes a run of digits with nothing behind it. -/
theorem readInteger_eq_ok_iff_of_splitSign {s body : List Char} {negative : Bool} {z : Int}
    (h : splitSign (trimNumeral s) = (negative, body)) :
    readInteger s = .ok z ↔
      ∃ digits, DigitRun body digits ∧ digits.length ≤ maxDigits ∧
        z = if negative then -(ofDigits digits : Int) else (ofDigits digits : Int) := by
  rw [readInteger, h]
  dsimp only
  constructor
  · intro hread
    -- none of the three refusals is what was read
    split at hread
    · cases hread
    rename_i hinside
    split at hread
    · cases hread
    rename_i hlength
    split at hread
    · cases hread
    rename_i hends
    simp only [Bool.or_eq_true, Bool.not_eq_true', List.isEmpty_iff, List.isEmpty_eq_false_iff,
      not_or, not_not] at hends
    obtain ⟨hdigits, hrest⟩ := hends
    have hmarks : ∀ c ∈ body, isNumeralMark c = true := List.dropWhile_eq_nil_iff.mp hrest
    rw [List.takeWhile_eq_self_iff.mpr hmarks] at hinside hlength hdigits hread
    rw [Bool.not_eq_true', Bool.not_eq_false] at hinside
    have hne : body ≠ [] := by
      rintro rfl
      exact hdigits rfl
    exact ⟨_, .of_marks hne hmarks hinside, Nat.not_lt.mp hlength, (Except.ok.inj hread).symm⟩
  · rintro ⟨digits, hrun, hlength, rfl⟩
    have htake : body.takeWhile isNumeralMark = body :=
      List.takeWhile_eq_self_iff.mpr hrun.isNumeralMark_of_mem
    have hdrop : body.dropWhile isNumeralMark = [] :=
      List.dropWhile_eq_nil_iff.mpr hrun.isNumeralMark_of_mem
    obtain ⟨hinside, hdigits⟩ := hrun.marks
    have hne : digits.isEmpty = false := by
      cases hrun <;> rfl
    rw [htake, hdrop, hdigits, hinside, hne, if_neg (by decide), if_neg (Nat.not_lt.mpr hlength),
      if_neg (by decide)]

/-- **The reader accepts the numerals, each as the integer that it writes.** -/
theorem readInteger_eq_ok_iff {s : List Char} {z : Int} :
    readInteger s = .ok z ↔ IsNumeral s z := by
  constructor
  · intro hread
    obtain ⟨before, after, hs, hbefore, hafter⟩ := exists_trimBy isNumeralSpace s
    rcases hsplit : splitSign (trimNumeral s) with ⟨negative, body⟩
    obtain ⟨sign, hsign, htrim⟩ := exists_sign hsplit
    obtain ⟨digits, hrun, hlength, hz⟩ := (readInteger_eq_ok_iff_of_splitSign hsplit).mp hread
    rw [trimNumeral] at htrim
    rw [htrim] at hs
    exact .intro hs hbefore hsign hrun hlength hafter (by rw [hz, ofDigits_eq])
  · rintro (@⟨before, sign, run, after, negative, digits, hs, hbefore, hsign, hrun, hlength,
      hafter, hz⟩)
    have hmiddle : ∀ c ∈ sign ++ run, isNumeralSpace c = false := by
      intro c hc
      rcases List.mem_append.mp hc with hc | hc
      · exact hsign.isNumeralSpace_of_mem c hc
      · exact isNumeralSpace_eq_false_of_isSpace (hrun.isSpace_of_mem c hc)
    have htrim : trimNumeral s = sign ++ run := by
      rw [hs]
      exact trimBy_append hbefore hmiddle hafter
    have hsplit : splitSign (trimNumeral s) = (negative, run) := by
      rw [htrim]
      exact splitSign_append hsign hrun
    exact (readInteger_eq_ok_iff_of_splitSign hsplit).mpr
      ⟨digits, hrun, hlength, by rw [hz, ofDigits_eq]⟩

/-- The digits of a numeral bound its value. -/
theorem IsNumeral.natAbs_lt {s : List Char} {z : Int} (h : IsNumeral s z) :
    z.natAbs < 10 ^ maxDigits := by
  obtain ⟨-, -, -, hrun, hlength, -, hz⟩ := h
  have hvalue := hrun.value_lt.trans_le (Nat.pow_le_pow_right (by decide : 0 < 10) hlength)
  rw [hz]
  split
  · rwa [Int.natAbs_neg, Int.natAbs_natCast]
  · rwa [Int.natAbs_natCast]

/-! ### Numbers in decimal -/

theorem isDigit_of_mem_repr {n : Nat} {c : Char} (h : c ∈ (Nat.repr n).toList) :
    c.isDigit = true := by
  rw [Nat.toList_repr] at h
  exact Nat.isDigit_of_mem_toDigits (by decide) (by decide) h

theorem toList_repr_ne_nil (n : Nat) : (Nat.repr n).toList ≠ [] := by
  rw [Nat.toList_repr]
  exact Nat.toDigits_ne_nil

theorem ofDigits_repr (n : Nat) :
    ofDigits ((Nat.repr n).toList.map fun c => c.toNat - 0x30) = n := by
  rw [ofDigits, List.foldl_map, Nat.toList_repr]
  exact Nat.ofDigitChars_ten_toDigits

/-- A number that is written in decimal is a numeral again, if it does not take too many digits. -/
theorem isNumeral_repr {n : Nat} (h : n < 10 ^ maxDigits) :
    IsNumeral (Nat.repr n).toList n := by
  have hrun := DigitRun.of_isDigit (toList_repr_ne_nil n) fun c hc => isDigit_of_mem_repr hc
  have hlength : ((Nat.repr n).toList.map fun c => c.toNat - 0x30).length ≤ maxDigits := by
    rw [List.length_map, Nat.toList_repr]
    exact (Nat.length_toDigits_le_iff (by decide) (by decide)).mpr h
  have hwhole : (Nat.repr n).toList = [] ++ ([] ++ (Nat.repr n).toList) ++ [] := by simp
  refine .intro hwhole (List.forall_mem_nil _) .none hrun hlength (List.forall_mem_nil _) ?_
  rw [← ofDigits_eq, ofDigits_repr]
  rfl

end SqlDialect.Text
