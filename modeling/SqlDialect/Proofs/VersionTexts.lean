import Mathlib.Data.List.Forall2
import SqlDialect.Proofs.Numerals
import SqlDialect.Proofs.QueryCoding
import SqlDialect.Version

/-!
# Versions and their texts

A text is a version if, without the white space at its ends, each piece between its dots is a
numeral of a number that is not negative; the components are these numbers in order
(`parse_eq_ok_iff`).  So a version has many spellings, with signs, white space, underscores, leading
zeros and digits of other scripts, but only one that is written: what is written is read as the
same components (`parse_text`), because no component that was read takes more than `maxDigits`
digits (`bounds_of_parse`).  `parse_laws` puts these facts together.
-/

namespace SqlDialect.Version

open Text

/-! ### Reading piece by piece -/

/-- Reading every item is reading item by item. -/
theorem mapM_eq_some_iff {α β : Type} {f : α → Option β} {xs : List α} {ys : List β} :
    xs.mapM f = some ys ↔ List.Forall₂ (fun x y => f x = some y) xs ys := by
  induction xs generalizing ys with
  | nil => cases ys <;> simp
  | cons x xs ih =>
    rw [List.mapM_cons]
    cases ys with
    | nil => simp [Option.bind_eq_some_iff]
    | cons y ys => simp [Option.bind_eq_some_iff, ← ih]

/-- Items that are related to something each are related to a list. -/
theorem exists_forall₂_iff {α β : Type} {R : α → β → Prop} {xs : List α} :
    (∃ ys, List.Forall₂ R xs ys) ↔ ∀ x ∈ xs, ∃ y, R x y := by
  induction xs with
  | nil => simp
  | cons x xs ih => simp [List.forall₂_cons_left_iff, ← ih]

/-- The pieces between the dots of a text, without the white space at the ends of the text. -/
def partTexts (s : String) : List (List Char) :=
  (strip s).toList.splitOn '.'

/-- A piece that stands for a component: a numeral of a number that is not negative. -/
def IsPart (piece : List Char) (n : Nat) : Prop :=
  IsNumeral piece n

theorem readPart?_eq_some_iff {piece : List Char} {n : Nat} :
    readPart? piece = some n ↔ IsPart piece n := by
  rw [IsPart, ← readInteger_eq_ok_iff, readPart?]
  split
  · rename_i m hread
    rw [hread]
    simp
  · rename_i hother
    exact iff_of_false nofun (hother n)

/-- A piece stands for a component exactly if it is a numeral of a number that is not negative. -/
theorem exists_isPart_iff {piece : List Char} :
    (∃ n, IsPart piece n) ↔ ∃ z, IsNumeral piece z ∧ 0 ≤ z := by
  constructor
  · rintro ⟨n, hn⟩
    exact ⟨n, hn, Int.natCast_nonneg n⟩
  · rintro ⟨z, hz, hnonneg⟩
    obtain ⟨n, rfl⟩ := Int.eq_ofNat_of_zero_le hnonneg
    exact ⟨n, hz⟩

/-- **What is read as a version, and as which one.** -/
theorem parse_eq_ok_iff {given : Value} {v : Version} :
    parse given = .ok v ↔
      ∃ s, given.toText? = some s ∧ List.Forall₂ IsPart (partTexts s) v.parts := by
  have hparts (s : String) : readParts? s.toList = some v.parts ↔
      List.Forall₂ IsPart (partTexts s) v.parts := by
    rw [readParts?, mapM_eq_some_iff, partTexts, strip, String.toList_ofList]
    simp only [readPart?_eq_some_iff]
  simp only [← hparts, parse]
  cases given.toText? with
  | none => exact iff_of_false nofun (by rintro ⟨s, hs, -⟩; cases hs)
  | some s =>
    obtain ⟨expected⟩ := v
    cases hread : readParts? s.toList with
    | none => exact iff_of_false (by simp [hread]) (by simp [hread])
    | some parts => simp [hread]

theorem parse_eq_ok_iff_of_text {s : String} {v : Version} :
    parse (.text s) = .ok v ↔ List.Forall₂ IsPart (partTexts s) v.parts := by
  simp [parse_eq_ok_iff, Value.toText?]

/-- A text that is no version is refused with what was given. -/
theorem parse_of_not {s : String} (h : ¬ ∃ v, parse (.text s) = .ok v) :
    parse (.text s) = .error (.invalidVersion (.text s)) := by
  unfold parse at h ⊢
  simp only [Value.toText?] at h ⊢
  cases hread : readParts? s.toList with
  | none => rfl
  | some parts => exact absurd ⟨⟨parts⟩, by rw [hread]⟩ h

/-! ### What is written -/

theorem toList_text (v : Version) :
    v.text.toList = ['.'].intercalate (v.parts.map fun n => (Nat.repr n).toList) := by
  rw [text, String.toList_intercalate, List.map_map]
  rfl

theorem isSpace_of_mem_text (v : Version) : ∀ c ∈ v.text.toList, isSpace c = false := by
  intro c hc
  rw [toList_text] at hc
  rcases mem_intercalate hc with rfl | ⟨piece, hpiece, hc⟩
  · decide
  · obtain ⟨n, -, rfl⟩ := List.mem_map.mp hpiece
    exact (plain_of_digitValue? (digitValue?_of_isDigit (isDigit_of_mem_repr hc))).1

/-- The pieces of a written version are its components in decimal. -/
theorem partTexts_text {v : Version} (hne : v.parts ≠ []) :
    partTexts v.text = v.parts.map fun n => (Nat.repr n).toList := by
  have hstrip : (strip v.text).toList = v.text.toList := by
    rw [strip, String.toList_ofList]
    have htrim := trimBy_append (List.forall_mem_nil _) (isSpace_of_mem_text v)
      (List.forall_mem_nil _)
    simpa using htrim
  -- digits hold no dots, so the dots of the text are those between the components
  have hdots : ∀ piece ∈ v.parts.map fun n => (Nat.repr n).toList, '.' ∉ piece := by
    intro piece hpiece hdot
    obtain ⟨n, -, rfl⟩ := List.mem_map.mp hpiece
    exact absurd (isDigit_of_mem_repr hdot) (by decide)
  rw [partTexts, hstrip, toList_text]
  exact List.splitOn_intercalate '.' hdots (by simpa using hne)

/-- **A written version is read again.**  It has a component, and none that takes more digits than a
numeral may have. -/
theorem parse_text {v : Version} (hne : v.parts ≠ [])
    (hlt : ∀ n ∈ v.parts, n < 10 ^ maxDigits) : parse (.text v.text) = .ok v := by
  rw [parse_eq_ok_iff_of_text, partTexts_text hne, List.forall₂_map_left_iff, List.forall₂_same]
  intro n hn
  exact isNumeral_repr (hlt n hn)

/-- A version that was read has a component, and none that takes too many digits. -/
theorem bounds_of_parse {given : Value} {v : Version} (h : parse given = .ok v) :
    v.parts ≠ [] ∧ ∀ n ∈ v.parts, n < 10 ^ maxDigits := by
  obtain ⟨s, -, hparts⟩ := parse_eq_ok_iff.mp h
  constructor
  · intro hnil
    rw [hnil, List.forall₂_nil_right_iff] at hparts
    -- also a text without dots has a piece, the whole of it
    exact List.splitOn_ne_nil _ _ hparts
  · have hbounded := hparts.flip.imp fun n piece hpart => And.intro hpart.natAbs_lt hpart
    exact ((List.forall₂_and_left _ _).mp hbounded).1

/-! ### Reading and writing -/

/-- **The texts that are read as versions, and the one that is written.**  A text is read exactly if
each piece between its dots is a numeral of a number that is not negative, and then as these
numbers in order; any other text is refused.  What is written of a version that was read is read as
the same version, and two versions that were read are written alike only if they have the same
components. -/
theorem parse_laws :
    (∀ s : String,
      ((∃ v, parse (.text s) = .ok v) ↔
        ∀ piece ∈ partTexts s, ∃ z, IsNumeral piece z ∧ 0 ≤ z) ∧
      (∀ v, parse (.text s) = .ok v ↔
        List.Forall₂ (fun piece (n : Nat) => IsNumeral piece n) (partTexts s) v.parts) ∧
      ((¬ ∀ piece ∈ partTexts s, ∃ z, IsNumeral piece z ∧ 0 ≤ z) →
        parse (.text s) = .error (.invalidVersion (.text s)))) ∧
    (∀ given v, parse given = .ok v → parse (.text v.text) = .ok v) ∧
    ∀ given given' v v', parse given = .ok v → parse given' = .ok v' →
      (v.text = v'.text ↔ v.parts = v'.parts) := by
  have haccepted (s : String) : (∃ v, parse (.text s) = .ok v) ↔
      ∀ piece ∈ partTexts s, ∃ z, IsNumeral piece z ∧ 0 ≤ z := by
    simp only [← exists_isPart_iff, ← exists_forall₂_iff]
    constructor
    · rintro ⟨v, hv⟩
      exact ⟨v.parts, parse_eq_ok_iff_of_text.mp hv⟩
    · rintro ⟨parts, hparts⟩
      exact ⟨⟨parts⟩, parse_eq_ok_iff_of_text.mpr hparts⟩
  have hwritten (given : Value) (v : Version) (h : parse given = .ok v) :
      parse (.text v.text) = .ok v := by
    obtain ⟨hne, hlt⟩ := bounds_of_parse h
    exact parse_text hne hlt
  refine ⟨?_, hwritten, ?_⟩
  · intro s
    refine ⟨haccepted s, fun v => parse_eq_ok_iff_of_text, fun hnot => ?_⟩
    exact parse_of_not (mt (haccepted s).mp hnot)
  · intro given given' v v' h h'
    constructor
    · intro htext
      -- the one text is read as either version
      have hsame := hwritten given v h
      rw [htext, hwritten given' v' h'] at hsame
      exact congrArg parts (Except.ok.inj hsame).symm
    · intro hparts
      rw [text, text, hparts]

/-- A text with signs, white space, underscores, leading zeros and digits of other scripts, and a
text with a negative piece. -/
theorem parse_laws_of_mixed_spelling :
    parse (.text " \t+1_0 .\u0660\u0662. -0\u001F") = .ok ⟨[10, 2, 0]⟩ ∧
      (∀ piece ∈ partTexts " \t+1_0 .\u0660\u0662. -0\u001F", ∃ z, IsNumeral piece z ∧ 0 ≤ z) ∧
      (⟨[10, 2, 0]⟩ : Version).text = "10.2.0" ∧
      parse (.text "10.2.0") = .ok ⟨[10, 2, 0]⟩ ∧
      (¬ ∀ piece ∈ partTexts "9.-1", ∃ z, IsNumeral piece z ∧ 0 ≤ z) ∧
      parse (.text "9.-1") = .error (.invalidVersion (.text "9.-1")) := by
  obtain ⟨hreads, hwritten, -⟩ := parse_laws
  have hparts : readParts? " \t+1_0 .\u0660\u0662. -0\u001F".toList = some [10, 2, 0] := by
    decide +kernel
  have hmixed : parse (.text " \t+1_0 .\u0660\u0662. -0\u001F") = .ok ⟨[10, 2, 0]⟩ := by
    rw [parse]
    simp only [Value.toText?, hparts]
  have hnone : readParts? "9.-1".toList = none := by decide +kernel
  have hnegative : ¬ ∀ piece ∈ partTexts "9.-1", ∃ z, IsNumeral piece z ∧ 0 ≤ z := by
    rw [← (hreads "9.-1").1, parse]
    simp only [Value.toText?, hnone]
    exact nofun
  exact ⟨hmixed, (hreads _).1.mp ⟨_, hmixed⟩, rfl, hwritten _ _ hmixed, hnegative,
    (hreads "9.-1").2.2 hnegative⟩

end SqlDialect.Version
