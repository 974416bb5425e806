/-!
# Entries by index

Entries are listed in increasing order of their indexes; `insert` puts one in its place.  What
stands at an index after an insertion is the new entry at its own index (`find?_insert_self`) and
what stood there at every other one (`find?_insert_of_ne`).
-/

namespace SqlDialect

/-- Something at an index. -/
structure Indexed (α : Type) where
  index : Nat
  value : α
  deriving Repr

namespace Indexed

variable {α : Type}

/-- Puts an entry at its place among entries in order, instead of one with its index. -/
def insert (e : Indexed α) : List (Indexed α) → List (Indexed α)
  | [] => [e]
  | f :: rest =>
    if e.index < f.index then e :: f :: rest
    else if e.index = f.index then e :: rest
    else f :: insert e rest

/-- What stands first at an index. -/
def find? (i : Nat) (entries : List (Indexed α)) : Option α :=
  (entries.find? fun e => e.index = i).map Indexed.value

/-- One more than the last index; nothing without entries. -/
def width : List (Indexed α) → Nat
  | [] => 0
  | e :: rest => max (e.index + 1) (width rest)

/-- The indexes below the width at which nothing stands. -/
def gaps (entries : List (Indexed α)) : List Nat :=
  (List.range (width entries)).filter fun i => (find? i entries).isNone

/-! ### What stands at an index -/

theorem find?_cons_self (e : Indexed α) (rest : List (Indexed α)) :
    find? e.index (e :: rest) = some e.value := by
  simp [find?]

theorem find?_cons_of_ne {e : Indexed α} {i : Nat} (h : e.index ≠ i) (rest : List (Indexed α)) :
    find? i (e :: rest) = find? i rest := by
  simp [find?, h]

theorem find?_insert_self (e : Indexed α) (entries : List (Indexed α)) :
    find? e.index (insert e entries) = some e.value := by
  induction entries with
  | nil => exact find?_cons_self e []
  | cons f rest ih =>
    rw [insert]
    split
    · exact find?_cons_self e _
    · split
      · exact find?_cons_self e rest
      · rename_i hne
        rw [find?_cons_of_ne (Ne.symm hne), ih]

theorem find?_insert_of_ne {e : Indexed α} {i : Nat} (h : e.index ≠ i)
    (entries : List (Indexed α)) : find? i (insert e entries) = find? i entries := by
  induction entries with
  | nil => exact find?_cons_of_ne h []
  | cons f rest ih =>
    rw [insert]
    split
    · exact find?_cons_of_ne h _
    · split
      · rename_i heq
        rw [find?_cons_of_ne h, find?_cons_of_ne (heq ▸ h)]
      · by_cases hf : f.index = i
        · subst hf
          rw [find?_cons_self, find?_cons_self]
        · rw [find?_cons_of_ne hf, find?_cons_of_ne hf, ih]

/-- Something stands at the indexes of the entries and nowhere else. -/
theorem find?_isSome_iff {i : Nat} {entries : List (Indexed α)} :
    (find? i entries).isSome ↔ i ∈ entries.map Indexed.index := by
  simp [find?]

/-! ### The width -/

/-- Every index up to that of an entry is below the width, and no other. -/
theorem lt_width_iff {i : Nat} {entries : List (Indexed α)} :
    i < width entries ↔ ∃ j ∈ entries.map Indexed.index, i ≤ j := by
  induction entries with
  | nil => simp [width]
  | cons e rest ih =>
    have hmax : i < width (e :: rest) ↔ i ≤ e.index ∨ i < width rest := by
      rw [width]
      omega
    rw [hmax, ih]
    simp

/-- The width depends on the indexes of the entries alone, not on their order. -/
theorem width_congr {β : Type} {entries : List (Indexed α)} {others : List (Indexed β)}
    (h : ∀ i, i ∈ entries.map Indexed.index ↔ i ∈ others.map Indexed.index) :
    width entries = width others := by
  have hlt : ∀ i, i < width entries ↔ i < width others := by
    intro i
    simp only [lt_width_iff, h]
  exact Nat.le_antisymm (Nat.le_of_not_lt fun hw => Nat.lt_irrefl _ ((hlt _).1 hw))
    (Nat.le_of_not_lt fun hw => Nat.lt_irrefl _ ((hlt _).2 hw))

/-- Without gaps something stands at every index below the width. -/
theorem isSome_of_gaps_eq_nil {entries : List (Indexed α)} (h : gaps entries = []) {i : Nat}
    (hi : i < width entries) : (find? i entries).isSome := by
  have hsome := List.filter_eq_nil_iff.1 h i (List.mem_range.2 hi)
  rw [Option.isSome_iff_ne_none]
  simpa using hsome

end Indexed

end SqlDialect
