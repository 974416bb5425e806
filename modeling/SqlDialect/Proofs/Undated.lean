import SqlDialect.Proofs.Composition

/-!
# Outcomes without dates

The version that an omission names as the first one to express what is missing is a hint: neither
its message nor the log shows it.  Readings are `Alike` if they end in the same way, leave the same
notes and, where they come to the end, write the same and leave out the same, but for these
versions; then the renderings of the readings are the same without them
(`outcomeOf_undated_of_alike`).

Drafts that read alike part by part read alike as a whole (`Alike.append`, `Alike.flatMap`,
`Alike.commaSeparated`).  The parts that count are the ones that are reached: those up to the first
on which the reading ends.
-/

namespace SqlDialect

/-! ### Taking the dates away -/

/-- An omission without the version that can express what is missing. -/
def Omission.undated (o : Omission) : Omission :=
  { o with since := none }

/-- The text of an omission does not depend on that version. -/
theorem Omission.message_undated (o : Omission) : o.undated.message = o.message := rfl

/-- An outcome without such versions. -/
def Outcome.undated : Outcome → Outcome
  | .rendered sql omitted => .rendered sql (omitted.map Omission.undated)
  | .unsupported o => .unsupported o.undated
  | outcome => outcome

theorem Outcome.undated_ofDefect (d : Defect) : (ofDefect d).undated = ofDefect d := by
  obtain ⟨-, hd⟩ | ⟨-, hd⟩ := ofDefect_cases d <;> rw [hd] <;> rfl

namespace Draft

/-- The end of a reading without such versions. -/
def End.undated : End → End
  | .unsupported o => .unsupported o.undated
  | ending => ending

/-- A note without such versions. -/
def Note.undated : Note → Note
  | .omitted o => .omitted o.undated
  | note => note

theorem End.undated_eq_complete_iff (e : End) : e.undated = .complete ↔ e = .complete := by
  cases e <;> simp [End.undated]

/-! ### Readings that are alike -/

/-- Two readings end in the same way, leave the same notes, and write and leave out the same if they
come to the end, all of it without the versions of omissions. -/
structure Alike (r r' : Reading) : Prop where
  ending : r.ending.undated = r'.ending.undated
  notes : r.notes.map Note.undated = r'.notes.map Note.undated
  written : r.ending = .complete → r.segments = r'.segments ∧ r.joinable = r'.joinable ∧
    r.omitted.map Omission.undated = r'.omitted.map Omission.undated

namespace Alike

variable {lenient : Bool} {r r' q q' : Reading} {a a' b b' d d' : Draft}

theorem refl (r : Reading) : Alike r r :=
  ⟨rfl, rfl, fun _ => ⟨rfl, rfl, rfl⟩⟩

theorem complete_iff (h : Alike r r') : r.ending = .complete ↔ r'.ending = .complete := by
  rw [← End.undated_eq_complete_iff, h.ending, End.undated_eq_complete_iff]

theorem andThen_of_stopped (h : r.ending ≠ .complete) (q : Reading) : r.andThen q = r := by
  unfold Reading.andThen
  split
  · exact absurd ‹_› h
  · rfl

theorem andThen_of_complete (h : r.ending = .complete) (q : Reading) :
    r.andThen q =
      { segments := r.segments ++ q.segments
        joinable := r.joinable && q.joinable
        omitted := r.omitted ++ q.omitted
        notes := r.notes ++ q.notes
        ending := q.ending } := by
  rw [Reading.andThen, h]

/-- What follows counts only if the first reading comes to its end. -/
theorem andThen (h : Alike r r') (hq : r.ending = .complete → Alike q q') :
    Alike (r.andThen q) (r'.andThen q') := by
  by_cases hr : r.ending = .complete
  · have hq := hq hr
    obtain ⟨hsegments, hjoinable, homitted⟩ := h.written hr
    rw [andThen_of_complete hr, andThen_of_complete (h.complete_iff.1 hr)]
    refine ⟨hq.ending, ?_, fun hend => ?_⟩
    · rw [List.map_append, List.map_append, h.notes, hq.notes]
    · obtain ⟨hsegments', hjoinable', homitted'⟩ := hq.written hend
      refine ⟨?_, ?_, ?_⟩
      · rw [hsegments, hsegments']
      · rw [hjoinable, hjoinable']
      · rw [List.map_append, List.map_append, homitted, homitted']
  · rw [andThen_of_stopped hr, andThen_of_stopped (mt h.complete_iff.2 hr)]
    exact h

theorem append (h : Alike (read lenient a) (read lenient a'))
    (hb : (read lenient a).ending = .complete → Alike (read lenient b) (read lenient b')) :
    Alike (read lenient (a ++ b)) (read lenient (a' ++ b')) := by
  rw [read_append, read_append]
  exact h.andThen hb

/-- The same in front. -/
theorem append_left (a : Draft) (hb : Alike (read lenient b) (read lenient b')) :
    Alike (read lenient (a ++ b)) (read lenient (a ++ b')) :=
  (refl _).append fun _ => hb

/-- The same behind. -/
theorem append_right (h : Alike (read lenient a) (read lenient a')) (b : Draft) :
    Alike (read lenient (a ++ b)) (read lenient (a' ++ b)) :=
  h.append fun _ => refl _

/-- Omissions that differ in the version only. -/
theorem leaveOut {o o' : Omission} (h : o.undated = o'.undated) :
    Alike (read lenient [.leaveOut o]) (read lenient [.leaveOut o']) := by
  cases lenient with
  | true =>
    refine ⟨rfl, ?_, fun _ => ⟨rfl, rfl, ?_⟩⟩
    · show [Note.omitted o.undated] = [Note.omitted o'.undated]
      rw [h]
    · show [o.undated] = [o'.undated]
      rw [h]
  | false =>
    refine ⟨?_, rfl, nofun⟩
    show End.unsupported o.undated = End.unsupported o'.undated
    rw [h]

theorem ite {p : Prop} [Decidable p] (h : Alike (read lenient a) (read lenient a'))
    (hb : Alike (read lenient b) (read lenient b')) :
    Alike (read lenient (if p then a else b)) (read lenient (if p then a' else b')) := by
  split
  · exact h
  · exact hb

end Alike

/-! ### Parts in a row -/

/-- A draft that is read to its end has no text if its pieces have none. -/
theorem isEmptyText_of_complete {lenient : Bool} {d : Draft}
    (h : (read lenient d).ending = .complete) :
    isEmptyText d = ((read lenient d).joinable &&
      (read lenient d).segments.all fun s => isSilent (.emit s)) := by
  induction d with
  | nil => rfl
  | cons step rest ih =>
    rw [isEmptyText, List.all_cons]
    cases step with
    | emit s =>
      rw [← isEmptyText, ih h, Bool.and_left_comm]
      rfl
    | emitValue v => rfl
    | leaveOut o =>
      cases lenient with
      | true => exact ih h
      | false => cases h
    | reject x => cases h
    | announceDrop tables => exact ih h
    | failJoin => cases h

/-- A draft that is read to its end emits something that is no text if its pieces cannot be
joined. -/
theorem emitsValue_of_complete {lenient : Bool} {d : Draft}
    (h : (read lenient d).ending = .complete) : emitsValue d = !(read lenient d).joinable := by
  induction d with
  | nil => rfl
  | cons step rest ih =>
    cases step with
    | emit s => exact ih h
    | emitValue v => rfl
    | leaveOut o =>
      cases lenient with
      | true => exact ih h
      | false => cases h
    | reject x => cases h
    | announceDrop tables => exact ih h
    | failJoin => cases h

/-- Drafts in a row are read to their end if each of them is. -/
theorem complete_append_iff {lenient : Bool} {a b : Draft} :
    (read lenient (a ++ b)).ending = .complete ↔
      (read lenient a).ending = .complete ∧ (read lenient b).ending = .complete := by
  rw [read_append]
  by_cases h : (read lenient a).ending = .complete
  · rw [Alike.andThen_of_complete h]
    exact (and_iff_right h).symm
  · rw [Alike.andThen_of_stopped h]
    exact iff_of_false h fun hboth => h hboth.1

/-- A fragment is read to its end if its draft is and has nothing in it that is no text. -/
theorem complete_fragment_iff {lenient : Bool} {d : Draft} :
    (read lenient (fragment d)).ending = .complete ↔
      (read lenient d).ending = .complete ∧ (read lenient d).joinable = true := by
  by_cases h : (read lenient d).ending = .complete
  · rw [fragment, emitsValue_of_complete h]
    cases hjoin : (read lenient d).joinable with
    | true => simp [h]
    | false =>
      refine iff_of_false (fun hcomplete => ?_) (fun hboth => Bool.false_ne_true hboth.2)
      cases (complete_append_iff.1 hcomplete).2
  · have hread : read lenient (fragment d) = read lenient d := by
      rw [fragment]
      split
      · rw [read_append, Alike.andThen_of_stopped h]
      · rfl
    rw [hread]
    exact iff_of_false h fun hboth => h hboth.1

/-- The first of several fragments comes after a comma or none. -/
theorem exists_commaSeparated_cons (started : Bool) (d : Draft) (ds : List Draft) :
    ∃ (e : Bool) (rest : Draft),
      commaSeparated started (d :: ds) = (if e then comma else []) ++ d ++ rest := by
  rw [commaSeparated]
  split
  · exact ⟨false, _, rfl⟩
  · exact ⟨started, _, rfl⟩

/-- The items of a list up to the first at which it stops. -/
def reached {α : Type} (stops : α → Bool) : List α → List α
  | [] => []
  | x :: xs => x :: if stops x then [] else reached stops xs

theorem mem_of_mem_reached {α : Type} {stops : α → Bool} {x : α} {xs : List α}
    (h : x ∈ reached stops xs) : x ∈ xs := by
  induction xs with
  | nil => cases h
  | cons y xs ih =>
    rcases List.mem_cons.1 h with rfl | h
    · exact List.mem_cons_self
    · split at h
      · cases h
      · exact List.mem_cons_of_mem _ (ih h)

namespace Alike

variable {lenient : Bool} {d d' : Draft}

theorem isEmptyText_eq (h : Alike (read lenient d) (read lenient d'))
    (hcomplete : (read lenient d).ending = .complete) : isEmptyText d = isEmptyText d' := by
  obtain ⟨hsegments, hjoinable, -⟩ := h.written hcomplete
  rw [isEmptyText_of_complete hcomplete, isEmptyText_of_complete (h.complete_iff.1 hcomplete),
    hsegments, hjoinable]

theorem fragment (h : Alike (read lenient d) (read lenient d')) :
    Alike (read lenient (fragment d)) (read lenient (fragment d')) := by
  have hrest (a b : Draft) (e : Bool) :
      read lenient (if e then a ++ b else a) =
        (read lenient a).andThen (read lenient (if e then b else [])) := by
    rw [← read_append]
    cases e <;> simp
  rw [Draft.fragment, Draft.fragment, hrest, hrest]
  refine h.andThen fun hcomplete => ?_
  rw [emitsValue_of_complete hcomplete, emitsValue_of_complete (h.complete_iff.1 hcomplete),
    (h.written hcomplete).2.1]
  exact refl _

variable {α : Type} {xs : List α} {f f' : α → Draft} (stops : α → Bool)

/-- Drafts in a row read alike if those that are reached do. -/
theorem flatMap (hstops : ∀ x ∈ xs, stops x = true → (read lenient (f x)).ending ≠ .complete)
    (h : ∀ x ∈ reached stops xs, Alike (read lenient (f x)) (read lenient (f' x))) :
    Alike (read lenient (xs.flatMap f)) (read lenient (xs.flatMap f')) := by
  induction xs with
  | nil => exact refl _
  | cons x xs ih =>
    obtain ⟨hstop, hstops⟩ := List.forall_mem_cons.1 hstops
    obtain ⟨hx, hrest⟩ := List.forall_mem_cons.1 h
    rw [List.flatMap_cons, List.flatMap_cons]
    refine hx.append fun hcomplete => ih hstops ?_
    rw [if_neg fun hs => hstop hs hcomplete] at hrest
    exact hrest

/-- Where the reading stops, it does not matter what follows and whether a comma comes before. -/
theorem separated_of_stopped (h : Alike (read lenient d) (read lenient d'))
    (hstop : (read lenient d).ending ≠ .complete) (e e' : Bool) (rest rest' : Draft) :
    Alike (read lenient ((if e then comma else []) ++ d ++ rest))
      (read lenient ((if e' then comma else []) ++ d' ++ rest')) := by
  have hcomma (e : Bool) (d : Draft) :
      (read lenient ((if e then comma else []) ++ d)).ending = (read lenient d).ending ∧
        (read lenient ((if e then comma else []) ++ d)).notes = (read lenient d).notes := by
    cases e <;> exact ⟨rfl, rfl⟩
  have hfirst : Alike (read lenient ((if e then comma else []) ++ d))
      (read lenient ((if e' then comma else []) ++ d')) :=
    ⟨by rw [(hcomma e d).1, (hcomma e' d').1, h.ending],
      by rw [(hcomma e d).2, (hcomma e' d').2, h.notes],
      fun hcomplete => absurd ((hcomma e d).1 ▸ hcomplete) hstop⟩
  exact hfirst.append fun hcomplete => absurd ((hcomma e d).1 ▸ hcomplete) hstop

/-- So do drafts with commas between them. -/
theorem commaSeparated
    (hstops : ∀ x ∈ xs, stops x = true → (read lenient (f x)).ending ≠ .complete)
    (h : ∀ x ∈ reached stops xs, Alike (read lenient (f x)) (read lenient (f' x)))
    (started : Bool) :
    Alike (read lenient (commaSeparated started (xs.map f)))
      (read lenient (commaSeparated started (xs.map f'))) := by
  induction xs generalizing started with
  | nil => exact refl _
  | cons x xs ih =>
    obtain ⟨hstop, hstops⟩ := List.forall_mem_cons.1 hstops
    obtain ⟨hx, hrest⟩ := List.forall_mem_cons.1 h
    rw [List.map_cons, List.map_cons]
    by_cases hcomplete : (read lenient (f x)).ending = .complete
    · -- the comma is decided on by texts, which are the same
      rw [if_neg fun hs => hstop hs hcomplete] at hrest
      rw [Draft.commaSeparated, Draft.commaSeparated, ← hx.isEmptyText_eq hcomplete]
      split
      · exact hx.append fun _ => ih hstops hrest started
      · exact (append_left _ hx).append fun _ => ih hstops hrest true
    · obtain ⟨e, rest, hd⟩ := exists_commaSeparated_cons started (f x) (xs.map f)
      obtain ⟨e', rest', hd'⟩ := exists_commaSeparated_cons started (f' x) (xs.map f')
      rw [hd, hd']
      exact hx.separated_of_stopped hcomplete e e' rest rest'

end Alike

end Draft

/-! ### Renderings -/

namespace Visitor

theorem undated_outcomeOf (v : Visitor) (r : Draft.Reading) :
    (v.outcomeOf r).undated =
      match r.ending.undated with
      | .complete =>
        if r.joinable then .rendered (v.sqlOf r) (r.omitted.map Omission.undated) else .unjoinable
      | .malformed d => .ofDefect d
      | .unsupported o => .unsupported o
      | .unjoinable => .unjoinable := by
  unfold outcomeOf
  cases r.ending with
  | complete =>
    dsimp only [Draft.End.undated]
    split <;> rfl
  | malformed d => exact Outcome.undated_ofDefect d
  | _ => rfl

/-- Visitors that format alike render readings that are alike to the same, without dates. -/
theorem outcomeOf_undated_of_alike {v w : Visitor} (hstrategy : v.strategy = w.strategy)
    (hquote : v.target.engine.quote = w.target.engine.quote) {r r' : Draft.Reading}
    (h : Draft.Alike r r') : (v.outcomeOf r).undated = (w.outcomeOf r').undated := by
  rw [undated_outcomeOf, undated_outcomeOf, ← h.ending]
  split
  · obtain ⟨hsegments, hjoinable, homitted⟩ :=
      h.written ((Draft.End.undated_eq_complete_iff _).1 ‹_›)
    rw [hjoinable, homitted, sqlOf, sqlOf, hstrategy, hquote, hsegments]
  · rfl
  · rfl
  · rfl

end Visitor

end SqlDialect
