import SqlDialect.Proofs.ConnectionStates

/-!
# Closed connections

An adapter knows one connection.  A connect drops the one in use without closing it, and on SQLite a
connect drops a new connection whose foreign keys cannot be switched on; what is dropped is never
closed afterwards (`Custody.Kept.pairwise`), and whatever else was opened is in use, closed or lost
(`Custody.Kept.settled`).  So a close releases exactly the connections that were not dropped while
they were open (`released_iff`).
-/

namespace SqlDialect

open Adapter (Event Operation Passage sessionAfter)

/-! ### What becomes of connections -/

/-- What an adapter did with a connection. -/
inductive Custody
  /-- It was told to close, whether it did or not. -/
  | closed (connection : Nat)
  /-- The adapter let go of it without closing it. -/
  | dropped (connection : Nat)

namespace Custody

/-- The connections that an operation drops: a connect drops the one in use, or if it fails any one
that it opened. -/
def drops (s : Session) : Operation → Run Unit → List Nat
  | .connect _, r =>
    match r.result with
    | .ok _ => s.inUse?.toList
    | .error _ => r.openings
  | _, _ => []

/-- What an operation does with connections. -/
def ofRun (s : Session) (o : Operation) (r : Run Unit) : List Custody :=
  r.closings.map .closed ++ (drops s o r).map .dropped

/-- What an event does with connections. -/
def ofEvent (s : Session) : Event → List Custody
  | .operation o script => ofRun s o (o.action script s)
  | .loss _ => []

theorem drops_connect_ok {s : Session} {config : ConnectionConfig} {r : Run Unit}
    (h : r.result = .ok ()) : drops s (.connect config) r = s.inUse?.toList := by
  rw [drops, h]

theorem drops_connect_error {s : Session} {config : ConnectionConfig} {r : Run Unit}
    {e : AdapterError} (h : r.result = .error e) : drops s (.connect config) r = r.openings := by
  rw [drops, h]

theorem drops_of_needs {s : Session} {o : Operation} (h : o.needsConnection = true) (r : Run Unit) :
    drops s o r = [] := by
  cases o with
  | connect config => cases h
  | _ => rfl

/-- Nothing is closed once it was dropped. -/
def MayPrecede (a b : Custody) : Prop :=
  ∀ id, a = .dropped id → b ≠ .closed id

/-- What holds of the connections of a session and of what was done with them. -/
structure Kept (s : Session) (marks : List Custody) : Prop where
  inUse_lt : ∀ id, s.inUse? = some id → id < s.opened
  inUse_not_dropped : ∀ id, s.inUse? = some id → .dropped id ∉ marks
  dropped_lt : ∀ id, .dropped id ∈ marks → id < s.opened
  pairwise : marks.Pairwise MayPrecede
  settled : ∀ id < s.opened,
    s.inUse? = some id ∨ .dropped id ∈ marks ∨ .closed id ∈ marks ∨ s.hasLost id = true

namespace Kept

variable {s : Session} {marks : List Custody}

theorem fresh (backend : Backend) (slowAfter : Value) : Kept (.fresh backend slowAfter) [] where
  inUse_lt _ := nofun
  inUse_not_dropped _ := nofun
  dropped_lt _ := nofun
  pairwise := .nil
  settled _ := nofun

/-- The connection in use is told to close. -/
theorem close (h : Kept s marks) {id : Nat} (hid : s.inUse? = some id) :
    Kept s (marks ++ [.closed id]) where
  inUse_lt := h.inUse_lt
  inUse_not_dropped other hother := by
    simpa using h.inUse_not_dropped other hother
  dropped_lt other hother := h.dropped_lt other (by simpa using hother)
  pairwise := by
    refine List.pairwise_append.2 ⟨h.pairwise, List.pairwise_singleton _ _, ?_⟩
    rintro mark hmark last hlast other rfl heq
    obtain rfl := Custody.closed.inj ((List.mem_singleton.1 hlast).symm.trans heq)
    exact h.inUse_not_dropped _ hid hmark
  settled other hlt := by
    rcases h.settled other hlt with huse | hdropped | hclosed | hlost
    · exact .inl huse
    · exact .inr (.inl (List.mem_append_left _ hdropped))
    · exact .inr (.inr (.inl (List.mem_append_left _ hclosed)))
    · exact .inr (.inr (.inr hlost))

/-- The connection in use is given up once it is closed or lost. -/
theorem giveUp (h : Kept s marks)
    (hdone : ∀ id, s.inUse? = some id → .closed id ∈ marks ∨ s.hasLost id = true) :
    Kept s.unlink marks where
  inUse_lt _ := nofun
  inUse_not_dropped _ := nofun
  dropped_lt := h.dropped_lt
  pairwise := h.pairwise
  settled id hlt := by
    rcases h.settled id hlt with huse | hother
    · exact .inr (.inr (hdone id huse))
    · exact .inr hother

theorem pairwise_dropped (h : Kept s marks) (id : Nat) :
    (marks ++ [Custody.dropped id]).Pairwise MayPrecede := by
  refine List.pairwise_append.2 ⟨h.pairwise, List.pairwise_singleton _ _, ?_⟩
  intro mark _ last hlast other _
  rw [List.mem_singleton.1 hlast]
  exact nofun

/-- The connection in use is dropped. -/
theorem drop (h : Kept s marks) {id : Nat} (hid : s.inUse? = some id) :
    Kept s.unlink (marks ++ [.dropped id]) where
  inUse_lt _ := nofun
  inUse_not_dropped _ := nofun
  dropped_lt other hother := by
    rcases List.mem_append.1 hother with hother | hother
    · exact h.dropped_lt other hother
    · obtain rfl := Custody.dropped.inj (List.mem_singleton.1 hother)
      exact h.inUse_lt other hid
  pairwise := h.pairwise_dropped id
  settled other hlt := by
    rcases h.settled other hlt with huse | hdropped | hclosed | hlost
    · obtain rfl := Option.some.inj (hid.symm.trans huse)
      exact .inr (.inl (List.mem_append_right _ (List.mem_singleton_self _)))
    · exact .inr (.inl (List.mem_append_left _ hdropped))
    · exact .inr (.inr (.inl (List.mem_append_left _ hclosed)))
    · exact .inr (.inr (.inr hlost))

/-- A new connection is used. -/
theorem useNew (h : Kept s marks) (hnone : s.inUse? = none) (config : ConnectionConfig) :
    Kept (s.useNew config) marks where
  inUse_lt id hid := by
    obtain rfl := Option.some.inj hid
    exact Nat.lt_succ_self s.opened
  inUse_not_dropped id hid hdropped := by
    obtain rfl := Option.some.inj hid
    exact Nat.lt_irrefl _ (h.dropped_lt _ hdropped)
  dropped_lt id hid := Nat.lt_succ_of_lt (h.dropped_lt id hid)
  pairwise := h.pairwise
  settled id hlt := by
    rcases Nat.lt_succ_iff_lt_or_eq.1 hlt with hlt | rfl
    · rcases h.settled id hlt with huse | hother
      · cases hnone.symm.trans huse
      · exact .inr hother
    · exact .inl rfl

/-- A new connection is dropped. -/
theorem openUnused (h : Kept s marks) : Kept s.openUnused (marks ++ [.dropped s.opened]) where
  inUse_lt id hid := Nat.lt_succ_of_lt (h.inUse_lt id hid)
  inUse_not_dropped id hid hdropped := by
    rcases List.mem_append.1 hdropped with hdropped | hdropped
    · exact h.inUse_not_dropped id hid hdropped
    · obtain rfl := Custody.dropped.inj (List.mem_singleton.1 hdropped)
      exact Nat.lt_irrefl _ (h.inUse_lt _ hid)
  dropped_lt id hid := by
    rcases List.mem_append.1 hid with hid | hid
    · exact Nat.lt_succ_of_lt (h.dropped_lt id hid)
    · obtain rfl := Custody.dropped.inj (List.mem_singleton.1 hid)
      exact Nat.lt_succ_self s.opened
  pairwise := h.pairwise_dropped s.opened
  settled id hlt := by
    rcases Nat.lt_succ_iff_lt_or_eq.1 hlt with hlt | rfl
    · rcases h.settled id hlt with huse | hdropped | hclosed | hlost
      · exact .inl huse
      · exact .inr (.inl (List.mem_append_left _ hdropped))
      · exact .inr (.inr (.inl (List.mem_append_left _ hclosed)))
      · exact .inr (.inr (.inr hlost))
    · exact .inr (.inl (List.mem_append_right _ (List.mem_singleton_self _)))

/-- A new connection takes the place of the one in use, which is dropped. -/
theorem replace (h : Kept s marks) (config : ConnectionConfig) :
    Kept (s.useNew config) (marks ++ s.inUse?.toList.map .dropped) := by
  cases hid : s.inUse? with
  | none =>
    rw [Option.toList_none, List.map_nil, List.append_nil]
    exact h.useNew hid config
  | some id => exact (h.drop hid).useNew rfl config

/-- What an operation does keeps account of the connections. -/
theorem passage (h : Kept s marks) {o : Operation} {r : Run Unit} (hp : Passage s o r) :
    Kept r.session (marks ++ ofRun s o r) := by
  cases hp with
  | connected result leaves =>
    rw [ofRun, leaves.closings_eq, drops_connect_ok result, leaves.session_eq]
    exact h.replace _
  | refused result leaves =>
    rw [ofRun, leaves.closings_eq, drops_connect_error result, leaves.openings_eq,
      leaves.session_eq]
    simpa using h
  | unused result leaves =>
    rw [ofRun, leaves.closings_eq, drops_connect_error result, leaves.openings_eq,
      leaves.session_eq]
    exact h.openUnused
  | idle unlinked result leaves =>
    rw [ofRun, leaves.closings_eq, leaves.session_eq]
    simpa [drops] using h
  | @closed r link linked result leaves =>
    have hid : s.inUse? = some link.connection := congrArg (Option.map Link.connection) linked
    rw [ofRun, leaves.closings_eq, leaves.session_eq]
    refine (h.close hid).giveUp fun id huse => .inl ?_
    obtain rfl := Option.some.inj (hid.symm.trans huse)
    exact List.mem_append_right _ (List.mem_singleton_self _)
  | @kept r link e linked backend result leaves =>
    rw [ofRun, leaves.closings_eq, leaves.session_eq]
    exact h.close (congrArg (Option.map Link.connection) linked)
  | unlinked needs unlinked run =>
    rw [ofRun, drops_of_needs needs, run]
    simpa [Run.closings] using h
  | worked needs linked leaves =>
    rw [ofRun, leaves.closings_eq, drops_of_needs needs, leaves.session_eq]
    simpa using h
  | @reopened o r link needs linked lost leaves =>
    have hid : s.inUse? = some link.connection := congrArg (Option.map Link.connection) linked
    rw [ofRun, leaves.closings_eq, drops_of_needs needs, leaves.session_eq, List.map_nil,
      List.map_nil, List.append_nil, List.append_nil]
    refine (h.giveUp fun id huse => .inr ?_).useNew rfl _
    obtain rfl := Option.some.inj (hid.symm.trans huse)
    exact lost

/-- So does what an event does. -/
theorem step (h : Kept s marks) (e : Event) : Kept (s.after e) (marks ++ ofEvent s e) := by
  cases e with
  | operation o script => exact h.passage (o.passage script s)
  | loss lost =>
    rw [ofEvent, List.append_nil, Session.after, Session.lose]
    split
    · exact {
        inUse_lt := h.inUse_lt
        inUse_not_dropped := h.inUse_not_dropped
        dropped_lt := h.dropped_lt
        pairwise := h.pairwise
        settled := fun id hlt => by
          rcases h.settled id hlt with huse | hdropped | hclosed | hlost
          · exact .inl huse
          · exact .inr (.inl hdropped)
          · exact .inr (.inr (.inl hclosed))
          · refine .inr (.inr (.inr ?_))
            rw [Session.hasLost, List.contains_cons, Bool.or_eq_true]
            exact .inr hlost }
    · exact h

end Kept

end Custody

/-! ### What a close releases -/

namespace Adapter

/-- The connections that an event opens. -/
def openingsOf (s : Session) : Event → List Nat
  | .operation o script => (o.action script s).openings
  | .loss _ => []

/-- The connections that were opened in a history of a new adapter. -/
def openings (backend : Backend) (slowAfter : Value) (events : List Event) : List Nat :=
  (Session.fresh backend slowAfter).collect openingsOf events

/-- What was done with connections in a history of a new adapter. -/
def custody (backend : Backend) (slowAfter : Value) (events : List Event) : List Custody :=
  (Session.fresh backend slowAfter).collect Custody.ofEvent events

theorem kept_custody (backend : Backend) (slowAfter : Value) (events : List Event) :
    Custody.Kept (sessionAfter backend slowAfter events) (custody backend slowAfter events) :=
  Session.collect_induction (P := Custody.Kept) Custody.ofEvent (fun _ _ e h => h.step e)
    (.fresh backend slowAfter) events

/-- A session counts the connections that an operation opened. -/
theorem Passage.range_opened {s : Session} {o : Operation} {r : Run Unit} (h : Passage s o r) :
    List.range s.opened ++ r.openings = List.range r.session.opened := by
  cases h with
  | connected result leaves =>
    rw [leaves.openings_eq, leaves.session_eq]
    exact List.range_succ.symm
  | refused result leaves => rw [leaves.openings_eq, leaves.session_eq, List.append_nil]
  | unused result leaves =>
    rw [leaves.openings_eq, leaves.session_eq]
    exact List.range_succ.symm
  | idle unlinked result leaves => rw [leaves.openings_eq, leaves.session_eq, List.append_nil]
  | closed linked result leaves =>
    rw [leaves.openings_eq, leaves.session_eq, List.append_nil]
    rfl
  | kept linked backend result leaves =>
    rw [leaves.openings_eq, leaves.session_eq, List.append_nil]
  | unlinked needs unlinked run =>
    rw [run]
    exact List.append_nil _
  | worked needs linked leaves => rw [leaves.openings_eq, leaves.session_eq, List.append_nil]
  | reopened needs linked lost leaves =>
    rw [leaves.openings_eq, leaves.session_eq]
    exact List.range_succ.symm

/-- The connections that were opened are the numbers below the count of a session. -/
theorem openings_eq (backend : Backend) (slowAfter : Value) (events : List Event) :
    openings backend slowAfter events =
      List.range (sessionAfter backend slowAfter events).opened := by
  have hfresh : [] = List.range (Session.fresh backend slowAfter).opened := rfl
  exact Session.collect_induction (P := fun s opened => opened = List.range s.opened) openingsOf
    (fun s _ e h => by
      cases e with
      | operation o script => exact h ▸ (o.passage script s).range_opened
      | loss lost =>
        rw [openingsOf, List.append_nil, h, Session.after, Session.lose]
        split <;> rfl)
    hfresh events

/-- A close that succeeds leaves no connection in use. -/
theorem Passage.inUse_of_close_ok {s : Session} {r : Run Unit} (h : Passage s .close r)
    (hr : r.result = .ok ()) : r.session.inUse? = none := by
  cases h with
  | idle unlinked result leaves => rw [leaves.session_eq, Session.inUse?, unlinked, Option.map_none]
  | closed linked result leaves =>
    rw [leaves.session_eq]
    rfl
  | kept linked backend result leaves => cases result.symm.trans hr
  | unlinked needs unlinked run => cases needs
  | worked needs linked leaves => cases needs
  | reopened needs linked lost leaves => cases needs

/-- **What a close releases.**  After a close that succeeds a connection that was opened before was
told to close or is lost exactly if the adapter did not drop it before it told it to close, or it is
lost. -/
theorem released_iff (backend : Backend) (slowAfter : Value) (events : List Event)
    (script : DriverScript)
    (h : (Operation.close.action script (sessionAfter backend slowAfter events)).result = .ok ())
    {id : Nat} (hid : id ∈ openings backend slowAfter (events ++ [.operation .close script])) :
    let s := sessionAfter backend slowAfter (events ++ [.operation .close script])
    let marks := custody backend slowAfter (events ++ [.operation .close script])
    (.closed id ∈ marks ∨ s.hasLost id = true) ↔
      ((∀ before after, marks = before ++ .dropped id :: after → .closed id ∈ before) ∨
        s.hasLost id = true) := by
  intro s marks
  have hkept : Custody.Kept s marks := kept_custody backend slowAfter _
  have hnone : s.inUse? = none := by
    have hs : s = (Operation.close.action script (sessionAfter backend slowAfter events)).session := by
      show (Session.fresh backend slowAfter).afterAll _ = _
      rw [Session.afterAll, List.foldl_append]
      rfl
    rw [hs]
    exact (Operation.passage .close script _).inUse_of_close_ok h
  have hlt : id < s.opened := by
    rw [openings_eq] at hid
    exact List.mem_range.1 hid
  refine or_congr_left' fun hlost => ⟨fun hclosed before after hmarks => ?_, fun hbefore => ?_⟩
  · -- what is closed was not closed after it was dropped
    rw [hmarks, List.mem_append, List.mem_cons] at hclosed
    rcases hclosed with hclosed | hclosed | hclosed
    · exact hclosed
    · cases hclosed
    · have hpairwise := hkept.pairwise
      rw [hmarks, List.pairwise_append, List.pairwise_cons] at hpairwise
      cases hpairwise.2.1.1 _ hclosed id rfl rfl
  · rcases hkept.settled id hlt with huse | hdropped | hclosed | hlost'
    · cases hnone.symm.trans huse
    · obtain ⟨before, after, hmarks⟩ := List.append_of_mem hdropped
      rw [hmarks]
      exact List.mem_append_left _ (hbefore before after hmarks)
    · exact hclosed
    · cases hlost hlost'

/-- A connection that could not be closed at first is released. -/
theorem released_after_failing_close :
    let config : ConnectionConfig := { url := "sqlite:///a.db" }
    let busy : DriverScript := { fails := fun k => if k = .close then some "busy" else none }
    let events : List Event := [.operation (.connect config) {}, .operation .close busy]
    (.closed 0 ∈ custody .sqlite (.int 100) (events ++ [.operation .close {}]) ∨
      (sessionAfter .sqlite (.int 100) (events ++ [.operation .close {}])).hasLost 0 = true) := by
  intro config busy events
  have hmarks : custody .sqlite (.int 100) (events ++ [.operation .close {}]) =
      [.closed 0, .closed 0] := rfl
  have hopened : 0 ∈ openings .sqlite (.int 100) (events ++ [.operation .close {}]) :=
    List.mem_singleton_self 0
  refine (released_iff .sqlite (.int 100) events {} rfl hopened).2 (.inl fun before after h => ?_)
  have hdropped : Custody.dropped 0 ∈ custody .sqlite (.int 100) (events ++ [.operation .close {}]) :=
    h ▸ List.mem_append_right _ List.mem_cons_self
  simp [hmarks] at hdropped

/-- A connection that another connect dropped is not closed. -/
theorem not_released_of_close_ok :
    ¬ ∀ (backend : Backend) (slowAfter : Value) (events : List Event) (script : DriverScript),
      (Operation.close.action script (sessionAfter backend slowAfter events)).result = .ok () →
      ∀ id ∈ openings backend slowAfter (events ++ [.operation .close script]),
        .closed id ∈ custody backend slowAfter (events ++ [.operation .close script]) ∨
        (sessionAfter backend slowAfter (events ++ [.operation .close script])).hasLost id =
          true := by
  intro h
  let config : ConnectionConfig := { url := "sqlite:///a.db" }
  let events : List Event := [.operation (.connect config) {}, .operation (.connect config) {}]
  have hmarks : custody .sqlite (.int 100) (events ++ [.operation .close {}]) =
      [.dropped 0, .closed 1] := rfl
  rcases h .sqlite (.int 100) events {} rfl 0 (List.mem_cons_self) with hclosed | hlost
  · simp [hmarks] at hclosed
  · cases hlost

end Adapter

end SqlDialect
