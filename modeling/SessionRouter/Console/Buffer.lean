import SessionRouter.Console.State

/-!
The bounded buffer of the chat: what a push drops and what it keeps.
-/

namespace SessionRouter.EventBuffer

variable [EventSize]

/-- The memory of several events. -/
def bytesOf (events : List WorkspaceEvent) : ℕ := (events.map eventBytes).sum

@[simp]
theorem bytesOf_nil : bytesOf [] = 0 := rfl

@[simp]
theorem bytesOf_cons (event : WorkspaceEvent) (events : List WorkspaceEvent) :
    bytesOf (event :: events) = eventBytes event + bytesOf events := by
  simp [bytesOf]

@[simp]
theorem bytesOf_append (events events' : List WorkspaceEvent) :
    bytesOf (events ++ events') = bytesOf events + bytesOf events' := by
  simp [bytesOf]

/-- The count of bytes is that of the events. -/
def Exact (b : EventBuffer) : Prop := b.bytes = bytesOf b.events

omit [EventSize] in
@[simp]
theorem new_events (limit : ℕ) : (new limit).events = [] := rfl

theorem new_exact (limit : ℕ) : (new limit).Exact := rfl

/-- Shedding drops the oldest events only and keeps the count exact. -/
theorem shed_spec {limit size bytes : ℕ} {events : List WorkspaceEvent} (truncated : Bool)
    (hexact : bytes = bytesOf events) :
    ∃ dropped, events = dropped ++ (shed limit size events bytes truncated).1 ∧
      (shed limit size events bytes truncated).2.1 =
        bytesOf (shed limit size events bytes truncated).1 := by
  induction events generalizing bytes truncated with
  | nil => exact ⟨[], rfl, hexact⟩
  | cons event events ih =>
    unfold shed
    split
    · have hrest : bytes - eventBytes event = bytesOf events := by
        rw [hexact, bytesOf_cons]
        omega
      obtain ⟨dropped, hevents, hbytes⟩ := ih true hrest
      refine ⟨event :: dropped, ?_, hbytes⟩
      rw [List.cons_append, ← hevents]
    · exact ⟨[], rfl, hexact⟩

/-- Newest events that leave room for another one are kept. -/
theorem shed_keeps {limit size bytes : ℕ} {events old kept : List WorkspaceEvent}
    (truncated : Bool) (hexact : bytes = bytesOf events) (hevents : events = old ++ kept)
    (hlength : kept.length < limit) (hroom : bytesOf kept + size ≤ maxEventBytes) :
    ∃ more, (shed limit size events bytes truncated).1 = more ++ kept := by
  induction events generalizing bytes truncated old with
  | nil =>
    obtain ⟨-, rfl⟩ := List.nil_eq_append_iff.mp hevents
    exact ⟨[], rfl⟩
  | cons event events ih =>
    cases old with
    | nil =>
      rw [List.nil_append] at hevents
      refine ⟨[], ?_⟩
      unfold shed
      have hstop : ¬(decide (limit ≤ (event :: events).length) ||
          decide (maxEventBytes < bytes + size)) = true := by
        rw [hevents, hexact, hevents]
        simp only [Bool.or_eq_true, decide_eq_true_eq]
        omega
      rw [if_neg hstop, List.nil_append]
      exact hevents
    | cons first old =>
      obtain ⟨rfl, hrest⟩ := List.cons.inj hevents
      unfold shed
      split
      · apply ih true ?_ hrest
        rw [hexact, bytesOf_cons]
        omega
      · exact ⟨event :: old, by rw [hrest]; rfl⟩

variable {b : EventBuffer} {event : WorkspaceEvent}

/-- An event that is too large is not stored. -/
theorem push_large (h : maxEventBytes < eventBytes event) :
    (b.push event).events = b.events ∧ (b.push event).bytes = b.bytes ∧
      (b.push event).limit = b.limit := by
  simp [push, h]

/-- A push drops some of the oldest events, and none of those that leave room. -/
theorem push_spec (hexact : b.Exact) (hlimit : b.limit ≠ 0)
    (hsmall : eventBytes event ≤ maxEventBytes) :
    ∃ dropped kept, b.events = dropped ++ kept ∧ (b.push event).events = kept ++ [event] ∧
      (b.push event).Exact ∧ (b.push event).limit = b.limit ∧
      ∀ old tail, b.events = old ++ tail → tail.length < b.limit →
        bytesOf tail + eventBytes event ≤ maxEventBytes → ∃ more, kept = more ++ tail := by
  have hstore : (b.push event).events =
        (shed b.limit (eventBytes event) b.events b.bytes b.truncated).1 ++ [event] ∧
      (b.push event).bytes =
        (shed b.limit (eventBytes event) b.events b.bytes b.truncated).2.1 + eventBytes event ∧
      (b.push event).limit = b.limit := by
    have hgo : ¬(decide (maxEventBytes < eventBytes event) || decide (b.limit = 0)) = true := by
      simp only [Bool.or_eq_true, decide_eq_true_eq]
      omega
    unfold push
    simp only [Bool.or_eq_true, decide_eq_true_eq] at hgo ⊢
    rw [if_neg hgo]
    exact ⟨rfl, rfl, rfl⟩
  obtain ⟨hevents, hbytes, hsame⟩ := hstore
  obtain ⟨dropped, hsplit, hcount⟩ :
      ∃ dropped, b.events = dropped ++
          (shed b.limit (eventBytes event) b.events b.bytes b.truncated).1 ∧
        (shed b.limit (eventBytes event) b.events b.bytes b.truncated).2.1 =
          bytesOf (shed b.limit (eventBytes event) b.events b.bytes b.truncated).1 :=
    shed_spec b.truncated hexact
  refine ⟨dropped, _, hsplit, hevents, ?_, hsame, ?_⟩
  · unfold Exact
    rw [hevents, hbytes, hcount]
    simp
  · intro old tail htail hlength hroom
    exact shed_keeps b.truncated hexact htail hlength hroom

/-- A push into a buffer with room drops nothing. -/
theorem push_fits (hexact : b.Exact) (hlength : b.events.length < b.limit)
    (hroom : bytesOf b.events + eventBytes event ≤ maxEventBytes) :
    (b.push event).events = b.events ++ [event] ∧ (b.push event).Exact ∧
      (b.push event).limit = b.limit := by
  have hsmall : eventBytes event ≤ maxEventBytes := by omega
  obtain ⟨dropped, kept, hsplit, hevents, hexact', hlimit, hkeeps⟩ :=
    push_spec hexact (by omega) hsmall
  obtain ⟨more, hmore⟩ := hkeeps [] b.events rfl hlength hroom
  have hlen := congrArg List.length hsplit
  rw [hmore] at hlen
  simp only [List.length_append] at hlen
  have hnil : more = [] := List.length_eq_zero_iff.mp (by omega)
  refine ⟨?_, hexact', hlimit⟩
  rw [hevents, hmore, hnil, List.nil_append]

/-- Pushes into a buffer with room for all of them drop nothing. -/
theorem pushAll_fits {events : List WorkspaceEvent} (hexact : b.Exact)
    (hlength : b.events.length + events.length ≤ b.limit)
    (hroom : bytesOf b.events + bytesOf events ≤ maxEventBytes) :
    (UiState.pushAll b events).events = b.events ++ events ∧ (UiState.pushAll b events).Exact ∧
      (UiState.pushAll b events).limit = b.limit := by
  induction events generalizing b with
  | nil => exact ⟨(List.append_nil _).symm, hexact, rfl⟩
  | cons event events ih =>
    simp only [List.length_cons, bytesOf_cons] at hlength hroom
    have hfirst : bytesOf b.events + eventBytes event ≤ maxEventBytes := by omega
    obtain ⟨hevents, hexact', hlimit⟩ := push_fits hexact (by omega) hfirst
    have hrest := ih hexact'
      (by rw [hevents, hlimit, List.length_append, List.length_singleton]; omega)
      (by rw [hevents, bytesOf_append, bytesOf_cons, bytesOf_nil]; omega)
    rw [hevents, hlimit, List.append_assoc] at hrest
    exact hrest

end SessionRouter.EventBuffer
