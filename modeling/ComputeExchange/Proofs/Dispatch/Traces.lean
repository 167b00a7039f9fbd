import ComputeExchange.Proofs.Dispatch.Calls

/-!
# What dispatch does before it moves a job

An operation asks the store to move a job only for one of two reasons: it has read or recorded the
job, found it just created and published its assignment, or it applies the report of a worker and
the job that it has read may move so.  This is `Entitled`, and `entitled_of_calls` says so of every
operation, whatever it has been answered before.
-/

namespace ComputeExchange

namespace Dispatcher

open Program

variable {t : Trace DispatchCall.Answer} {id : String} {job : Job} {source : JobStatus}
  {change : StatusChange}

/-- A trace shows a job under an id: it has been recorded, or has been read. -/
def Shows (t : Trace DispatchCall.Answer) (id : String) (job : Job) : Prop :=
  (∃ new now, new.id = id ∧ ⟨.store (.insertJob new now), .ok job⟩ ∈ t) ∨
    ⟨.store (.getJob id), .ok (some job)⟩ ∈ t

/-- What is shown by a trace is shown by all that has its calls. -/
lemma Shows.mono {t t' : Trace DispatchCall.Answer} (h : Shows t id job) (hsub : t ⊆ t') :
    Shows t' id job := by
  rcases h with ⟨new, now, hid, hmem⟩ | hmem
  · exact Or.inl ⟨new, now, hid, hsub hmem⟩
  · exact Or.inr (hsub hmem)

/-- What is shown by two traces together is shown by one of them. -/
lemma shows_append {t t' : Trace DispatchCall.Answer} (h : Shows (t ++ t') id job) :
    Shows t id job ∨ Shows t' id job := by
  rcases h with ⟨new, now, hid, hmem⟩ | hmem
  · exact (List.mem_append.mp hmem).imp (fun h => Or.inl ⟨new, now, hid, h⟩)
      fun h => Or.inl ⟨new, now, hid, h⟩
  · exact (List.mem_append.mp hmem).imp Or.inr Or.inr

/-- The call that publishes the assignment of a job to its provider. -/
abbrev publication (job : Job) : DispatchCall :=
  .publish (Subject.dispatch job.provider) (.ofJson job.assignment.toJson)

/-- What entitles an operation to ask for the move of a job, after a trace. -/
inductive Entitled (o : Operation) (t : Trace DispatchCall.Answer) :
    String → JobStatus → StatusChange → Prop where
  | delivered {id : String} {job : Job} (hshown : Shows t id job) (hcreated : job.status = .created)
      (hpublished : ⟨publication job, .ok ()⟩ ∈ t) (now : Timestamp) :
      Entitled o t job.id .created (.assigned now)
  | reported {update : JobStatusUpdate} {job : Job} (ho : o = .applyUpdate update)
      (hshown : Shows t update.jobId job) (hmove : job.status.canMoveTo update.status = true)
      (now : Timestamp) : Entitled o t job.id job.status (update.change now)

/-- A job is recorded with two calls. -/
lemma runs_recordJob {new : NewJob} {t : Trace DispatchCall.Answer} {r : Except DispatchError Job}
    (h : Runs (asking.recordJob new).run t r) :
    (∃ now e, t = [⟨.clock, now⟩, ⟨.store (.insertJob new now), .error e⟩] ∧
      r = .error (.ofStore e)) ∨
    ∃ now job, t = [⟨.clock, now⟩, ⟨.store (.insertJob new now), .ok job⟩] ∧ r = .ok job := by
  cases h with
  | call now h =>
    cases h with
    | call recorded h =>
      cases recorded with
      | error e =>
        cases h
        exact Or.inl ⟨now, e, rfl, rfl⟩
      | ok job =>
        cases h
        exact Or.inr ⟨now, job, rfl, rfl⟩

/-- A recorded job is shown. -/
lemma shows_of_recordJob {new : NewJob} (h : Runs (asking.recordJob new).run t (.ok job)) :
    Shows t new.id job := by
  cases h with
  | call now h =>
    cases h with
    | call answer h =>
      cases answer with
      | error e => cases h
      | ok recorded =>
        cases h
        exact Or.inl ⟨new, now, rfl, by simp⟩

/-- A job that is found is shown. -/
lemma shows_of_getJob (h : Runs (asking.getJob id).run t (.ok job)) : Shows t id job := by
  cases h with
  | call answer h =>
    rcases answer with e | _ | found
    · cases h
    · cases h
    · cases h
      exact Or.inr (by simp)

/-- Recording a job moves none. -/
lemma recordJob_moves_nothing {new : NewJob} :
    ¬ (asking.recordJob new).run.Calls t (.store (.transitionJob id source change)) := by
  rintro ⟨next, h⟩
  cases h with
  | call now h =>
    cases h with
    | call answer h => cases answer <;> cases h

/-- Reading a job moves none. -/
lemma getJob_moves_nothing {read : String} :
    ¬ (asking.getJob read).run.Calls t (.store (.transitionJob id source change)) := by
  rintro ⟨next, h⟩
  cases h with
  | call answer h => rcases answer with e | _ | found <;> cases h

/-- Moving a job is one call. -/
lemma of_move_calls {asked : StatusChange}
    (h : (asking.move job asked).run.Calls t (.store (.transitionJob id source change))) :
    t = [] ∧ (id, source, change) = (job.id, job.status, asked) := by
  obtain ⟨next, h⟩ := h
  cases h with
  | here => exact ⟨rfl, rfl⟩
  | call answer h => rcases answer with e | _ | moved <;> cases h

/-- A job is moved for its delivery when it has just been created and its assignment has been
published. -/
lemma of_deliver_calls
    (h : (asking.deliver job).run.Calls t (.store (.transitionJob id source change))) :
    job.status = .created ∧ ⟨publication job, .ok ()⟩ ∈ t ∧
      ∃ now, (id, source, change) = (job.id, .created, .assigned now) := by
  obtain ⟨next, h⟩ := h
  unfold deliver at h
  by_cases hstatus : job.status ≠ .created
  · rw [if_pos hstatus] at h
    cases h
  · rw [if_neg hstatus] at h
    have hcreated : job.status = .created := not_not.mp hstatus
    cases h with
    | call answer h =>
      cases answer with
      | error e => cases h
      | ok =>
        cases h with
        | call now h =>
          have hmove : (asking.move job (.assigned now)).run.Calls _ _ := ⟨next, h⟩
          obtain ⟨-, hmoved⟩ := of_move_calls hmove
          rw [hcreated] at hmoved
          exact ⟨hcreated, by simp, now, hmoved⟩

/-- A job that is shown and then delivered is moved only with its assignment published. -/
lemma entitled_of_deliver_calls {o : Operation} {t₁ t₂ : Trace DispatchCall.Answer} {known : String}
    (hshown : Shows t₁ known job)
    (h : (asking.deliver job).run.Calls t₂ (.store (.transitionJob id source change))) :
    Entitled o (t₁ ++ t₂) id source change := by
  obtain ⟨hcreated, hpublished, now, hmoved⟩ := of_deliver_calls h
  obtain ⟨rfl, rfl, rfl⟩ : id = job.id ∧ source = .created ∧ change = .assigned now := by
    simpa using hmoved
  exact .delivered (hshown.mono (List.subset_append_left t₁ t₂)) hcreated
    (List.mem_append_right t₁ hpublished) now

/-- A call of a program that may fail, followed by another, is a call of the one, or of the other
where the one has a value. -/
lemma calls_bindExcept {ε α β : Type} {x : ExceptT ε (Program DispatchCall.Answer) α}
    {f : α → ExceptT ε (Program DispatchCall.Answer) β} {q : DispatchCall}
    (h : (x >>= f).run.Calls t q) :
    x.run.Calls t q ∨
      ∃ t₁ a t₂, t = t₁ ++ t₂ ∧ Runs x.run t₁ (.ok a) ∧ (f a).run.Calls t₂ q := by
  rcases calls_bind.mp h with h | ⟨t₁, r, t₂, ht, hrun, h⟩
  · exact Or.inl h
  · cases r with
    | error e => exact absurd h not_calls_pure
    | ok a => exact Or.inr ⟨t₁, a, t₂, ht, hrun, h⟩

/-- An operation asks for the move of a job only if it is entitled to. -/
theorem entitled_of_calls {o : Operation}
    (h : o.body.Calls t (.store (.transitionJob id source change))) :
    Entitled o t id source change := by
  cases o with
  | jobEscrowed new =>
    rcases calls_bindExcept h with h | ⟨t₁, job, t₂, rfl, hrun, h⟩
    · exact absurd h recordJob_moves_nothing
    · exact entitled_of_deliver_calls (shows_of_recordJob hrun) h
  | redispatch known =>
    rcases calls_bindExcept h with h | ⟨t₁, job, t₂, rfl, hrun, h⟩
    · exact absurd h getJob_moves_nothing
    · exact entitled_of_deliver_calls (shows_of_getJob hrun) h
  | handle event =>
    rcases calls_bind.mp h with h | ⟨t₁, r, t₂, rfl, hrun, h⟩
    · exact absurd h recordJob_moves_nothing
    · cases r with
      | error e => cases e <;> exact absurd h not_calls_pure
      | ok job =>
        rcases calls_bind.mp h with h | ⟨t₂, r, t₃, rfl, -, h⟩
        · exact entitled_of_deliver_calls (shows_of_recordJob hrun) h
        · cases r <;> exact absurd h not_calls_pure
  | applyUpdate update =>
    rcases calls_bindExcept h with h | ⟨t₁, job, t₂, rfl, hrun, h⟩
    · exact absurd h getJob_moves_nothing
    · have hshown := (shows_of_getJob hrun).mono (List.subset_append_left t₁ t₂)
      by_cases hmove : job.status.canMoveTo update.status = true
      · simp only [hmove] at h
        obtain ⟨next, h⟩ := h
        cases h with
        | call now h =>
          have hmoves : (asking.move job (update.change now)).run.Calls _ _ := ⟨next, h⟩
          obtain ⟨-, hmoved⟩ := of_move_calls hmoves
          obtain ⟨rfl, rfl, rfl⟩ :
              id = job.id ∧ source = job.status ∧ change = update.change now := by
            simpa using hmoved
          exact .reported rfl hshown hmove now
      · simp only [hmove] at h
        obtain ⟨next, h⟩ := h
        cases h

end Dispatcher

end ComputeExchange
