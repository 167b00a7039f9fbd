import ComputeExchange.Dispatch.Service
import ComputeExchange.Proofs.Dispatch.Acknowledged
import ComputeExchange.Proofs.Dispatch.Traces
import ComputeExchange.Proofs.Store.Keys

/-!
# Asking for another delivery

Another delivery of a job reads the job, publishes its assignment and asks the store to move it.
Others may do as they like between these calls, so that each call is told with the worlds before and
after it, as a `Visit`.

Only the last call can change a row, and the request ends well if and only if it has
(`redelivers_of_runs`, `redispatch_cases`).  So the reply tells what this request has done to the
job: it has assigned it, or there is an error (`redispatchQuery_cases`).
-/

namespace ComputeExchange

namespace Dispatcher

open Program

variable {id : String} {t : Trace DispatchCall.Answer} {r : Except DispatchError Job}

/-! ### Calls among others -/

/-- A call of dispatch with the worlds just before and just after it. -/
structure Visit where
  before : World
  event : Event DispatchCall.Answer
  after : World

/-- Whether a call has been answered so that it has changed no row of a job: it records none, and is
not told that it has moved one. -/
def IsQuiet : Event DispatchCall.Answer → Prop
  | ⟨.store (.insertJob ..), _⟩ => False
  | ⟨.store (.transitionJob ..), .ok (some _)⟩ => False
  | _ => True

namespace Visit

variable {v : Visit} {job moved : Job} {now : Timestamp}

/-- Whether the call is answered by a world whose store can come about. -/
structure IsServed (v : Visit) : Prop where
  arises : v.before.store.Arises
  serves : World.Serves v.before v.event.1 v.event.2 v.after

/-- Whether the call leaves the rows of all jobs. -/
def Stays (v : Visit) : Prop := ∀ id, v.after.job? id = v.before.job? id

/-- Whether the call moves a job from created to assigned. -/
def Assigns (v : Visit) (id : String) : Prop :=
  ∃ job now, v.before.job? id = some job ∧ job.status = .created ∧
    v.after.job? id = some (job.apply (.assigned now))

/-- A call that assigns a job does not leave its row. -/
lemma Stays.not_assigns (h : v.Stays) (id : String) : ¬ v.Assigns id := by
  rintro ⟨job, now, hbefore, hcreated, hafter⟩
  have hsame := Option.some.inj (hafter.symm.trans ((h id).trans hbefore))
  have hassigned : job.status = .assigned := (congrArg Job.status hsame).symm
  cases hcreated.symm.trans hassigned

/-- Every job is read under its own id. -/
lemma IsServed.id_of_read (h : v.IsServed)
    (hread : v.event = ⟨.store (.getJob id), .ok (some job)⟩) : job.id = id := by
  have hkeyed : v.before.Keyed := fun _ _ hrow => h.arises.keyed.jobs.name_of_get? hrow
  have hhonest : Honest v.event := honest_of_serves hkeyed h.serves
  rw [hread] at hhonest
  exact hhonest

/-- A quiet call changes no row. -/
lemma IsServed.stays (h : v.IsServed) (hquiet : IsQuiet v.event) : v.Stays := by
  obtain ⟨w, ⟨q, answer⟩, w'⟩ := v
  have hserves : World.Serves w q answer w' := h.serves
  cases q with
  | store c =>
    obtain ⟨rfl, rfl⟩ | ⟨-, rfl⟩ := hserves.of_store
    · cases c with
      | insertJob new now => exact hquiet.elim
      | transitionJob id source change =>
        rcases w.store.transitionJob_cases id source change with ⟨job, -, -, htold⟩ | ⟨-, hsame⟩
        · -- It would be told so.
          simp only [htold] at hquiet
          exact hquiet.elim
        · intro other
          rw [World.job?, hsame, World.job?]
      | _ => exact fun other => w.store.jobs_stay (by simp) (by simp) other
    · exact fun _ => rfl
  | _ =>
    cases hserves
    all_goals exact fun _ => rfl

/-- A call that is told of the row of a job that it has moved has moved it. -/
lemma IsServed.assigns (h : v.IsServed)
    (hmoved : v.event =
      ⟨.store (.transitionJob id .created (.assigned now)), .ok (some moved)⟩) :
    v.Assigns id ∧ moved.id = id ∧ moved.status = .assigned := by
  obtain ⟨w, e, w'⟩ := v
  subst hmoved
  have hserves : World.Serves w (.store (.transitionJob id .created (.assigned now)))
    (.ok (some moved)) w' := h.serves
  obtain ⟨htold, rfl⟩ | ⟨⟨e, he⟩, -⟩ := hserves.of_store
  · rcases w.store.transitionJob_cases id .created (.assigned now) with
      ⟨job, hrow, hcreated, hperform⟩ | ⟨hnone, -⟩
    · rw [hperform] at htold
      obtain rfl : moved = job.apply (.assigned now) := by simpa using htold
      have hid : job.id = id := h.arises.keyed.jobs.name_of_get? hrow
      refine ⟨⟨job, now, hrow, hcreated, ?_⟩, hid, rfl⟩
      rw [World.job?, hperform, Table.get?_put]
      exact if_pos rfl
    · exact absurd htold.symm (hnone moved)
  · cases he

end Visit

/-! ### The request -/

/-- How a request for another delivery may end, with its calls: it fails and changes no row, or it
goes all the way. -/
inductive Redelivers (id : String) :
    Trace DispatchCall.Answer → Except DispatchError Job → Prop where
  | fails {t : Trace DispatchCall.Answer} {e : DispatchError}
      (hquiet : ∀ event ∈ t, IsQuiet event) : Redelivers id t (.error e)
  | moves {job moved : Job} (hcreated : job.status = .created) (now : Timestamp) :
      Redelivers id [⟨.store (.getJob id), .ok (some job)⟩, ⟨publication job, .ok ()⟩,
        ⟨.clock, now⟩, ⟨.store (.transitionJob job.id .created (.assigned now)), .ok (some moved)⟩]
        (.ok moved)

/-- Once the assignment of a created job has been published, the job is moved or the request
fails. -/
lemma redelivers_of_move {job : Job} {now : Timestamp} (hcreated : job.status = .created)
    (h : Runs (asking.move job (.assigned now)).run t r) :
    Redelivers id (⟨.store (.getJob id), .ok (some job)⟩ :: ⟨publication job, .ok ()⟩ ::
      ⟨.clock, now⟩ :: t) r := by
  rw [move, hcreated] at h
  cases h with
  | call answer h =>
    rcases answer with e | _ | moved
    · cases h
      exact .fails (by simp [IsQuiet])
    · cases h
      exact .fails (by simp [IsQuiet])
    · cases h
      exact .moves hcreated now

/-- A job that has been read is delivered with these calls. -/
lemma redelivers_of_deliver {job : Job} (h : Runs (asking.deliver job).run t r) :
    Redelivers id (⟨.store (.getJob id), .ok (some job)⟩ :: t) r := by
  unfold deliver at h
  by_cases hstatus : job.status ≠ .created
  · rw [if_pos hstatus] at h
    cases h
    exact .fails (by simp [IsQuiet])
  · rw [if_neg hstatus] at h
    cases h with
    | call sent h =>
      cases sent with
      | error e =>
        cases h
        exact .fails (by simp [IsQuiet])
      | ok =>
        cases h with
        | call now h => exact redelivers_of_move (not_not.mp hstatus) h

/-- A request for another delivery ends in one of these ways. -/
lemma redelivers_of_runs (h : Runs (asking.redispatch id).run t r) : Redelivers id t r := by
  obtain ⟨t₁, found, t₂, rfl, hread, hrest⟩ := runs_bind.mp h
  cases hread with
  | call answer hread =>
    rcases answer with e | _ | job
    · cases hread
      cases hrest
      exact .fails (by simp [IsQuiet])
    · cases hread
      cases hrest
      exact .fails (by simp [IsQuiet])
    · cases hread
      exact redelivers_of_deliver hrest

variable {visits : List Visit}

/-- Whatever others do meanwhile, a request for another delivery has assigned the job itself and
returns it, or it fails and has left all rows. -/
lemma redispatch_cases (hserved : ∀ v ∈ visits, v.IsServed)
    (h : Runs (asking.redispatch id).run (visits.map (·.event)) r) :
    (∃ moved, r = .ok moved ∧ moved.id = id ∧ moved.status = .assigned ∧
      ∃ v ∈ visits, v.Assigns id) ∨
    ∃ e, r = .error e ∧ ∀ v ∈ visits, v.Stays := by
  have hends := redelivers_of_runs h
  generalize ht : visits.map (·.event) = t at hends
  cases hends with
  | @fails _ e hquiet =>
    refine Or.inr ⟨e, rfl, fun v hv => (hserved v hv).stays (hquiet _ ?_)⟩
    rw [← ht]
    exact List.mem_map_of_mem hv
  | @moves job moved hcreated now =>
    have hvisit : ∀ event ∈ visits.map (·.event), ∃ v ∈ visits, v.event = event :=
      fun _ hevent => List.mem_map.mp hevent
    rw [ht] at hvisit
    obtain ⟨reads, hreads, hread⟩ := hvisit _ List.mem_cons_self
    obtain ⟨moves, hmoves, hmove⟩ := hvisit
      ⟨.store (.transitionJob job.id .created (.assigned now)), .ok (some moved)⟩ (by simp)
    obtain rfl : job.id = id := (hserved reads hreads).id_of_read hread
    obtain ⟨hassigns, hid, hstatus⟩ := (hserved moves hmoves).assigns hmove
    exact Or.inl ⟨moved, rfl, hid, hstatus, moves, hmoves, hassigns⟩

/-! ### The reply -/

/-- The reply to a request that has ended so. -/
def replyTo (request : RedispatchRequest) : Except DispatchError Job → RedispatchReply
  | .ok job => ⟨job.id, some job.status, none⟩
  | .error e => ⟨request.jobId, none, some e.message⟩

/-- Every request for another delivery is answered with its reply. -/
lemma runs_redispatchQuery {request : RedispatchRequest} {result : Except Cause Json}
    (h : Runs (asking.redispatchQuery.answer request) t result) :
    ∃ r, Runs (asking.redispatch request.jobId).run t r ∧
      result = .ok (replyTo request r).toJson := by
  obtain ⟨t₁, reply, t₂, rfl, hreply, hresult⟩ := runs_bind.mp h
  obtain ⟨rfl, rfl⟩ := runs_pure.mp hresult
  obtain ⟨t₁, r, t₂, rfl, hruns, hend⟩ := runs_bind.mp hreply
  refine ⟨r, ?_, ?_⟩
  · cases r with
    | ok job =>
      obtain ⟨rfl, -⟩ := runs_pure.mp hend
      simpa using hruns
    | error e =>
      obtain ⟨rfl, -⟩ := runs_pure.mp hend
      simpa using hruns
  · cases r with
    | ok job =>
      obtain ⟨-, rfl⟩ := runs_pure.mp hend
      rfl
    | error e =>
      obtain ⟨-, rfl⟩ := runs_pure.mp hend
      rfl

/-- The reply to a request for another delivery names its job.  It says that the job is assigned if
and only if this request has assigned it; otherwise it has an error, and the request has left all
rows. -/
lemma redispatchQuery_cases {request : RedispatchRequest} {result : Except Cause Json}
    (hserved : ∀ v ∈ visits, v.IsServed)
    (h : Runs (asking.redispatchQuery.answer request) (visits.map (·.event)) result) :
    ∃ reply : RedispatchReply, result = .ok reply.toJson ∧ reply.jobId = request.jobId ∧
      (reply.status = some .assigned ↔ ∃ v ∈ visits, v.Assigns request.jobId) ∧
      (reply.status = some .assigned ∧ reply.error = none ∨
        reply.status = none ∧ (∃ e : DispatchError, reply.error = some e.message) ∧
          ∀ v ∈ visits, v.Stays) := by
  obtain ⟨r, hruns, rfl⟩ := runs_redispatchQuery h
  refine ⟨_, rfl, ?_⟩
  rcases redispatch_cases hserved hruns with
    ⟨moved, rfl, hid, hstatus, hassigns⟩ | ⟨e, rfl, hstays⟩
  · have hreply : (replyTo request (.ok moved)).status = some .assigned := congrArg some hstatus
    exact ⟨hid, iff_of_true hreply hassigns, Or.inl ⟨hreply, rfl⟩⟩
  · have hnone : ¬ ∃ v ∈ visits, v.Assigns request.jobId := by
      rintro ⟨v, hv, hassigns⟩
      exact (hstays v hv).not_assigns _ hassigns
    exact ⟨rfl, iff_of_false (Option.some_ne_none _).symm hnone, Or.inr ⟨rfl, ⟨e, rfl⟩, hstays⟩⟩

end Dispatcher

end ComputeExchange
