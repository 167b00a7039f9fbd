import ComputeExchange.Proofs.Dispatch.JobHistory
import ComputeExchange.Proofs.Dispatch.Traces
import ComputeExchange.Proofs.Interleaving

/-!
# Jobs that have been given out

A job waits as created until it is given out, and there are two ways to that.  Dispatch publishes
the assignment of the job and moves it only when that has succeeded.  The feed of the workers'
reports moves jobs along the same graph and publishes nothing, so a report that a job is assigned
gives out a job that may never have been delivered.

`delivered_or_reported` says that there is no third way, in whatever order the operations make their
calls and whatever fails.  What carries it is `Accounted`, the account of the rows of the store that
the calls up to a moment give.
-/

namespace ComputeExchange

/-- Whether a job has been given out for work. -/
def JobStatus.isGivenOut : JobStatus → Bool
  | assigned => true
  | running => true
  | completed => true
  | failed => true
  | _ => false

/-- A job is given out when it moves from created to assigned. -/
lemma JobStatus.given_out_of_move {s t : JobStatus} (h : s.canMoveTo t = true)
    (ht : t.isGivenOut = true) : s.isGivenOut = true ∨ s = .created ∧ t = .assigned := by
  cases s <;> cases t <;> simp_all [canMoveTo, isGivenOut]

namespace Dispatcher

open Program

variable {ι : Type} {ops : ι → Operation} {log : Interleaving DispatchCall.Answer ι}
  {first w w' : World} {q : DispatchCall} {answer : q.Answer} {id : String} {job row : Job}

/-- The assignment of a job has been published to its provider. -/
def Delivered (w : World) (job : Job) : Prop :=
  ⟨Subject.dispatch job.provider, none, .ofJson job.assignment.toJson⟩ ∈ w.published

/-- A worker's report that a job is assigned has moved it from created. -/
def Reported (ops : ι → Operation) (log : Interleaving DispatchCall.Answer ι) (id : String) :
    Prop :=
  ∃ i update now moved, ops i = .applyUpdate update ∧ update.jobId = id ∧
    update.status = .assigned ∧
    (i, ⟨.store (.transitionJob id .created (update.change now)), .ok (some moved)⟩) ∈ log

/-! ### Rows -/

/-- A row of the store is the row from before the call, or has just been inserted, or has been moved
by the call, which tells so. -/
lemma World.Serves.row_before (h : World.Serves w q answer w') (hrow : w'.job? id = some row) :
    w.job? id = some row ∨ (∃ new now, new.id = id ∧ row = Job.ofNew new now) ∨
      ∃ job change, w.job? id = some job ∧ row = job.apply change ∧
        (⟨q, answer⟩ : Event DispatchCall.Answer) =
          ⟨.store (.transitionJob id job.status change), .ok (some row)⟩ := by
  cases h with
  | stored c =>
    have heffect : JobEffect id c (w.job? id) (some row) := by
      rw [← hrow]
      exact w.store.jobEffect c id
    generalize hbefore : w.job? id = before at heffect
    cases heffect with
    | unchanged => exact Or.inl rfl
    | inserted new now hid => exact Or.inr (Or.inl ⟨new, now, hid, rfl⟩)
    | moved job change =>
      rcases w.store.of_transitionJob id job.status change with ⟨old, hold, -, htold⟩ | hsame
      · obtain rfl : job = old := Option.some.inj (hbefore.symm.trans hold)
        refine Or.inr (Or.inr ⟨job, change, rfl, rfl, ?_⟩)
        rw [htold]
      · left
        rw [← hbefore, ← hrow, World.job?, World.job?]
        rw [hsame]
  | _ => exact Or.inl hrow

/-- A row of the store stays, and what was asked for in it. -/
lemma World.Serves.row_stays (h : World.Serves w q answer w') (hrow : w.job? id = some row) :
    ∃ row', w'.job? id = some row' ∧ row'.terms = row.terms := by
  cases h with
  | stored c =>
    have heffect := w.store.jobEffect c id
    change JobEffect id c (w.job? id) (World.job? { w with store := (w.store.perform c).2 } id)
      at heffect
    rw [hrow] at heffect
    generalize World.job? { w with store := (w.store.perform c).2 } id = after at heffect ⊢
    cases heffect with
    | unchanged => exact ⟨row, rfl, rfl⟩
    | moved _ change => exact ⟨row.apply change, rfl, rfl⟩
  | _ => exact ⟨row, hrow, rfl⟩

/-- A job is recorded only if it has no row, and has the row that is told from then on. -/
lemma World.Serves.recorded {w w' : World} {new : NewJob} {now : Timestamp} {job : Job}
    (h : World.Serves w (.store (.insertJob new now)) (.ok job) w') :
    w.job? new.id = none ∧ w'.job? new.id = some job ∧ job = Job.ofNew new now := by
  obtain ⟨htold, rfl⟩ | ⟨⟨e, he⟩, -⟩ := h.of_store
  · rcases w.store.insertJob_cases new now with ⟨hnone, hperform⟩ | ⟨e, hperform⟩
    · rw [hperform] at htold
      obtain rfl := Except.ok.inj htold
      refine ⟨hnone, ?_, rfl⟩
      rw [hperform, World.job?, Table.get?_put]
      exact if_pos rfl
    · rw [hperform] at htold
      cases htold
  · cases he

/-- A job that cannot be recorded leaves everything as it is. -/
lemma World.Serves.unrecorded {w w' : World} {new : NewJob} {now : Timestamp} {e : StoreError}
    (h : World.Serves w (.store (.insertJob new now)) (.error e) w') : w' = w := by
  obtain ⟨htold, rfl⟩ | ⟨-, rfl⟩ := h.of_store
  · rcases w.store.insertJob_cases new now with ⟨-, hperform⟩ | ⟨e, hperform⟩
    · rw [hperform] at htold
      cases htold
    · rw [hperform]
  · rfl

/-- What has been published stays so. -/
lemma World.Serves.published_subset (h : World.Serves w q answer w') :
    w.published ⊆ w'.published := by
  cases h with
  | published subject payload => exact List.subset_append_left _ _
  | _ => exact List.Subset.refl _

/-- Whether a job has been delivered is told by what was asked for. -/
lemma Delivered.of_terms (h : Delivered w job) (hterms : row.terms = job.terms) :
    Delivered w row := by
  unfold Job.terms at hterms
  obtain ⟨⟨hid, -, hprovider, himage, hcid, -⟩, -⟩ :
      (row.id = job.id ∧ row.renter = job.renter ∧ row.provider = job.provider ∧
        row.dockerImage = job.dockerImage ∧ row.inputCid = job.inputCid ∧
        row.payment = job.payment) ∧ row.createdAt = job.createdAt := by
    simpa using hterms
  unfold Delivered Job.assignment at h ⊢
  rw [hid, hprovider, himage, hcid]
  exact h

/-- What has been delivered or reported stays so. -/
lemma delivered_or_reported_later {i : ι} (hserves : World.Serves w q answer w')
    (h : Delivered w row ∨ Reported ops log id) :
    Delivered w' row ∨ Reported ops (log ++ [(i, ⟨q, answer⟩)]) id := by
  rcases h with hdelivered | ⟨j, update, now, moved, hj, hid, hstatus, hmem⟩
  · exact Or.inl (hserves.published_subset hdelivered)
  · exact Or.inr ⟨j, update, now, moved, hj, hid, hstatus, List.mem_append_left _ hmem⟩

/-! ### The account -/

/-- What the calls up to a moment tell of the rows of the store. -/
structure Accounted (ops : ι → Operation) (log : Interleaving DispatchCall.Answer ι) (w : World) :
    Prop where
  keyed : ∀ id row, w.job? id = some row → row.id = id
  /-- A job that has been shown is still there, with what was asked for. -/
  shown : ∀ id job, Shows (log.map (·.2)) id job →
    job.id = id ∧ ∃ row, w.job? id = some row ∧ row.terms = job.terms
  published : ∀ subject payload, ⟨.publish subject payload, .ok ()⟩ ∈ log.map (·.2) →
    ⟨subject, none, payload⟩ ∈ w.published
  givenOut : ∀ id row, w.job? id = some row → row.status.isGivenOut = true →
    Delivered w row ∨ Reported ops log id

/-- The account of a world without jobs. -/
lemma accounted_nil (hjobs : w.store.jobs = .empty) : Accounted ops [] w := by
  have hnone : ∀ id row, w.job? id ≠ some row := by
    intro id row hrow
    rw [World.job?, hjobs, Table.get?_empty] at hrow
    cases hrow
  refine ⟨fun id row hrow => absurd hrow (hnone id row), ?_, by simp,
    fun id row hrow => absurd hrow (hnone id row)⟩
  rintro id job (⟨new, now, -, hmem⟩ | hmem)
  · cases hmem
  · cases hmem

/-- The account does not depend on the clock. -/
lemma Accounted.set_wall (h : Accounted ops log w) (wall : Timestamp) :
    Accounted ops log { w with wall := wall } := ⟨h.keyed, h.shown, h.published, h.givenOut⟩

/-- A job that the last call has shown stands in its row. -/
lemma row_of_shows (h : Accounted ops log w) (hserves : World.Serves w q answer w')
    (hshown : Shows [⟨q, answer⟩] id job) :
    job.id = id ∧ w'.job? id = some job := by
  rcases hshown with ⟨new, now, hid, hmem⟩ | hmem
  · cases List.mem_singleton.mp hmem
    obtain ⟨htold, rfl⟩ | ⟨⟨e, he⟩, -⟩ := hserves.of_store
    · obtain ⟨hjob, hrow⟩ := MemoryStore.of_insertJob htold.symm
      have hkey : job.id = id := by
        rw [hjob]
        exact hid
      rw [hkey] at hrow
      exact ⟨hkey, hrow⟩
    · cases he
  · cases List.mem_singleton.mp hmem
    obtain ⟨htold, rfl⟩ | ⟨⟨e, he⟩, -⟩ := hserves.of_store
    · obtain ⟨hrow, hstore⟩ := MemoryStore.of_getJob htold.symm
      refine ⟨h.keyed id job hrow.symm, ?_⟩
      rw [World.job?, hstore]
      exact hrow.symm
    · cases he

/-! ### Runs -/

variable [DecidableEq ι]

/-- The calls of operations that go on at the same time, while the clock may be set in between, with
the world that they lead to. -/
abbrev Operates (ops : ι → Operation) (first : World) :
    Interleaving DispatchCall.Answer ι → World → Prop :=
  Interleaves World.Serves (fun w w' => ∃ wall, w' = { w with wall := wall })
    (fun i => (ops i).body) first

/-- A job that an operation is entitled to move, and that is given out by that, has been delivered
or reported. -/
lemma Accounted.of_entitled {i : ι} {change : StatusChange} (h : Accounted ops log w)
    (hjob : w.job? id = some job)
    (hentitled : Entitled (ops i) (callsOf i log) id job.status change)
    (hout : change.status.isGivenOut = true) :
    Delivered w job ∨ Reported ops log id ∨
      ∃ update now, ops i = .applyUpdate update ∧ update.jobId = id ∧ update.status = .assigned ∧
        job.status = .created ∧ change = update.change now := by
  generalize hsource : job.status = source at hentitled
  cases hentitled with
  | @delivered known read hshown hcreated hpublished now =>
    obtain ⟨rfl, row, hrow, hterms⟩ := h.shown known read (hshown.mono callsOf_subset)
    obtain rfl : job = row := Option.some.inj (hjob.symm.trans hrow)
    have hdelivered : Delivered w read := h.published _ _ (callsOf_subset hpublished)
    exact Or.inl (hdelivered.of_terms hterms)
  | @reported update read ho hshown hmove now =>
    obtain ⟨hkey, -⟩ := h.shown update.jobId read (hshown.mono callsOf_subset)
    rcases JobStatus.given_out_of_move hmove hout with hbefore | ⟨hcreated, hassigned⟩
    · rw [← hsource] at hbefore
      exact (h.givenOut read.id job hjob hbefore).imp_right Or.inl
    · exact Or.inr (Or.inr ⟨update, now, ho, hkey.symm, hassigned, hcreated, rfl⟩)

/-- A job that is given out after the next call has been delivered or reported. -/
lemma Accounted.givenOut_later {i : ι} (h : Accounted ops log w)
    (hcalls : (ops i).body.Calls (callsOf i log) q) (hserves : World.Serves w q answer w')
    (hrow : w'.job? id = some row) (hout : row.status.isGivenOut = true) :
    Delivered w' row ∨ Reported ops (log ++ [(i, ⟨q, answer⟩)]) id := by
  rcases hserves.row_before hrow with hold | ⟨new, now, -, rfl⟩ | ⟨job, change, hold, rfl, htold⟩
  · exact delivered_or_reported_later hserves (h.givenOut id row hold hout)
  · cases hout
  · cases htold
    rcases h.of_entitled hold (entitled_of_calls hcalls) hout with
      hdelivered | hreported | ⟨update, now, hop, hid, hassigned, hcreated, rfl⟩
    · exact delivered_or_reported_later hserves (Or.inl (hdelivered.of_terms rfl))
    · exact delivered_or_reported_later hserves (Or.inr hreported)
    · refine Or.inr ⟨i, update, now, job.apply (update.change now), hop, hid, hassigned, ?_⟩
      rw [hcreated]
      exact List.mem_append_right log (List.mem_singleton.mpr rfl)

/-- The next call of an operation keeps the account. -/
lemma Accounted.serve {i : ι} (h : Accounted ops log w)
    (hcalls : (ops i).body.Calls (callsOf i log) q) (hserves : World.Serves w q answer w') :
    Accounted ops (log ++ [(i, ⟨q, answer⟩)]) w' := by
  refine ⟨?_, ?_, ?_, fun id row => h.givenOut_later hcalls hserves⟩
  · intro id row hrow
    rcases hserves.row_before hrow with hold | ⟨new, now, hid, rfl⟩ | ⟨job, change, hold, rfl, -⟩
    · exact h.keyed id row hold
    · exact hid
    · exact h.keyed id job hold
  · intro id job hshown
    rw [List.map_append] at hshown
    rcases shows_append hshown with hbefore | hlast
    · obtain ⟨hid, row, hrow, hterms⟩ := h.shown id job hbefore
      obtain ⟨row', hrow', hterms'⟩ := hserves.row_stays hrow
      exact ⟨hid, row', hrow', hterms'.trans hterms⟩
    · obtain ⟨hid, hrow⟩ := row_of_shows h hserves hlast
      exact ⟨hid, job, hrow, rfl⟩
  · intro subject payload hmem
    rw [List.map_append, List.mem_append] at hmem
    rcases hmem with hmem | hmem
    · exact hserves.published_subset (h.published subject payload hmem)
    · cases List.mem_singleton.mp hmem
      cases hserves
      simp

/-- A job that has been given out for work has been delivered to its provider, or a worker's report
that it is assigned has moved it from created. -/
theorem delivered_or_reported (hjobs : first.store.jobs = .empty) (h : Operates ops first log w)
    (hjob : w.job? id = some job) (hout : job.status.isGivenOut = true) :
    Delivered w job ∨ Reported ops log id := by
  have haccounted : Accounted ops log w := by
    clear hjob
    induction h with
    | begins => exact accounted_nil hjobs
    | serve _ hcalls hserves ih => exact ih.serve hcalls hserves
    | drift _ hdrifts ih =>
      obtain ⟨wall, rfl⟩ := hdrifts
      exact ih.set_wall wall
  exact haccounted.givenOut id job hjob hout

/-- A job is escrowed, and it is reported to be assigned. -/
def escrowAndReport : Bool → Operation
  | false => .jobEscrowed askedFor
  | true => .applyUpdate ⟨"j", .assigned, none, none⟩

/-- The job is recorded and cannot be delivered, and then the report is applied. -/
def undeliveredCalls : Interleaving DispatchCall.Answer Bool :=
  [(false, ⟨.clock, default⟩),
    (false, ⟨.store (.insertJob askedFor default), .ok createdJob⟩),
    (false, ⟨publication createdJob, .error (.noResponders (Subject.dispatch "p"))⟩),
    (true, ⟨.store (.getJob "j"), .ok (some createdJob)⟩),
    (true, ⟨.clock, default⟩),
    (true, ⟨.store (.transitionJob "j" .created (.assigned default)), .ok (some assignedJob)⟩)]

/-- A job in escrow that is recorded and cannot be delivered, and is then reported to be assigned,
has been given out and has not been delivered. -/
theorem reported_without_delivery :
    ∃ w, idle.world.store.jobs = .empty ∧
      Operates escrowAndReport idle.world undeliveredCalls w ∧
      w.job? "j" = some assignedJob ∧ assignedJob.status.isGivenOut = true ∧
      (Delivered w assignedJob ∨ Reported escrowAndReport undeliveredCalls "j") ∧
      ¬ Delivered w assignedJob := by
  have hserved : Protocol.Served World.Serves idle.world (undeliveredCalls.map (·.2)) _ :=
    .cons (.told _) (.cons (.stored _ _) (.cons (.unpublished _ _ _ _) (.cons (.stored _ _)
      (.cons (.told _) (.cons (.stored _ _) (.nil _))))))
  have hreaches : ∀ i, ∃ rest, Reaches (escrowAndReport i).body (callsOf i undeliveredCalls) rest
    | false => ⟨_, .call _ (.call _ (.call _ (.here _)))⟩
    | true => ⟨_, .call _ (.call _ (.call _ (.here _)))⟩
  have hrun : Operates escrowAndReport idle.world undeliveredCalls _ := .of_served hserved hreaches
  refine ⟨_, rfl, hrun, rfl, rfl, delivered_or_reported rfl hrun rfl rfl, ?_⟩
  exact List.not_mem_nil

end Dispatcher

end ComputeExchange
