import ComputeExchange.Proofs.Dispatch.Delivered

/-!
# When a dispatched job counts as assigned

A dispatch publishes the assignment of a job and writes down that it has done so.  These are two
effects, and either may fail.  `assigned_iff_recorded` says how a dispatch ends that nothing comes
between, whatever fails: the job is assigned exactly if its assignment has been published and the
write behind it has not failed, and otherwise it waits as before.  That the write comes second and
may fail is what makes the second condition necessary (`published_and_waiting`): such a job will be
delivered once more.
-/

namespace ComputeExchange

namespace Dispatcher

open Program Protocol

variable {first w w' : World} {t : Trace DispatchCall.Answer} {id : String} {job row : Job}
  {o : Operation}

/-- How a call is answered while the clock may be set before it. -/
def Answers (w : World) (q : DispatchCall) (answer : q.Answer) (w' : World) : Prop :=
  ∃ wall, World.Serves { w with wall := wall } q answer w'

/-- An operation dispatches a job: one that waits as created, or one that is new. -/
inductive Dispatches (first : World) (id : String) : Operation → Prop where
  | waiting {job : Job} (hrow : first.job? id = some job) (hid : job.id = id)
      (hcreated : job.status = .created) : Dispatches first id (.redispatch id)
  | escrowed {new : NewJob} (hnone : first.job? id = none) (hid : new.id = id) :
      Dispatches first id (.jobEscrowed new)
  | handled {event : JobEscrowed} (hnone : first.job? id = none) (hid : event.job.id = id) :
      Dispatches first id (.handle event)

/-! ### Calls -/

lemma Answers.of_clock {now : Timestamp} (h : Answers w .clock now w') :
    w'.store = w.store ∧ w'.published = w.published := by
  obtain ⟨wall, h⟩ := h
  cases h
  exact ⟨rfl, rfl⟩

/-- What is published is published once, or not at all. -/
lemma Answers.of_publish {subject : String} {payload : Payload} {answer : Except BusError Unit}
    (h : Answers w (.publish subject payload) answer w') :
    w'.store = w.store ∧
      (answer = .ok () ∧ w'.published = w.published ++ [⟨subject, none, payload⟩] ∨
        (∃ e, answer = .error e) ∧ w'.published = w.published) := by
  obtain ⟨wall, h⟩ := h
  cases h with
  | published => exact ⟨rfl, Or.inl ⟨rfl, rfl⟩⟩
  | unpublished => exact ⟨rfl, Or.inr ⟨⟨_, rfl⟩, rfl⟩⟩

/-- The store publishes nothing, and a call to it that fails does nothing. -/
lemma Answers.of_store {c : StoreCall} {answer : Except StoreError c.Answer}
    (h : Answers w (.store c) answer w') :
    w'.published = w.published ∧
      (answer = (w.store.perform c).1 ∧ w'.store = (w.store.perform c).2 ∨
        (∃ e, answer = .error e) ∧ w'.store = w.store) := by
  obtain ⟨wall, h⟩ := h
  rcases h.of_store with ⟨htold, rfl⟩ | ⟨hfails, rfl⟩
  · exact ⟨rfl, Or.inl ⟨htold, rfl⟩⟩
  · exact ⟨rfl, Or.inr ⟨hfails, rfl⟩⟩

/-- A job is recorded and told, or nothing happens. -/
lemma Answers.of_insertJob {new : NewJob} {now : Timestamp} {answer : Except StoreError Job}
    (h : Answers w (.store (.insertJob new now)) answer w') :
    w'.published = w.published ∧
      (answer = .ok (Job.ofNew new now) ∧ w'.job? new.id = some (Job.ofNew new now) ∨
        (∃ e, answer = .error e) ∧ w'.store = w.store) := by
  obtain ⟨hpublished, ⟨htold, hstore⟩ | hfails⟩ := h.of_store
  · refine ⟨hpublished, ?_⟩
    rcases w.store.insertJob_cases new now with ⟨-, hperform⟩ | ⟨e, hperform⟩
    · rw [hperform] at htold hstore
      refine Or.inl ⟨htold, ?_⟩
      rw [World.job?, hstore, Table.get?_put]
      exact if_pos rfl
    · rw [hperform] at htold hstore
      exact Or.inr ⟨⟨e, htold⟩, hstore⟩
  · exact ⟨hpublished, Or.inr hfails⟩

/-- A job is read as it stands in its row, if it is read. -/
lemma Answers.of_getJob {answer : Except StoreError (Option Job)}
    (h : Answers w (.store (.getJob id)) answer w') :
    w'.published = w.published ∧ w'.store = w.store ∧
      (answer = .ok (w.job? id) ∨ ∃ e, answer = .error e) := by
  obtain ⟨hpublished, ⟨htold, hstore⟩ | ⟨hfails, hstore⟩⟩ := h.of_store
  · rcases w.store.getJob_cases id with hperform | ⟨e, hperform⟩
    · rw [hperform] at htold hstore
      exact ⟨hpublished, hstore, Or.inl htold⟩
    · rw [hperform] at htold hstore
      exact ⟨hpublished, hstore, Or.inr ⟨e, htold⟩⟩
  · exact ⟨hpublished, hstore, Or.inr hfails⟩

/-- A job is moved from the status it has, unless the call fails. -/
lemma Answers.of_transitionJob {change : StatusChange} {answer : Except StoreError (Option Job)}
    (hrow : w.job? id = some job)
    (h : Answers w (.store (.transitionJob id job.status change)) answer w') :
    w'.published = w.published ∧
      (answer = .ok (some (job.apply change)) ∧ w'.job? id = some (job.apply change) ∨
        (∃ e, answer = .error e) ∧ w'.store = w.store) := by
  obtain ⟨hpublished, ⟨htold, hstore⟩ | hfails⟩ := h.of_store
  · refine ⟨hpublished, ?_⟩
    rcases MemoryStore.transitionJob_of_row hrow change with hperform | ⟨e, hperform⟩
    · rw [hperform] at htold hstore
      refine Or.inl ⟨htold, ?_⟩
      rw [World.job?, hstore, Table.get?_put]
      exact if_pos rfl
    · rw [hperform] at htold hstore
      exact Or.inr ⟨⟨e, htold⟩, hstore⟩
  · exact ⟨hpublished, Or.inr hfails⟩

/-! ### The delivery -/

/-- The message that tells a provider of a job. -/
def assignmentMessage (job : Job) : Message :=
  ⟨Subject.dispatch job.provider, none, .ofJson job.assignment.toJson⟩

/-- How the delivery of a created job may end, with its calls. -/
inductive DeliveryEnds (first w : World) (job : Job) : Trace DispatchCall.Answer → Prop where
  | unpublished (e : BusError) (hpublished : w.published = first.published)
      (hrow : w.job? job.id = some job) :
      DeliveryEnds first w job [⟨publication job, .error e⟩]
  | unrecorded (now : Timestamp) (e : StoreError)
      (hpublished : w.published = first.published ++ [assignmentMessage job])
      (hrow : w.job? job.id = some job) :
      DeliveryEnds first w job [⟨publication job, .ok ()⟩, ⟨.clock, now⟩,
        ⟨.store (.transitionJob job.id job.status (.assigned now)), .error e⟩]
  | recorded (now : Timestamp)
      (hpublished : w.published = first.published ++ [assignmentMessage job])
      (hrow : w.job? job.id = some (job.apply (.assigned now))) :
      DeliveryEnds first w job [⟨publication job, .ok ()⟩, ⟨.clock, now⟩,
        ⟨.store (.transitionJob job.id job.status (.assigned now)),
          .ok (some (job.apply (.assigned now)))⟩]

/-- What follows the publication of an assignment ends with the job moved, or with a failed write
that leaves it. -/
lemma deliveryEnds_of_published {r : Except DispatchError Job} {now : Timestamp} {w₁ w₂ : World}
    (hrow : w₁.job? job.id = some job)
    (hpublished : w₁.published = first.published ++ [assignmentMessage job])
    (hclock : Answers w₁ .clock now w₂) (hruns : Runs (asking.move job (.assigned now)).run t r)
    (hserved : Served Answers w₂ t w) :
    DeliveryEnds first w job (⟨publication job, .ok ()⟩ :: ⟨.clock, now⟩ :: t) := by
  obtain ⟨hstore₂, hpublished₂⟩ := hclock.of_clock
  have hrow₂ : w₂.job? job.id = some job := by
    rw [World.job?, hstore₂]
    exact hrow
  cases hruns with
  | @call _ _ moved _ _ hruns =>
  cases hserved with
  | @cons _ w₃ _ _ _ _ hmoved hserved =>
  obtain ⟨hpublished₃, ⟨rfl, hrow₃⟩ | ⟨⟨e, rfl⟩, hstore₃⟩⟩ := Answers.of_transitionJob hrow₂ hmoved
  · cases hruns
    cases hserved
    exact .recorded now (hpublished₃.trans (hpublished₂.trans hpublished)) hrow₃
  · cases hruns
    cases hserved
    refine .unrecorded now e (hpublished₃.trans (hpublished₂.trans hpublished)) ?_
    rw [World.job?, hstore₃]
    exact hrow₂

/-- The delivery of a created job ends in one of these ways. -/
lemma deliveryEnds_of_runs {r : Except DispatchError Job} (hcreated : job.status = .created)
    (hrow : first.job? job.id = some job) (hruns : Runs (asking.deliver job).run t r)
    (hserved : Served Answers first t w) : DeliveryEnds first w job t := by
  unfold deliver at hruns
  rw [if_neg (not_not.mpr hcreated)] at hruns
  cases hruns with
  | @call _ _ sent _ _ hruns =>
  cases hserved with
  | @cons _ w₁ _ _ _ _ hsent hserved =>
  obtain ⟨hstore, hpublished⟩ := Answers.of_publish hsent
  have hrow₁ : w₁.job? job.id = some job := by
    rw [World.job?, hstore]
    exact hrow
  rcases hpublished with ⟨rfl, hpublished⟩ | ⟨⟨e, rfl⟩, hpublished⟩
  · cases hruns with
    | @call _ _ now _ _ hruns =>
    cases hserved with
    | cons hclock hserved => exact deliveryEnds_of_published hrow₁ hpublished hclock hruns hserved
  · cases hruns
    cases hserved
    exact .unpublished e hpublished hrow₁

/-! ### The dispatch -/

/-- Whether a call only reads or records a job. -/
def isPreparation : DispatchCall → Bool
  | .publish .. => false
  | .store (.transitionJob ..) => false
  | _ => true

/-- How a dispatch may end: it has prepared no delivery and done nothing to the row, or it has
prepared a delivery and ends as that does. -/
inductive DispatchEnds (first w : World) (id : String) : Trace DispatchCall.Answer → Prop where
  | unprepared {t : Trace DispatchCall.Answer} (hprepares : ∀ e ∈ t, isPreparation e.1 = true)
      (hpublished : w.published = first.published) (hrow : w.job? id = first.job? id) :
      DispatchEnds first w id t
  | prepared {t t' : Trace DispatchCall.Answer} {w₁ : World} {job : Job}
      (hprepares : ∀ e ∈ t, isPreparation e.1 = true)
      (hpublished : w₁.published = first.published) (hid : job.id = id)
      (hcreated : job.status = .created)
      (hassigned : job.assignedAt = (first.job? id).bind Job.assignedAt)
      (hends : DeliveryEnds w₁ w job t') : DispatchEnds first w id (t ++ t')

/-- A reading of a created job and what follows it end as a dispatch may. -/
lemma dispatchEnds_of_getJob {t' : Trace DispatchCall.Answer} {w₁ : World}
    {found : Except DispatchError Job} (hrow : first.job? id = some job) (hid : job.id = id)
    (hcreated : job.status = .created) (hruns : Runs (asking.getJob id).run t found)
    (hserved : Served Answers first t w₁) (hfails : ∀ e, found = .error e → t' = [])
    (hdelivers : ∀ job, found = .ok job → ∃ r, Runs (asking.deliver job).run t' r)
    (hserved' : Served Answers w₁ t' w) : DispatchEnds first w id (t ++ t') := by
  cases hruns with
  | @call _ _ answer _ _ hruns =>
  cases hserved with
  | @cons _ w₂ _ _ _ _ hasked hserved =>
  obtain ⟨hpublished, hstore, rfl | ⟨e, rfl⟩⟩ := Answers.of_getJob hasked
  · rw [hrow] at hruns hasked ⊢
    cases hruns
    cases hserved
    obtain ⟨r, hdeliver⟩ := hdelivers job rfl
    have hrow₁ : w₁.job? job.id = some job := by
      rw [World.job?, hstore, hid]
      exact hrow
    refine .prepared (by simp [isPreparation]) hpublished hid hcreated ?_
      (deliveryEnds_of_runs hcreated hrow₁ hdeliver hserved')
    rw [hrow]
    rfl
  · cases hruns
    obtain rfl := hfails _ rfl
    cases hserved
    cases hserved'
    refine .unprepared (by simp [isPreparation]) hpublished ?_
    rw [World.job?, World.job?, hstore]

/-- A recording and what follows it end as a dispatch may. -/
lemma dispatchEnds_of_recordJob {new : NewJob} {t' : Trace DispatchCall.Answer} {w₁ : World}
    {recorded : Except DispatchError Job} (hnone : first.job? new.id = none)
    (hruns : Runs (asking.recordJob new).run t recorded) (hserved : Served Answers first t w₁)
    (hfails : ∀ e, recorded = .error e → t' = [])
    (hdelivers : ∀ job, recorded = .ok job → ∃ r, Runs (asking.deliver job).run t' r)
    (hserved' : Served Answers w₁ t' w) : DispatchEnds first w new.id (t ++ t') := by
  rcases runs_recordJob hruns with ⟨now, e, rfl, rfl⟩ | ⟨now, job, rfl, rfl⟩
  · obtain rfl := hfails _ rfl
    cases hserved'
    obtain ⟨w₂, hclock, hinsert⟩ := Served.of_concat (t := [_]) hserved
    obtain ⟨hstore₂, hpublished₂⟩ := Answers.of_clock hclock.of_singleton
    obtain ⟨hpublished, ⟨htold, -⟩ | ⟨-, hstore⟩⟩ := Answers.of_insertJob hinsert
    · cases htold
    · refine .unprepared (by simp [isPreparation]) (hpublished.trans hpublished₂) ?_
      rw [World.job?, World.job?, hstore, hstore₂]
  · obtain ⟨w₂, hclock, hinsert⟩ := Served.of_concat (t := [_]) hserved
    obtain ⟨-, hpublished₂⟩ := Answers.of_clock hclock.of_singleton
    obtain ⟨hpublished, ⟨htold, hrow⟩ | ⟨⟨e, htold⟩, -⟩⟩ := Answers.of_insertJob hinsert
    · obtain rfl := Except.ok.inj htold
      obtain ⟨r, hdeliver⟩ := hdelivers _ rfl
      refine .prepared (by simp [isPreparation]) (hpublished.trans hpublished₂) rfl rfl ?_
        (deliveryEnds_of_runs rfl hrow hdeliver hserved')
      rw [hnone]
      rfl
    · cases htold

/-- A dispatch that nothing comes between ends in one of these ways. -/
lemma dispatchEnds_of_runs {r : o.Result} (ho : Dispatches first id o) (hruns : Runs o.body t r)
    (hserved : Served Answers first t w) : DispatchEnds first w id t := by
  cases ho with
  | waiting hrow hid hcreated =>
    obtain ⟨t₁, found, t₂, rfl, hread, hrest⟩ := runs_bind.mp hruns
    obtain ⟨w₁, hserved₁, hserved₂⟩ := hserved.of_append
    refine dispatchEnds_of_getJob hrow hid hcreated hread hserved₁ ?_ ?_ hserved₂
    · rintro e rfl
      cases hrest
      rfl
    · rintro job rfl
      exact ⟨r, hrest⟩
  | escrowed hnone hid =>
    subst hid
    obtain ⟨t₁, recorded, t₂, rfl, hrecord, hrest⟩ := runs_bind.mp hruns
    obtain ⟨w₁, hserved₁, hserved₂⟩ := hserved.of_append
    refine dispatchEnds_of_recordJob hnone hrecord hserved₁ ?_ ?_ hserved₂
    · rintro e rfl
      cases hrest
      rfl
    · rintro job rfl
      exact ⟨r, hrest⟩
  | handled hnone hid =>
    subst hid
    obtain ⟨t₁, recorded, t₂, rfl, hrecord, hrest⟩ := runs_bind.mp hruns
    obtain ⟨w₁, hserved₁, hserved₂⟩ := hserved.of_append
    refine dispatchEnds_of_recordJob hnone hrecord hserved₁ ?_ ?_ hserved₂
    · rintro e rfl
      cases e <;> cases hrest <;> rfl
    · rintro job rfl
      obtain ⟨t₃, delivered, t₄, rfl, hdeliver, hend⟩ := runs_bind.mp hrest
      obtain rfl : t₄ = [] := by
        cases delivered <;> cases hend <;> rfl
      exact ⟨delivered, (List.append_nil t₃).symm ▸ hdeliver⟩

/-! ### The row -/

/-- The assignment of a job has been published. -/
def Published (t : Trace DispatchCall.Answer) (job : Job) : Prop :=
  ⟨publication job, .ok ()⟩ ∈ t

/-- A write that was to move a job has failed. -/
def Unrecorded (t : Trace DispatchCall.Answer) (id : String) : Prop :=
  ∃ source change e, ⟨.store (.transitionJob id source change), .error e⟩ ∈ t

/-- Preparations neither publish a job nor move one. -/
lemma published_append_iff {t' : Trace DispatchCall.Answer}
    (h : ∀ e ∈ t, isPreparation e.1 = true) : Published (t ++ t') job ↔ Published t' job := by
  refine List.mem_append.trans (or_iff_right fun hmem => ?_)
  cases h _ hmem

lemma unrecorded_append_iff {t' : Trace DispatchCall.Answer}
    (h : ∀ e ∈ t, isPreparation e.1 = true) : Unrecorded (t ++ t') id ↔ Unrecorded t' id := by
  constructor
  · rintro ⟨source, change, e, hmem⟩
    rcases List.mem_append.mp hmem with hmem | hmem
    · cases h _ hmem
    · exact ⟨source, change, e, hmem⟩
  · rintro ⟨source, change, e, hmem⟩
    exact ⟨source, change, e, List.mem_append_right t hmem⟩

/-- What the calls of a delivery tell of the row that it leaves. -/
lemma DeliveryEnds.told (h : DeliveryEnds first w job t) (hrow : w.job? job.id = some row) :
    (Published t row ∧ ¬ Unrecorded t job.id ∧ (∃ now, row = job.apply (.assigned now)) ∨
      (Published t row → Unrecorded t job.id) ∧ row = job) ∧
    (Published t row ∧ w.published = first.published ++ [assignmentMessage row] ∨
      ¬ Published t row ∧ w.published = first.published) := by
  cases h with
  | unpublished e hpublished hjob =>
    obtain rfl := Option.some.inj (hjob.symm.trans hrow)
    have hnot : ¬ Published [⟨publication job, .error e⟩] job := by simp [Published]
    exact ⟨Or.inr ⟨fun h => absurd h hnot, rfl⟩, Or.inr ⟨hnot, hpublished⟩⟩
  | unrecorded now e hpublished hjob =>
    obtain rfl := Option.some.inj (hjob.symm.trans hrow)
    have hfails : Unrecorded [⟨publication job, .ok ()⟩, ⟨.clock, now⟩,
        ⟨.store (.transitionJob job.id job.status (.assigned now)), .error e⟩] job.id :=
      ⟨job.status, .assigned now, e, by simp⟩
    exact ⟨Or.inr ⟨fun _ => hfails, rfl⟩, Or.inl ⟨List.mem_cons_self, hpublished⟩⟩
  | recorded now hpublished hjob =>
    obtain rfl := Option.some.inj (hjob.symm.trans hrow)
    have hwritten : ¬ Unrecorded [⟨publication job, .ok ()⟩, ⟨.clock, now⟩,
        ⟨.store (.transitionJob job.id job.status (.assigned now)),
          .ok (some (job.apply (.assigned now)))⟩] job.id := by
      simp [Unrecorded]
    exact ⟨Or.inl ⟨List.mem_cons_self, hwritten, now, rfl⟩,
      Or.inl ⟨List.mem_cons_self, hpublished⟩⟩

/-- A dispatched job, if it has a row in the end, is assigned exactly if its assignment has been
published and the write behind it has not failed; otherwise it is created and has the time of an
assignment only if it had one before.  The assignment has been published once or not at all. -/
theorem assigned_iff_recorded {r : o.Result} (ho : Dispatches first id o) (hruns : Runs o.body t r)
    (hserved : Served Answers first t w) (hrow : w.job? id = some row) :
    (row.status = .assigned ∧ row.assignedAt.isSome = true ↔
      Published t row ∧ ¬ Unrecorded t id) ∧
    (¬ (Published t row ∧ ¬ Unrecorded t id) →
      row.status = .created ∧ row.assignedAt = (first.job? id).bind Job.assignedAt) ∧
    (Published t row ∧ w.published = first.published ++ [assignmentMessage row] ∨
      ¬ Published t row ∧ w.published = first.published) := by
  rcases dispatchEnds_of_runs ho hruns hserved with
    ⟨hprepares, hpublished, hsame⟩ | ⟨hprepares, hpublished₁, rfl, hcreated, hassigned, hends⟩
  · have hbefore : first.job? id = some row := hsame.symm.trans hrow
    have hnot : ¬ Published t row := fun hmem => by cases hprepares _ hmem
    have hwaits : row.status = .created := by
      -- A new job that has not been recorded has no row.
      cases ho with
      | waiting hjob _ hcreated =>
        obtain rfl := Option.some.inj (hjob.symm.trans hbefore)
        exact hcreated
      | escrowed hnone => cases hnone.symm.trans hbefore
      | handled hnone => cases hnone.symm.trans hbefore
    refine ⟨iff_of_false (fun h => ?_) fun h => hnot h.1, fun _ => ⟨hwaits, ?_⟩,
      Or.inr ⟨hnot, hpublished⟩⟩
    · cases hwaits.symm.trans h.1
    · rw [hbefore]
      rfl
  · rw [published_append_iff hprepares, unrecorded_append_iff hprepares, ← hpublished₁, ← hassigned]
    obtain ⟨⟨hsent, hwritten, now, rfl⟩ | ⟨hfails, rfl⟩, hpublished⟩ := hends.told hrow
    · exact ⟨iff_of_true ⟨rfl, rfl⟩ ⟨hsent, hwritten⟩, fun h => absurd ⟨hsent, hwritten⟩ h,
        hpublished⟩
    · refine ⟨iff_of_false (fun h => ?_) fun h => h.2 (hfails h.1), fun _ => ⟨hcreated, rfl⟩,
        hpublished⟩
      cases hcreated.symm.trans h.1

/-- A fresh job whose assignment is published and recorded is assigned. -/
theorem published_and_assigned : ∃ w r,
    Dispatches idle.world "j" (.jobEscrowed askedFor) ∧
    Runs (Operation.body (.jobEscrowed askedFor)) deliveryCalls r ∧
    Served Answers idle.world deliveryCalls w ∧ w.job? "j" = some assignedJob ∧
    Published deliveryCalls assignedJob ∧ ¬ Unrecorded deliveryCalls "j" ∧
    w.published = [assignmentMessage assignedJob] := by
  have ho : Dispatches idle.world "j" (.jobEscrowed askedFor) := .escrowed rfl rfl
  have hruns : Runs (Operation.body (.jobEscrowed askedFor)) deliveryCalls (.ok assignedJob) :=
    .call _ (.call _ (.call _ (.call _ (.call _ (.here _)))))
  have hserved : Served Answers idle.world deliveryCalls _ :=
    .cons ⟨_, .told _⟩ (.cons ⟨default, .stored _ _⟩ (.cons ⟨default, .published _ _ _⟩
      (.cons ⟨_, .told _⟩ (.cons ⟨default, .stored _ _⟩ (.nil _)))))
  obtain ⟨hiff, -, -⟩ :=
    assigned_iff_recorded ho hruns hserved (show _ = some assignedJob from rfl)
  obtain ⟨hsent, hwritten⟩ := hiff.mp ⟨rfl, rfl⟩
  exact ⟨_, _, ho, hruns, hserved, rfl, hsent, hwritten, rfl⟩

/-- The job is read and its assignment is published, but the write fails. -/
def unrecordedCalls : Trace DispatchCall.Answer :=
  [⟨.store (.getJob "j"), .ok (some createdJob)⟩, ⟨publication createdJob, .ok ()⟩,
    ⟨.clock, default⟩,
    ⟨.store (.transitionJob "j" .created (.assigned default)), .error .unavailable⟩]

/-- A job whose assignment has been published waits as created if the write fails. -/
theorem published_and_waiting : ∃ w,
    Dispatches waiting "j" (.redispatch "j") ∧
    Runs (Operation.body (.redispatch "j")) unrecordedCalls (.error (.ofStore .unavailable)) ∧
    Served Answers waiting unrecordedCalls w ∧ w.job? "j" = some createdJob ∧
    w.published = waiting.published ++ [assignmentMessage createdJob] ∧
    ¬ (createdJob.status = .assigned ∧ createdJob.assignedAt.isSome = true ↔
      Published unrecordedCalls createdJob) := by
  have hserved : Served Answers waiting unrecordedCalls _ :=
    .cons ⟨default, .stored _ _⟩ (.cons ⟨default, .published _ _ _⟩ (.cons ⟨_, .told _⟩
      (.cons ⟨default, .unstored _ _ _⟩ (.nil _))))
  have hsent : Published unrecordedCalls createdJob := by simp [Published, unrecordedCalls]
  refine ⟨_, .waiting rfl rfl rfl, .call _ (.call _ (.call _ (.call _ (.here _)))), hserved, rfl,
    rfl, fun h => ?_⟩
  cases (h.mpr hsent).1

end Dispatcher

end ComputeExchange
