import ComputeExchange.Proofs.Dispatch.Calls
import ComputeExchange.Proofs.Job.Life
import ComputeExchange.Proofs.Store.Jobs

/-!
# How dispatch treats jobs

Any number of operations of dispatch may go on at the same time, each reading a job first and moving
it later.  In between the job may have moved on, and the row that was read is out of date; but a job
never comes back to a status, so a move from the status that was read finds the very row that was
read, or nothing (`Read.eq`).

`lifecycle` is the protocol that follows: a step puts a job in its row or moves it along the graph,
and stamps it no earlier than before if the clock never goes back.  `keeps_body` says that every
operation keeps to it, whatever fails.
-/

namespace ComputeExchange

namespace Dispatcher

open Program Protocol

variable {steady : Prop}

/-! ### The protocol -/

/-- What a step may do to the row of a job. -/
inductive RowMoves (steady : Prop) (id : String) : Option Job → Option Job → Prop where
  | stays (row : Option Job) : RowMoves steady id row row
  | begins (new : NewJob) (now : Timestamp) (h : new.id = id) :
      RowMoves steady id none (some (Job.ofNew new now))
  | follows {job job' : Job} (h : job.Follows steady job') :
      RowMoves steady id (some job) (some job')

/-- What a step may do to the world.  If the clock is `steady`, it never goes back. -/
structure Moves (steady : Prop) (w w' : World) : Prop where
  wall : steady → w.wall ≤ w'.wall
  row : ∀ id, RowMoves steady id (w.job? id) (w'.job? id)

/-- What holds at every moment: a job stands under its own id, and no stamp lies in the future. -/
structure Tidy (steady : Prop) (w : World) : Prop where
  keyed : ∀ id job, w.job? id = some job → job.id = id
  past : steady → ∀ id job, w.job? id = some job → job.StampedBy w.wall

/-- Which calls may be made: a job is stamped with a time that is not in the future, and is moved
along the graph and not stamped before what it has been stamped with. -/
def Allowed (steady : Prop) (w : World) : DispatchCall → Prop
  | .store (.insertJob _ now) => steady → now ≤ w.wall
  | .store (.transitionJob id source change) =>
    source.canMoveTo change.status = true ∧ (steady → change.at_ ≤ w.wall ∧
      ∀ job, w.job? id = some job → job.status = source → job.StampedBy change.at_)
  | _ => True

/-- An allowed call to the store moves each row along, and leaves it tidy. -/
lemma rowMoves_of_effect {w : World} {c : StoreCall} {id : String} {row : Option Job}
    (htidy : Tidy steady w) (hallowed : Allowed steady w (.store c))
    (heffect : JobEffect id c (w.job? id) row) :
    RowMoves steady id (w.job? id) row ∧
      ∀ job, row = some job → job.id = id ∧ (steady → job.StampedBy w.wall) := by
  generalize hrow : w.job? id = old at heffect
  cases heffect with
  | unchanged =>
    refine ⟨.stays _, fun job hjob => ?_⟩
    rw [hjob] at hrow
    exact ⟨htidy.keyed id job hrow, fun hsteady => htidy.past hsteady id job hrow⟩
  | inserted new now hid =>
    refine ⟨.begins new now hid, ?_⟩
    rintro _ ⟨⟩
    exact ⟨hid, fun hsteady => ⟨hallowed hsteady, by simp [Job.ofNew]⟩⟩
  | moved job change =>
    obtain ⟨hmove, htime⟩ := hallowed
    have hstamped : steady → job.StampedBy change.at_ := fun hsteady =>
      (htime hsteady).2 job hrow rfl
    refine ⟨.follows ⟨change, hmove, rfl, hstamped⟩, ?_⟩
    rintro _ ⟨⟩
    exact ⟨htidy.keyed id job hrow, fun hsteady =>
      (hstamped hsteady).apply.trans (htime hsteady).1⟩

/-- An allowed call to the store moves rows along, and leaves the world tidy. -/
lemma moves_of_perform {w : World} {c : StoreCall} (htidy : Tidy steady w)
    (hallowed : Allowed steady w (.store c)) :
    Moves steady w { w with store := (w.store.perform c).2 } ∧
      Tidy steady { w with store := (w.store.perform c).2 } := by
  have hrows := fun id => rowMoves_of_effect htidy hallowed (w.store.jobEffect c id)
  exact ⟨⟨fun _ => le_refl _, fun id => (hrows id).1⟩,
    ⟨fun id job hjob => ((hrows id).2 job hjob).1,
      fun hsteady id job hjob => ((hrows id).2 job hjob).2 hsteady⟩⟩

/-- A step that leaves the rows as they are and does not set a steady clock back. -/
lemma moves_of_same {w w' : World} (htidy : Tidy steady w) (hstore : w'.store = w.store)
    (hwall : steady → w.wall ≤ w'.wall) : Moves steady w w' ∧ Tidy steady w' := by
  have hrow : ∀ id, w'.job? id = w.job? id := fun id => by rw [World.job?, hstore, World.job?]
  refine ⟨⟨hwall, fun id => ?_⟩, ⟨fun id job hjob => ?_, fun hsteady id job hjob => ?_⟩⟩
  · rw [hrow id]
    exact .stays _
  · exact htidy.keyed id job ((hrow id).symm.trans hjob)
  · exact (htidy.past hsteady id job ((hrow id).symm.trans hjob)).trans (hwall hsteady)

/-- How dispatch and its surroundings get on with one another. -/
def lifecycle (steady : Prop) : Protocol DispatchCall.Answer World where
  serves := World.Serves
  drifts w w' := ∃ wall, w' = { w with wall := wall } ∧ (steady → w.wall ≤ wall)
  inv := Tidy steady
  allows := Allowed steady
  moves := Moves steady
  serves_moves := by
    intro w w' q a htidy hallowed hserves
    cases hserves with
    | stored c => exact moves_of_perform htidy hallowed
    | published => exact moves_of_same htidy rfl fun _ => le_refl _
    | unstored | unpublished | requested | told => exact moves_of_same htidy rfl fun _ => le_refl _
  drifts_moves := by
    rintro w w' htidy ⟨wall, rfl, hwall⟩
    exact moves_of_same htidy rfl hwall

/-! ### A job that has been read -/

/-- What is left of having read a job: it is still as it was read, or it has moved on. -/
structure Read (steady : Prop) (w : World) (job : Job) : Prop where
  row : ∃ now, w.job? job.id = some now ∧ (now = job ∨ job.status.rank < now.status.rank)
  past : steady → job.StampedBy w.wall

/-- A job just read. -/
lemma read_of_job? {w : World} (htidy : Tidy steady w) {id : String} {job : Job}
    (h : w.job? id = some job) : Read steady w job := by
  obtain rfl := htidy.keyed id job h
  exact ⟨⟨job, h, Or.inl rfl⟩, fun hsteady => htidy.past hsteady job.id job h⟩

/-- A job that has been read stays so in a step. -/
lemma Read.moves {w w' : World} {job : Job} (h : Read steady w job) (hmoves : Moves steady w w') :
    Read steady w' job := by
  obtain ⟨⟨now, hnow, hrank⟩, hpast⟩ := h
  refine ⟨?_, fun hsteady => (hpast hsteady).trans (hmoves.wall hsteady)⟩
  have hrow := hmoves.row job.id
  rw [hnow] at hrow
  generalize hnext : w'.job? job.id = next at hrow
  cases hrow with
  | stays => exact ⟨now, rfl, hrank⟩
  | @follows _ later hfollows =>
    obtain ⟨change, hmove, rfl, -⟩ := hfollows
    have hlt : now.status.rank < change.status.rank := JobStatus.rank_lt hmove
    refine ⟨_, rfl, Or.inr ?_⟩
    rcases hrank with rfl | hrank
    · exact hlt
    · exact hrank.trans hlt

/-- A job that has been read stays so. -/
lemma Read.later {w w' : World} {job : Job} (h : Read steady w job)
    (hlater : (lifecycle steady).Later w w') : Read steady w' job := by
  induction hlater with
  | refl => exact h
  | tail _ hmoves ih => exact ih.moves hmoves

/-- A steady clock does not go back in any number of steps. -/
lemma wall_le_of_later {w w' : World} (hlater : (lifecycle steady).Later w w') (hsteady : steady) :
    w.wall ≤ w'.wall := by
  induction hlater with
  | refl => exact le_refl _
  | tail _ hmoves ih => exact ih.trans (hmoves.wall hsteady)

/-- A row with the status that was read is the row that was read. -/
lemma Read.eq {w : World} {job row : Job} (h : Read steady w job)
    (hrow : w.job? job.id = some row) (hstatus : row.status = job.status) : row = job := by
  obtain ⟨now, hnow, hsame | hrank⟩ := h.row
  · exact (Option.some.inj (hrow.symm.trans hnow)).trans hsame
  · obtain rfl := Option.some.inj (hrow.symm.trans hnow)
    rw [hstatus] at hrank
    exact absurd hrank (lt_irrefl _)

/-! ### Operations -/

/-- Moving a job keeps to the protocol, if the job has been read, the move is one of the graph, and
its time has been told since. -/
lemma keeps_move {w : World} {job : Job} {change : StatusChange} (hread : Read steady w job)
    (hmove : job.status.canMoveTo change.status = true)
    (htime : steady → change.at_ ≤ w.wall ∧ job.StampedBy change.at_) :
    (lifecycle steady).Keeps (asking.move job change).run w := by
  intro w' hlater _
  refine ⟨⟨hmove, fun hsteady => ?_⟩, ?_⟩
  · obtain ⟨hnow, hstamped⟩ := htime hsteady
    refine ⟨hnow.trans (wall_le_of_later hlater hsteady), fun row hrow hstatus => ?_⟩
    rwa [(hread.later hlater).eq hrow hstatus]
  · rintro (e | _ | moved) w'' - - - <;> trivial

/-- Delivering a job that has been read keeps to the protocol. -/
lemma keeps_deliver {w : World} {job : Job} (hread : Read steady w job) :
    (lifecycle steady).Keeps (asking.deliver job).run w := by
  rw [deliver]
  by_cases hstatus : job.status ≠ .created
  · rw [if_pos hstatus]
    trivial
  · rw [if_neg hstatus]
    obtain hcreated : job.status = .created := not_not.mp hstatus
    intro w₁ hlater₁ _
    refine ⟨trivial, ?_⟩
    rintro (e | _) w₂ - hmoves₂ _
    · trivial
    · intro w₃ hlater₃ _
      refine ⟨trivial, fun now w₄ hserves₄ _ _ => ?_⟩
      have hread₃ := ((hread.later hlater₁).moves hmoves₂).later hlater₃
      cases hserves₄ with
      | told =>
        refine keeps_move hread₃ (by rw [hcreated]; rfl) fun hsteady => ?_
        exact ⟨le_refl _, hread₃.past hsteady⟩

/-- Whether a job that an operation has come by, if it has, has been read. -/
def HasRead (steady : Prop) (r : Except DispatchError Job) (w : World) : Prop :=
  ∀ job, r = .ok job → Read steady w job

/-- A job that is found by its id has been read. -/
lemma ensures_getJob (id : String) (w : World) :
    (lifecycle steady).Ensures (asking.getJob id).run (HasRead steady) w := by
  intro w₁ _ _
  refine ⟨trivial, ?_⟩
  rintro (e | row) w₂ hserves₂ - htidy₂
  · rintro job ⟨⟩
  · obtain ⟨hanswer, rfl⟩ | ⟨⟨e, he⟩, -⟩ := hserves₂.of_store
    · obtain ⟨rfl, hstore⟩ := MemoryStore.of_getJob hanswer.symm
      cases hrow : w₁.store.jobs.get? id with
      | none => rintro job ⟨⟩
      | some job =>
        rintro _ ⟨⟩
        have hjob : World.job? { w₁ with store := (w₁.store.perform (.getJob id)).2 } id =
            some job := by
          rw [World.job?, hstore, hrow]
        exact read_of_job? htidy₂ hjob
    · cases he

/-- A job that is recorded has been read. -/
lemma ensures_recordJob (new : NewJob) (w : World) :
    (lifecycle steady).Ensures (asking.recordJob new).run (HasRead steady) w := by
  intro w₁ _ _
  refine ⟨trivial, fun now w₂ hserves₂ _ _ => ?_⟩
  cases hserves₂ with
  | told =>
    intro w₃ hlater₃ _
    refine ⟨fun hsteady => wall_le_of_later hlater₃ hsteady, ?_⟩
    rintro (e | job) w₄ hserves₄ - htidy₄
    · rintro job ⟨⟩
    · rintro _ ⟨⟩
      obtain ⟨hanswer, rfl⟩ | ⟨⟨e, he⟩, -⟩ := hserves₄.of_store
      · exact read_of_job? htidy₄ (MemoryStore.of_insertJob hanswer.symm).2
      · cases he

/-- What is done with a job that has been read keeps to the protocol if it does so for every such
job. -/
lemma keeps_bind {x : ExceptT DispatchError (Program DispatchCall.Answer) Job}
    {f : Job → ExceptT DispatchError (Program DispatchCall.Answer) Job} {w : World}
    (hx : (lifecycle steady).Ensures x.run (HasRead steady) w)
    (hf : ∀ job w', Read steady w' job → (lifecycle steady).Keeps (f job).run w') :
    (lifecycle steady).Keeps (x >>= f).run w := by
  refine ensures_bindExcept (hx.weaken fun r w' hr => ?_)
  cases r with
  | error e => trivial
  | ok job => exact hf job w' (hr job rfl)

/-- Applying a report keeps to the protocol. -/
lemma keeps_applyUpdate (update : JobStatusUpdate) (w : World) :
    (lifecycle steady).Keeps (asking.applyUpdate update).run w := by
  refine keeps_bind (ensures_getJob update.jobId w) fun job w' hread => ?_
  by_cases hmove : job.status.canMoveTo update.status = true
  · simp only [hmove]
    intro w₁ hlater₁ _
    refine ⟨trivial, fun now w₂ hserves₂ _ _ => ?_⟩
    have hread₁ := hread.later hlater₁
    cases hserves₂ with
    | told => exact keeps_move hread₁ hmove fun hsteady => ⟨le_refl _, hread₁.past hsteady⟩
  · simp only [hmove]
    trivial

/-- Handling an escrow keeps to the protocol. -/
lemma keeps_handle (event : JobEscrowed) (w : World) :
    (lifecycle steady).Keeps (asking.handle event) w := by
  refine ensures_bind ((ensures_recordJob event.job w).weaken fun r w' hread => ?_)
  cases r with
  | error e => cases e <;> trivial
  | ok job =>
    refine ensures_bind ((keeps_deliver (hread job rfl)).weaken fun r' w'' _ => ?_)
    cases r' <;> trivial

/-- Every operation keeps to the protocol. -/
lemma keeps_body (o : Operation) (w : World) : (lifecycle steady).Keeps o.body w := by
  cases o with
  | jobEscrowed new =>
    exact keeps_bind (ensures_recordJob new w) fun job w' hread => keeps_deliver hread
  | handle event => exact keeps_handle event w
  | redispatch id => exact keeps_bind (ensures_getJob id w) fun job w' hread => keeps_deliver hread
  | applyUpdate update => exact keeps_applyUpdate update w

end Dispatcher

end ComputeExchange
