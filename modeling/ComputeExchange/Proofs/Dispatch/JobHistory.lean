import ComputeExchange.Proofs.Dispatch.Lifecycle
import Mathlib.Data.List.Destutter

/-!
# The life of jobs under dispatch

`Step` is a step of a dispatcher: an operation is started, the next call of one that is going on is
answered, or the clock is changed.  Along a run of such steps, in any order and whatever fails, a
job goes through rows that make up a life; this is `life_of_run`.
-/

namespace ComputeExchange

namespace Dispatcher

open Program Protocol

variable {steady : Prop}

/-! ### The rows of a job -/

/-- A list without its repetitions still has all that was in it. -/
lemma mem_destutter' {α : Type} [DecidableEq α] {a b : α} {l : List α} (h : a ∈ b :: l) :
    a ∈ l.destutter' (· ≠ ·) b := by
  induction l generalizing b with
  | nil => exact h
  | cons c l ih =>
    by_cases hbc : b = c
    · subst hbc
      rw [List.destutter'_cons_neg l (not_not.mpr rfl)]
      exact ih (by simpa using h)
    · rw [List.destutter'_cons_pos l hbc]
      rcases List.mem_cons.mp h with rfl | h
      · exact List.mem_cons_self
      · exact List.mem_cons_of_mem b (ih h)

/-- A move leads to another row. -/
lemma ne_of_follows {job job' : Job} (h : job.Follows steady job') : job ≠ job' := by
  obtain ⟨change, hmove, rfl, -⟩ := h
  intro hsame
  have hrank := JobStatus.rank_lt hmove
  rw [hsame] at hrank
  exact lt_irrefl _ hrank

/-- The rows that a job goes through after a row it has. -/
lemma destutter'_some {id : String} {job : Job} {rows : List (Option Job)}
    (h : (some job :: rows).IsChain (RowMoves steady id)) :
    ∃ jobs, rows.destutter' (· ≠ ·) (some job) = (job :: jobs).map some ∧
      (job :: jobs).IsChain (Job.Follows steady) := by
  induction rows generalizing job with
  | nil => exact ⟨[], rfl, .singleton _⟩
  | cons row rows ih =>
    obtain ⟨hmoves, hrest⟩ := List.isChain_cons_cons.mp h
    cases hmoves with
    | stays =>
      rw [List.destutter'_cons_neg rows (not_not.mpr rfl)]
      exact ih hrest
    | @follows _ job' hfollows =>
      have hne : some job ≠ some job' := fun hsame => ne_of_follows hfollows (Option.some.inj hsame)
      obtain ⟨jobs, heq, hchain⟩ := ih hrest
      refine ⟨job' :: jobs, ?_, .cons_cons hfollows hchain⟩
      rw [List.destutter'_cons_pos rows hne, heq]
      rfl

/-- The rows that a job goes through from before its creation on. -/
lemma destutter'_none {id : String} {rows : List (Option Job)}
    (h : (none :: rows).IsChain (RowMoves steady id)) :
    ∃ jobs, rows.destutter' (· ≠ ·) none = none :: jobs.map some ∧
      (jobs = [] ∨ ∃ new now, new.id = id ∧ jobs.head? = some (Job.ofNew new now)) ∧
      jobs.IsChain (Job.Follows steady) := by
  induction rows with
  | nil => exact ⟨[], rfl, Or.inl rfl, .nil⟩
  | cons row rows ih =>
    obtain ⟨hmoves, hrest⟩ := List.isChain_cons_cons.mp h
    cases hmoves with
    | stays =>
      rw [List.destutter'_cons_neg rows (not_not.mpr rfl)]
      exact ih hrest
    | begins new now hid =>
      obtain ⟨jobs, heq, hchain⟩ := destutter'_some hrest
      refine ⟨Job.ofNew new now :: jobs, ?_, Or.inr ⟨new, now, hid, rfl⟩, hchain⟩
      rw [List.destutter'_cons_pos rows (by simp), heq]

/-! ### Runs -/

/-- A step of a dispatcher: an operation is started, or the next call of one that is going on is
answered, or the clock is set. -/
def Step : Pool DispatchCall.Answer Operation.Result World →
    Pool DispatchCall.Answer Operation.Result World → Prop :=
  Pool.Step World.Serves (fun w w' => ∃ wall, w' = { w with wall := wall }) Operation.body

/-- Whether nothing has been done yet: there are no jobs, and no operation is going on. -/
structure Begins (pool : Pool DispatchCall.Answer Operation.Result World) : Prop where
  jobs : pool.world.store.jobs = .empty
  threads : pool.threads = []

/-- A step that does not set a steady clock back is a step of the protocol. -/
lemma Step.lifecycle {pool pool' : Pool DispatchCall.Answer Operation.Result World}
    (h : Step pool pool') (hwall : steady → pool.world.wall ≤ pool'.world.wall) :
    Pool.Step (Dispatcher.lifecycle steady).serves (Dispatcher.lifecycle steady).drifts
      Operation.body pool pool' := by
  cases h with
  | start w threads o => exact .start w threads o
  | serve before after h => exact .serve before after h
  | drift threads h =>
    obtain ⟨wall, rfl⟩ := h
    exact .drift threads ⟨wall, rfl, hwall⟩

/-- Where every pair of neighbours has one property, and another one on a condition, it has both. -/
lemma isChain_and_imp {α : Type*} {r s : α → α → Prop} {l : List α} (h : l.IsChain r)
    {p : Prop} (hp : p → l.IsChain s) : l.IsChain fun a b => r a b ∧ (p → s a b) := by
  induction h with
  | nil => exact .nil
  | singleton a => exact .singleton a
  | cons_cons hab _ ih =>
    refine .cons_cons ⟨hab, fun h => ?_⟩ (ih fun h => ?_)
    · exact (List.isChain_cons_cons.mp (hp h)).1
    · exact (List.isChain_cons_cons.mp (hp h)).2

/-- Nothing has been done that the protocol does not allow before anything has been done. -/
lemma Begins.sound {pool : Pool DispatchCall.Answer Operation.Result World} (h : Begins pool) :
    pool.Sound (lifecycle steady) := by
  have hnone : ∀ id, pool.world.job? id = none := fun id => by
    rw [World.job?, h.jobs, Table.get?_empty]
  refine ⟨⟨fun id job hjob => ?_, fun _ id job hjob => ?_⟩, by simp [h.threads]⟩
  · rw [hnone id] at hjob
    cases hjob
  · rw [hnone id] at hjob
    cases hjob

/-- Along every run, in any order of calls and whatever fails, a job goes through rows that make up
a life; if the wall clock never goes back, its stamps are in order. -/
theorem life_of_run {first : Pool DispatchCall.Answer Operation.Result World}
    {pools : List (Pool DispatchCall.Answer Operation.Result World)} (hbegins : Begins first)
    (hrun : (first :: pools).IsChain Step) (id : String) :
    ∃ jobs : List Job,
      ((first :: pools).map fun pool => pool.world.job? id).destutter (· ≠ ·) =
        none :: jobs.map some ∧
      (∀ pool ∈ first :: pools, ∀ job, pool.world.job? id = some job → job ∈ jobs) ∧
      (∀ job ∈ jobs, job.id = id) ∧ Job.Life jobs ∧
      ((first :: pools).IsChain (fun pool pool' => pool.world.wall ≤ pool'.world.wall) →
        ∀ job ∈ jobs, job.Ordered) := by
  generalize hsteady :
    (first :: pools).IsChain (fun pool pool' => pool.world.wall ≤ pool'.world.wall) = steady
  have hsteps : (first :: pools).IsChain (Pool.Step (lifecycle steady).serves
      (lifecycle steady).drifts Operation.body) :=
    (isChain_and_imp hrun fun h => hsteady ▸ h).imp fun _ _ h => h.1.lifecycle h.2
  have hworlds := Protocol.run (fun o w _ => keeps_body o w) hbegins.sound hsteps
  have hrows : ((first :: pools).map fun pool => pool.world.job? id).IsChain
      (RowMoves steady id) := by
    rw [List.isChain_map] at hworlds ⊢
    refine hworlds.imp fun pool pool' hmoves => ?_
    rcases hmoves with hsame | hmoves
    · rw [hsame]
      exact .stays _
    · exact hmoves.row id
  have hfirst : first.world.job? id = none := by
    rw [World.job?, hbegins.jobs, Table.get?_empty]
  rw [List.map_cons, hfirst] at hrows ⊢
  obtain ⟨jobs, heq, hhead, hchain⟩ := destutter'_none hrows
  have hseen : ∀ pool ∈ first :: pools, ∀ job, pool.world.job? id = some job → job ∈ jobs := by
    intro pool hpool job hjob
    have hmem : some job ∈ (first :: pools).map fun pool => pool.world.job? id :=
      List.mem_map.mpr ⟨pool, hpool, hjob⟩
    rw [List.map_cons, hfirst] at hmem
    have hkept := mem_destutter' hmem
    rw [heq] at hkept
    simpa using hkept
  refine ⟨jobs, heq, hseen, ?_⟩
  rcases hhead with rfl | ⟨new, now, hid, hhead⟩
  · exact ⟨by simp, Job.life_nil, by simp⟩
  · obtain ⟨hlife, hordered⟩ := Job.life_of_follows hhead hchain
    refine ⟨fun job hjob => ?_, hlife, hordered⟩
    have hterms := hlife.terms job hjob _ (List.mem_of_mem_head? hhead)
    exact (congrArg (fun terms => terms.1.id) hterms).trans hid

/-- A job that is asked for. -/
def askedFor : NewJob := ⟨"j", "renter", "p", "image", "cid", "1"⟩

/-- The row of the job when it has been created. -/
def createdJob : Job := Job.ofNew askedFor default

/-- The row of the job when it has been assigned. -/
def assignedJob : Job := createdJob.apply (.assigned default)

/-- The calls that record the job and deliver it. -/
def deliveryCalls : Trace DispatchCall.Answer :=
  [⟨.clock, default⟩, ⟨.store (.insertJob askedFor default), .ok createdJob⟩,
    ⟨.publish (Subject.dispatch "p") (.ofJson createdJob.assignment.toJson), .ok ()⟩,
    ⟨.clock, default⟩,
    ⟨.store (.transitionJob "j" .created (.assigned default)), .ok (some assignedJob)⟩]

/-- A dispatcher before anything has been done. -/
def idle : Pool DispatchCall.Answer Operation.Result World := ⟨⟨default, .empty, []⟩, []⟩

/-- A world in which the job waits for its delivery. -/
def waiting : World :=
  ⟨default, { MemoryStore.empty with jobs := Table.empty.put "j" createdJob }, []⟩

/-- The dispatcher when it has been told that the job is in escrow. -/
def told : Pool DispatchCall.Answer Operation.Result World :=
  ⟨idle.world, [⟨.jobEscrowed askedFor, Operation.body (.jobEscrowed askedFor)⟩]⟩

/-- A step while the clock stands still is a step. -/
lemma Step.of_still {pool pool' : Pool DispatchCall.Answer Operation.Result World}
    (h : Pool.Step World.Serves (fun _ _ => False) Operation.body pool pool') :
    Step pool pool' ∧ pool.world.wall ≤ pool'.world.wall := by
  cases h with
  | start w threads o => exact ⟨.start w threads o, le_refl _⟩
  | serve before after h =>
    refine ⟨.serve before after h, ?_⟩
    cases h <;> exact le_refl _
  | drift threads h => exact h.elim

/-- A job in escrow that is recorded and delivered lives and is assigned. -/
theorem life_of_run_assigned :
    ∃ pools : List (Pool DispatchCall.Answer Operation.Result World), Begins idle ∧
      (idle :: pools).IsChain Step ∧
      (idle :: pools).IsChain (fun pool pool' => pool.world.wall ≤ pool'.world.wall) ∧
      ∃ jobs : List Job, assignedJob ∈ jobs ∧ (∀ job ∈ jobs, job.id = "j") ∧ Job.Life jobs ∧
        ∀ job ∈ jobs, job.Ordered := by
  have hbegins : Begins idle := ⟨rfl, rfl⟩
  have hserved : Served World.Serves idle.world deliveryCalls _ :=
    .cons (.told _) (.cons (.stored _ _) (.cons (.published _ _ _) (.cons (.told _)
      (.cons (.stored _ _) (.nil _)))))
  have hbody : Runs (Operation.body (.jobEscrowed askedFor)) deliveryCalls (.ok assignedJob) :=
    .call _ (.call _ (.call _ (.call _ (.call _ (.here _)))))
  obtain ⟨pools, hchain, hlast⟩ : ∃ pools,
      (told :: pools).IsChain (Pool.Step World.Serves (fun _ _ => False) Operation.body) ∧
      _ ∈ told :: pools :=
    exists_run_alone (R := Operation.Result) (o := .jobEscrowed askedFor) hserved hbody
  have hfirst : Pool.Step World.Serves (fun _ _ => False) Operation.body idle told :=
    .start idle.world [] (Operation.jobEscrowed askedFor)
  have hrun := List.IsChain.cons_cons hfirst hchain
  have hsteps : (idle :: told :: pools).IsChain Step := hrun.imp fun _ _ h => (Step.of_still h).1
  have hwall : (idle :: told :: pools).IsChain
      (fun pool pool' => pool.world.wall ≤ pool'.world.wall) :=
    hrun.imp fun _ _ h => (Step.of_still h).2
  obtain ⟨jobs, -, hseen, hids, hlife, hordered⟩ := life_of_run hbegins hsteps "j"
  have hassigned : assignedJob ∈ jobs := hseen _ (List.mem_cons_of_mem _ hlast) assignedJob rfl
  exact ⟨_, hbegins, hsteps, hwall, jobs, hassigned, hids, hlife, hordered hwall⟩

end Dispatcher

end ComputeExchange
