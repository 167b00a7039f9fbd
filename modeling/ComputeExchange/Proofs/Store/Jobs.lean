import ComputeExchange.Store.Memory
import Mathlib.Tactic

/-!
# Jobs in a store

What the calls of a store do to the row of a job: it is put there when the job is inserted, it is
replaced when the job is moved from the status it has, and every other call leaves it.
-/

namespace ComputeExchange

/-- What a call may do to the row of a job. -/
inductive JobEffect (id : String) : StoreCall → Option Job → Option Job → Prop where
  | unchanged (c : StoreCall) (row : Option Job) : JobEffect id c row row
  | inserted (new : NewJob) (now : Timestamp) (h : new.id = id) :
      JobEffect id (.insertJob new now) none (some (Job.ofNew new now))
  | moved (job : Job) (change : StatusChange) :
      JobEffect id (.transitionJob id job.status change) (some job) (some (job.apply change))

namespace MemoryStore

/-- A call does to the row of every job what it may. -/
theorem jobEffect (s : MemoryStore) (c : StoreCall) (id : String) :
    JobEffect id c (s.jobs.get? id) ((s.perform c).2.jobs.get? id) := by
  unfold perform
  by_cases hdown : s.isUnavailable = true
  · rw [if_pos hdown]
    exact .unchanged c _
  rw [if_neg hdown]
  cases c with
  | insertJob new now =>
    cases hrow : s.jobs.get? new.id with
    | some job =>
      simp only [hrow]
      exact .unchanged _ _
    | none =>
      simp only [hrow, Table.get?_put]
      by_cases hid : new.id = id
      · rw [if_pos hid, ← hid, hrow]
        exact .inserted new now rfl
      · rw [if_neg hid]
        exact .unchanged _ _
  | transitionJob moved source change =>
    cases hrow : s.jobs.get? moved with
    | none =>
      simp only [hrow]
      exact .unchanged _ _
    | some job =>
      simp only [hrow]
      by_cases hstatus : job.status = source
      · simp only [if_pos hstatus, Table.get?_put]
        by_cases hid : moved = id
        · subst hid hstatus
          rw [if_pos rfl, hrow]
          exact .moved job change
        · rw [if_neg hid]
          exact .unchanged _ _
      · rw [if_neg hstatus]
        exact .unchanged _ _
  | touchProvider wallet =>
    cases hrow : s.providers.get? wallet <;> simp only [hrow] <;> exact .unchanged _ _
  | recordSettlement wallet =>
    cases hrow : s.providers.get? wallet <;> simp only [hrow] <;> exact .unchanged _ _
  | _ => exact .unchanged _ _

/-- Calls that neither insert nor move a job leave every job as it is. -/
lemma jobs_stay (s : MemoryStore) {c : StoreCall} (hinsert : ∀ new now, c ≠ .insertJob new now)
    (hmove : ∀ id source change, c ≠ .transitionJob id source change) (id : String) :
    (s.perform c).2.jobs.get? id = s.jobs.get? id := by
  have heffect := s.jobEffect c id
  generalize (s.perform c).2.jobs.get? id = after at heffect ⊢
  generalize s.jobs.get? id = before at heffect ⊢
  cases heffect with
  | unchanged => rfl
  | inserted new now => exact absurd rfl (hinsert new now)
  | moved job change => exact absurd rfl (hmove _ _ _)

/-- A store inserts a job that has no row, and tells its row; otherwise it fails and stays as it
is. -/
lemma insertJob_cases (s : MemoryStore) (new : NewJob) (now : Timestamp) :
    (s.jobs.get? new.id = none ∧ s.perform (.insertJob new now) =
      (.ok (Job.ofNew new now), { s with jobs := s.jobs.put new.id (Job.ofNew new now) })) ∨
      ∃ e, s.perform (.insertJob new now) = (.error e, s) := by
  unfold perform
  by_cases hdown : s.isUnavailable = true
  · rw [if_pos hdown]
    exact Or.inr ⟨_, rfl⟩
  rw [if_neg hdown]
  cases hrow : s.jobs.get? new.id with
  | none =>
    refine Or.inl ⟨rfl, ?_⟩
    simp only [hrow]
  | some job =>
    simp only [hrow]
    exact Or.inr ⟨_, rfl⟩

/-- A job that has been inserted has its row. -/
lemma of_insertJob {s : MemoryStore} {new : NewJob} {now : Timestamp} {job : Job}
    (h : (s.perform (.insertJob new now)).1 = .ok job) :
    job = Job.ofNew new now ∧ (s.perform (.insertJob new now)).2.jobs.get? job.id = some job := by
  rcases s.insertJob_cases new now with ⟨-, hperform⟩ | ⟨e, hperform⟩
  · rw [hperform] at h ⊢
    obtain rfl : Job.ofNew new now = job := Except.ok.inj h
    refine ⟨rfl, ?_⟩
    rw [Table.get?_put]
    exact if_pos rfl
  · rw [hperform] at h
    cases h

/-- A store tells the row of a job, unless it fails, and stays as it is. -/
lemma getJob_cases (s : MemoryStore) (id : String) :
    s.perform (.getJob id) = (.ok (s.jobs.get? id), s) ∨
      ∃ e, s.perform (.getJob id) = (.error e, s) := by
  unfold perform
  by_cases hdown : s.isUnavailable = true
  · rw [if_pos hdown]
    exact Or.inr ⟨_, rfl⟩
  · rw [if_neg hdown]
    exact Or.inl rfl

/-- A job that has been read has its row. -/
lemma of_getJob {s : MemoryStore} {id : String} {row : Option Job}
    (h : (s.perform (.getJob id)).1 = .ok row) :
    row = s.jobs.get? id ∧ (s.perform (.getJob id)).2 = s := by
  rcases s.getJob_cases id with hperform | ⟨e, hperform⟩
  · rw [hperform] at h ⊢
    exact ⟨(Except.ok.inj h).symm, rfl⟩
  · rw [hperform] at h
    cases h

/-- A store moves a job that has the status asked for, and tells the row that it then has; otherwise
it tells no row and stays as it is. -/
lemma transitionJob_cases (s : MemoryStore) (moved : String) (source : JobStatus)
    (change : StatusChange) :
    (∃ job, s.jobs.get? moved = some job ∧ job.status = source ∧
      s.perform (.transitionJob moved source change) =
        (.ok (some (job.apply change)), { s with jobs := s.jobs.put moved (job.apply change) })) ∨
      (∀ job, (s.perform (.transitionJob moved source change)).1 ≠ .ok (some job)) ∧
        (s.perform (.transitionJob moved source change)).2 = s := by
  unfold perform
  by_cases hdown : s.isUnavailable = true
  · rw [if_pos hdown]
    exact Or.inr ⟨by simp, rfl⟩
  rw [if_neg hdown]
  cases hrow : s.jobs.get? moved with
  | none => exact Or.inr ⟨by simp [hrow], by simp only [hrow]⟩
  | some job =>
    simp only [hrow]
    by_cases hstatus : job.status = source
    · simp only [if_pos hstatus]
      exact Or.inl ⟨job, rfl, hstatus, rfl⟩
    · rw [if_neg hstatus]
      exact Or.inr ⟨by simp, rfl⟩

/-- A store moves a job from the status that it has, unless it fails. -/
lemma transitionJob_of_row {s : MemoryStore} {moved : String} {job : Job}
    (hrow : s.jobs.get? moved = some job) (change : StatusChange) :
    s.perform (.transitionJob moved job.status change) =
        (.ok (some (job.apply change)), { s with jobs := s.jobs.put moved (job.apply change) }) ∨
      ∃ e, s.perform (.transitionJob moved job.status change) = (.error e, s) := by
  unfold perform
  by_cases hdown : s.isUnavailable = true
  · rw [if_pos hdown]
    exact Or.inr ⟨_, rfl⟩
  · rw [if_neg hdown]
    refine Or.inl ?_
    simp only [hrow, if_true]

/-- A store that moves a job tells so, and otherwise leaves every job as it is. -/
lemma of_transitionJob (s : MemoryStore) (moved : String) (source : JobStatus)
    (change : StatusChange) :
    (∃ job, s.jobs.get? moved = some job ∧ job.status = source ∧
      (s.perform (.transitionJob moved source change)).1 = .ok (some (job.apply change))) ∨
      (s.perform (.transitionJob moved source change)).2.jobs = s.jobs := by
  rcases s.transitionJob_cases moved source change with ⟨job, hrow, hstatus, htold⟩ | ⟨-, hsame⟩
  · exact Or.inl ⟨job, hrow, hstatus, by rw [htold]⟩
  · exact Or.inr (by rw [hsame])

end MemoryStore

end ComputeExchange
