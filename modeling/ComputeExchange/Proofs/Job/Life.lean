import ComputeExchange.Job.Basic
import ComputeExchange.Proofs.Time.Order

/-!
# The life of a job

`Job.Follows` is one move of a job along the graph of `JobStatus.canMoveTo`.  The rows that a job
goes through when it is created and then only moves this way make up a `Job.Life`:
`Job.life_of_follows` says that the stamps tell which statuses it has been in, that what was asked
for never changes, and that an end is an end.
-/

namespace ComputeExchange

/-- How far a job has come in a status. -/
def JobStatus.rank : JobStatus → Nat
  | created => 0
  | assigned => 1
  | running => 2
  | completed => 3
  | failed => 3
  | cancelled => 3

/-- Every move leads further. -/
lemma JobStatus.rank_lt {s t : JobStatus} (h : s.canMoveTo t = true) : s.rank < t.rank := by
  cases s <;> cases t <;> first | decide | cases h

/-- A job becomes assigned only when it has just been created. -/
lemma JobStatus.eq_created {s : JobStatus} (h : s.canMoveTo .assigned = true) : s = .created := by
  cases s <;> first | rfl | cases h

/-- No move leads on from a job that has ended. -/
lemma JobStatus.not_ended {s t : JobStatus} (h : s.canMoveTo t = true) :
    s ≠ .completed ∧ s ≠ .failed ∧ s ≠ .cancelled := by
  cases s <;> first | decide | cases h

namespace Job

/-- What was asked for when a job was created, and when. -/
def terms (job : Job) : NewJob × Timestamp :=
  (⟨job.id, job.renter, job.provider, job.dockerImage, job.inputCid, job.payment⟩, job.createdAt)

/-- Whether a job has been created, and assigned if at all, at an instant or before. -/
def StampedBy (job : Job) (t : Timestamp) : Prop :=
  job.createdAt ≤ t ∧ ∀ t', job.assignedAt = some t' → t' ≤ t

/-- A job moves to another row by a change along the graph.  If the clock is `steady`, then the
change is not stamped before what the row was stamped with. -/
def Follows (steady : Prop) (job job' : Job) : Prop :=
  ∃ change : StatusChange, job.status.canMoveTo change.status = true ∧ job' = job.apply change ∧
    (steady → job.StampedBy change.at_)

/-- The stamps of a job are in order. -/
structure Ordered (job : Job) : Prop where
  assigned : ∀ t, job.assignedAt = some t → job.createdAt ≤ t
  ended : ∀ t, job.completedAt = some t ∨ job.failedAt = some t → job.StampedBy t

/-- The rows that a job has gone through, from its creation on. -/
structure Life (rows : List Job) : Prop where
  begins : ∀ job ∈ rows.head?, job.status = .created
  path : rows.IsChain fun job job' => job.status.canMoveTo job'.status = true
  /-- Nothing comes after an end. -/
  ends : ∀ before job after, rows = before ++ job :: after → job.status.isTerminal = true →
    after = []
  terms : ∀ job ∈ rows, ∀ job' ∈ rows, job.terms = job'.terms
  /-- The job has the stamp of its assignment exactly if it has been assigned. -/
  assigned : ∀ before job after, rows = before ++ job :: after →
    (job.assignedAt.isSome ↔
      [.created, .assigned] <:+: (before ++ [job]).map (·.status)) ∧
    ∀ t, job.assignedAt = some t → ∀ job' ∈ after, job'.assignedAt = some t
  completed : ∀ job ∈ rows, job.completedAt.isSome ↔ job.status = .completed
  failed : ∀ job ∈ rows, job.failedAt.isSome ↔ job.status = .failed ∨ job.status = .cancelled

/-! ### One row -/

/-- What is known of the last of the rows that a job has gone through. -/
structure Moment (steady : Prop) (rows : List Job) (job : Job) : Prop where
  unassigned : job.status = .created → job.assignedAt = none
  assigned : job.assignedAt.isSome ↔ [.created, .assigned] <:+: rows.map (·.status)
  completed : job.completedAt.isSome ↔ job.status = .completed
  failed : job.failedAt.isSome ↔ job.status = .failed ∨ job.status = .cancelled
  ordered : steady → job.Ordered

/-- A job that has just been created. -/
lemma moment_ofNew (steady : Prop) (new : NewJob) (now : Timestamp) :
    Moment steady [ofNew new now] (ofNew new now) := by
  refine ⟨fun _ => rfl, ?_, by simp [ofNew], by simp [ofNew], fun _ => ⟨?_, ?_⟩⟩
  · refine iff_of_false (by simp [ofNew]) fun h => ?_
    have := h.length_le
    simp at this
  · simp [ofNew]
  · simp [ofNew]

/-- A job stamped by an instant is stamped by every later one. -/
lemma StampedBy.trans {job : Job} {t t' : Timestamp} (h : job.StampedBy t) (hle : t ≤ t') :
    job.StampedBy t' :=
  ⟨h.1.trans hle, fun s hs => (h.2 s hs).trans hle⟩

/-- A change that is not stamped before the job is the last of its stamps. -/
lemma StampedBy.apply {job : Job} {change : StatusChange} (h : job.StampedBy change.at_) :
    (job.apply change).StampedBy change.at_ := by
  refine ⟨h.1, fun t ht => ?_⟩
  by_cases ha : change.status = .assigned
  · obtain rfl : change.at_ = t := by simpa [Job.apply, ha] using ht
    exact le_refl _
  · exact h.2 t (by simpa [Job.apply, ha] using ht)

/-- A list of two elements more has both of them for its last two. -/
lemma pair_suffix_iff {α : Type} {a b x y : α} {l : List α} :
    [a, b] <:+ l ++ [x] ++ [y] ↔ a = x ∧ b = y := by
  constructor
  · rintro ⟨t, ht⟩
    rw [List.append_assoc] at ht
    obtain ⟨-, hlast⟩ := List.append_inj' ht rfl
    simpa using hlast
  · rintro ⟨rfl, rfl⟩
    exact ⟨l, by simp⟩

/-- A move tells in the stamps of the next row. -/
lemma Moment.apply {steady : Prop} {rows : List Job} {job job' : Job}
    (h : Moment steady (rows ++ [job]) job) (hfollows : Follows steady job job') :
    Moment steady (rows ++ [job] ++ [job']) job' := by
  obtain ⟨change, hmove, rfl, htime⟩ := hfollows
  have hended := JobStatus.not_ended hmove
  have hcompleted : job.completedAt = none := by
    rw [← Option.not_isSome_iff_eq_none, h.completed]
    exact hended.1
  have hfailed : job.failedAt = none := by
    rw [← Option.not_isSome_iff_eq_none, h.failed]
    exact not_or.mpr hended.2
  refine ⟨?_, ?_, ?_, ?_, fun hsteady => ⟨?_, ?_⟩⟩
  · intro hcreated
    change change.status = .created at hcreated
    rw [hcreated] at hmove
    cases hstatus : job.status <;> rw [hstatus] at hmove <;> cases hmove
  · rw [List.map_append, List.map_append, List.map_singleton, List.map_singleton,
      List.infix_concat_iff, pair_suffix_iff, ← List.map_singleton, ← List.map_append, ← h.assigned]
    by_cases ha : change.status = .assigned
    · rw [ha] at hmove
      simp [Job.apply, ha, JobStatus.eq_created hmove]
    · simp [Job.apply, ha, Ne.symm ha]
  · by_cases hc : change.status = .completed <;> simp [Job.apply, hc, hcompleted]
  · by_cases hc : change.status = .failed ∨ change.status = .cancelled <;>
      simp [Job.apply, hc, hfailed]
  · intro t ht
    by_cases ha : change.status = .assigned
    · obtain rfl : change.at_ = t := by simpa [Job.apply, ha] using ht
      exact (htime hsteady).1
    · exact (h.ordered hsteady).assigned t (by simpa [Job.apply, ha] using ht)
  · intro t ht
    have hstamp : change.at_ = t := by
      rcases ht with ht | ht
      · by_cases hc : change.status = .completed
        · simpa [Job.apply, hc] using ht
        · simp [Job.apply, hc, hcompleted] at ht
      · by_cases hc : change.status = .failed ∨ change.status = .cancelled
        · simpa [Job.apply, hc] using ht
        · simp [Job.apply, hc, hfailed] at ht
    subst hstamp
    exact (htime hsteady).apply

/-! ### All rows -/

variable {steady : Prop} {rows : List Job} {new : NewJob} {now : Timestamp}

/-- What is known of each of the rows that a job has gone through. -/
lemma moment_of_follows (hhead : rows.head? = some (ofNew new now))
    (hchain : rows.IsChain (Follows steady)) {before : List Job} {job : Job} {after : List Job}
    (hrows : rows = before ++ job :: after) : Moment steady (before ++ [job]) job := by
  induction before using List.reverseRecOn generalizing job after with
  | nil =>
    subst hrows
    obtain rfl : job = ofNew new now := by simpa using hhead
    exact moment_ofNew steady new now
  | append_singleton before previous ih =>
    rw [List.append_assoc, List.singleton_append] at hrows
    subst hrows
    have hfollows : Follows steady previous job := (List.isChain_append_cons_cons.mp hchain).2.1
    exact (ih rfl).apply hfollows

/-- What was asked for stays the same in a move. -/
lemma Follows.terms_eq {job job' : Job} (h : Follows steady job job') : job.terms = job'.terms := by
  obtain ⟨change, -, rfl, -⟩ := h
  rfl

/-- What was asked for stays the same in every later row. -/
lemma terms_of_follows {job : Job} {after : List Job}
    (hchain : (job :: after).IsChain (Follows steady)) :
    ∀ job' ∈ after, job.terms = job'.terms := by
  induction after generalizing job with
  | nil => simp
  | cons following after ih =>
    obtain ⟨hfollows, hrest⟩ := List.isChain_cons_cons.mp hchain
    refine List.forall_mem_cons.mpr ⟨hfollows.terms_eq, fun job' hjob' => ?_⟩
    exact hfollows.terms_eq.trans (ih hrest job' hjob')

/-- The stamp of the assignment stays in every later row. -/
lemma assignedAt_of_follows (hhead : rows.head? = some (ofNew new now))
    (hchain : rows.IsChain (Follows steady)) {before : List Job} {job : Job} {after : List Job}
    (hrows : rows = before ++ job :: after) {t : Timestamp} (ht : job.assignedAt = some t) :
    ∀ job' ∈ after, job'.assignedAt = some t := by
  induction after generalizing before job with
  | nil => simp
  | cons following after ih =>
    have hmoment := moment_of_follows hhead hchain hrows
    have hfollows : Follows steady job following := by
      rw [hrows] at hchain
      exact (List.isChain_append_cons_cons.mp hchain).2.1
    obtain ⟨change, hmove, hfollowing, -⟩ := hfollows
    have hne : change.status ≠ .assigned := by
      intro ha
      rw [ha] at hmove
      rw [hmoment.unassigned (JobStatus.eq_created hmove)] at ht
      cases ht
    have hstamp : following.assignedAt = some t := by
      rw [hfollowing]
      simp [Job.apply, hne, ht]
    have hlater : rows = before ++ [job] ++ following :: after := by simpa using hrows
    exact List.forall_mem_cons.mpr ⟨hstamp, ih hlater hstamp⟩

/-- A job that has not been created has no rows. -/
lemma life_nil : Life [] :=
  ⟨by simp, .nil, by simp, by simp, by simp, by simp, by simp⟩

/-- The rows that a job goes through, when it is created and then only moves along the graph, make
up a life; if the clock is steady, its stamps are in order. -/
theorem life_of_follows (hhead : rows.head? = some (ofNew new now))
    (hchain : rows.IsChain (Follows steady)) :
    Life rows ∧ (steady → ∀ job ∈ rows, job.Ordered) := by
  have hmoment : ∀ job ∈ rows, ∃ before, Moment steady (before ++ [job]) job := by
    intro job hjob
    obtain ⟨before, after, hrows⟩ := List.append_of_mem hjob
    exact ⟨before, moment_of_follows hhead hchain hrows⟩
  refine ⟨⟨?_, ?_, ?_, ?_, ?_, ?_, ?_⟩, ?_⟩
  · intro job hjob
    obtain rfl := Option.some.inj (hhead.symm.trans hjob)
    rfl
  · refine hchain.imp fun job job' hfollows => ?_
    obtain ⟨change, hmove, rfl, -⟩ := hfollows
    exact hmove
  · rintro before job (_ | ⟨following, after⟩) rfl hend
    · rfl
    · obtain ⟨change, hmove, -⟩ := (List.isChain_append_cons_cons.mp hchain).2.1
      rw [JobStatus.canMoveTo_eq_false_of_isTerminal hend] at hmove
      cases hmove
  · obtain ⟨rest, rfl⟩ : ∃ rest, rows = ofNew new now :: rest := by
      cases rows with
      | nil => cases hhead
      | cons first rest => exact ⟨rest, by rw [Option.some.inj hhead]⟩
    have hfirst : ∀ job ∈ ofNew new now :: rest, (ofNew new now).terms = job.terms :=
      List.forall_mem_cons.mpr ⟨rfl, terms_of_follows hchain⟩
    exact fun job hjob job' hjob' => (hfirst job hjob).symm.trans (hfirst job' hjob')
  · intro before job after hrows
    exact ⟨(moment_of_follows hhead hchain hrows).assigned,
      fun t ht => assignedAt_of_follows hhead hchain hrows ht⟩
  · intro job hjob
    obtain ⟨before, h⟩ := hmoment job hjob
    exact h.completed
  · intro job hjob
    obtain ⟨before, h⟩ := hmoment job hjob
    exact h.failed
  · intro hsteady job hjob
    obtain ⟨before, h⟩ := hmoment job hjob
    exact h.ordered hsteady

end Job

end ComputeExchange
