import ComputeExchange.Proofs.Dispatch.Delivered
import ComputeExchange.Proofs.Sync.Following
import ComputeExchange.Proofs.Sync.Resolving

/-!
# Taking in jobs from the chain

`Dispatcher.ingesting` is the synchronizer that hands the escrows of the chain to dispatch, and
saves its cursor in the store that the jobs are recorded in.  Its windows are handed out again after
a crash, or if the store has been out of reach.

What makes this harmless is that a job is recorded before it is published and is never recorded
twice: every attempt to publish a job is paid for by a recording of it
(`publish_of_reaches_handle`), and every recording by a row that was not there before
(`recordings_le`).  `ingested_once` says what follows for everything that the processes of the
service ever do, whatever fails and whenever they are broken off.
-/

namespace ComputeExchange

namespace Dispatcher

open Program Protocol Synchronizer

/-- What taking in jobs asks of its surroundings. -/
abbrev IngestAnswer : FollowCall Unit JobEscrowed DispatchCall → Type :=
  FollowCall.Answer Unit JobEscrowed DispatchCall.Answer

/-- The synchronizer that hands the escrows of the chain to dispatch. -/
abbrev ingesting (label : Unit → String) (config : Sync.Config) :
    Synchronizer (Program IngestAnswer) Unit JobEscrowed :=
  following label [()] config asking.handle

/-- How the calls are answered: the cursor is saved beside the jobs, and the clock may show any
time. -/
def Ingests : World → (q : FollowCall Unit JobEscrowed DispatchCall) → IngestAnswer q → World →
    Prop :=
  FollowCall.Serves (fun w c answer w' => World.Serves w (.store c) answer w')
    fun w q answer w' => ∃ wall, World.Serves { w with wall := wall } q answer w'

/-! ### Handling an escrow -/

/-- Whether a call publishes something. -/
def isPublish : DispatchCall → Bool
  | .publish .. => true
  | _ => false

/-- Delivering a job publishes nothing but its assignment, and that first and once. -/
lemma publish_of_reaches_deliver {job : Job} {t : Trace DispatchCall.Answer}
    {rest : Program DispatchCall.Answer (Except DispatchError Job)}
    (h : Reaches (asking.deliver job).run t rest) :
    t = [] ∨ ∃ answer t', t = ⟨publication job, answer⟩ :: t' ∧
      ∀ e ∈ t', isPublish e.1 = false := by
  unfold deliver at h
  by_cases hstatus : job.status ≠ .created
  · rw [if_pos hstatus] at h
    cases h
    exact Or.inl rfl
  rw [if_neg hstatus] at h
  cases h with
  | here => exact Or.inl rfl
  | call answer h =>
    refine Or.inr ⟨answer, _, rfl, ?_⟩
    cases answer with
    | error e =>
      cases h
      simp
    | ok =>
      cases h with
      | here => simp
      | call now h =>
        cases h with
        | here => simp [isPublish]
        | call moved h =>
          rcases moved with e | _ | moved <;> cases h <;> simp [isPublish]

/-- Recording a job publishes nothing. -/
lemma recordJob_publishes_nothing {new : NewJob} {t : Trace DispatchCall.Answer}
    {rest : Program DispatchCall.Answer (Except DispatchError Job)}
    (h : Reaches (asking.recordJob new).run t rest) : ∀ e ∈ t, isPublish e.1 = false := by
  cases h with
  | here => simp
  | call now h =>
    cases h with
    | here => simp [isPublish]
    | call recorded h => cases recorded <;> cases h <;> simp [isPublish]

/-- Handling an escrow publishes nothing but the assignment of the job that it has recorded, once,
right after the recording. -/
lemma publish_of_reaches_handle {event : JobEscrowed} {t : Trace DispatchCall.Answer}
    {rest : Program DispatchCall.Answer (Except HandleError Unit)}
    (h : Reaches (asking.handle event) t rest) :
    (∀ e ∈ t, isPublish e.1 = false) ∨ ∃ now job answer t',
      t = ⟨.clock, now⟩ :: ⟨.store (.insertJob event.job now), .ok job⟩ ::
        ⟨publication job, answer⟩ :: t' ∧ ∀ e ∈ t', isPublish e.1 = false := by
  rcases reaches_bind h with ⟨_, hrecord⟩ | ⟨t₁, r, t₂, rfl, hrecord, hrest⟩
  · exact Or.inl (recordJob_publishes_nothing hrecord)
  rcases runs_recordJob hrecord with ⟨now, e, rfl, rfl⟩ | ⟨now, job, rfl, rfl⟩
  · -- Without a recording nothing more is called.
    obtain rfl : t₂ = [] := by
      cases e <;> cases hrest <;> rfl
    exact Or.inl (by simp [isPublish])
  · have hdeliver : ∃ rest', Reaches (asking.deliver job).run t₂ rest' := by
      rcases reaches_bind hrest with hbroken | ⟨t₃, d, t₄, rfl, hdeliver, hend⟩
      · exact hbroken
      · obtain rfl : t₄ = [] := by
          cases d <;> cases hend <;> rfl
        exact ⟨_, (List.append_nil t₃).symm ▸ hdeliver⟩
    obtain ⟨rest', hdeliver⟩ := hdeliver
    rcases publish_of_reaches_deliver hdeliver with rfl | ⟨answer, t', rfl, hnone⟩
    · exact Or.inl (by simp [isPublish])
    · exact Or.inr ⟨now, job, answer, t', rfl, hnone⟩

/-- An escrow is handled by recording its job, and asks for another try exactly if the store cannot be
reached for that. -/
lemma runs_handle_cases {event : JobEscrowed} {t : Trace DispatchCall.Answer}
    {r : Except HandleError Unit} (h : Runs (asking.handle event) t r) :
    (∃ now e, t = [⟨.clock, now⟩, ⟨.store (.insertJob event.job now), .error e⟩] ∧
      (isSettled r = true ↔ e.isTransient = false)) ∨
    ∃ now job t', t = ⟨.clock, now⟩ :: ⟨.store (.insertJob event.job now), .ok job⟩ :: t' ∧
      isSettled r = true := by
  obtain ⟨t₁, recorded, t₂, rfl, hrecord, hrest⟩ := runs_bind.mp h
  rcases runs_recordJob hrecord with ⟨now, e, rfl, rfl⟩ | ⟨now, job, rfl, rfl⟩
  · have hend : t₂ = [] ∧ (isSettled r = true ↔ e.isTransient = false) := by
      cases e with
      | duplicate | notFound =>
        cases hrest
        exact ⟨rfl, iff_of_true rfl rfl⟩
      | invalid | unavailable | database =>
        cases hrest
        exact ⟨rfl, isSettled_ofStore⟩
    obtain ⟨rfl, hsettled⟩ := hend
    exact Or.inl ⟨now, e, rfl, hsettled⟩
  · refine Or.inr ⟨now, job, t₂, rfl, ?_⟩
    obtain ⟨t₃, delivered, t₄, -, -, hend⟩ := runs_bind.mp hrest
    cases delivered <;> cases hend <;> rfl

/-! ### Recordings and publications -/

/-- Whether a call has recorded a job. -/
def isRecording (id : String) : Event IngestAnswer → Bool
  | ⟨.handling _ (.store (.insertJob new _)), .ok _⟩ => new.id = id
  | _ => false

lemma exists_of_isRecording {id : String} {e : Event IngestAnswer} (h : isRecording id e = true) :
    ∃ event new now job, new.id = id ∧
      e = ⟨.handling event (.store (.insertJob new now)), .ok job⟩ := by
  unfold isRecording at h
  split at h
  · exact ⟨_, _, _, _, of_decide_eq_true h, rfl⟩
  · cases h

/-- Whether a call tries to publish something for a job. -/
def isAttempt (id : String) : Event IngestAnswer → Bool
  | ⟨.handling event q, _⟩ => event.job.id = id && isPublish q
  | _ => false

/-- No more is published for a job than it is recorded. -/
lemma attempts_le_recordings {label : Unit → String} {config : Sync.Config}
    {cursor : Option UInt64} {u : Trace IngestAnswer}
    {rest : Program IngestAnswer (Except SyncError Sync.Outcome × Option UInt64)}
    (h : Reaches ((ingesting label config).poll cursor) u rest) (id : String) :
    u.countP (isAttempt id) ≤ u.countP (isRecording id) := by
  refine forall_of_reaches_poll (P := fun u => u.countP (isAttempt id) ≤ u.countP (isRecording id))
    (le_refl _) (fun u v hu hv => ?_) (fun c answer => ?_) (fun event t rest hreaches => ?_) h
  · rw [List.countP_append, List.countP_append]
    exact Nat.add_le_add hu hv
  · simp [isAttempt]
  · have hnone : ∀ t : Trace DispatchCall.Answer, (∀ e ∈ t, isPublish e.1 = false) →
        (handlingOf Unit event t).countP (isAttempt id) = 0 := by
      intro t ht
      refine List.countP_eq_zero.mpr fun e he => ?_
      obtain ⟨c, hc, rfl⟩ := List.mem_map.mp he
      simp [isAttempt, ht c hc]
    rcases publish_of_reaches_handle hreaches with ht | ⟨now, job, answer, t', rfl, ht⟩
    · rw [hnone t ht]
      exact Nat.zero_le _
    · have hrest := hnone t' ht
      unfold handlingOf at hrest ⊢
      simp only [List.map_cons, List.countP_cons, hrest]
      by_cases hid : event.job.id = id <;> simp [isAttempt, isRecording, isPublish, hid]

/-- Whether all that is published for a job is the assignment of a row that its recording has
told. -/
def PublishesRecorded (u : Trace IngestAnswer) : Prop :=
  ∀ event subject payload answer, ⟨.handling event (.publish subject payload), answer⟩ ∈ u →
    ∃ now job, ⟨.handling event (.store (.insertJob event.job now)), .ok job⟩ ∈ u ∧
      publication job = .publish subject payload

lemma PublishesRecorded.append {u v : Trace IngestAnswer} (hu : PublishesRecorded u)
    (hv : PublishesRecorded v) : PublishesRecorded (u ++ v) := by
  intro event subject payload answer hmem
  rcases List.mem_append.mp hmem with hmem | hmem
  · obtain ⟨now, job, hrecording, hjob⟩ := hu event subject payload answer hmem
    exact ⟨now, job, List.mem_append_left v hrecording, hjob⟩
  · obtain ⟨now, job, hrecording, hjob⟩ := hv event subject payload answer hmem
    exact ⟨now, job, List.mem_append_right u hrecording, hjob⟩

/-- Handling an escrow publishes the row that its recording has told. -/
lemma publishesRecorded_of_handle {event : JobEscrowed} {t : Trace DispatchCall.Answer}
    {rest : Program DispatchCall.Answer (Except HandleError Unit)}
    (h : Reaches (asking.handle event) t rest) : PublishesRecorded (handlingOf Unit event t) := by
  intro event' subject payload answer hmem
  obtain ⟨rfl, hcall⟩ := mem_handlingOf.mp hmem
  rcases publish_of_reaches_handle h with ht | ⟨now, job, answer', t', rfl, ht⟩
  · exact absurd (ht _ hcall) (by simp [isPublish])
  · refine ⟨now, job, mem_handlingOf.mpr ⟨rfl, by simp⟩, ?_⟩
    have hlater : (⟨.publish subject payload, answer⟩ : Event DispatchCall.Answer) ∉ t' :=
      fun hmem => absurd (ht _ hmem) (by simp [isPublish])
    have hheads : (⟨.publish subject payload, answer⟩ : Event DispatchCall.Answer) =
        ⟨publication job, answer'⟩ := by
      simpa [hlater] using hcall
    exact (congrArg Sigma.fst hheads).symm

/-- All that passes publish for a job is the assignment of a row that its recording has told. -/
lemma publishesRecorded_of_poll {label : Unit → String} {config : Sync.Config}
    {cursor : Option UInt64} {u : Trace IngestAnswer}
    {rest : Program IngestAnswer (Except SyncError Sync.Outcome × Option UInt64)}
    (h : Reaches ((ingesting label config).poll cursor) u rest) : PublishesRecorded u :=
  forall_of_reaches_poll (by simp [PublishesRecorded]) (fun _ _ => .append)
    (by simp [PublishesRecorded]) (fun _ _ _ => publishesRecorded_of_handle) h

/-! ### Rows -/

/-- Rows stay. -/
lemma World.Serves.isSome_le {w w' : World} {q : DispatchCall} {answer : q.Answer}
    (h : World.Serves w q answer w') (id : String) :
    (w.job? id).isSome.toNat ≤ (w'.job? id).isSome.toNat := by
  cases hrow : w.job? id with
  | none => exact Nat.zero_le _
  | some row =>
    obtain ⟨row', hrow', -⟩ := h.row_stays hrow
    rw [hrow']
    exact le_refl _

/-- Calls leave rows. -/
lemma Ingests.isSome_le {w w' : World} {q : FollowCall Unit JobEscrowed DispatchCall}
    {answer : IngestAnswer q} (h : Ingests w q answer w') (id : String) :
    (w.job? id).isSome.toNat ≤ (w'.job? id).isSome.toNat := by
  cases h with
  | store h => exact h.isSome_le id
  | sync => exact le_refl _
  | handling event h =>
    obtain ⟨wall, h⟩ := h
    exact h.isSome_le id

/-- A recording is paid for by a row that was not there before. -/
lemma Ingests.recording_le {w w' : World} {q : FollowCall Unit JobEscrowed DispatchCall}
    {answer : IngestAnswer q} (h : Ingests w q answer w') (id : String) :
    (isRecording id ⟨q, answer⟩).toNat + (w.job? id).isSome.toNat ≤
      (w'.job? id).isSome.toNat := by
  by_cases hrecording : isRecording id ⟨q, answer⟩ = true
  · obtain ⟨event, new, now, job, rfl, hcall⟩ := exists_of_isRecording hrecording
    cases hcall
    obtain ⟨wall, h⟩ := h.of_handling
    obtain ⟨hnone, hsome, -⟩ := h.recorded
    have hnone : w.job? new.id = none := hnone
    rw [hrecording, hnone, hsome]
    rfl
  · rw [Bool.not_eq_true] at hrecording
    rw [hrecording]
    exact (Nat.zero_add _).trans_le (h.isSome_le id)

/-- Every recording is paid for by a row. -/
lemma recordings_le {w w' : World} {u : Trace IngestAnswer} (h : Served Ingests w u w')
    (id : String) :
    u.countP (isRecording id) + (w.job? id).isSome.toNat ≤ (w'.job? id).isSome.toNat := by
  induction h with
  | nil => exact (Nat.zero_add _).le
  | @cons w w₁ w₂ q answer u hserves _ ih =>
    have hstep := hserves.recording_le id
    rw [List.countP_cons]
    cases hrecording : isRecording id ⟨q, answer⟩ with
    | false =>
      rw [hrecording, Bool.toNat_false] at hstep
      rw [if_neg Bool.false_ne_true]
      omega
    | true =>
      rw [hrecording, Bool.toNat_true] at hstep
      rw [if_pos rfl]
      omega

/-! ### Retries -/

/-- An escrow that asks for another try has found the store out of reach and left everything as it
was, and nothing has been tried to be published. -/
lemma nothing_of_retry {event : JobEscrowed} {t : Trace DispatchCall.Answer} {cause : Cause}
    (h : Runs (asking.handle event) t (.error (.retry cause))) :
    (∃ now e, ⟨.store (.insertJob event.job now), .error e⟩ ∈ t ∧ e.IsOutage) ∧
    (∀ e ∈ t, isPublish e.1 = false) ∧ ∀ w w', Served Ingests w (handlingOf Unit event t) w' →
      w'.store = w.store ∧ w'.published = w.published := by
  rcases runs_handle_cases h with ⟨now, e, rfl, hsettled⟩ | ⟨now, job, t', -, hsettled⟩
  · have houtage : e.IsOutage := by
      rw [← StoreError.isTransient_iff, ← Bool.not_eq_false, ← hsettled]
      exact Bool.false_ne_true
    refine ⟨⟨now, e, by simp, houtage⟩, by simp [isPublish], fun w w' hserved => ?_⟩
    obtain ⟨w₁, hclock, hrefused⟩ := Served.of_concat (t := [_]) hserved
    obtain ⟨wall, hclock⟩ := hclock.of_singleton.of_handling
    obtain ⟨wall', hrefused⟩ := hrefused.of_handling
    obtain rfl := hrefused.unrecorded
    cases hclock
    exact ⟨rfl, rfl⟩
  · cases hsettled

/-! ### All that is ever done -/

variable {label : Unit → String} {config : Sync.Config} {first w : World}
  {us : List (Trace IngestAnswer)} {process : Option (Option UInt64)}

section

variable (h : Lives (ingesting label config) Ingests first us w process)
include h

/-- A job is recorded at most once, and has its row then. -/
lemma recordings_le_row (id : String) :
    us.flatten.countP (isRecording id) ≤ (w.job? id).isSome.toNat :=
  (Nat.le_add_right _ _).trans (recordings_le h.served id)

/-- An escrow of a window that has been completed has its row, or has been refused for good. -/
lemma row_or_refusal {u part : Trace IngestAnswer} (hu : u ∈ us)
    {window : Window [()] JobEscrowed} (hpart : part <:+: u)
    (hwork : Expands (ingesting label config).answers window.work part) {event : JobEscrowed}
    (hevent : event ∈ window.batches.flatMap (·.2)) :
    w.job? event.job.id ≠ none ∨
      ∃ now e, ⟨.handling event (.store (.insertJob event.job now)), .error e⟩ ∈ part ∧
        e.isTransient = false := by
  rw [← window.handed] at hevent
  obtain ⟨⟨event, answer⟩, hanswer, rfl⟩ := List.mem_map.mp hevent
  have hcall : (⟨.handle event, answer⟩ : Event _) ∈ window.work :=
    List.mem_append_right _ (List.mem_map_of_mem hanswer)
  obtain ⟨calls, hcalls, hruns⟩ := hwork.exists_part hcall
  obtain ⟨t, hhandle, rfl⟩ := runs_handlingFor.mp hruns
  rcases runs_handle_cases hhandle with ⟨now, e, rfl, hsettled⟩ | ⟨now, job, t', rfl, -⟩
  · exact Or.inr ⟨now, e, hcalls (mem_handlingOf.mpr ⟨rfl, by simp⟩),
      hsettled.mp (window.settled _ hanswer)⟩
  · have hmem : (⟨.handling event (.store (.insertJob event.job now)), .ok job⟩ :
        Event IngestAnswer) ∈ us.flatten :=
      List.mem_flatten.mpr ⟨u, hu, hpart.subset (hcalls (mem_handlingOf.mpr ⟨rfl, by simp⟩))⟩
    have hpos : 0 < us.flatten.countP (isRecording event.job.id) :=
      List.countP_pos_iff.mpr ⟨_, hmem, decide_eq_true rfl⟩
    have hrow := hpos.trans_le (recordings_le_row h event.job.id)
    refine Or.inl fun hnone => ?_
    rw [hnone] at hrow
    exact absurd hrow (lt_irrefl 0)

/-- No more than one attempt is made to publish a job. -/
lemma attempts_le_one (id : String) : us.flatten.countP (isAttempt id) ≤ 1 :=
  calc us.flatten.countP (isAttempt id)
      = (us.map (List.countP (isAttempt id))).sum := List.countP_flatten
    _ ≤ (us.map (List.countP (isRecording id))).sum := by
        refine List.sum_le_sum fun u hu => ?_
        obtain ⟨cursor, rest, hu⟩ := h.reaches u hu
        exact attempts_le_recordings hu id
    _ = us.flatten.countP (isRecording id) := List.countP_flatten.symm
    _ ≤ (w.job? id).isSome.toNat := recordings_le_row h id
    _ ≤ 1 := Bool.toNat_le _

/-- What is published for an escrow is the assignment of its job. -/
lemma publishes_own_assignment {event : JobEscrowed} {subject : String} {payload : Payload}
    {answer : Except BusError Unit}
    (hmem : ⟨.handling event (.publish subject payload), answer⟩ ∈ us.flatten) :
    ∃ now, publication (Job.ofNew event.job now) = .publish subject payload := by
  obtain ⟨u, hu, hmem⟩ := List.mem_flatten.mp hmem
  obtain ⟨cursor, rest, hpoll⟩ := h.reaches u hu
  obtain ⟨now, job, hrecording, hjob⟩ :=
    publishesRecorded_of_poll hpoll event subject payload answer hmem
  obtain ⟨w₁, w₂, hserves⟩ := h.served.exists_of_mem (List.mem_flatten.mpr ⟨u, hu, hrecording⟩)
  obtain ⟨wall, hserves⟩ := hserves.of_handling
  obtain ⟨-, -, rfl⟩ := hserves.recorded
  exact ⟨now, hjob⟩

end

/-- Whatever fails, and wherever the processes of the service are broken off and started again:
every escrow of a window that has been completed has its row, or the store has refused it for good;
no more than one attempt is made to publish a job, and it is its own assignment that is published
then; and an escrow that asks for another try has found the store out of reach and left everything
as it was, and nothing has been tried to be published for it. -/
theorem ingested_once (h : Lives (ingesting label config) Ingests first us w process) :
    (∀ u ∈ us, ∀ (window : Window [()] JobEscrowed) (part : Trace IngestAnswer), part <:+: u →
      Expands (ingesting label config).answers window.work part →
      ∀ event ∈ window.batches.flatMap (·.2), w.job? event.job.id ≠ none ∨
        ∃ now e, ⟨.handling event (.store (.insertJob event.job now)), .error e⟩ ∈ part ∧
          e.isTransient = false) ∧
    (∀ id, us.flatten.countP (isAttempt id) ≤ 1) ∧
    (∀ event subject payload answer,
      ⟨.handling event (.publish subject payload), answer⟩ ∈ us.flatten →
        ∃ now, publication (Job.ofNew event.job now) = .publish subject payload) ∧
    ∀ event cause part, Runs ((ingesting label config).handle event) part (.error (.retry cause)) →
      (∃ now e, ⟨.handling event (.store (.insertJob event.job now)), .error e⟩ ∈ part ∧
        e.IsOutage) ∧
      (∀ id, part.countP (isAttempt id) = 0) ∧ ∀ w₁ w₂, Served Ingests w₁ part w₂ →
        w₂.store = w₁.store ∧ w₂.published = w₁.published := by
  refine ⟨fun u hu window part hpart hwork event hevent => row_or_refusal h hu hpart hwork hevent,
    fun id => attempts_le_one h id,
    fun event subject payload answer hmem => publishes_own_assignment h hmem,
    fun event cause part hrun => ?_⟩
  obtain ⟨t, hhandle, rfl⟩ := runs_handlingFor.mp hrun
  obtain ⟨⟨now, e, hrefused, houtage⟩, hnone, hsame⟩ := nothing_of_retry hhandle
  refine ⟨⟨now, e, mem_handlingOf.mpr ⟨rfl, hrefused⟩, houtage⟩,
    fun id => List.countP_eq_zero.mpr fun e he => ?_, hsame⟩
  obtain ⟨c, hc, rfl⟩ := List.mem_map.mp he
  simp [isAttempt, hnone c hc]

/-- The escrow of the job. -/
def escrow : JobEscrowed := ⟨askedFor, default⟩

/-- The calls that find that the job has been recorded before. -/
def refusedCalls : Trace DispatchCall.Answer :=
  [⟨.clock, default⟩, ⟨.store (.insertJob askedFor default), .error (.duplicate "j")⟩]

/-- How the escrow is answered if its job has been recorded before. -/
def alreadyThere : Except HandleError Unit :=
  .error (.skip (Explained.cause (DispatchError.duplicate "j")))

/-- The window of the escrow when it has been handed out again. -/
def replayedWindow : Window [()] JobEscrowed where
  first := 11
  last := 11
  first_le := by decide
  batches := [((), [escrow])]
  fetched := rfl
  answers := [(escrow, alreadyThere)]
  handed := rfl
  settled := by simp [isSettled, alreadyThere]

/-- The calls of a process that takes the head for its cursor, and is broken off right after it has
published the job of the next block. -/
def brokenOff : Trace IngestAnswer :=
  [⟨.sync (.store (.loadCursor "svc")), .ok none⟩, ⟨.sync .head, .ok 10⟩,
    ⟨.sync (.store (.saveCursor "svc" 10)), .ok ()⟩, ⟨.sync .head, .ok 11⟩,
    ⟨.sync (.tell (.head 11)), ()⟩, ⟨.sync (.fetch () 11 11), .ok [escrow]⟩] ++
    handlingOf Unit escrow (deliveryCalls.take 3)

/-- The calls of the next process, which is handed the escrow again. -/
def startedAgain : Trace IngestAnswer :=
  [⟨.sync (.store (.loadCursor "svc")), .ok (some 10)⟩,
    ⟨.sync (.store (.saveCursor "svc" 10)), .ok ()⟩, ⟨.sync .head, .ok 11⟩,
    ⟨.sync (.tell (.head 11)), ()⟩, ⟨.sync (.fetch () 11 11), .ok [escrow]⟩] ++
    (handlingOf Unit escrow refusedCalls ++ [⟨.sync (.store (.saveCursor "svc" 11)), .ok ()⟩,
      ⟨.sync (.tell (.progress (some 11))), ()⟩])

/-- A process that is broken off right after it has published the job, and one that is handed the
escrow again: the job is published once, and it has its row. -/
theorem ingested_once_after_crash :
    ∃ w process, Lives (ingesting (fun _ => "JobCreated") ⟨"svc", 1, 100, none⟩) Ingests
        idle.world [brokenOff, startedAgain] w process ∧
      (w.job? "j" ≠ none ∨ ∃ now e,
        (⟨.handling escrow (.store (.insertJob askedFor now)), .error e⟩ :
          Event IngestAnswer) ∈ startedAgain ∧ e.isTransient = false) ∧
      [brokenOff, startedAgain].flatten.countP (isAttempt "j") = 1 ∧
      [brokenOff, startedAgain].flatten.countP (isAttempt "j") ≤ 1 := by
  have hhandle : Runs (asking.handle escrow) deliveryCalls (.ok ()) :=
    .call _ (.call _ (.call _ (.call _ (.call _ (.here _)))))
  have hrefuse : Runs (asking.handle escrow) refusedCalls alreadyThere :=
    .call _ (.call _ (.here _))
  have hfind : Runs (ingesting (fun _ => "JobCreated") ⟨"svc", 1, 100, none⟩).resolve
      (brokenOff.take 3) (.ok 10) := .call _ (.call _ (.call _ (.here _)))
  have hfound : Runs (ingesting (fun _ => "JobCreated") ⟨"svc", 1, 100, none⟩).resolve
      (startedAgain.take 2) (.ok 10) := .call _ (.call _ (.here _))
  have hlast : (11 : UInt64) ≠ Clamp.greatest := by decide
  have hfirst : Runs ((ingesting (fun _ => "JobCreated") ⟨"svc", 1, 100, none⟩).poll none)
      (brokenOff ++ (handlingOf Unit escrow (deliveryCalls.drop 3) ++
        [⟨.sync (.store (.saveCursor "svc" 11)), .ok ()⟩,
          ⟨.sync (.tell (.progress (some 11))), ()⟩])) (.ok (.advanced 11 11 1 0), some 11) := by
    refine runs_poll_none_iff.mpr
      (Or.inr ⟨_, 10, _, ?_, hfind, runs_following_block rfl hlast hhandle rfl⟩)
    rfl
  have hsecond : Runs ((ingesting (fun _ => "JobCreated") ⟨"svc", 1, 100, none⟩).poll none)
      startedAgain (.ok (.advanced 11 11 1 1), some 11) := by
    refine runs_poll_none_iff.mpr
      (Or.inr ⟨_, 10, _, ?_, hfound, runs_following_block rfl hlast hrefuse rfl⟩)
    rfl
  obtain ⟨rest, hbroken, -⟩ := hfirst.of_append
  have hserved : Served Ingests idle.world brokenOff _ :=
    .cons (.store (.stored _ _)) (.cons (.sync _ (by simp) _) (.cons (.store (.stored _ _))
      (.cons (.sync _ (by simp) _) (.cons (.sync _ (by simp) _) (.cons (.sync _ (by simp) _)
        (.cons (.handling _ ⟨default, .told _⟩) (.cons (.handling _ ⟨default, .stored _ _⟩)
          (.cons (.handling _ ⟨default, .published _ _ _⟩) (.nil _)))))))))
  have hcrashed := Lives.begins.start.crash hbroken hserved
  have hlives := hcrashed.start.poll hsecond
    (.cons (.store (.stored _ _)) (.cons (.store (.stored _ _)) (.cons (.sync _ (by simp) _)
      (.cons (.sync _ (by simp) _) (.cons (.sync _ (by simp) _)
        (.cons (.handling _ ⟨default, .told _⟩) (.cons (.handling _ ⟨default, .stored _ _⟩)
          (.cons (.store (.stored _ _)) (.cons (.sync _ (by simp) _) (.nil _))))))))))
  obtain ⟨hrow, hattempts, -, -⟩ := ingested_once hlives
  have hexpands : Expands (ingesting (fun _ => "JobCreated") ⟨"svc", 1, 100, none⟩).answers
      replayedWindow.work _ :=
    .cons (runs_ask.mpr rfl) (.cons (runs_handlingFor.mpr ⟨_, hrefuse, rfl⟩) .nil)
  have hpart : (startedAgain.drop 4).take 3 <:+: startedAgain :=
    (List.take_prefix _ _).isInfix.trans (List.drop_suffix _ _).isInfix
  have hescrow : escrow ∈ replayedWindow.batches.flatMap (·.2) := List.mem_singleton_self _
  refine ⟨_, _, hlives, ?_, rfl, hattempts "j"⟩
  rcases hrow startedAgain (by simp) replayedWindow ((startedAgain.drop 4).take 3) hpart hexpands
    escrow hescrow with hrow | ⟨now, e, hmem, htransient⟩
  · exact Or.inl hrow
  · exact Or.inr ⟨now, e, hpart.subset hmem, htransient⟩

end Dispatcher

end ComputeExchange
