import ComputeExchange.Proofs.Health.Monotone
import ComputeExchange.Service.Supervision

/-!
# Tasks that end too early

The watch over the tasks of a service sees them end, one after another and in any order, and sees
the signal at some time.  `Supervision.Watched` tells all that can be seen, with the tracker that is
told of it; the loops of the service tell the same tracker how they fare.

Every task stands in one of two places, with those that have been seen to end or with those that are
awaited, and the tracker lists those that have been seen before the signal.  This is kept by each
event (`Supervision.Tally.step`), and `Supervision.early_exits_reported` reads off what has been
reported, when the tasks are told to stop, and when the watch is over.
-/

namespace ComputeExchange

open Health

namespace SupervisionEvent

/-- The task that has ended, if one has. -/
def task? : SupervisionEvent → Option String
  | ended task _ => some task
  | signal => none

end SupervisionEvent

namespace Supervision

variable {tasks : List String} {es : List SupervisionEvent} {s : Supervision} {t : Tracker}
  {e : SupervisionEvent}

/-! ### What has been seen -/

/-- The tasks that have ended, in order. -/
def joined (es : List SupervisionEvent) : List String := es.filterMap (·.task?)

/-- What is seen before the signal. -/
def beforeSignal (es : List SupervisionEvent) : List SupervisionEvent :=
  es.takeWhile (· ≠ .signal)

lemma joined_append (es es' : List SupervisionEvent) :
    joined (es ++ es') = joined es ++ joined es' := List.filterMap_append

/-- Until the signal comes all is seen before it. -/
lemma beforeSignal_append_of_not_mem (h : SupervisionEvent.signal ∉ es)
    (es' : List SupervisionEvent) : beforeSignal (es ++ es') = es ++ beforeSignal es' :=
  List.takeWhile_append_of_pos fun _ he => decide_eq_true fun hsignal => h (hsignal ▸ he)

lemma beforeSignal_of_not_mem (h : SupervisionEvent.signal ∉ es) : beforeSignal es = es := by
  have happend := beforeSignal_append_of_not_mem h []
  rwa [List.append_nil, show beforeSignal [] = [] from rfl, List.append_nil] at happend

/-- What comes after the signal is not seen before it. -/
lemma beforeSignal_append (h : SupervisionEvent.signal ∈ es) (es' : List SupervisionEvent) :
    beforeSignal (es ++ es') = beforeSignal es := by
  obtain ⟨before, after, rfl⟩ := List.append_of_mem h
  induction before with
  | nil => rfl
  | cons e before ih =>
    simp only [beforeSignal, List.cons_append, List.takeWhile_cons] at ih ⊢
    split
    · exact congrArg _ (ih (by simp))
    · rfl

/-! ### The watch -/

/-- What may be seen next: a task that has not ended can end, and the signal is awaited until it has
come. -/
def Awaits (s : Supervision) : SupervisionEvent → Prop
  | .ended task _ => task ∈ s.running
  | .signal => s.isStopping = false

/-- What the watch over some tasks has seen so far, and where it and the tracker of the service then
stand.  The tracker is told other things meanwhile, but not that a task has stopped. -/
inductive Watched (tasks : List String) (first : Tracker) :
    List SupervisionEvent → Supervision → Tracker → Prop where
  | starts : Watched tasks first [] (.start tasks) first
  | sees {es : List SupervisionEvent} {s : Supervision} {t : Tracker} {e : SupervisionEvent}
      (h : Watched tasks first es s t) (hawaits : s.Awaits e) (now : Timestamp) :
      Watched tasks first (es ++ [e]) (s.step e).1 (t.recordAll ((s.step e).2.map (now, ·)))
  | aside {es : List SupervisionEvent} {s : Supervision} {t : Tracker}
      (h : Watched tasks first es s t) (now : Timestamp) {told : Health.Event}
      (hquiet : Tracker.stopped? told = none) : Watched tasks first es s (t.record now told)

/-- How the watch over some tasks stands with what it has seen. -/
structure Tally (tasks : List String) (es : List SupervisionEvent) (s : Supervision) (t : Tracker) :
    Prop where
  reported : t.failedTasks = joined (beforeSignal es)
  stopping : s.isStopping = true ↔ .signal ∈ es
  once : es.count .signal ≤ 1
  places : (joined es ++ s.running).Perm tasks

/-- A task that ends goes from one place to the other. -/
lemma perm_joined_ended {task : String} {how : TaskEnd}
    (h : (joined es ++ s.running).Perm tasks) (hrunning : task ∈ s.running) :
    (joined (es ++ [.ended task how]) ++ s.running.erase task).Perm tasks := by
  have hmoved : (joined [.ended task how] ++ s.running.erase task).Perm s.running :=
    (List.perm_cons_erase hrunning).symm
  rw [joined_append, List.append_assoc]
  exact (hmoved.append_left _).trans h

/-- Before the signal, the end of a task is told to the tracker. -/
lemma failedTasks_ended (h : s.isStopping = false) (now : Timestamp) (task : String)
    (how : TaskEnd) :
    (t.recordAll ((s.step (.ended task how)).2.map (now, ·))).failedTasks =
      t.failedTasks ++ [task] := by
  simp only [step, h]
  rfl

/-- Once the signal has come, nothing is told to the tracker, and neither is the signal. -/
lemma told_eq_nil (h : s.isStopping = true ∨ e = .signal) : (s.step e).2 = [] := by
  rcases h with h | rfl
  · cases e with
    | ended task how => exact if_pos h
    | signal => rfl
  · rfl

/-- What can be seen next keeps the tally. -/
lemma Tally.step (h : Tally tasks es s t) (hawaits : s.Awaits e) (now : Timestamp) :
    Tally tasks (es ++ [e]) (s.step e).1 (t.recordAll ((s.step e).2.map (now, ·))) := by
  cases e with
  | ended task how =>
    refine ⟨?_, ?_, ?_, perm_joined_ended h.places hawaits⟩
    · by_cases hstopping : s.isStopping = true
      · rw [told_eq_nil (Or.inl hstopping), beforeSignal_append (h.stopping.mp hstopping)]
        exact h.reported
      · have hbefore : SupervisionEvent.signal ∉ es := fun hmem => hstopping (h.stopping.mpr hmem)
        rw [failedTasks_ended (Bool.eq_false_of_not_eq_true hstopping), h.reported,
          beforeSignal_of_not_mem hbefore, beforeSignal_append_of_not_mem hbefore, joined_append]
        rfl
    · simpa [Supervision.step] using h.stopping
    · simpa using h.once
  | signal =>
    have hbefore : SupervisionEvent.signal ∉ es := fun hmem => by
      have hstopping := h.stopping.mpr hmem
      rw [show s.isStopping = false from hawaits] at hstopping
      cases hstopping
    refine ⟨?_, ?_, ?_, ?_⟩
    · rw [told_eq_nil (Or.inr rfl), beforeSignal_append_of_not_mem hbefore, joined_append]
      exact (h.reported.trans (congrArg joined (beforeSignal_of_not_mem hbefore))).trans
        (List.append_nil _).symm
    · simp [Supervision.step]
    · rw [List.count_append, List.count_eq_zero_of_not_mem hbefore]
      simp
    · rw [joined_append]
      simpa [joined, SupervisionEvent.task?, Supervision.step] using h.places

/-- The tally is kept all the time. -/
lemma Watched.tally {first : Tracker} (hfirst : first.failedTasks = [])
    (h : Watched tasks first es s t) : Tally tasks es s t := by
  induction h with
  | starts => exact ⟨hfirst, by simp [start], Nat.zero_le 1, .refl _⟩
  | sees _ hawaits now ih => exact ih.step hawaits now
  | aside _ now hquiet ih =>
    refine ⟨?_, ih.stopping, ih.once, ih.places⟩
    rw [Tracker.failedTasks_record, hquiet]
    exact (List.append_nil _).trans ih.reported

/-- The watch is over once nothing can be seen any more. -/
lemma isOver_iff_awaits : s.isOver = true ↔ ∀ e, ¬ s.Awaits e := by
  rw [isOver, Bool.and_eq_true, List.isEmpty_iff]
  constructor
  · rintro ⟨hstopping, hrunning⟩ e hawaits
    cases e with
    | ended task how =>
      rw [Awaits, hrunning] at hawaits
      cases hawaits
    | signal =>
      rw [Awaits, hstopping] at hawaits
      cases hawaits
  · intro hnone
    refine ⟨Bool.eq_true_of_not_eq_false (hnone .signal), ?_⟩
    exact List.eq_nil_iff_forall_not_mem.mpr fun task => hnone (.ended task .returned)

/-- Whatever the watch over some tasks has seen so far: the tracker lists the tasks that have ended
before the signal, each once and in the order in which they were seen, and none that has ended
later; the tasks have been told to stop if and only if the signal has come, which comes once; every
task either has been seen to end, once, or is awaited; and the watch is over if and only if the
signal has come and all tasks have ended, which is when nothing is awaited any more. -/
theorem early_exits_reported {service : String} {config : Config} {began : Timestamp}
    (h : Watched tasks (.start service config began) es s t) :
    t.failedTasks = joined (beforeSignal es) ∧ t.failedTasks.Subperm tasks ∧
    (s.isStopping = true ↔ .signal ∈ es) ∧ es.count .signal ≤ 1 ∧
    (joined es ++ s.running).Perm tasks ∧
    (s.isOver = true ↔ .signal ∈ es ∧ (joined es).Perm tasks) ∧
    (s.isOver = true ↔ ∀ e, ¬ s.Awaits e) := by
  have htally := h.tally rfl
  refine ⟨htally.reported, ?_, htally.stopping, htally.once, htally.places, ?_, isOver_iff_awaits⟩
  · have hsome : (joined (beforeSignal es)).Sublist (joined es) :=
      (List.takeWhile_sublist _).filterMap _
    rw [htally.reported]
    exact (hsome.trans (List.sublist_append_left _ _)).subperm.trans htally.places.subperm
  · rw [isOver, Bool.and_eq_true, List.isEmpty_iff, htally.stopping]
    refine and_congr_right fun _ => ⟨fun hrunning => ?_, fun hall => ?_⟩
    · simpa [hrunning] using htally.places
    · have hlength := hall.length_eq.trans htally.places.length_eq.symm
      rw [List.length_append] at hlength
      exact List.eq_nil_of_length_eq_zero (by omega)

/-- Two tasks end too early, the one for want of a store and the other in the middle; the last ends
after the signal, and only the two are reported. -/
theorem early_exits_reported_of_two :
    ∃ s t, Watched ["synchronizer", "responder", "sweeper"]
        (.start "registry" (.forRange 100) default)
        [.ended "responder" (.failed (.ofText "store unreachable")),
          .ended "sweeper" (.panicked none), .signal, .ended "synchronizer" .returned] s t ∧
      t.failedTasks = ["responder", "sweeper"] ∧ s.isOver = true := by
  have hstart : Watched ["synchronizer", "responder", "sweeper"]
      (.start "registry" (.forRange 100) default) [] _ _ := .starts
  have hresponder := hstart.sees
    (e := .ended "responder" (.failed (.ofText "store unreachable"))) (by simp [Awaits, start])
    default
  have hpass := hresponder.aside default
    (show Tracker.stopped? (.error "store unreachable") = none from rfl)
  have hsweeper := hpass.sees (e := .ended "sweeper" (.panicked none))
    (by simp [Awaits, step, start]) default
  have hsignal := hsweeper.sees (e := .signal) rfl default
  have hwatched := hsignal.sees (e := .ended "synchronizer" .returned)
    (by simp [Awaits, step, start]) default
  obtain ⟨hreported, -, -, -, -, hover, -⟩ := early_exits_reported hwatched
  exact ⟨_, _, hwatched, hreported.trans rfl, hover.mpr ⟨by decide, by decide⟩⟩

end Supervision

end ComputeExchange
