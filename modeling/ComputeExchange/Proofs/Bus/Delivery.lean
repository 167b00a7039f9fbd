import ComputeExchange.Proofs.Bus.Calls

/-!
# What a subscription gets

A subscription that is not given up gets the messages that are published after it was opened and
whose subjects match its pattern, each once and in order: of these, some have been taken and the
others wait (`MemoryBus.holds_of_opened`).  A publish that is refused, and so a request that is,
adds nothing anywhere (`MemoryBus.delivered_once_in_order`).
-/

namespace ComputeExchange

open Program Protocol

namespace MemoryBus

variable {bus bus' : MemoryBus} {id : Nat} {pattern : String} {waiting : List Message}
  {t : BusTrace}

/-! ### Any number of calls -/

/-- The ids of subscriptions have been given before, at any moment. -/
lemma numbered_of_served (h : Served Serves bus t bus') (hnumbered : bus.Numbered) :
    bus'.Numbered := by
  induction h with
  | nil => exact hnumbered
  | cons hserves _ ih => exact ih (hserves.numbered hnumbered)

/-- The log of a bus is what has been published. -/
lemma published_of_served (h : Served Serves bus t bus') :
    bus'.published = bus.published ++ sent t := by
  induction h with
  | nil => exact (List.append_nil _).symm
  | cons hserves _ ih => rw [ih, hserves.published, sent_cons, List.append_assoc]

/-- A bus goes on refusing or accepting what is published if no call makes it change that. -/
lemma isRefusing_of_served (h : Served Serves bus t bus')
    (hkept : ∀ e ∈ t, ∀ value, e.1 ≠ .refuse value) : bus'.isRefusing = bus.isRefusing := by
  induction h with
  | nil => rfl
  | cons hserves _ ih =>
    rw [List.forall_mem_cons] at hkept
    exact (ih hkept.2).trans (hserves.isRefusing hkept.1)

/-- As long as a subscription is not given up, what is taken from it and what waits in it are, one
after the other, what has waited before and what is published, as far as it matches. -/
theorem holds_of_served (h : Served Serves bus t bus') (hnumbered : bus.Numbered)
    (hholds : bus.Holds id pattern waiting)
    (hkept : (⟨.unsubscribe id, ()⟩ : Event BusCall.Answer) ∉ t) :
    ∃ waiting', bus'.Holds id pattern waiting' ∧
      taken id t ++ waiting' = waiting ++ (sent t).filter (Subject.isMatch pattern ·.subject) := by
  induction h generalizing waiting with
  | nil => exact ⟨waiting, hholds, (List.append_nil _).symm⟩
  | @cons w w' w'' q answer t hserves _ ih =>
    rw [List.mem_cons, not_or] at hkept
    have hcall : q ≠ .unsubscribe id := by
      rintro rfl
      exact hkept.1 rfl
    obtain ⟨waiting₁, hholds₁, heq₁⟩ := hserves.holds hnumbered hholds hcall
    obtain ⟨waiting', hholds', heq'⟩ := ih (hserves.numbered hnumbered) hholds₁ hkept.2
    refine ⟨waiting', hholds', ?_⟩
    rw [taken_cons, List.append_assoc, heq', ← List.append_assoc, heq₁, sent_cons,
      List.filter_append, List.append_assoc]

/-- Since a subscription was opened and as long as it is not given up, what is taken from it and
what waits in it are, one after the other, what is published, as far as it matches. -/
theorem holds_of_opened {before after : BusTrace}
    (h : Served Serves .empty (before ++ ⟨.subscribe pattern, id⟩ :: after) bus)
    (hkept : (⟨.unsubscribe id, ()⟩ : Event BusCall.Answer) ∉ after) :
    ∃ opened waiting, Served Serves .empty before opened ∧
      bus.published = opened.published ++ sent after ∧ bus.Holds id pattern waiting ∧
      taken id after ++ waiting = (sent after).filter (Subject.isMatch pattern ·.subject) := by
  obtain ⟨opened, hbefore, hrest⟩ := h.of_append
  have hnumbered : opened.Numbered := numbered_of_served hbefore fun s hs => nomatch hs
  cases hrest with
  | cons hserves hafter =>
    have hnumbered' := hserves.numbered hnumbered
    obtain ⟨waiting, hholds, heq⟩ :=
      holds_of_served hafter hnumbered' (hserves.holds_opened hnumbered) hkept
    refine ⟨opened, waiting, hbefore, ?_, hholds, heq⟩
    rw [published_of_served hafter, hserves.published]
    exact congrArg (· ++ _) (List.append_nil _)

/-- A message that is taken from a subscription that has not been given up matches its pattern. -/
lemma isMatch_of_taken {before after : BusTrace} {message : Message}
    (h : Served Serves .empty (before ++ ⟨.take id, some message⟩ :: after) bus)
    (hopened : (⟨.subscribe pattern, id⟩ : Event BusCall.Answer) ∈ before)
    (hkept : (⟨.unsubscribe id, ()⟩ : Event BusCall.Answer) ∉ before) :
    Subject.isMatch pattern message.subject = true := by
  obtain ⟨bus₁, hbefore, hafter⟩ := h.of_append
  obtain ⟨unopened, since, rfl⟩ := List.append_of_mem hopened
  obtain ⟨opened, waiting, -, -, hholds, heq⟩ :=
    holds_of_opened hbefore fun hmem => hkept (by simp [hmem])
  cases hafter with
  | cons hserves _ =>
    have hhead : waiting.head? = some message := (hserves.taken_eq hholds).symm
    have hmem : message ∈ taken id since ++ waiting :=
      List.mem_append_right _ (List.mem_of_head? hhead)
    rw [heq] at hmem
    exact (List.mem_filter.mp hmem).2

/-- The calls of a publish or a request that fails because it is refused. -/
inductive IsRefused : BusTrace → Prop where
  | publish {subject refused : String} {payload : Payload} {cause : Cause} {t : BusTrace}
      (h : Runs (BusAccess.asking.publish subject payload) t (.error (.publish refused cause))) :
      IsRefused t
  | request {subject refused : String} {payload : Payload} {wait : Nat} {cause : Cause}
      {t : BusTrace}
      (h : Runs (BusAccess.asking.request subject payload wait) t
        (.error (.publish refused cause))) :
      IsRefused t

/-- Nothing is published by what is refused. -/
lemma IsRefused.sentBy_eq_none (h : IsRefused t) : ∀ e ∈ t, sentBy e = none := by
  cases h with
  | publish h =>
    obtain ⟨answer, rest, rfl, hrest⟩ := runs_call.mp h
    obtain ⟨rfl, heq⟩ := runs_pure.mp hrest
    cases answer with
    | error e => exact List.forall_mem_singleton.mpr rfl
    | ok heard => cases heq
  | request h =>
    have hasked := asked_of_runs_request h
    cases hasked with
    | refused inbox id e => simp [sentBy]

/-- At every moment, what has been taken from a subscription that was opened and not given up since,
and what waits in it, are together the messages that have been added to the log since it was opened
and match its pattern, each once and in order; and no call of what is refused adds anything to the
log or to any subscription. -/
theorem delivered_once_in_order {log : BusTrace} {bus : MemoryBus}
    (h : Served Serves .empty log bus) :
    (∀ before after pattern id, log = before ++ ⟨.subscribe pattern, id⟩ :: after →
      (⟨.unsubscribe id, ()⟩ : Event BusCall.Answer) ∉ after →
      ∃ opened later waiting, Served Serves .empty before opened ∧
        bus.published = opened.published ++ later ∧ bus.Holds id pattern waiting ∧
        taken id after ++ waiting = later.filter (Subject.isMatch pattern ·.subject)) ∧
    ∀ t, IsRefused t → ∀ e ∈ t, ∀ w w' : MemoryBus, w.Serves e.1 e.2 w' → w.AddsNothing w' := by
  refine ⟨?_, fun t ht e he w w' hserves => hserves.addsNothing (ht.sentBy_eq_none e he)⟩
  rintro before after pattern id rfl hkept
  obtain ⟨opened, waiting, hbefore, hpublished, hholds, heq⟩ := holds_of_opened h hkept
  exact ⟨opened, sent after, waiting, hbefore, hpublished, hholds, heq⟩

/-- The call of a publish that is refused. -/
def refusedPublish : BusTrace :=
  [⟨.publish ⟨"jobs.b", none, default⟩, .error (.publish "jobs.b" (.ofText "bus unavailable"))⟩]

/-- Three messages to a subscription of all jobs and one of a single job: the second is refused, and
one of the others is taken. -/
def threePublishes : BusTrace :=
  [⟨.subscribe "jobs.>", 0⟩, ⟨.subscribe "jobs.a", 1⟩, ⟨.publish ⟨"jobs.a", none, default⟩, .ok 2⟩,
    ⟨.take 0, some ⟨"jobs.a", none, default⟩⟩, ⟨.refuse true, ()⟩] ++ refusedPublish ++
    [⟨.refuse false, ()⟩, ⟨.publish ⟨"jobs.c", none, default⟩, .ok 1⟩]

/-- The subscription of all jobs gets the first and the third message, and the second one, which is
refused, adds nothing to the bus that it was published on. -/
theorem delivered_around_refusal :
    ∃ bus, Served Serves .empty threePublishes bus ∧
      (∃ opened later waiting, Served Serves .empty [] opened ∧
        bus.published = opened.published ++ later ∧ bus.Holds 0 "jobs.>" waiting ∧
        ⟨"jobs.a", none, default⟩ :: waiting =
          later.filter (Subject.isMatch "jobs.>" ·.subject)) ∧
      ∃ w w', Served Serves .empty (threePublishes.take 5) w ∧ Served Serves w refusedPublish w' ∧
        w.AddsNothing w' := by
  have hserved : ∃ bus, Served Serves .empty threePublishes bus :=
    ⟨_, .cons rfl (.cons rfl (.cons rfl (.cons rfl (.cons rfl (.cons rfl (.cons rfl (.cons rfl
      (.nil _))))))))⟩
  obtain ⟨bus, hserved⟩ := hserved
  obtain ⟨hdelivered, hrefused⟩ := delivered_once_in_order hserved
  refine ⟨bus, hserved, hdelivered [] _ "jobs.>" 0 rfl (by simp [refusedPublish]), ?_⟩
  have hpublish : IsRefused refusedPublish := .publish (.call _ (.here _))
  obtain ⟨w', hupto, -⟩ := hserved.of_append
  obtain ⟨w, hbefore, hpublished⟩ := hupto.of_append
  exact ⟨w, w', hbefore, hpublished,
    hrefused _ hpublish _ (List.mem_singleton_self _) w w' hpublished.of_singleton⟩

end MemoryBus

end ComputeExchange
