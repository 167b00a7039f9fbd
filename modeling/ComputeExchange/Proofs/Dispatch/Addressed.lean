import ComputeExchange.Proofs.Bus.Calls
import ComputeExchange.Proofs.Bus.Subjects
import ComputeExchange.Proofs.Bus.Wire
import ComputeExchange.Proofs.Chain.Emitted
import ComputeExchange.Proofs.Dispatch.Assigned
import ComputeExchange.Proofs.Interleaving

/-!
# Who gets an assignment

A dispatcher publishes the assignment of a job on the subject of its provider, and a provider
subscribes to the subject of its own address.  The text of an address is a single token and no
wildcard, and no other address has it, so a subscription to the subject of one address matches that
of another only if they are the same (`Address.isMatch_dispatch`).

`Dispatcher.posting` is the dispatcher on a bus in memory.  The bus and the store are shared: any
others call them in between, in any order.  Of the calls of a job in escrow that is dispatched, only
one is made to the bus, and it puts its message into the subscriptions of the provider of the job
and into no other (`Dispatcher.assignment_reaches_provider_alone`).
-/

namespace ComputeExchange

open Program Protocol

/-! ### The subjects of addresses -/

/-- The text of an address is a single token. -/
lemma Address.dot_notMem_checksummed (a : Address) : '.' ∉ a.checksummed.toList := by
  rw [a.toList_checksummed, List.mem_cons, List.mem_cons, not_or, not_or]
  exact ⟨by decide, by decide, Hex.notMem_spelledDigits rfl⟩

/-- The text of an address is no wildcard. -/
lemma Address.toList_checksummed_ne (a : Address) (c : Char) : a.checksummed.toList ≠ [c] := by
  rw [a.toList_checksummed]
  simp

/-- A subscription to the assignments of an address gets those of no other. -/
theorem Address.isMatch_dispatch {a b : Address} :
    Subject.isMatch (Subject.dispatch a.checksummed) (Subject.dispatch b.checksummed) = true ↔
      a = b := by
  rw [Subject.isMatch_dispatch a.dot_notMem_checksummed (a.toList_checksummed_ne '>')
    (a.toList_checksummed_ne '*'), Subject.dispatch_inj, Address.checksummed_inj, eq_comm]

/-! ### Dispatch on a bus in memory -/

/-- What dispatch asks of its surroundings when its bus is one in memory. -/
inductive PostCall : Type where
  | store (c : StoreCall)
  | bus (c : BusCall)
  | clock

/-- What each call is answered with. -/
abbrev PostCall.Answer : PostCall → Type
  | .store c => Except StoreError c.Answer
  | .bus c => c.Answer
  | .clock => Timestamp

/-- What dispatchers and providers share. -/
structure Post where
  store : MemoryStore
  bus : MemoryBus

namespace Post

/-- How a call may be answered, and what it leaves behind. -/
inductive Serves : Post → (q : PostCall) → q.Answer → Post → Prop where
  | stored (w : Post) (c : StoreCall) :
      Serves w (.store c) (w.store.perform c).1 { w with store := (w.store.perform c).2 }
  | unstored (w : Post) (c : StoreCall) (e : StoreError) : Serves w (.store c) (.error e) w
  | called {w : Post} {c : BusCall} {answer : c.Answer} {bus' : MemoryBus}
      (h : w.bus.Serves c answer bus') : Serves w (.bus c) answer { w with bus := bus' }
  | told (w : Post) (now : Timestamp) : Serves w .clock now w

variable {w w' : Post}

/-- A call to the bus is answered by it. -/
lemma Serves.of_bus {c : BusCall} {answer : c.Answer} (h : Serves w (.bus c) answer w') :
    w.bus.Serves c answer w'.bus := by
  cases h with
  | called h => exact h

/-- Only calls to the bus change it. -/
lemma bus_of_served {t : Trace PostCall.Answer} (h : Served Serves w t w')
    (hnone : ∀ (c : BusCall) (answer : c.Answer),
      (⟨.bus c, answer⟩ : Event PostCall.Answer) ∉ t) : w'.bus = w.bus := by
  induction h with
  | nil => rfl
  | cons hserves _ ih =>
    rw [ih fun c answer hmem => hnone c answer (List.mem_cons_of_mem _ hmem)]
    cases hserves with
    | called => exact absurd List.mem_cons_self (hnone _ _)
    | _ => rfl

/-- A job that is told to be recorded is as it was asked for. -/
lemma job_of_served {t : Trace PostCall.Answer} {new : NewJob} {now : Timestamp} {job : Job}
    (h : Served Serves w t w') (hmem : ⟨.store (.insertJob new now), .ok job⟩ ∈ t) :
    job = Job.ofNew new now := by
  obtain ⟨w₁, w₂, hserves⟩ := h.exists_of_mem hmem
  generalize hanswer : (Except.ok job : Except StoreError Job) = answer at hserves
  cases hserves with
  | stored => exact (MemoryStore.of_insertJob hanswer.symm).1
  | unstored => cases hanswer

end Post

namespace Dispatcher

/-- The dispatcher on a bus in memory. -/
def posting : Dispatcher (Program PostCall.Answer) where
  store := ⟨fun c => ask (A := PostCall.Answer) (.store c)⟩
  bus := BusAccess.bus ⟨fun c => ask (A := PostCall.Answer) (.bus c), fun _ _ => pure ()⟩
  clock := ask (A := PostCall.Answer) .clock

/-- The calls by which a job is recorded. -/
def recording (new : NewJob) (now : Timestamp) (job : Job) : Trace PostCall.Answer :=
  [⟨.clock, now⟩, ⟨.store (.insertJob new now), .ok job⟩]

/-- The calls by which a job is marked as assigned. -/
def marking (job : Job) (now : Timestamp) (assigned : Job) : Trace PostCall.Answer :=
  [⟨.clock, now⟩,
    ⟨.store (.transitionJob job.id job.status (.assigned now)), .ok (some assigned)⟩]

variable {t : Trace PostCall.Answer} {job assigned : Job}

/-- A job is recorded with two calls. -/
lemma recording_of_runs {new : NewJob} (h : Runs (posting.recordJob new).run t (.ok job)) :
    ∃ now, t = recording new now job := by
  cases h with
  | call now h =>
    cases h with
    | call answer h =>
      cases answer with
      | error e => cases h
      | ok recorded =>
        cases h
        exact ⟨now, rfl⟩

/-- A job is marked with a call to the store. -/
lemma marked_of_runs {change : StatusChange}
    (h : Runs (posting.move job change).run t (.ok assigned)) :
    t = [⟨.store (.transitionJob job.id job.status change), .ok (some assigned)⟩] := by
  cases h with
  | call answer h =>
    rcases answer with e | _ | moved
    · cases h
    · cases h
    · cases h
      rfl

/-- A job is delivered by publishing its assignment and marking it then. -/
lemma delivered_of_runs (h : Runs (posting.deliver job).run t (.ok assigned)) :
    ∃ heard now, t = ⟨.bus (.publish (assignmentMessage job)), .ok heard⟩ ::
      marking job now assigned := by
  unfold deliver at h
  by_cases hstatus : job.status ≠ .created
  · rw [if_pos hstatus] at h
    cases h
  · rw [if_neg hstatus] at h
    cases h with
    | call answer h =>
      cases answer with
      | error e => cases h
      | ok heard =>
        cases h with
        | call now h =>
          obtain rfl := marked_of_runs h
          exact ⟨heard, now, rfl⟩

/-- A job in escrow is recorded, and its assignment is published and the job marked. -/
lemma posted_of_runs {new : NewJob} (h : Runs (posting.jobEscrowed new).run t (.ok assigned)) :
    ∃ recorded now heard later, t = recording new now recorded ++
      ⟨.bus (.publish (assignmentMessage recorded)), .ok heard⟩ ::
        marking recorded later assigned := by
  obtain ⟨t₁, recorded, t₂, rfl, hrecord, hrest⟩ := runs_bind.mp h
  cases recorded with
  | error e => cases hrest
  | ok recorded =>
    obtain ⟨now, rfl⟩ := recording_of_runs hrecord
    obtain ⟨heard, later, rfl⟩ := delivered_of_runs hrest
    exact ⟨recorded, now, heard, later, rfl⟩

/-! ### Who gets it -/

variable {ι : Type} [DecidableEq ι] {i : ι} {calls : Interleaving PostCall.Answer ι}
  {first last : Post}

/-- A log entry that is read tells of an event of the contract. -/
lemma created_of_ofLog {log : Log} {event : JobEscrowed} (h : JobEscrowed.ofLog log = .ok event) :
    ∃ e, Contract.JobCreated.ofLog? log = some e ∧ event.job.id = e.jobId.hex ∧
      event.job.provider = e.provider.checksummed ∧ event.job.dockerImage = e.dockerImage ∧
      event.job.inputCid = e.inputCid := by
  unfold JobEscrowed.ofLog readLog at h
  cases hread : Contract.JobCreated.ofLog? log with
  | none =>
    rw [hread] at h
    cases h
  | some e =>
    rw [hread] at h
    obtain rfl := Except.ok.inj h
    exact ⟨e, rfl, rfl, rfl, rfl, rfl⟩

/-- The message that tells a provider of a job is read as the assignment of the job. -/
lemma decode?_assignmentMessage (job : Job) :
    WireKind.jobAssignment.decode? (assignmentMessage job).payload = some job.assignment :=
  WireKind.jobAssignment.decode?_encode job.assignment

/-- A message on the subject of an address waits in the subscriptions of this address, and changes
none of another. -/
lemma offer_dispatched {s : Subscription} {a b : Address} {message : Message}
    (hsubject : message.subject = Subject.dispatch b.checksummed)
    (hpattern : s.pattern = Subject.dispatch a.checksummed) :
    s.offer message = { s with waiting := s.waiting ++ if a = b then [message] else [] } := by
  rw [Subscription.offer_eq, Subscription.offer_waiting, List.filter_singleton, hpattern, hsubject]
  by_cases hsame : a = b
  · rw [Address.isMatch_dispatch.mpr hsame, cond_true, if_pos hsame]
  · rw [Bool.eq_false_iff.mpr fun h => hsame (Address.isMatch_dispatch.mp h), cond_false,
      if_neg hsame]

/-- When the job of a log entry has been dispatched, its assignment reaches its provider and no
other.  Whatever others have called in between, one call of the dispatch has been made to the bus,
and no more: the publication of a message that is read as the job's id, image and input.  It has
made of the subscriptions that were live then those that there are after it, one by one: those for
the provider of the job have got this message, once and behind what waited in them, and those for
another address have got nothing. -/
theorem assignment_reaches_provider_alone {log : Log} {event : JobEscrowed}
    (hevent : JobEscrowed.ofLog log = .ok event)
    (hserved : Served Post.Serves first (calls.map (·.2)) last)
    (hrun : Runs (posting.jobEscrowed event.job).run (callsOf i calls) (.ok assigned)) :
    ∃ e message heard before after,
      Contract.JobCreated.ofLog? log = some e ∧
      WireKind.jobAssignment.decode? message.payload =
        some ⟨e.jobId.hex, e.dockerImage, e.inputCid⟩ ∧
      calls = before ++ (i, ⟨.bus (.publish message), .ok heard⟩) :: after ∧
      (∀ (c : BusCall) (answer : c.Answer), (i, ⟨.bus c, answer⟩) ∉ before ++ after) ∧
      ∃ w w', Served Post.Serves first (before.map (·.2)) w ∧
        Post.Serves w (.bus (.publish message)) (.ok heard) w' ∧
        Served Post.Serves w' (after.map (·.2)) last ∧
        List.Forall₂ (fun s s' => ∀ a : Address, s.pattern = Subject.dispatch a.checksummed →
          s' = { s with waiting := s.waiting ++ if a = e.provider then [message] else [] })
          w.bus.held w'.bus.subscriptions := by
  obtain ⟨e, hread, hid, hprovider, himage, hcid⟩ := created_of_ofLog hevent
  obtain ⟨recorded, now, heard, later, hcalls⟩ := posted_of_runs hrun
  obtain ⟨before, after, rfl, hbefore, hafter⟩ := exists_split_of_callsOf hcalls
  rw [List.map_append, List.map_cons] at hserved
  obtain ⟨w, hserved₁, hrest⟩ := hserved.of_append
  cases hrest with
  | @cons _ w' _ _ _ _ hpublish hserved₂ =>
  -- The job has been recorded as the event tells it.
  have hinsert : (i, ⟨.store (.insertJob event.job now), .ok recorded⟩) ∈ before :=
    mem_callsOf.mp (hbefore ▸ by simp [recording])
  obtain rfl := Post.job_of_served hserved₁ (List.mem_map_of_mem (f := (·.2)) hinsert)
  refine ⟨e, assignmentMessage (Job.ofNew event.job now), heard, before, after, hread, ?_, rfl, ?_,
    w, w', hserved₁, hpublish, hserved₂, ?_⟩
  · rw [decode?_assignmentMessage, ← hid, ← himage, ← hcid]
    rfl
  · intro c answer hmem
    rw [← mem_callsOf, callsOf_append, hbefore, hafter] at hmem
    simp [recording, marking] at hmem
  · rw [hpublish.of_bus.subscriptions_eq, List.forall₂_map_right_iff, List.forall₂_same]
    exact fun s _ a => offer_dispatched (congrArg Subject.dispatch hprovider)

/-- A provider. -/
def oneProvider : Address := Bytes.fill 20 0xCD

/-- Another one. -/
def otherProvider : Address := Bytes.fill 20 0xAB

/-- A job for the one of them. -/
def addressedJob : Contract.JobCreated :=
  ⟨Word.ofNat 7, default, oneProvider, Fin.last _, String.ofList ['i'], String.ofList ['c']⟩

/-- A store without jobs, and a bus with a subscription for each provider. -/
def twoSubscribers : Post where
  store := .empty
  bus := { MemoryBus.empty with
    subscriptions := [⟨0, Subject.dispatch oneProvider.checksummed, true, []⟩,
      ⟨1, Subject.dispatch otherProvider.checksummed, true, []⟩]
    nextId := 2 }

/-- The calls of the dispatch of a job to some subscriptions. -/
def postingCalls (new : NewJob) (heard : Nat) : Trace PostCall.Answer :=
  recording new default (Job.ofNew new default) ++
    ⟨.bus (.publish (assignmentMessage (Job.ofNew new default))), .ok heard⟩ ::
      marking (Job.ofNew new default) default ((Job.ofNew new default).apply (.assigned default))

/-- The dispatch of a job may make these calls. -/
lemma runs_postingCalls (new : NewJob) (heard : Nat) :
    Runs (posting.jobEscrowed new).run (postingCalls new heard)
      (.ok ((Job.ofNew new default).apply (.assigned default))) :=
  .call _ (.call _ (.call _ (.call _ (.call _ (.here _)))))

/-- The store and the bus may answer them so. -/
lemma served_postingCalls (new : NewJob) :
    ∃ heard last, Served Post.Serves twoSubscribers (postingCalls new heard) last := by
  have hstored := Post.Serves.stored twoSubscribers (.insertJob new default)
  have hmarked := Post.Serves.stored
    ⟨{ MemoryStore.empty with jobs := .put .empty new.id (Job.ofNew new default) },
      (twoSubscribers.bus.publish (assignmentMessage (Job.ofNew new default))).2⟩
    (.transitionJob new.id .created (.assigned default))
  have hrow : (Table.put .empty new.id (Job.ofNew new default)).get? new.id =
      some (Job.ofNew new default) := (Table.get?_put ..).trans (if_pos rfl)
  rw [MemoryStore.perform,
    if_neg (show MemoryStore.empty.isUnavailable ≠ true by decide)] at hmarked
  simp only [hrow] at hmarked
  exact ⟨_, _, .cons (.told _ _) (.cons hstored (.cons (.called rfl)
    (.cons (.told _ _) (.cons hmarked (.nil _)))))⟩

/-- The one provider gets the assignment of its job and the other one gets nothing. -/
theorem assignment_reaches_one_of_two :
    ∃ event heard last message,
      JobEscrowed.ofLog (addressedJob.emit.entry default none none) = .ok event ∧
      Served Post.Serves twoSubscribers (postingCalls event.job heard) last ∧
      Runs (posting.jobEscrowed event.job).run (postingCalls event.job heard)
        (.ok ((Job.ofNew event.job default).apply (.assigned default))) ∧
      WireKind.jobAssignment.decode? message.payload =
        some ⟨addressedJob.jobId.hex, addressedJob.dockerImage, addressedJob.inputCid⟩ ∧
      last.bus.subscriptions = [⟨0, Subject.dispatch oneProvider.checksummed, true, [message]⟩,
        ⟨1, Subject.dispatch otherProvider.checksummed, true, []⟩] := by
  have haddressable : addressedJob.emit.data.length < UInt64.size := by
    simp [addressedJob, Contract.JobCreated.emit, Abi.length_encode_parts, Abi.contents,
      Abi.Part.nat, Abi.string_eq, Abi.stringContent, Abi.padding, Bytes.length_eq, Utf8.encode_eq,
      String.utf8EncodeChar, UInt64.size]
  obtain ⟨event, hevent, -⟩ := JobEscrowed.ofLog_entry default none none haddressable
  obtain ⟨heard, last, hserved⟩ := served_postingCalls event.job
  have hrun := runs_postingCalls event.job heard
  -- Nobody else calls.
  have hown : callsOf () ((postingCalls event.job heard).map (((), ·))) =
      postingCalls event.job heard := by
    simp [callsOf, Function.comp_def]
  have hall : ((postingCalls event.job heard).map (((), ·))).map (·.2) =
      postingCalls event.job heard := by
    simp [Function.comp_def]
  obtain ⟨e, message, heard', before, after, hread, hdecode, -, hnone, w, w', hbefore, hpublish,
    hafter, hgets⟩ := assignment_reaches_provider_alone hevent (hall.symm ▸ hserved)
      (hown.symm ▸ hrun)
  obtain rfl : addressedJob = e :=
    Option.some.inj ((addressedJob.ofLog?_entry default none none haddressable).symm.trans hread)
  have hfirst : w.bus = twoSubscribers.bus := Post.bus_of_served hbefore fun c answer hmem => by
    obtain ⟨⟨_, e⟩, hmem, rfl⟩ := List.mem_map.mp hmem
    exact hnone c answer (List.mem_append_left _ hmem)
  have hlast : last.bus = w'.bus := Post.bus_of_served hafter fun c answer hmem => by
    obtain ⟨⟨_, e⟩, hmem, rfl⟩ := List.mem_map.mp hmem
    exact hnone c answer (List.mem_append_right _ hmem)
  refine ⟨event, heard, last, message, hevent, hserved, hrun, hdecode, ?_⟩
  rw [hfirst] at hgets
  rw [hlast]
  generalize w'.bus.subscriptions = subscriptions at hgets
  cases hgets with
  | cons hone hrest =>
    cases hrest with
    | cons hother hnil =>
      cases hnil
      have hne : otherProvider ≠ addressedJob.provider := by decide
      rw [hone oneProvider rfl, hother otherProvider rfl, if_neg hne]
      rfl

end Dispatcher

end ComputeExchange
