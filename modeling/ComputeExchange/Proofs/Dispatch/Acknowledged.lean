import ComputeExchange.Proofs.Chronicle
import ComputeExchange.Proofs.Dispatch.Delivered

/-!
# Acknowledged moves

Requests on jobs may be dealt with at the same time.  Each reads a job, perhaps publishes its
assignment and then asks the store to move it, and may find that others have been faster.

`Effect` is all that one call of a request may do to the rows of the jobs: nothing, or record the
job in escrow, or move the job along the graph, and then the request ends well with the row as it is
right after the move.  `acknowledged_one_to_one` draws the conclusion for all calls, in any order
and whatever fails: the edges that the row of a job takes are the requests on it that end well, one
for one and in order, and every other request leaves nothing behind but a job that it has recorded.
-/

namespace ComputeExchange

namespace Dispatcher

open Program

/-! ### Requests -/

/-- What is asked of dispatch about a job. -/
inductive Request : Type where
  | escrowed (new : NewJob)
  | deliver (job : Job)
  | redispatch (id : String)
  | applyUpdate (update : JobStatusUpdate)

namespace Request

/-- The job a request is about. -/
def jobId : Request → String
  | escrowed new => new.id
  | deliver job => job.id
  | redispatch id => id
  | applyUpdate update => update.jobId

/-- Whether a request delivers its job. -/
def isDelivery : Request → Bool
  | applyUpdate _ => false
  | _ => true

/-- The program of a request. -/
def body : Request → Program DispatchCall.Answer (Except DispatchError Job)
  | escrowed new => (asking.jobEscrowed new).run
  | deliver job => (asking.deliver job).run
  | redispatch id => (asking.redispatch id).run
  | applyUpdate update => (asking.applyUpdate update).run

end Request

/-- A call is answered with a job only if it is the job that was asked for. -/
def Honest : Event DispatchCall.Answer → Prop
  | ⟨.store (.getJob id), .ok (some job)⟩ => job.id = id
  | ⟨.store (.insertJob new now), .ok job⟩ => job = Job.ofNew new now
  | _ => True

/-- Whether a program, as long as it is answered honestly, does what a request may do: it records no
job but the one in escrow, and the last that it does is to move its job along the graph; it ends
well exactly if the job has been moved. -/
inductive Proper (r : Request) : Program DispatchCall.Answer (Except DispatchError Job) → Prop where
  | failed (e : DispatchError) : Proper r (.done (.error e))
  | moves {id : String} {source : JobStatus} {change : StatusChange}
      {next : Except StoreError (Option Job) →
        Program DispatchCall.Answer (Except DispatchError Job)}
      (hid : id = r.jobId) (hmove : source.canMoveTo change.status = true)
      (hcreated : r.isDelivery = true → source = .created)
      (hmoved : ∀ job, next (.ok (some job)) = .done (.ok job))
      (hunmoved : ∀ answer, (∀ job, answer ≠ .ok (some job)) →
        ∃ e, next answer = .done (.error e)) :
      Proper r (.call (.store (.transitionJob id source change)) next)
  | asks {q : DispatchCall}
      {next : q.Answer → Program DispatchCall.Answer (Except DispatchError Job)}
      (hstays : ∀ id source change, q ≠ .store (.transitionJob id source change))
      (hinsert : ∀ new now, q = .store (.insertJob new now) → r = .escrowed new)
      (hnext : ∀ answer, Honest ⟨q, answer⟩ → Proper r (next answer)) : Proper r (.call q next)

/-- Moving its job is what a request may do. -/
lemma proper_move {r : Request} {job : Job} {change : StatusChange} (hid : job.id = r.jobId)
    (hmove : job.status.canMoveTo change.status = true)
    (hcreated : r.isDelivery = true → job.status = .created) :
    Proper r (asking.move job change).run := by
  refine .moves hid hmove hcreated (fun moved => rfl) ?_
  intro answer hanswer
  rcases answer with e | _ | moved
  · exact ⟨_, rfl⟩
  · exact ⟨_, rfl⟩
  · exact absurd rfl (hanswer moved)

/-- Delivering its job is what a request may do. -/
lemma proper_deliver {r : Request} {job : Job} (hid : job.id = r.jobId) :
    Proper r (asking.deliver job).run := by
  unfold deliver
  by_cases hstatus : job.status ≠ .created
  · rw [if_pos hstatus]
    exact .failed _
  · rw [if_neg hstatus]
    have hcreated : job.status = .created := not_not.mp hstatus
    refine .asks (by simp) (by simp) fun answer _ => ?_
    cases answer with
    | error e => exact .failed _
    | ok =>
      refine .asks (by simp) (by simp) fun now _ => ?_
      exact proper_move hid (by rw [hcreated]; rfl) fun _ => hcreated

/-- Reading its job first is what a request may do. -/
lemma proper_getJob {r : Request} {id : String}
    {f : Job → ExceptT DispatchError (Program DispatchCall.Answer) Job}
    (hf : ∀ job, job.id = id → Proper r (f job).run) : Proper r (asking.getJob id >>= f).run := by
  refine .asks (by simp) (by simp) fun answer hanswer => ?_
  rcases answer with e | _ | job
  · exact .failed _
  · exact .failed _
  · exact hf job hanswer

/-- Every request does what it may. -/
lemma proper_body (r : Request) : Proper r r.body := by
  cases r with
  | escrowed new =>
    refine .asks (by simp) (by simp) fun now _ => ?_
    refine .asks (by simp) ?_ fun answer hanswer => ?_
    · intro new' now' hq
      obtain ⟨rfl, -⟩ : new = new' ∧ now = now' := by simpa using hq
      rfl
    · cases answer with
      | error e => exact .failed _
      | ok job =>
        have hid : job.id = (Request.escrowed new).jobId := by
          rw [show job = Job.ofNew new now from hanswer]
          rfl
        exact proper_deliver hid
  | deliver job => exact proper_deliver rfl
  | redispatch id => exact proper_getJob fun job hid => proper_deliver hid
  | applyUpdate update =>
    refine proper_getJob fun job hid => ?_
    by_cases hmove : job.status.canMoveTo update.status = true
    · simp only [hmove]
      refine .asks (by simp) (by simp) fun now _ => ?_
      exact proper_move hid hmove (by simp [Request.isDelivery])
    · simp only [hmove]
      exact .failed _

/-- A program that does what a request may do goes on so, or has ended well. -/
lemma Proper.of_reaches {r : Request}
    {p p' : Program DispatchCall.Answer (Except DispatchError Job)}
    {t : Trace DispatchCall.Answer} (h : Proper r p) (hreaches : Reaches p t p')
    (hhonest : ∀ e ∈ t, Honest e) : Proper r p' ∨ ∃ job, p' = .done (.ok job) := by
  induction hreaches with
  | here => exact Or.inl h
  | @call q next answer t p' hrest ih =>
    rw [List.forall_mem_cons] at hhonest
    cases h with
    | moves hid hmove hcreated hmoved hunmoved =>
      -- A move is the last call.
      by_cases hanswer : ∃ job, answer = .ok (some job)
      · obtain ⟨job, rfl⟩ := hanswer
        rw [hmoved job] at hrest
        cases hrest
        exact Or.inr ⟨job, rfl⟩
      · obtain ⟨e, he⟩ := hunmoved answer (not_exists.mp hanswer)
        rw [he] at hrest
        cases hrest
        exact Or.inl (.failed e)
    | asks hstays hinsert hnext => exact ih (hnext answer hhonest.1) hhonest.2

/-- A program that does what a request may do has not ended well yet. -/
lemma Proper.result_ne {r : Request} {p : Program DispatchCall.Answer (Except DispatchError Job)}
    (h : Proper r p) (job : Job) : p.result? ≠ some (.ok job) := by
  intro hresult
  rw [eq_done_of_result? hresult] at h
  cases h

/-! ### What a call does -/

/-- Every job stands under its own id. -/
def World.Keyed (w : World) : Prop := ∀ id job, w.job? id = some job → job.id = id

/-- A world whose jobs stand under their ids answers honestly. -/
lemma honest_of_serves {w w' : World} {q : DispatchCall} {answer : q.Answer} (hkeyed : w.Keyed)
    (h : World.Serves w q answer w') : Honest ⟨q, answer⟩ := by
  cases q with
  | store c =>
    obtain ⟨htold, -⟩ | ⟨⟨e, rfl⟩, -⟩ := h.of_store
    · cases c with
      | getJob id =>
        rcases answer with e | _ | job
        · trivial
        · trivial
        · obtain ⟨hrow, -⟩ := MemoryStore.of_getJob htold.symm
          exact hkeyed id job hrow.symm
      | insertJob new now =>
        cases answer with
        | error e => trivial
        | ok job => exact (MemoryStore.of_insertJob htold.symm).1
      | _ => trivial
    · cases c <;> trivial
  | _ => trivial

/-- What a call of a request may do to the rows of the jobs, and what the request then ends with. -/
inductive Effect (r : Request) (w w' : World) (result : Option (Except DispatchError Job)) :
    Prop where
  /-- All rows stay, and the request does not end well. -/
  | stays (hrows : ∀ id, w'.job? id = w.job? id) (hresult : ∀ job, result ≠ some (.ok job))
  /-- The job in escrow is recorded. -/
  | records {new : NewJob} (hr : r = .escrowed new) (now : Timestamp)
      (hbefore : w.job? new.id = none) (hafter : w'.job? new.id = some (Job.ofNew new now))
      (hothers : ∀ id, id ≠ new.id → w'.job? id = w.job? id)
      (hresult : ∀ job, result ≠ some (.ok job))
  /-- The job is moved along the graph, and the request ends well with it. -/
  | moves {job : Job} (change : StatusChange)
      (hmove : job.status.canMoveTo change.status = true)
      (hcreated : r.isDelivery = true → job.status = .created)
      (hbefore : w.job? r.jobId = some job) (hafter : w'.job? r.jobId = some (job.apply change))
      (hothers : ∀ id, id ≠ r.jobId → w'.job? id = w.job? id)
      (hresult : result = some (.ok (job.apply change)))

/-- Recording a job in escrow adds its row or changes nothing. -/
lemma effect_of_insertJob {r : Request} {w : World} {new : NewJob} (hr : r = .escrowed new)
    (now : Timestamp) {result : Option (Except DispatchError Job)}
    (hresult : ∀ job, result ≠ some (.ok job)) :
    Effect r w { w with store := (w.store.perform (.insertJob new now)).2 } result := by
  rcases w.store.insertJob_cases new now with ⟨hnone, hperform⟩ | ⟨e, hperform⟩
  · rw [hperform]
    refine .records hr now hnone ?_ (fun id hid => ?_) hresult
    · rw [World.job?, Table.get?_put]
      exact if_pos rfl
    · rw [World.job?, Table.get?_put]
      exact if_neg (Ne.symm hid)
  · rw [hperform]
    exact .stays (fun _ => rfl) hresult

/-- What the next call of a request may do. -/
lemma Proper.effect {r : Request} {w w' : World} {q : DispatchCall} {answer : q.Answer}
    {next : q.Answer → Program DispatchCall.Answer (Except DispatchError Job)}
    (h : Proper r (.call q next)) (hkeyed : w.Keyed) (hserves : World.Serves w q answer w') :
    Effect r w w' (next answer).result? := by
  cases h with
  | asks hstays hinsert hnext =>
    have hresult := (hnext answer (honest_of_serves hkeyed hserves)).result_ne
    cases hserves with
    | stored c =>
      by_cases hnew : ∃ new now, c = .insertJob new now
      · obtain ⟨new, now, rfl⟩ := hnew
        exact effect_of_insertJob (hinsert new now rfl) now hresult
      · have hother : ∀ new now, c ≠ .insertJob new now := fun new now hc => hnew ⟨new, now, hc⟩
        have hmove : ∀ id source change, c ≠ .transitionJob id source change :=
          fun id source change hc => hstays id source change (congrArg _ hc)
        exact .stays (w.store.jobs_stay hother hmove) hresult
    | _ => exact .stays (fun _ => rfl) hresult
  | @moves id source change next hid hmove hcreated hmoved hunmoved =>
    have hunserved : (∀ job, answer ≠ .ok (some job)) → w'.store = w.store →
        Effect r w w' (next answer).result? := by
      intro hnone hsame
      obtain ⟨e, he⟩ := hunmoved answer hnone
      rw [he]
      exact .stays (fun id => by rw [World.job?, hsame, World.job?]) (by simp [result?])
    obtain ⟨rfl, rfl⟩ | ⟨⟨e, rfl⟩, rfl⟩ := hserves.of_store
    · rcases w.store.transitionJob_cases id source change with
        ⟨job, hrow, rfl, hperform⟩ | ⟨hnone, hsame⟩
      · rw [hperform, hmoved]
        subst hid
        refine .moves change hmove hcreated hrow ?_ (fun other hother => ?_) rfl
        · rw [World.job?, Table.get?_put]
          exact if_pos rfl
        · rw [World.job?, Table.get?_put]
          exact if_neg (Ne.symm hother)
      · exact hunserved hnone hsame
    · exact hunserved (by simp) rfl

/-! ### Edges -/

variable {ι : Type}

/-- The calls of requests that are dealt with at the same time, with what they end with. -/
abbrev RequestLog (ι : Type) : Type :=
  List (Occurrence DispatchCall.Answer ι (Except DispatchError Job) World)

/-- An edge of the lifecycle that the row of a job has taken: whose call it was, and the row before
and after. -/
structure Edge (ι : Type) where
  caller : ι
  source : Job
  target : Job

/-- The edge that the row of a job takes in a call, if it takes one. -/
def edge? (id : String)
    (o : Occurrence DispatchCall.Answer ι (Except DispatchError Job) World) : Option (Edge ι) :=
  match o.before.job? id, o.after.job? id with
  | some source, some target =>
    if source = target then none else some ⟨o.caller, source, target⟩
  | _, _ => none

/-- The edges that the row of a job takes, in order. -/
def edges (id : String) (c : RequestLog ι) : List (Edge ι) := c.filterMap (edge? id)

/-- The requests on a job that end well, in order, each with the row that it returns. -/
def acknowledged (requests : ι → Request) (id : String) (c : RequestLog ι) :
    List (ι × Except DispatchError Job) :=
  (endings c).filter fun ending => (requests ending.1).jobId = id ∧ ending.2.isOk

/-- What the calls of a request do to the row of a job, in order: the rows before and after each
call that changes it. -/
def changes [DecidableEq ι] (i : ι) (id : String) (c : RequestLog ι) :
    List (Option Job × Option Job) :=
  (c.filter fun o => o.caller = i ∧ o.before.job? id ≠ o.after.job? id).map fun o =>
    (o.before.job? id, o.after.job? id)

/-- How the edges that the row of a job has taken and the requests on it belong together. -/
structure OneToOne (requests : ι → Request) (c : RequestLog ι) (w : World) (id : String) :
    Prop where
  /-- Edge for edge, in order, these are the requests that have ended well, each with the row as it
  was right after its edge. -/
  returned : (edges id c).map (fun e => (e.caller, .ok e.target)) = acknowledged requests id c
  /-- No request has taken two edges. -/
  nodup : ((edges id c).map (·.caller)).Nodup
  legal : ∀ e ∈ edges id c, e.source.status.canMoveTo e.target.status = true
  /-- Each edge goes on where the one before has led. -/
  chained : (edges id c).IsChain fun e e' => e.target = e'.source
  /-- The row is as the last edge has left it. -/
  last : ∀ e ∈ (edges id c).getLast?, w.job? id = some e.target
  /-- At most one delivery has taken an edge. -/
  delivered : ∀ e ∈ edges id c, ∀ e' ∈ edges id c,
    (requests e.caller).isDelivery = true → (requests e'.caller).isDelivery = true → e = e'

lemma edges_append (id : String) (c c' : RequestLog ι) :
    edges id (c ++ c') = edges id c ++ edges id c' := List.filterMap_append

lemma acknowledged_append (requests : ι → Request) (id : String) (c c' : RequestLog ι) :
    acknowledged requests id (c ++ c') =
      acknowledged requests id c ++ acknowledged requests id c' := by
  rw [acknowledged, endings_append, List.filter_append]
  rfl

lemma edges_singleton_of_eq {id : String}
    {o : Occurrence DispatchCall.Answer ι (Except DispatchError Job) World}
    (h : o.after.job? id = o.before.job? id) : edges id [o] = [] := by
  cases hrow : o.before.job? id <;> simp [edges, edge?, h, hrow]

/-- A request that does not end well with its call has not acknowledged anything by it. -/
lemma acknowledged_singleton_of_ne {requests : ι → Request}
    {o : Occurrence DispatchCall.Answer ι (Except DispatchError Job) World}
    (h : ∀ job, o.result ≠ some (.ok job)) (id : String) : acknowledged requests id [o] = [] := by
  refine List.filter_eq_nil_iff.mpr fun ending hending => ?_
  obtain ⟨i, r⟩ := ending
  obtain ⟨-, hresult⟩ := mem_endings_singleton.mp hending
  cases r with
  | error e => simp [Except.isOk, Except.toBool]
  | ok job => exact absurd hresult (h job)

/-- A call takes an edge exactly if its request ends well by it, or else a row that is there
stays. -/
lemma Effect.edge_cases {requests : ι → Request}
    {o : Occurrence DispatchCall.Answer ι (Except DispatchError Job) World}
    (h : Effect (requests o.caller) o.before o.after o.result) (id : String) :
    (edges id [o] = [] ∧ acknowledged requests id [o] = [] ∧
      ∀ row, o.before.job? id = some row → o.after.job? id = some row) ∨
    ∃ e : Edge ι, e.caller = o.caller ∧ e.source.status.canMoveTo e.target.status = true ∧
      ((requests e.caller).isDelivery = true → e.source.status = .created) ∧
      o.before.job? id = some e.source ∧ o.after.job? id = some e.target ∧ edges id [o] = [e] ∧
      acknowledged requests id [o] = [(e.caller, .ok e.target)] := by
  cases h with
  | stays hrows hresult =>
    refine Or.inl ⟨edges_singleton_of_eq (hrows id), ?_, fun row hrow => ?_⟩
    · exact acknowledged_singleton_of_ne hresult id
    · rw [hrows id, hrow]
  | @records new hr now hbefore hafter hothers hresult =>
    by_cases hid : id = new.id
    · subst hid
      refine Or.inl ⟨?_, acknowledged_singleton_of_ne hresult _, fun row hrow => ?_⟩
      · simp [edges, edge?, hbefore]
      · rw [hbefore] at hrow
        cases hrow
    · refine Or.inl ⟨edges_singleton_of_eq (hothers id hid), ?_, fun row hrow => ?_⟩
      · exact acknowledged_singleton_of_ne hresult id
      · rw [hothers id hid, hrow]
  | @moves job change hmove hcreated hbefore hafter hothers hresult =>
    by_cases hid : id = (requests o.caller).jobId
    · subst hid
      have hne : job ≠ job.apply change := by
        intro hsame
        have hrank := JobStatus.rank_lt hmove
        rw [show job.status = change.status from congrArg Job.status hsame] at hrank
        exact lt_irrefl _ hrank
      refine Or.inr ⟨⟨o.caller, job, job.apply change⟩, rfl, hmove, hcreated, hbefore, hafter,
        ?_, ?_⟩
      · simp [edges, edge?, hbefore, hafter, hne]
      · simp [acknowledged, endings, hresult, Except.isOk, Except.toBool]
    · refine Or.inl ⟨edges_singleton_of_eq (hothers id hid), ?_, fun row hrow => ?_⟩
      · simp [acknowledged, endings, hresult, Ne.symm hid]
      · rw [hothers id hid, hrow]

/-- No row is ever lost. -/
lemma Effect.row_stays {r : Request} {w w' : World} {result : Option (Except DispatchError Job)}
    (h : Effect r w w' result) {id : String} (hrow : w.job? id ≠ none) : w'.job? id ≠ none := by
  cases h with
  | stays hrows => exact (hrows id).symm ▸ hrow
  | @records new _ now _ hafter hothers =>
    by_cases hid : id = new.id
    · simp [hid, hafter]
    · exact (hothers id hid).symm ▸ hrow
  | moves change _ _ _ hafter hothers =>
    by_cases hid : id = r.jobId
    · simp [hid, hafter]
    · exact (hothers id hid).symm ▸ hrow

/-- Jobs go on standing under their ids. -/
lemma Effect.keyed {r : Request} {w w' : World} {result : Option (Except DispatchError Job)}
    (h : Effect r w w' result) (hkeyed : w.Keyed) : w'.Keyed := by
  intro id row hrow
  cases h with
  | stays hrows => exact hkeyed id row (hrows id ▸ hrow)
  | @records new _ now _ hafter hothers =>
    by_cases hid : id = new.id
    · subst hid
      obtain rfl : Job.ofNew new now = row := Option.some.inj (hafter.symm.trans hrow)
      rfl
    · exact hkeyed id row (hothers id hid ▸ hrow)
  | @moves job change _ _ hbefore hafter hothers =>
    by_cases hid : id = r.jobId
    · subst hid
      obtain rfl : job.apply change = row := Option.some.inj (hafter.symm.trans hrow)
      exact hkeyed _ job hbefore
    · exact hkeyed id row (hothers id hid ▸ hrow)

/-! ### Requests at the same time -/

/-- What holds after any calls of requests that are dealt with at the same time. -/
structure Followed (requests : ι → Request) (c : RequestLog ι) (w : World) : Prop where
  keyed : w.Keyed
  honest : ∀ o ∈ c, Honest o.event
  present : ∀ o ∈ c, ∀ id, o.after.job? id ≠ none → w.job? id ≠ none
  returned : ∀ id,
    (edges id c).map (fun e => (e.caller, .ok e.target)) = acknowledged requests id c
  legal : ∀ id, ∀ e ∈ edges id c, e.source.status.canMoveTo e.target.status = true ∧
    ((requests e.caller).isDelivery = true → e.source.status = .created)
  chained : ∀ id, (edges id c).IsChain fun e e' => e.target = e'.source
  last : ∀ id, ∀ e ∈ (edges id c).getLast?, w.job? id = some e.target

variable {requests : ι → Request} {c : RequestLog ι} {first w w' : World}

lemma followed_nil (h : w.Keyed) : Followed requests [] w :=
  ⟨h, by simp, by simp, fun _ => rfl, by simp [edges], fun _ => .nil, by simp [edges]⟩

/-- The clock does not matter. -/
lemma Followed.set_wall (h : Followed requests c w) (wall : Timestamp) :
    Followed requests c { w with wall := wall } :=
  ⟨h.keyed, h.honest, h.present, h.returned, h.legal, h.chained, h.last⟩

/-- The next call of a request does what a request may do. -/
lemma Followed.effect [DecidableEq ι] (h : Followed requests c w) {i : ι} {q : DispatchCall}
    {next : q.Answer → Program DispatchCall.Answer (Except DispatchError Job)} {answer : q.Answer}
    (hreaches : Reaches (requests i).body (callsOf i (interleaving c)) (.call q next))
    (hserves : World.Serves w q answer w') :
    Effect (requests i) w w' (next answer).result? := by
  have hhonest : ∀ e ∈ callsOf i (interleaving c), Honest e := by
    intro e he
    have hmem := callsOf_subset he
    rw [interleaving, List.map_map] at hmem
    obtain ⟨o, ho, rfl⟩ := List.mem_map.mp hmem
    exact h.honest o ho
  rcases (proper_body (requests i)).of_reaches hreaches hhonest with hproper | ⟨job, hdone⟩
  · exact hproper.effect h.keyed hserves
  · cases hdone

/-- The next call takes at most one edge, and its request ends well by it. -/
lemma Followed.serve {o : Occurrence DispatchCall.Answer ι (Except DispatchError Job) World}
    (h : Followed requests c o.before) (hhonest : Honest o.event)
    (heffect : Effect (requests o.caller) o.before o.after o.result) :
    Followed requests (c ++ [o]) o.after where
  keyed := heffect.keyed h.keyed
  honest := by
    intro o' ho'
    rcases List.mem_append.mp ho' with ho' | ho'
    · exact h.honest o' ho'
    · exact List.eq_of_mem_singleton ho' ▸ hhonest
  present := by
    intro o' ho' id hrow
    rcases List.mem_append.mp ho' with ho' | ho'
    · exact heffect.row_stays (h.present o' ho' id hrow)
    · exact List.eq_of_mem_singleton ho' ▸ hrow
  returned := by
    intro id
    rw [edges_append, acknowledged_append, List.map_append, h.returned id]
    rcases heffect.edge_cases id with ⟨hedges, hreturned, -⟩ | ⟨e, -, -, -, -, -, hedges, hreturned⟩
    · rw [hedges, hreturned]
      rfl
    · rw [hedges, hreturned]
      rfl
  legal := by
    intro id e he
    rw [edges_append] at he
    rcases heffect.edge_cases id with ⟨hedges, -⟩ | ⟨e', -, hmove, hcreated, -, -, hedges, -⟩
    · rw [hedges, List.append_nil] at he
      exact h.legal id e he
    · rw [hedges] at he
      rcases List.mem_append.mp he with he | he
      · exact h.legal id e he
      · exact List.eq_of_mem_singleton he ▸ ⟨hmove, hcreated⟩
  chained := by
    intro id
    rw [edges_append]
    rcases heffect.edge_cases id with ⟨hedges, -⟩ | ⟨e', -, -, -, hbefore, -, hedges, -⟩
    · rw [hedges, List.append_nil]
      exact h.chained id
    · rw [hedges]
      refine List.isChain_append.mpr ⟨h.chained id, .singleton e', fun e he e'' he'' => ?_⟩
      obtain rfl : e' = e'' := Option.some.inj he''
      exact Option.some.inj ((h.last id e he).symm.trans hbefore)
  last := by
    intro id e he
    rw [edges_append] at he
    rcases heffect.edge_cases id with ⟨hedges, -, hstays⟩ | ⟨e', -, -, -, -, hafter, hedges, -⟩
    · rw [hedges, List.append_nil] at he
      exact hstays _ (h.last id e he)
    · rw [hedges, List.getLast?_concat] at he
      exact Option.some.inj he ▸ hafter

/-- Requests that are dealt with at the same time, each call of which the world may serve or not,
while the clock may be set at any time. -/
abbrev Dealt [DecidableEq ι] (requests : ι → Request) (first : World) :
    RequestLog ι → World → Prop :=
  Chronicles World.Serves (fun w w' => ∃ wall, w' = { w with wall := wall })
    (fun i => (requests i).body) first

/-- Everything that requests do at the same time is followed. -/
lemma followed_of_dealt [DecidableEq ι] (hkeyed : first.Keyed) (h : Dealt requests first c w) :
    Followed requests c w := by
  induction h with
  | begins => exact followed_nil hkeyed
  | serve _ hreaches hserves ih =>
    exact ih.serve (honest_of_serves ih.keyed hserves) (ih.effect hreaches hserves)
  | drift _ hdrifts ih =>
    obtain ⟨wall, rfl⟩ := hdrifts
    exact ih.set_wall wall

/-- Along edges that join up, the status rises. -/
lemma Followed.pairwise_rank_lt (h : Followed requests c w) (id : String) :
    (edges id c).Pairwise fun e e' => e.source.status.rank < e'.source.status.rank := by
  have hrises : ∀ e ∈ edges id c, e.source.status.rank < e.target.status.rank :=
    fun e he => JobStatus.rank_lt (h.legal id e he).1
  rw [← List.isChain_iff_pairwise]
  refine List.IsChain.imp_of_mem_imp (fun e e' he _ hjoined => ?_) (h.chained id)
  exact hjoined ▸ hrises e he

/-- At most one delivery takes an edge, as it takes the job from its creation. -/
lemma Followed.delivered (h : Followed requests c w) (id : String) {e e' : Edge ι}
    (he : e ∈ edges id c) (he' : e' ∈ edges id c)
    (hdelivery : (requests e.caller).isDelivery = true)
    (hdelivery' : (requests e'.caller).isDelivery = true) : e = e' := by
  have hapart : ((edges id c).map fun e => e.source.status.rank).Nodup :=
    List.pairwise_map.mpr ((h.pairwise_rank_lt id).imp ne_of_lt)
  refine List.inj_on_of_nodup_map hapart he he' ?_
  rw [(h.legal id e he).2 hdelivery, (h.legal id e' he').2 hdelivery']

/-- No request takes two edges, as none ends twice. -/
lemma Followed.nodup_callers [DecidableEq ι] (h : Followed requests c w)
    (hdealt : Dealt requests first c w) (id : String) : ((edges id c).map (·.caller)).Nodup := by
  have hcallers : (edges id c).map (·.caller) = (acknowledged requests id c).map (·.1) := by
    rw [← h.returned id, List.map_map]
    rfl
  rw [hcallers]
  exact hdealt.nodup_endings.sublist (List.filter_sublist.map _)

section Changes

variable [DecidableEq ι] {i : ι} {id : String}
  {o : Occurrence DispatchCall.Answer ι (Except DispatchError Job) World}

lemma changes_concat :
    changes i id (c ++ [o]) = changes i id c ++ changes i id [o] := by
  rw [changes, List.filter_append, List.map_append]
  rfl

lemma changes_singleton_of_ne (h : o.caller ≠ i) : changes i id [o] = [] := by
  simp [changes, h]

lemma changes_singleton_of_eq (h : o.after.job? id = o.before.job? id) :
    changes i id [o] = [] := by
  simp [changes, h]

/-- A request that has changed a row has seen to it that there is one. -/
lemma Followed.row_ne_none (h : Followed requests c w) {change : Option Job × Option Job}
    (hchange : change ∈ changes i id c) (hafter : change.2 ≠ none) : w.job? id ≠ none := by
  obtain ⟨o, ho, rfl⟩ := List.mem_map.mp hchange
  exact h.present o (List.mem_of_mem_filter ho) id hafter

/-- A request that has not ended well has changed no row, except that it may have recorded the job
in escrow that it is about. -/
lemma changes_of_unacknowledged (hkeyed : first.Keyed) (h : Dealt requests first c w)
    (hend : ∀ job, (i, .ok job) ∉ endings c) :
    changes i id c = [] ∨ ∃ new now, requests i = .escrowed new ∧ new.id = id ∧
      changes i id c = [(none, some (Job.ofNew new now))] := by
  induction h with
  | begins => exact Or.inl rfl
  | drift _ _ ih => exact ih hend
  | @serve c w w' j q next answer hbefore hreaches hserves ih =>
    have hfollowed := followed_of_dealt hkeyed hbefore
    have heffect := hfollowed.effect hreaches hserves
    have hearlier := ih fun job hjob =>
      hend job (by rw [endings_append]; exact List.mem_append_left _ hjob)
    have hresult : j = i → ∀ job, (next answer).result? ≠ some (.ok job) := by
      intro hcaller job hresult
      refine hend job ?_
      rw [endings_append]
      exact List.mem_append_right _ (mem_endings_singleton.mpr ⟨hcaller, hresult⟩)
    rw [changes_concat]
    by_cases hcaller : j = i
    · subst hcaller
      cases heffect with
      | stays hrows =>
        rw [changes_singleton_of_eq (hrows id), List.append_nil]
        exact hearlier
      | @records new hr now hnone hafter hothers =>
        by_cases hid : id = new.id
        · subst hid
          have hnew : changes j new.id [⟨j, ⟨q, answer⟩, (next answer).result?, w, w'⟩] =
              [(none, some (Job.ofNew new now))] := by
            simp [changes, hnone, hafter]
          rcases hearlier with hnil | ⟨new', now', -, -, hchanges⟩
          · rw [hnil, hnew]
            exact Or.inr ⟨new, now, hr, rfl, rfl⟩
          · -- The job has its row already, so that it cannot be recorded again.
            have hmem : (none, some (Job.ofNew new' now')) ∈ changes j new.id c := by
              rw [hchanges]
              exact List.mem_singleton_self _
            exact absurd hnone (hfollowed.row_ne_none hmem (Option.some_ne_none _))
        · rw [changes_singleton_of_eq (hothers id hid), List.append_nil]
          exact hearlier
      | moves change _ _ _ _ _ hok => exact absurd hok (hresult rfl _)
    · rw [changes_singleton_of_ne hcaller, List.append_nil]
      exact hearlier

end Changes

/-- Whatever is asked of dispatch at the same time, in whatever order the calls come and whatever
fails, the edges that the row of a job takes are the requests on it that end well, one for one and
in order; and a request that does not end well has changed no row, except that it may have recorded
the job in escrow that it is about. -/
theorem acknowledged_one_to_one [DecidableEq ι] (hkeyed : first.Keyed)
    (h : Dealt requests first c w) :
    (∀ id, OneToOne requests c w id) ∧
      ∀ i, (∀ job, (i, .ok job) ∉ endings c) → ∀ id,
        changes i id c = [] ∨ ∃ new now, requests i = .escrowed new ∧ new.id = id ∧
          changes i id c = [(none, some (Job.ofNew new now))] := by
  have hfollowed := followed_of_dealt hkeyed h
  refine ⟨fun id => ?_, fun i hend id => changes_of_unacknowledged hkeyed h hend⟩
  exact {
    returned := hfollowed.returned id
    nodup := hfollowed.nodup_callers h id
    legal := fun e he => (hfollowed.legal id e he).1
    chained := hfollowed.chained id
    last := hfollowed.last id
    delivered := fun e he e' he' => hfollowed.delivered id he he' }

/-- The job that waits stands under its own key. -/
lemma keyed_waiting : waiting.Keyed := by
  intro id row hrow
  rw [World.job?, waiting, Table.get?_put] at hrow
  by_cases hid : "j" = id
  · rw [if_pos hid] at hrow
    exact Option.some.inj hrow ▸ hid
  · rw [if_neg hid] at hrow
    cases hrow

/-- Of two who deliver the job again at the same time, both publish its assignment, and one is told
that the other has been faster. -/
theorem redispatched_twice :
    ∃ (c : RequestLog Bool) (w : World), waiting.Keyed ∧
      Dealt (fun _ => .redispatch "j") waiting c w ∧
      endings c = [(false, .ok assignedJob), (true, .error (.conflict "j"))] ∧
      OneToOne (fun _ => .redispatch "j") c w "j" ∧ changes true "j" c = [] := by
  have hread : Dealt (fun _ => .redispatch "j") waiting _ _ :=
    (Chronicles.begins.serve (i := false) (.here _) (.stored _ _)).serve (i := true) (.here _)
      (.stored _ _)
  have hpublished : Dealt (fun _ => .redispatch "j") waiting _ _ :=
    (hread.serve (i := false) (.call _ (.here _)) (.published _ _ _)).serve (i := true)
      (.call _ (.here _)) (.published _ _ _)
  have hstamped : Dealt (fun _ => .redispatch "j") waiting _ _ :=
    (hpublished.serve (i := false) (.call _ (.call _ (.here _))) (.told _)).serve (i := true)
      (.call _ (.call _ (.here _))) (.told _)
  have hmoved : Dealt (fun _ => .redispatch "j") waiting _ _ :=
    (hstamped.serve (i := false) (.call _ (.call _ (.call _ (.here _)))) (.stored _ _)).serve
      (i := true) (.call _ (.call _ (.call _ (.here _)))) (.stored _ _)
  have hlost : ∀ job, (true, Except.ok job) ∉
      [(false, Except.ok assignedJob), (true, Except.error (DispatchError.conflict "j"))] := by
    simp
  obtain ⟨hone, hchanges⟩ := acknowledged_one_to_one keyed_waiting hmoved
  refine ⟨_, _, keyed_waiting, hmoved, rfl, hone "j", ?_⟩
  rcases hchanges true hlost "j" with hnone | ⟨new, now, hnew, -⟩
  · exact hnone
  · cases hnew

end Dispatcher

end ComputeExchange
