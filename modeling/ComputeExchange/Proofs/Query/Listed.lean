import ComputeExchange.Proofs.Bus.Requests
import ComputeExchange.Proofs.Query.Desk

/-!
# Listings asked over the bus

Any number of clients ask listings while the two desks answer them, and the calls of all come in any
order.  A query is taken by the desk of its listing, at most once (`Leads.subject_of_taken`,
`Leads.taken_once`), and a client that has a reply has what this desk published at the turn at which
it took the query (`Leads.answered`).  So the client has exactly what the store listed at this turn,
or no more than that its query failed (`listed_over_bus`).
-/

namespace ComputeExchange

open Program Protocol MemoryBus

namespace Query

variable {ι : Type}

/-- What the clients ask, how long they wait, and how each desk finds its store at its turns. -/
structure Round (ι : Type) where
  desk : ι → Desk
  filter : (i : ι) → (desk i).Filter
  wait : ι → Nat
  turns : Desk → List Found
  dispatcher : Dispatcher (Program BusCall.Answer)
  registry : Registry (Program BusCall.Answer)

namespace Round

/-- What a party ends with. -/
abbrev Result (R : Round ι) : ι ⊕ Desk → Type
  | .inl i => Except QueryError (R.desk i).Response
  | .inr _ => Unit

/-- What a party does: a client asks, a desk answers. -/
def party (R : Round ι) : (c : ι ⊕ Desk) → Program BusCall.Answer (R.Result c)
  | .inl i => (R.desk i).ask ⟨BusAccess.asking.bus, R.wait i⟩ (R.filter i)
  | .inr d => d.attend R.dispatcher R.registry (R.turns d)

/-- The query of a client. -/
def payload (R : Round ι) (i : ι) : Payload := .ofJson ((R.desk i).writeFilter (R.filter i))

/-- The subject of the query of a client. -/
def subject (R : Round ι) (i : ι) : String := (R.desk i).subject

variable [DecidableEq ι]

/-- Whether all parties can make some calls in this order, and lead to a bus. -/
abbrev Leads (R : Round ι) (log : Interleaving BusCall.Answer (ι ⊕ Desk)) (bus : MemoryBus) :
    Prop :=
  Interleaves Serves (fun _ _ => False) R.party .empty log bus

variable {R : Round ι} {log before after : Interleaving BusCall.Answer (ι ⊕ Desk)}
  {bus : MemoryBus}

/-! ### An exchange -/

/-- A desk subscribes first, and goes from turn to turn then. -/
lemma Leads.desk_calls {d : Desk} {q : BusCall} {answer : q.Answer}
    (h : R.Leads (before ++ (.inr d, ⟨q, answer⟩) :: after) bus) :
    callsOf (.inr d) before = [] ∧ q = .subscribe d.subject ∨
      ∃ id t, callsOf (.inr d) before = ⟨.subscribe d.subject, id⟩ :: t ∧
        d.Turns id (R.turns d) t q := by
  obtain ⟨rest, hreaches⟩ := h.reaches (.inr d)
  rw [callsOf_append, callsOf_cons_self] at hreaches
  exact Desk.calls_attend R.dispatcher R.registry hreaches.calls

/-- A client makes the calls of its request. -/
lemma Leads.requests (h : R.Leads log bus) (i : ι) : ∃ rest,
    Reaches (BusAccess.asking.request (R.subject i) (R.payload i) (R.wait i))
      (callsOf (.inl i) log) rest := by
  obtain ⟨rest, hreaches⟩ := h.reaches (.inl i)
  rw [party, Desk.ask_eq] at hreaches
  rcases reaches_bind hreaches with hrequest | ⟨t₁, reply, t₂, ht, hrun, hend⟩
  · exact hrequest
  · cases hend
    rw [ht, List.append_nil]
    exact ⟨_, hrun⟩

/-- Desks answer only what they have taken, each from its own subscription. -/
lemma Leads.admitted {d : Desk} {e : Event BusCall.Answer}
    (h : R.Leads (before ++ (.inr d, e) :: after) bus) : Admitted before e := by
  obtain ⟨q, answer⟩ := e
  rcases h.desk_calls with ⟨-, rfl⟩ | ⟨id, t, hbefore, hturns⟩
  · trivial
  · rcases hturns.calls with rfl | ⟨reply, rfl⟩
    · exact ⟨d, d.subject, mem_callsOf.mp (hbefore ▸ List.mem_cons_self)⟩
    · obtain ⟨t', message, found, rfl, -, hreply⟩ := hturns.publish
      obtain ⟨hsubject, hplain⟩ := Desk.reply?_eq_some hreply
      exact ⟨hplain, fun _ => ⟨d, id, message, mem_callsOf.mp (by simp [hbefore]), hsubject⟩⟩

/-- Clients and desks make an exchange. -/
theorem Leads.exchange (h : R.Leads log bus) : Exchange R.subject R.payload R.wait log bus where
  served := h.served fun _ _ => id
  requests := h.requests
  outside i := (R.desk i).not_isBelow_subject
  admitted before d e after heq := by
    subst heq
    exact h.admitted

/-! ### Who takes what -/

/-- Nobody makes the bus refuse anything. -/
lemma Leads.not_refuse (h : R.Leads log bus) :
    ∀ e ∈ log.map (·.2), ∀ value, e.1 ≠ .refuse value := by
  intro e he value heq
  obtain ⟨⟨c, e⟩, hmem, rfl⟩ := List.mem_map.mp he
  obtain ⟨before, after, rfl⟩ := List.append_of_mem hmem
  obtain ⟨q, answer⟩ := e
  obtain rfl : q = .refuse value := heq
  cases c with
  | inl i =>
    have hnext := h.exchange.next
    generalize callsOf (.inl i) before = t at hnext
    cases hnext
  | inr d =>
    rcases h.desk_calls with ⟨-, heq⟩ | ⟨id, t, -, hturns⟩
    · cases heq
    · rcases hturns.calls with heq | ⟨reply, heq⟩ <;> cases heq

/-- What a desk has opened it alone takes from, and nobody gives up. -/
lemma Leads.holder (h : R.Leads log bus) {d : Desk} {pattern : String} {id : Nat}
    (hopened : (.inr d, ⟨.subscribe pattern, id⟩) ∈ log) {c : ι ⊕ Desk}
    {e : Event BusCall.Answer} (hc : (c, e) ∈ log) (he : e.1 = .take id ∨ e.1 = .unsubscribe id) :
    c = .inr d ∧ e.1 = .take id := by
  cases c with
  | inl i =>
    obtain ⟨inbox, hown⟩ := h.exchange.opens_own hc he
    cases h.exchange.opener_unique hown hopened
  | inr k =>
    obtain ⟨before, after, rfl⟩ := List.append_of_mem hc
    obtain ⟨q, answer⟩ := e
    rcases h.desk_calls with ⟨-, rfl⟩ | ⟨id', t, hbefore, hturns⟩
    · simp at he
    · rcases hturns.calls with rfl | ⟨reply, rfl⟩
      · obtain rfl : id' = id := by simpa using he
        have hown : (.inr k, ⟨.subscribe k.subject, id'⟩) ∈ before :=
          mem_callsOf.mp (hbefore ▸ List.mem_cons_self)
        exact ⟨h.exchange.opener_unique (List.mem_append_left _ hown) hopened, rfl⟩
      · simp at he

/-- What a desk has taken from its subscription. -/
lemma Leads.taken_from {d : Desk} {id : Nat} {answer : Option Message}
    (h : R.Leads (before ++ (.inr d, ⟨.take id, answer⟩) :: after) bus) :
    ∃ t, callsOf (.inr d) before = ⟨.subscribe d.subject, id⟩ :: t ∧
      d.Turns id (R.turns d) t (.take id) := by
  rcases h.desk_calls with ⟨-, heq⟩ | ⟨id', t, hbefore, hturns⟩
  · cases heq
  · rcases hturns.calls with heq | ⟨reply, heq⟩
    · obtain rfl : id = id' := BusCall.take.inj heq
      exact ⟨t, hbefore, hturns⟩
    · cases heq

/-- A desk takes what was published to its subject. -/
lemma Leads.subject_of_taken {d : Desk} {id : Nat} {message : Message}
    (h : R.Leads (before ++ (.inr d, ⟨.take id, some message⟩) :: after) bus) :
    message.subject = d.subject := by
  obtain ⟨t, hbefore, -⟩ := h.taken_from
  have hopened : (.inr d, ⟨.subscribe d.subject, id⟩) ∈ before :=
    mem_callsOf.mp (hbefore ▸ List.mem_cons_self)
  have hserved := h.exchange.served
  rw [List.map_append, List.map_cons] at hserved
  have hopened' := List.mem_map_of_mem (f := (·.2)) hopened
  refine d.isMatch_subject.mp (isMatch_of_taken hserved hopened' fun hmem => ?_)
  obtain ⟨⟨c, e⟩, hmem, rfl⟩ := List.mem_map.mp hmem
  cases (h.holder (List.mem_append_left _ hopened) (List.mem_append_left _ hmem) (Or.inr rfl)).2

/-- Whether the desk of a client takes its query after some calls, and how it finds its store at
this turn. -/
def TakenAt (R : Round ι) (log : Interleaving BusCall.Answer (ι ⊕ Desk)) (i : ι)
    (before : Interleaving BusCall.Answer (ι ⊕ Desk)) (found : Found) :
    Prop :=
  ∃ inbox id after,
    log = before ++
      (.inr (R.desk i), ⟨.take id, some ⟨R.subject i, some inbox, R.payload i⟩⟩) :: after ∧
    (.inl i, ⟨.inbox, inbox⟩) ∈ before ∧
    (R.turns (R.desk i))[Desk.turnsOf (callsOf (.inr (R.desk i)) before)]? = some found

/-- A message that names the inbox of a client is taken at most once from the subscription of a
desk. -/
lemma Leads.count_taken_le (h : R.Leads log bus) {d : Desk} {id : Nat} {pattern : String}
    (hopened : (.inr d, ⟨.subscribe pattern, id⟩) ∈ log) {i : ι} {inbox : String}
    (hinbox : (.inl i, ⟨.inbox, inbox⟩) ∈ log) {message : Message}
    (hreply : message.reply = some inbox) : (taken id (log.map (·.2))).count message ≤ 1 := by
  have hholder := fun {c e} => h.holder hopened (c := c) (e := e)
  have honce := h.exchange.sent_once hinbox hreply
  have hserved := h.exchange.served
  obtain ⟨before, after, rfl⟩ := List.append_of_mem hopened
  have hfirst : callsOf (.inr d) before = [] := by
    rcases h.desk_calls with ⟨hfirst, -⟩ | ⟨id', t, -, hturns⟩
    · exact hfirst
    · rcases hturns.calls with heq | ⟨reply, heq⟩ <;> cases heq
  -- Nothing is taken from the subscription before it is opened.
  have hnone : taken id (before.map (·.2)) = [] := by
    refine List.filterMap_eq_nil_iff.mpr fun e he => ?_
    obtain ⟨⟨c, q, answer⟩, hmem, rfl⟩ := List.mem_map.mp he
    cases q with
    | take id' =>
      refine if_neg fun hid => ?_
      obtain ⟨rfl, -⟩ := hholder (List.mem_append_left _ hmem) (Or.inl (congrArg BusCall.take hid))
      have hcalls := mem_callsOf.mpr hmem
      rw [hfirst] at hcalls
      cases hcalls
    | _ => rfl
  rw [List.map_append, List.map_cons] at hserved honce ⊢
  obtain ⟨opened, waiting, -, -, -, heq⟩ := holds_of_opened hserved fun hmem => by
    obtain ⟨⟨c, e⟩, hmem, rfl⟩ := List.mem_map.mp hmem
    cases (hholder (List.mem_append_right _ (List.mem_cons_of_mem _ hmem)) (Or.inr rfl)).2
  have hafter : taken id (before.map (·.2) ++ ⟨.subscribe pattern, id⟩ :: after.map (·.2)) =
      taken id (after.map (·.2)) := by
    rw [taken, List.filterMap_append, List.filterMap_cons_none rfl]
    exact (congrArg (· ++ _) hnone).trans (List.nil_append _)
  calc (taken id (before.map (·.2) ++ ⟨.subscribe pattern, id⟩ :: after.map (·.2))).count message
      = (taken id (after.map (·.2))).count message := by rw [hafter]
    _ ≤ (taken id (after.map (·.2)) ++ waiting).count message :=
        (List.sublist_append_left _ _).count_le message
    _ ≤ (sent (after.map (·.2))).count message := heq ▸ List.filter_sublist.count_le message
    _ ≤ (sent (before.map (·.2) ++ ⟨.subscribe pattern, id⟩ :: after.map (·.2))).count message := by
        rw [sent_append, sent_cons, List.count_append, List.count_append]
        omega
    _ ≤ 1 := honce

/-- The query of a client is taken at most once. -/
theorem Leads.taken_once (h : R.Leads log bus) {i : ι}
    {before₁ before₂ : Interleaving BusCall.Answer (ι ⊕ Desk)}
    {found₁ found₂ : Found} (h₁ : R.TakenAt log i before₁ found₁)
    (h₂ : R.TakenAt log i before₂ found₂) : before₁ = before₂ ∧ found₁ = found₂ := by
  obtain ⟨inbox₁, id₁, after₁, rfl, hinbox₁, hfound₁⟩ := h₁
  obtain ⟨inbox₂, id₂, after₂, heq, hinbox₂, hfound₂⟩ := h₂
  obtain ⟨t₁, ht₁, -⟩ := h.taken_from
  obtain ⟨t₂, ht₂, -⟩ := Leads.taken_from (heq ▸ h)
  obtain rfl : inbox₂ = inbox₁ := h.exchange.drawn_unique (List.mem_append_left _ hinbox₁)
    (heq ▸ List.mem_append_left _ hinbox₂)
  have hid : id₂ = id₁ := by
    have hcalls := congrArg (callsOf (.inr (R.desk i))) heq
    rw [callsOf_append, callsOf_append, ht₁, ht₂, List.cons_append, List.cons_append] at hcalls
    simpa using (List.cons.inj hcalls).1.symm
  subst hid
  have hbefore : before₁ = before₂ := by
    have hopened : (.inr (R.desk i), ⟨.subscribe (R.desk i).subject, id₂⟩) ∈ before₁ :=
      mem_callsOf.mp (ht₁ ▸ List.mem_cons_self)
    have hreply : (⟨R.subject i, some inbox₂, R.payload i⟩ : Message).reply = some inbox₂ := rfl
    have hcount := h.count_taken_le (List.mem_append_left _ hopened)
      (List.mem_append_left _ hinbox₁) hreply
    rw [taken, List.filterMap_map] at hcount
    exact before_unique hcount heq (if_pos rfl) (if_pos rfl)
  subst hbefore
  exact ⟨rfl, Option.some.inj (hfound₁.symm.trans hfound₂)⟩

/-! ### Replies -/

/-- Nothing that is published is refused. -/
lemma Leads.accepted (h : R.Leads log bus) {c : ι ⊕ Desk} {message : Message}
    {answer : Except BusError Nat} (hmem : (c, ⟨.publish message, answer⟩) ∈ log) :
    ∃ heard, answer = .ok heard := by
  obtain ⟨before, after, rfl⟩ := List.append_of_mem hmem
  have hnever := h.not_refuse
  have hserved := h.exchange.served
  rw [List.map_append] at hnever hserved
  obtain ⟨w, hbefore, hafter⟩ := hserved.of_append
  have haccepts : w.isRefusing = false :=
    isRefusing_of_served hbefore fun e he => hnever e (List.mem_append_left _ he)
  cases hafter with
  | cons hserves _ =>
    exact ⟨_, hserves.accepted haccepts⟩

/-- What a desk publishes to the inbox of a client answers the query of this client, which it has
taken before from the store as it found it then. -/
lemma Leads.published_answer {i : ι} {k : Desk} {inbox : String} {reply : Payload}
    {answer : Except BusError Nat}
    (h : R.Leads (before ++ (.inr k, ⟨.publish ⟨inbox, none, reply⟩, answer⟩) :: after) bus)
    (hinbox : (.inl i, ⟨.inbox, inbox⟩) ∈
      before ++ (.inr k, ⟨.publish ⟨inbox, none, reply⟩, answer⟩) :: after) :
    ∃ earlier found rows,
      R.TakenAt (before ++ (.inr k, ⟨.publish ⟨inbox, none, reply⟩, answer⟩) :: after) i earlier
        found ∧
      (R.desk i).stored found (R.filter i) = .ok rows ∧
      reply = .ofJson ((R.desk i).writeResponse ((R.desk i).ofRows rows)) := by
  obtain ⟨-, heq⟩ | ⟨id, t, hcalls, hturns⟩ := h.desk_calls
  · cases heq
  obtain ⟨t, message, found, rfl, hfound, hanswer⟩ := hturns.publish
  rw [← List.cons_append] at hcalls
  obtain ⟨earlier, rest, rfl, hearlier, -⟩ := exists_split_of_callsOf hcalls
  rw [List.append_assoc, List.cons_append] at h hinbox ⊢
  have hnamed : message.reply = some inbox := (Desk.reply?_eq_some hanswer).1
  obtain ⟨rfl, heard, asked, sent, rfl⟩ := h.exchange.sent_of_taken hinbox hnamed
  -- The desk has taken the query from its own subject, so it is the desk of the client.
  obtain rfl : R.desk i = k := Desk.subject_inj.mp h.subject_of_taken
  have hdrawn : (.inl i, ⟨.inbox, inbox⟩) ∈ asked := by
    rw [List.append_assoc, List.cons_append] at h
    obtain ⟨inbox', id', hasked, heq⟩ := h.exchange.publishes
    obtain rfl : inbox = inbox' := by simpa using heq
    exact mem_callsOf.mp (hasked ▸ List.mem_cons_self)
  cases hrows : (R.desk i).stored found (R.filter i) with
  | error e =>
    rw [subject, payload, Desk.reply?_of_error hrows] at hanswer
    cases hanswer
  | ok rows =>
    rw [subject, payload, Desk.reply?_ofJson hrows] at hanswer
    refine ⟨_, found, rows, ⟨inbox, id, _, rfl, List.mem_append_left _ hdrawn, ?_⟩, hrows, ?_⟩
    · rw [hearlier, Desk.turnsOf_subscribe, hfound]
    · exact (congrArg Message.payload (Option.some.inj hanswer)).symm

/-- A client that has a reply has what its desk published at the turn at which it took the query. -/
theorem Leads.answered (h : R.Leads log bus) {i : ι} {reply : Payload}
    (hrun : Runs (BusAccess.asking.request (R.subject i) (R.payload i) (R.wait i))
      (callsOf (.inl i) log) (.ok reply)) :
    ∃ before found rows, R.TakenAt log i before found ∧
      (R.desk i).stored found (R.filter i) = .ok rows ∧
      reply = .ofJson ((R.desk i).writeResponse ((R.desk i).ofRows rows)) := by
  obtain ⟨early, mid, late, inbox, heard, k, heard', rfl, -, -⟩ := h.exchange.first_reply hrun
  obtain ⟨inbox', id', hdrawn, heq⟩ := h.exchange.publishes
  obtain rfl : inbox' = inbox := by simpa using heq.symm
  have hinbox : (.inl i, ⟨.inbox, inbox'⟩) ∈ early := mem_callsOf.mp (hdrawn ▸ List.mem_cons_self)
  rw [← List.cons_append, ← List.append_assoc] at h ⊢
  exact h.published_answer (List.mem_append_left _ (List.mem_append_left _ hinbox))

/-! ### In time -/

/-- The query of a client goes to someone if its desk has subscribed. -/
lemma Leads.heard {i : ι} {message : Message} {heard id : Nat}
    (h : R.Leads (before ++ (.inl i, ⟨.publish message, .ok heard⟩) :: after) bus)
    (hopened : (.inr (R.desk i), ⟨.subscribe (R.desk i).subject, id⟩) ∈ before) : heard ≠ 0 := by
  obtain ⟨w, hserved, hunheard⟩ := h.exchange.unheard_iff
  have hkept : (⟨.unsubscribe id, ()⟩ : Event BusCall.Answer) ∉ before.map (·.2) := fun hmem => by
    obtain ⟨⟨c, e⟩, hmem, rfl⟩ := List.mem_map.mp hmem
    cases (h.holder (List.mem_append_left _ hopened) (List.mem_append_left _ hmem)
      (Or.inr rfl)).2
  obtain ⟨unopened, since, rfl⟩ := List.append_of_mem hopened
  rw [List.map_append, List.map_cons] at hserved hkept
  obtain ⟨opened, waiting, -, -, hholds, -⟩ := holds_of_opened hserved fun hmem =>
    hkept (List.mem_append_right _ (List.mem_cons_of_mem _ hmem))
  intro hnobody
  have hheld : ⟨id, (R.desk i).subject, true, waiting⟩ ∈ w.held :=
    List.mem_filter.mpr ⟨hholds.mem, rfl⟩
  exact hunheard.mp hnobody _ hheld ((R.desk i).isMatch_subject.mpr rfl)

/-- A desk whose store lists something when it takes a query publishes the answer with its next
call. -/
lemma Leads.publishes_answer (h : R.Leads log bus) {i : ι} {inbox : String} {id : Nat}
    {early late : Interleaving BusCall.Answer (ι ⊕ Desk)} {found : Found}
    {rows : List (R.desk i).Row}
    (htaken : log = before ++
      (.inr (R.desk i), ⟨.take id, some ⟨R.subject i, some inbox, R.payload i⟩⟩) :: after)
    (hfound : (R.turns (R.desk i))[Desk.turnsOf (callsOf (.inr (R.desk i)) before)]? = some found)
    (hrows : (R.desk i).stored found (R.filter i) = .ok rows) (hearly : log = early ++ late)
    (hlong : (callsOf (.inr (R.desk i)) before).length + 1 <
      (callsOf (.inr (R.desk i)) early).length) :
    ∃ reply heard, (.inr (R.desk i), ⟨.publish ⟨inbox, none, reply⟩, .ok heard⟩) ∈ early := by
  obtain ⟨t, ht, -⟩ := Leads.taken_from (htaken ▸ h)
  obtain ⟨e, t', hcalls⟩ : ∃ e t', callsOf (.inr (R.desk i)) early =
      (callsOf (.inr (R.desk i)) before ++
        [⟨.take id, some ⟨R.subject i, some inbox, R.payload i⟩⟩]) ++ e :: t' := by
    have hheads := congrArg (callsOf (.inr (R.desk i))) (htaken.symm.trans hearly)
    rw [callsOf_append, callsOf_cons_self, callsOf_append, ← List.singleton_append,
      ← List.append_assoc] at hheads
    obtain ⟨t', ht'⟩ := List.prefix_of_prefix_length_le ⟨_, hheads⟩ (List.prefix_append _ _)
      (by simpa using hlong.le)
    cases t' with
    | nil =>
      rw [← ht'] at hlong
      simp at hlong
    | cons e t' => exact ⟨e, t', ht'.symm⟩
  obtain ⟨earlier, rest, rfl, hearlier, -⟩ := exists_split_of_callsOf hcalls
  obtain ⟨q, answer⟩ := e
  rw [hearly, List.append_assoc, List.cons_append] at h
  obtain ⟨hnil, -⟩ | ⟨id', t₁, ht₁, hturns⟩ := h.desk_calls
  · simp [hnil] at hearlier
  rw [hearlier, ht, List.cons_append, List.cons.injEq] at ht₁
  obtain ⟨heq, rfl⟩ := ht₁
  obtain rfl : id = id' := by simpa using heq
  rw [ht, Desk.turnsOf_subscribe] at hfound
  obtain rfl := hturns.answers hfound (Desk.reply?_ofJson hrows)
  obtain ⟨heard, rfl⟩ := h.accepted (List.mem_append_right _ List.mem_cons_self)
  exact ⟨_, heard, List.mem_append_right _ List.mem_cons_self⟩

/-- A client looks in vain only as long as its desk has made no call since it took the query, if the
store listed something. -/
theorem Leads.in_vain {i : ι} {id : Nat} {early late : Interleaving BusCall.Answer (ι ⊕ Desk)}
    (h : R.Leads (early ++ (.inl i, ⟨.take id, none⟩) :: late) bus)
    {found : Found} {rows : List (R.desk i).Row}
    (htaken : R.TakenAt (early ++ (.inl i, ⟨.take id, none⟩) :: late) i before found)
    (hrows : (R.desk i).stored found (R.filter i) = .ok rows) :
    (callsOf (.inr (R.desk i)) early).length ≤ (callsOf (.inr (R.desk i)) before).length + 1 := by
  obtain ⟨inbox, id', after', heq, hinbox, hfound⟩ := htaken
  by_contra! hlong
  obtain ⟨reply, heard, hsent⟩ := h.publishes_answer heq hfound hrows rfl hlong
  exact h.exchange.takes_reply (heq ▸ List.mem_append_left _ hinbox) hsent rfl

/-! ### Results -/

/-- Whether a client has looked for its reply in vain. -/
def TimedOut (log : Interleaving BusCall.Answer (ι ⊕ Desk)) (i : ι) : Prop :=
  ∃ id, (.inl i, ⟨.take id, none⟩) ∈ log

/-- A client has what its desk published, or has failed because it looked in vain or its query went
to nobody. -/
lemma Leads.outcome (h : R.Leads log bus) {i : ι} {r : Except QueryError (R.desk i).Response}
    (hrun : Runs ((R.desk i).ask ⟨BusAccess.asking.bus, R.wait i⟩ (R.filter i))
      (callsOf (.inl i) log) r) :
    (r = .error .failed ∧ (TimedOut log i ∨ ∃ message, (.inl i, ⟨.publish message, .ok 0⟩) ∈ log)) ∨
      ∃ before found rows, R.TakenAt log i before found ∧
        (R.desk i).stored found (R.filter i) = .ok rows ∧ r = .ok ((R.desk i).ofRows rows) := by
  rw [Desk.ask_eq] at hrun
  obtain ⟨t, result, t', ht, hrequest, hend⟩ := runs_bind.mp hrun
  obtain ⟨rfl, rfl⟩ := runs_pure.mp hend
  rw [List.append_nil] at ht
  have hmem : ∀ e ∈ t, (.inl i, e) ∈ log := fun e he => mem_callsOf.mp (ht ▸ he)
  have hasked := asked_of_runs_request hrequest
  cases hasked with
  | refused inbox id e =>
    obtain ⟨heard, heq⟩ := h.accepted (hmem _ (.tail _ (.tail _ (.head _))))
    cases heq
  | unheard inbox id =>
    exact Or.inl ⟨rfl, Or.inr ⟨_, hmem _ (.tail _ (.tail _ (.head _)))⟩⟩
  | timedOut inbox id heard =>
    exact Or.inl ⟨rfl, Or.inl ⟨id, hmem _ (.tail _ (.tail _ (.tail _ (.head _))))⟩⟩
  | answered inbox id heard message =>
    obtain ⟨before, found, rows, htaken, hrows, hreply⟩ := h.answered (ht.symm ▸ hrequest)
    exact Or.inr ⟨before, found, rows, htaken, hrows, by rw [hreply, Desk.result_ofJson]⟩

/-- A query that has been taken has not gone to nobody. -/
lemma Leads.not_unheard (h : R.Leads log bus) {i : ι} {found : Found}
    (htaken : R.TakenAt log i before found) (message : Message) :
    (.inl i, ⟨.publish message, .ok 0⟩) ∉ log := by
  intro hmem
  obtain ⟨inbox, id, after', rfl, hinbox, -⟩ := htaken
  obtain ⟨-, heard, early, mid, rfl⟩ :=
    h.exchange.sent_of_taken (List.mem_append_left _ hinbox) rfl
  have hsent : (.inl i, ⟨.publish ⟨R.subject i, some inbox, R.payload i⟩, .ok (heard + 1)⟩) ∈
      early ++ (.inl i, ⟨.publish ⟨R.subject i, some inbox, R.payload i⟩, .ok (heard + 1)⟩) ::
        mid := List.mem_append_right _ List.mem_cons_self
  cases (h.exchange.publish_unique hmem (List.mem_append_left _ hsent)).2

/-- A client that asks for a listing has what the store lists.  It never learns more of a failure
than that its query failed; an answer has exactly the rows that the store listed when the desk took
the query, and counts them.  The desk takes the query at most once.  If the store fails then, the
query fails; if it lists some rows, the client has them unless it has looked in vain for the reply,
which it does only as long as the desk has made no call since.  If the desk has subscribed before
the query is sent and the client does not look in vain, the query is taken. -/
theorem listed_over_bus (h : R.Leads log bus) (i : ι) {r : Except QueryError (R.desk i).Response}
    (hrun : Program.Runs ((R.desk i).ask ⟨BusAccess.asking.bus, R.wait i⟩ (R.filter i))
      (callsOf (.inl i) log) r) :
    (∀ e, r = .error e → e = .failed) ∧
    (∀ response, r = .ok response → ∃ before found, R.TakenAt log i before found ∧
      (R.desk i).stored found (R.filter i) = .ok ((R.desk i).rows response) ∧
      ((R.desk i).count response).toNat = ((R.desk i).rows response).length) ∧
    (∀ before found before' found', R.TakenAt log i before found →
      R.TakenAt log i before' found' → before' = before ∧ found' = found) ∧
    (∀ before found, R.TakenAt log i before found →
      (∀ e, (R.desk i).stored found (R.filter i) = .error e → r = .error .failed) ∧
      ∀ rows, (R.desk i).stored found (R.filter i) = .ok rows →
        (¬ TimedOut log i → r = .ok ((R.desk i).ofRows rows)) ∧
        ∀ early id late, log = early ++ (.inl i, ⟨.take id, none⟩) :: late →
          (callsOf (.inr (R.desk i)) early).length ≤
            (callsOf (.inr (R.desk i)) before).length + 1) ∧
    (∀ before id since message sent after,
      log = before ++ (.inr (R.desk i), ⟨.subscribe (R.desk i).subject, id⟩) ::
        (since ++ (.inl i, ⟨.publish message, sent⟩) :: after) →
      ¬ TimedOut log i → ∃ before found, R.TakenAt log i before found) := by
  have houtcome := h.outcome hrun
  refine ⟨?_, ?_, ?_, ?_, ?_⟩
  · rintro e rfl
    obtain ⟨heq, -⟩ | ⟨_, _, _, _, _, heq⟩ := houtcome
    · exact Except.error.inj heq
    · cases heq
  · rintro response rfl
    obtain ⟨heq, -⟩ | ⟨before, found, rows, htaken, hrows, heq⟩ := houtcome
    · cases heq
    · obtain rfl := Except.ok.inj heq
      refine ⟨before, found, htaken, ?_, ?_⟩
      · rw [Desk.rows_ofRows, hrows]
      · rw [Desk.rows_ofRows, Desk.count_ofRows hrows]
  · intro before found before' found' htaken htaken'
    exact h.taken_once htaken' htaken
  · intro before found htaken
    refine ⟨fun e herror => ?_, fun rows hrows => ⟨fun hintime => ?_, ?_⟩⟩
    · obtain ⟨heq, -⟩ | ⟨before', found', rows, htaken', hrows, -⟩ := houtcome
      · exact heq
      · obtain ⟨-, rfl⟩ := h.taken_once htaken htaken'
        cases herror.symm.trans hrows
    · obtain ⟨-, hlate | ⟨message, hmem⟩⟩ | ⟨before', found', rows', htaken', hrows', rfl⟩ :=
        houtcome
      · exact absurd hlate hintime
      · exact absurd hmem (h.not_unheard htaken message)
      · obtain ⟨-, rfl⟩ := h.taken_once htaken htaken'
        rw [Except.ok.inj (hrows.symm.trans hrows')]
    · rintro early id late rfl
      exact h.in_vain htaken hrows
  · rintro before id since message sent after rfl hintime
    obtain ⟨-, hlate | ⟨message', hmem⟩⟩ | ⟨before', found', rows', htaken', -, -⟩ := houtcome
    · exact absurd hlate hintime
    · rw [← List.cons_append, ← List.append_assoc] at h hmem
      have hsent : (.inl i, ⟨.publish message, sent⟩) ∈
          before ++ (.inr (R.desk i), ⟨.subscribe (R.desk i).subject, id⟩) :: since ++
            (.inl i, ⟨.publish message, sent⟩) :: after :=
        List.mem_append_right _ List.mem_cons_self
      obtain ⟨rfl, rfl⟩ := h.exchange.publish_unique hmem hsent
      exact absurd rfl (h.heard (List.mem_append_right _ List.mem_cons_self))
    · exact ⟨before', found', htaken'⟩

/-- A store with one job. -/
def oneJob : MemoryStore :=
  (MemoryStore.empty.perform (.insertJob ⟨"a", "r", "p", "i", "c", "1"⟩ default)).2

/-- The job in it. -/
def onlyJob : Job := .ofNew ⟨"a", "r", "p", "i", "c", "1"⟩ default

lemma stored_oneJob : Desk.stored (.ok oneJob) .jobs default = .ok [onlyJob] := by
  have hmatching : oneJob.matchingJobs default = [onlyJob] := List.mergeSort_singleton onlyJob
  change Except.ok ((JobFilter.page default).cut (oneJob.matchingJobs default)) = _
  rw [hmatching]
  rfl

/-- Two clients that list all jobs, where the store has one job at the first turn of the desk and is
out of reach at the second. -/
def oneJobThenNone : Round Bool where
  desk _ := .jobs
  filter _ := default
  wait _ := 1
  turns _ := [.ok oneJob, .error .unavailable]
  dispatcher := ⟨Desk.storeAt (.error .unavailable), BusAccess.asking.bus, pure default⟩
  registry := ⟨Desk.storeAt (.error .unavailable), pure default, 0⟩

/-- The query of both clients, with the inbox of one. -/
def queryFrom (inbox : String) : Message := ⟨"jobs.query", some inbox, oneJobThenNone.payload true⟩

/-- The answer with the one job. -/
def answerTo (inbox : String) : Message :=
  ⟨inbox, none, .ofJson (JobsResponse.ofRows [onlyJob]).toJson⟩

/-- The calls of the two clients and of the desk for jobs. -/
def twoQueries : Interleaving BusCall.Answer (Bool ⊕ Desk) :=
  [(.inr .jobs, ⟨.subscribe "jobs.query", 0⟩), (.inl false, ⟨.inbox, "_INBOX.0"⟩),
    (.inl false, ⟨.subscribe "_INBOX.0", 1⟩),
    (.inl false, ⟨.publish (queryFrom "_INBOX.0"), .ok 1⟩), (.inl true, ⟨.inbox, "_INBOX.1"⟩),
    (.inl true, ⟨.subscribe "_INBOX.1", 2⟩), (.inl true, ⟨.publish (queryFrom "_INBOX.1"), .ok 1⟩),
    (.inr .jobs, ⟨.take 0, some (queryFrom "_INBOX.0")⟩),
    (.inr .jobs, ⟨.publish (answerTo "_INBOX.0"), .ok 1⟩),
    (.inr .jobs, ⟨.take 0, some (queryFrom "_INBOX.1")⟩),
    (.inl false, ⟨.take 1, some (answerTo "_INBOX.0")⟩), (.inl false, ⟨.unsubscribe 1, ()⟩),
    (.inl true, ⟨.take 2, none⟩), (.inl true, ⟨.unsubscribe 2, ()⟩)]

/-- The clients and the desk can make these calls. -/
lemma leads_twoQueries : ∃ bus, oneJobThenNone.Leads twoQueries bus ∧
    Runs (Desk.jobs.ask ⟨BusAccess.asking.bus, 1⟩ default) (callsOf (.inl false) twoQueries)
      (.ok (.ofRows [onlyJob])) ∧
    Runs (Desk.jobs.ask ⟨BusAccess.asking.bus, 1⟩ default) (callsOf (.inl true) twoQueries)
      (.error .failed) := by
  obtain ⟨bus, hserved⟩ : ∃ bus, Served Serves .empty (twoQueries.map (·.2)) bus :=
    ⟨_, .cons rfl (.cons rfl (.cons rfl (.cons rfl (.cons rfl (.cons rfl (.cons rfl (.cons rfl
      (.cons rfl (.cons rfl (.cons rfl (.cons rfl (.cons rfl (.cons rfl (.nil _))))))))))))))⟩
  have hfalse : Runs (Desk.jobs.ask ⟨BusAccess.asking.bus, 1⟩ default)
      (callsOf (.inl false) twoQueries) (.ok (.ofRows [onlyJob])) := by
    rw [Desk.ask_eq]
    refine runs_bind.mpr ⟨_, .ok _, [], (List.append_nil _).symm,
      .call _ (.call _ (.call _ (.call _ (.call _ (.here _))))), runs_pure.mpr ⟨rfl, ?_⟩⟩
    exact (Desk.result_ofJson .jobs (.ofRows [onlyJob])).symm
  have htrue : Runs (Desk.jobs.ask ⟨BusAccess.asking.bus, 1⟩ default)
      (callsOf (.inl true) twoQueries) (.error .failed) := by
    rw [Desk.ask_eq]
    exact runs_bind.mpr ⟨_, .error _, [], (List.append_nil _).symm,
      .call _ (.call _ (.call _ (.call _ (.call _ (.here _))))), runs_pure.mpr ⟨rfl, rfl⟩⟩
  have hanswer : Desk.jobs.reply? (.ok oneJob) (queryFrom "_INBOX.0") =
      some (answerTo "_INBOX.0") := Desk.reply?_ofJson stored_oneJob
  have hsilent : Desk.jobs.reply? (.error .unavailable) (queryFrom "_INBOX.1") = none :=
    Desk.reply?_of_error (f := default) rfl
  refine ⟨bus, .of_served hserved fun c => ?_, hfalse, htrue⟩
  match c with
  | .inl false => exact ⟨_, hfalse⟩
  | .inl true => exact ⟨_, htrue⟩
  | .inr .jobs => exact ⟨_, .call 0 ((Desk.reaches_serve_of_some _ _ hanswer 0 _ (.ok 1)).trans
      (Desk.reaches_serve_of_none _ _ hsilent 0 _))⟩
  | .inr .nodes => exact ⟨_, .here _⟩

/-- The one client has the job, and the other learns that its query failed. -/
theorem listed_to_one_of_two : ∃ bus, oneJobThenNone.Leads twoQueries bus ∧
    (∃ before found, oneJobThenNone.TakenAt twoQueries false before found ∧
      Desk.jobs.stored found default = .ok [onlyJob] ∧
      (JobsResponse.ofRows [onlyJob]).count.toNat = 1) ∧
    ∀ r, Runs (Desk.jobs.ask ⟨BusAccess.asking.bus, 1⟩ default)
      (callsOf (.inl true) twoQueries) r → r = .error .failed := by
  obtain ⟨bus, hleads, hfalse, htrue⟩ := leads_twoQueries
  obtain ⟨-, hlisted, -, -, -⟩ := listed_over_bus hleads false hfalse
  refine ⟨bus, hleads, hlisted _ rfl, fun r hrun => ?_⟩
  have htaken : oneJobThenNone.TakenAt twoQueries true (twoQueries.take 9)
      (.error .unavailable) :=
    ⟨"_INBOX.1", 0, twoQueries.drop 10, rfl, by simp [twoQueries], rfl⟩
  obtain ⟨-, -, -, hfailed, -⟩ := listed_over_bus hleads true hrun
  exact (hfailed _ _ htaken).1 _ rfl

end Round

end Query

end ComputeExchange
