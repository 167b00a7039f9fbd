import ComputeExchange.Bus.Memory
import ComputeExchange.Proofs.Protocol

/-!
# Calls to a bus

`MemoryBus.Serves` says how a bus answers a call, so that `Protocol.Served` tells of any number of
calls, whoever makes them.  What a call can do to a bus is said once (`MemoryBus.Serves.changes`),
and all else follows from there by cases: what it does to one subscription
(`MemoryBus.Serves.holds`), to the log, and to the numbers that inboxes and subscriptions have.

A request makes several calls.  `MemoryBus.Asked` has all calls of a whole request with its result,
and `MemoryBus.Next` what a request calls next.
-/

namespace ComputeExchange

open Program Protocol

/-- Calls to a bus with their answers, in order. -/
abbrev BusTrace : Type := Trace BusCall.Answer

/-- A bus that is asked everything.  Waiting for a message is not a call: how long it lasts only
decides which calls of others come before the next one. -/
def BusAccess.asking : BusAccess (Program BusCall.Answer) where
  perform := ask
  await := fun _ _ => pure ()

/-! ### What becomes of a subscription -/

namespace Subscription

variable {s : Subscription} {id : Nat} {message : Message}

/-- A subscription after a message has been offered to it. -/
def offer (message : Message) (s : Subscription) : Subscription :=
  if Subject.isMatch s.pattern message.subject then
    { s with waiting := s.waiting ++ [message] }
  else s

/-- A subscription after the one with some id has been given up. -/
def close (id : Nat) (s : Subscription) : Subscription :=
  if s.id = id then { s with isHeld := false, waiting := [] } else s

/-- A subscription after the first message has been taken from the one with some id. -/
def advance (id : Nat) (s : Subscription) : Subscription :=
  if s.id = id then { s with waiting := s.waiting.drop 1 } else s

@[simp] lemma offer_id : (s.offer message).id = s.id := by
  unfold offer
  split_ifs <;> rfl

@[simp] lemma close_id : (s.close id).id = s.id := by
  unfold close
  split_ifs <;> rfl

@[simp] lemma advance_id : (s.advance id).id = s.id := by
  unfold advance
  split_ifs <;> rfl

lemma close_of_ne (hne : s.id ≠ id) : s.close id = s := if_neg hne

lemma advance_of_ne (hne : s.id ≠ id) : s.advance id = s := if_neg hne

/-- A message waits behind the others where its subject matches. -/
lemma offer_waiting : (s.offer message).waiting =
    s.waiting ++ [message].filter (Subject.isMatch s.pattern ·.subject) := by
  unfold offer
  split_ifs with hmatch
  · rw [List.filter_singleton, hmatch, cond_true]
  · rw [List.filter_singleton, Bool.eq_false_iff.mpr hmatch, cond_false, List.append_nil]

/-- An offer changes only what waits. -/
lemma offer_eq : s.offer message = { s with waiting := (s.offer message).waiting } := by
  unfold offer
  split_ifs <;> rfl

lemma close_waiting_suffix : (s.close id).waiting <:+ s.waiting := by
  unfold close
  split_ifs
  · exact List.nil_suffix
  · exact List.suffix_refl _

lemma advance_waiting_suffix : (s.advance id).waiting <:+ s.waiting := by
  unfold advance
  split_ifs
  · exact List.drop_suffix _ _
  · exact List.suffix_refl _

end Subscription

namespace MemoryBus

/-- How a bus answers a call, and the bus after it. -/
def Serves (bus : MemoryBus) (c : BusCall) (answer : c.Answer) (bus' : MemoryBus) : Prop :=
  bus.perform c = (answer, bus')

variable {bus bus' : MemoryBus} {id : Nat} {pattern : String} {waiting : List Message}
  {q : BusCall} {answer : q.Answer}

/-- What a call can do to a bus. -/
inductive Changes (bus : MemoryBus) : Event BusCall.Answer → MemoryBus → Prop where
  | opens (pattern : String) :
      bus.Changes ⟨.subscribe pattern, bus.nextId⟩
        { bus with
          subscriptions := bus.subscriptions ++ [⟨bus.nextId, pattern, true, []⟩]
          nextId := bus.nextId + 1 }
  | closes (id : Nat) :
      bus.Changes ⟨.unsubscribe id, ()⟩
        { bus with subscriptions := bus.subscriptions.map (.close id) }
  | refuses (message : Message) (h : bus.isRefusing = true) :
      bus.Changes ⟨.publish message, .error (.publish message.subject (.ofText "bus unavailable"))⟩
        bus
  | delivers (message : Message) (h : bus.isRefusing = false) :
      bus.Changes ⟨.publish message, .ok (bus.listeners message.subject)⟩
        { bus with
          subscriptions := bus.held.map (.offer message)
          published := bus.published ++ [message] }
  | takes (id : Nat) (s : Subscription) (message : Message) (rest : List Message)
      (hfind : bus.subscriptions.find? (·.id == id) = some s)
      (hwaiting : s.waiting = message :: rest) :
      bus.Changes ⟨.take id, some message⟩
        { bus with subscriptions := bus.subscriptions.map (.advance id) }
  | misses (id : Nat)
      (hempty : ∀ s, bus.subscriptions.find? (·.id == id) = some s → s.waiting = []) :
      bus.Changes ⟨.take id, none⟩ bus
  | draws : bus.Changes ⟨.inbox, inboxOf bus.inboxRoot bus.requests⟩
      { bus with requests := bus.requests + 1 }
  | turns (value : Bool) : bus.Changes ⟨.refuse value, ()⟩ { bus with isRefusing := value }

/-- A bus does what the call can do. -/
theorem Serves.changes (h : bus.Serves q answer bus') : bus.Changes ⟨q, answer⟩ bus' := by
  cases q with
  | subscribe pattern =>
    obtain ⟨rfl, rfl⟩ := Prod.mk.inj h
    exact .opens pattern
  | unsubscribe id =>
    obtain ⟨-, rfl⟩ := Prod.mk.inj h
    exact .closes id
  | publish message =>
    change bus.publish message = (answer, bus') at h
    unfold MemoryBus.publish at h
    by_cases hrefusing : bus.isRefusing = true
    · rw [if_pos hrefusing] at h
      obtain ⟨rfl, rfl⟩ := Prod.mk.inj h
      exact .refuses message hrefusing
    · rw [if_neg hrefusing] at h
      obtain ⟨rfl, rfl⟩ := Prod.mk.inj h
      exact .delivers message (Bool.eq_false_iff.mpr hrefusing)
  | take id =>
    change bus.take id = (answer, bus') at h
    unfold MemoryBus.take at h
    cases hfind : bus.subscriptions.find? (·.id == id) with
    | none =>
      rw [hfind] at h
      obtain ⟨rfl, rfl⟩ := Prod.mk.inj h
      exact .misses id (by simp [hfind])
    | some s =>
      rw [hfind, Option.map_some] at h
      cases hwaiting : s.waiting with
      | nil =>
        rw [hwaiting] at h
        obtain ⟨rfl, rfl⟩ := Prod.mk.inj h
        refine .misses id fun s' hs' => ?_
        rwa [← Option.some.inj (hfind.symm.trans hs')]
      | cons message rest =>
        rw [hwaiting] at h
        obtain ⟨rfl, rfl⟩ := Prod.mk.inj h
        exact .takes id s message rest hfind hwaiting
  | inbox =>
    obtain ⟨rfl, rfl⟩ := Prod.mk.inj h
    exact .draws
  | refuse value =>
    obtain ⟨-, rfl⟩ := Prod.mk.inj h
    exact .turns value

/-! ### What a call sends, receives and opens -/

/-- The message that a call has published. -/
def sentBy : Event BusCall.Answer → Option Message
  | ⟨.publish message, .ok _⟩ => some message
  | _ => none

/-- The messages that have been published, in order. -/
def sent (t : BusTrace) : List Message := t.filterMap sentBy

/-- The message that a call has taken from a subscription. -/
def takenBy (id : Nat) : Event BusCall.Answer → Option Message
  | ⟨.take id', answer⟩ => if id' = id then answer else none
  | _ => none

/-- The messages that have been taken from a subscription, in order. -/
def taken (id : Nat) (t : BusTrace) : List Message := t.filterMap (takenBy id)

lemma sent_cons (e : Event BusCall.Answer) (t : BusTrace) :
    sent (e :: t) = (sentBy e).toList ++ sent t := by
  cases h : sentBy e <;> simp [sent, h]

lemma taken_cons (id : Nat) (e : Event BusCall.Answer) (t : BusTrace) :
    taken id (e :: t) = (takenBy id e).toList ++ taken id t := by
  cases h : takenBy id e <;> simp [taken, h]

lemma sent_append (t u : BusTrace) : sent (t ++ u) = sent t ++ sent u := List.filterMap_append

/-- The inbox subject that a call draws. -/
def drawnBy : Event BusCall.Answer → Option String
  | ⟨.inbox, inbox⟩ => some inbox
  | _ => none

/-- The subscription that a call opens. -/
def openedBy : Event BusCall.Answer → Option Nat
  | ⟨.subscribe _, id⟩ => some id
  | _ => none

/-- A message is published by a publish that is not refused. -/
lemma sentBy_eq_some {e : Event BusCall.Answer} {message : Message} (h : sentBy e = some message) :
    ∃ heard, e = ⟨.publish message, .ok heard⟩ := by
  obtain ⟨q, answer⟩ := e
  cases q with
  | publish message' =>
    cases answer with
    | ok heard =>
      obtain rfl := Option.some.inj h
      exact ⟨heard, rfl⟩
    | error e => cases h
  | _ => cases h

/-! ### One subscription -/

/-- Whether each subscription has an id that has been given already. -/
def Numbered (bus : MemoryBus) : Prop := ∀ s ∈ bus.subscriptions, s.id < bus.nextId

/-- Whether one of some subscriptions is there, and no other has its id. -/
def IsOnly (first : Subscription) (subscriptions : List Subscription) : Prop :=
  ∀ s, s ∈ subscriptions ∧ s.id = first.id ↔ s = first

section IsOnly

variable {first s : Subscription} {subscriptions : List Subscription}

lemma IsOnly.mem (h : IsOnly first subscriptions) : first ∈ subscriptions := ((h first).mpr rfl).1

lemma IsOnly.eq (h : IsOnly first subscriptions) (hs : s ∈ subscriptions) (hid : s.id = first.id) :
    s = first :=
  (h s).mp ⟨hs, hid⟩

/-- It is the one that is found under its id. -/
lemma IsOnly.find?_eq (h : IsOnly first subscriptions) :
    subscriptions.find? (·.id == first.id) = some first := by
  cases hfind : subscriptions.find? (·.id == first.id) with
  | none => simpa using List.find?_eq_none.mp hfind first h.mem
  | some s => rw [h.eq (List.mem_of_find?_eq_some hfind) (by simpa using List.find?_some hfind)]

/-- It stays there if it is kept. -/
lemma IsOnly.filter (h : IsOnly first subscriptions) {p : Subscription → Bool}
    (hkept : p first = true) : IsOnly first (subscriptions.filter p) := by
  intro s
  constructor
  · rintro ⟨hs, hid⟩
    exact h.eq (List.mem_filter.mp hs).1 hid
  · rintro rfl
    exact ⟨List.mem_filter.mpr ⟨h.mem, hkept⟩, rfl⟩

/-- A change that keeps the ids changes it to what is the only one then. -/
lemma IsOnly.map (h : IsOnly first subscriptions) {f : Subscription → Subscription}
    (hid : ∀ s, (f s).id = s.id) : IsOnly (f first) (subscriptions.map f) := by
  intro s
  constructor
  · rintro ⟨hs, hsid⟩
    obtain ⟨s', hs', rfl⟩ := List.mem_map.mp hs
    rw [hid, hid] at hsid
    rw [h.eq hs' hsid]
  · rintro rfl
    exact ⟨List.mem_map_of_mem h.mem, rfl⟩

/-- Another one with another id does not change it. -/
lemma IsOnly.append (h : IsOnly first subscriptions) (hne : s.id ≠ first.id) :
    IsOnly first (subscriptions ++ [s]) := by
  intro s'
  rw [← h s', List.mem_append, List.mem_singleton]
  constructor
  · rintro ⟨hs | rfl, hid⟩
    · exact ⟨hs, hid⟩
    · exact absurd hid hne
  · rintro ⟨hs, hid⟩
    exact ⟨Or.inl hs, hid⟩

end IsOnly

/-- Whether there is exactly one subscription with an id, it has not been given up, and it has some
pattern and some messages waiting in it. -/
def Holds (bus : MemoryBus) (id : Nat) (pattern : String) (waiting : List Message) : Prop :=
  IsOnly ⟨id, pattern, true, waiting⟩ bus.subscriptions

/-- What is taken from a subscription is the first message that waits there, if there is one. -/
lemma Serves.taken_eq {answer : Option Message} (h : bus.Serves (.take id) answer bus')
    (hholds : bus.Holds id pattern waiting) : answer = waiting.head? := by
  have hfound := IsOnly.find?_eq hholds
  cases h.changes with
  | takes _ s message rest hfind hwaiting =>
    obtain rfl := Option.some.inj (hfound.symm.trans hfind)
    obtain rfl : waiting = message :: rest := hwaiting
    rfl
  | misses _ hempty =>
    obtain rfl : waiting = [] := hempty _ hfound
    rfl

/-- What one call does to a subscription that it does not give up: what the call takes from it and
what waits after it are, one after the other, what has waited before and what the call publishes, if
it matches. -/
theorem Serves.holds (h : bus.Serves q answer bus') (hnumbered : bus.Numbered)
    (hholds : bus.Holds id pattern waiting) (hkept : q ≠ .unsubscribe id) :
    ∃ waiting', bus'.Holds id pattern waiting' ∧
      (takenBy id ⟨q, answer⟩).toList ++ waiting' =
        waiting ++ (sentBy ⟨q, answer⟩).toList.filter (Subject.isMatch pattern ·.subject) := by
  cases h.changes with
  | opens pattern' =>
    exact ⟨waiting, hholds.append (hnumbered _ hholds.mem).ne', (List.append_nil _).symm⟩
  | closes id' =>
    have hne : id ≠ id' := fun heq => hkept (congrArg BusCall.unsubscribe heq.symm)
    have hmap := IsOnly.map hholds (f := .close id') fun s => Subscription.close_id
    rw [Subscription.close_of_ne hne] at hmap
    exact ⟨waiting, hmap, (List.append_nil _).symm⟩
  | delivers message _ =>
    have hmap := (IsOnly.filter hholds (p := (·.isHeld)) rfl).map (f := .offer message)
      fun s => Subscription.offer_id
    rw [Subscription.offer_eq, Subscription.offer_waiting] at hmap
    exact ⟨_, hmap, rfl⟩
  | takes id' s message rest hfind hwaiting =>
    have hmap := IsOnly.map hholds (f := .advance id') fun s => Subscription.advance_id
    by_cases hne : id = id'
    · subst hne
      obtain rfl := Option.some.inj ((IsOnly.find?_eq hholds).symm.trans hfind)
      obtain rfl : waiting = message :: rest := hwaiting
      rw [Subscription.advance, if_pos rfl] at hmap
      refine ⟨rest, hmap, ?_⟩
      simp [takenBy, sentBy]
    · rw [Subscription.advance_of_ne hne] at hmap
      refine ⟨waiting, hmap, ?_⟩
      simp [takenBy, sentBy, Ne.symm hne]
  | misses id' _ =>
    refine ⟨waiting, hholds, ?_⟩
    simp [takenBy, sentBy]
  | _ => exact ⟨waiting, hholds, (List.append_nil _).symm⟩

/-- A subscription that has just been opened holds, with nothing waiting in it. -/
lemma Serves.holds_opened (h : bus.Serves (.subscribe pattern) id bus') (hnumbered : bus.Numbered) :
    bus'.Holds id pattern [] := by
  cases h.changes with
  | opens _ =>
    intro s
    constructor
    · rintro ⟨hs, hid⟩
      rcases List.mem_append.mp hs with hs | hs
      · exact absurd hid (hnumbered s hs).ne
      · exact List.mem_singleton.mp hs
    · rintro rfl
      exact ⟨List.mem_append_right _ (List.mem_singleton.mpr rfl), rfl⟩

/-- What is taken has waited. -/
lemma Serves.waiting_of_taken {message : Message}
    (h : bus.Serves (.take id) (some message) bus') :
    ∃ s ∈ bus.subscriptions, message ∈ s.waiting := by
  cases h.changes with
  | takes _ s _ rest hfind hwaiting =>
    exact ⟨s, List.mem_of_find?_eq_some hfind, hwaiting ▸ List.mem_cons_self⟩

/-! ### The bus as a whole -/

/-- The ids of subscriptions have been given before. -/
lemma Serves.numbered (h : bus.Serves q answer bus') (hnumbered : bus.Numbered) :
    bus'.Numbered := by
  have hmap : ∀ {subscriptions : List Subscription} (f : Subscription → Subscription),
      (∀ s, (f s).id = s.id) → subscriptions ⊆ bus.subscriptions →
      ∀ s ∈ subscriptions.map f, s.id < bus.nextId := by
    intro subscriptions f hid hsub s hs
    obtain ⟨s', hs', rfl⟩ := List.mem_map.mp hs
    rw [hid]
    exact hnumbered s' (hsub hs')
  cases h.changes with
  | opens pattern =>
    refine List.forall_mem_append.mpr ⟨fun s hs => (hnumbered s hs).trans (Nat.lt_succ_self _), ?_⟩
    exact List.forall_mem_singleton.mpr (Nat.lt_succ_self _)
  | closes id => exact hmap _ (fun _ => Subscription.close_id) (List.Subset.refl _)
  | delivers message _ => exact hmap _ (fun _ => Subscription.offer_id) List.filter_sublist.subset
  | takes => exact hmap _ (fun _ => Subscription.advance_id) (List.Subset.refl _)
  | _ => exact hnumbered

/-- Only a call that says so makes a bus refuse what is published, or no longer. -/
lemma Serves.isRefusing (h : bus.Serves q answer bus') (hkept : ∀ value, q ≠ .refuse value) :
    bus'.isRefusing = bus.isRefusing := by
  cases h.changes with
  | turns value => exact absurd rfl (hkept value)
  | _ => rfl

/-- A bus that does not refuse accepts what is published. -/
lemma Serves.accepted {message : Message} {answer : Except BusError Nat}
    (h : bus.Serves (.publish message) answer bus') (haccepts : bus.isRefusing = false) :
    answer = .ok (bus.listeners message.subject) := by
  cases h.changes with
  | refuses _ hrefuses => exact absurd (hrefuses.symm.trans haccepts) Bool.noConfusion
  | delivers => rfl

/-- An accepted message goes to all who are subscribed. -/
lemma Serves.heard_eq {message : Message} {heard : Nat}
    (h : bus.Serves (.publish message) (.ok heard) bus') :
    heard = bus.listeners message.subject := by
  cases h.changes with
  | delivers => rfl

/-- An accepted message is offered to all who are subscribed, and nobody else stays. -/
lemma Serves.subscriptions_eq {message : Message} {heard : Nat}
    (h : bus.Serves (.publish message) (.ok heard) bus') :
    bus'.subscriptions = bus.held.map (.offer message) := by
  cases h.changes with
  | delivers => rfl

/-- The log of a bus grows by what calls publish. -/
lemma Serves.published (h : bus.Serves q answer bus') :
    bus'.published = bus.published ++ (sentBy ⟨q, answer⟩).toList := by
  cases h.changes with
  | delivers => rfl
  | _ => exact (List.append_nil _).symm

/-- A call draws the next inbox, if it draws one. -/
lemma Serves.drawn (h : bus.Serves q answer bus') :
    bus'.inboxRoot = bus.inboxRoot ∧
      (drawnBy ⟨q, answer⟩ = none ∧ bus'.requests = bus.requests ∨
        drawnBy ⟨q, answer⟩ = some (inboxOf bus.inboxRoot bus.requests) ∧
          bus'.requests = bus.requests + 1) := by
  cases h.changes with
  | draws => exact ⟨rfl, Or.inr ⟨rfl, rfl⟩⟩
  | _ => exact ⟨rfl, Or.inl ⟨rfl, rfl⟩⟩

/-- A call opens the next subscription, if it opens one. -/
lemma Serves.opened (h : bus.Serves q answer bus') :
    openedBy ⟨q, answer⟩ = none ∧ bus'.nextId = bus.nextId ∨
      openedBy ⟨q, answer⟩ = some bus.nextId ∧ bus'.nextId = bus.nextId + 1 := by
  cases h.changes with
  | opens => exact Or.inr ⟨rfl, rfl⟩
  | _ => exact Or.inl ⟨rfl, rfl⟩

/-- Whether a bus has nothing that it has not had before: its log is the same, and what waits in a
subscription has waited there before. -/
def AddsNothing (bus bus' : MemoryBus) : Prop :=
  bus'.published = bus.published ∧
    ∀ s' ∈ bus'.subscriptions, s'.waiting = [] ∨
      ∃ s ∈ bus.subscriptions, s.id = s'.id ∧ s'.waiting <:+ s.waiting

/-- Changing subscriptions one by one adds nothing if it adds nothing to any of them. -/
lemma addsNothing_map {f : Subscription → Subscription} (hid : ∀ s, (f s).id = s.id)
    (hwaiting : ∀ s, (f s).waiting <:+ s.waiting)
    (hsubs : bus'.subscriptions = bus.subscriptions.map f)
    (hpublished : bus'.published = bus.published) : bus.AddsNothing bus' := by
  refine ⟨hpublished, fun s' hs' => Or.inr ?_⟩
  rw [hsubs] at hs'
  obtain ⟨s, hs, rfl⟩ := List.mem_map.mp hs'
  exact ⟨s, hs, (hid s).symm, hwaiting s⟩

/-- A bus whose log and subscriptions are the same has nothing that it has not had before. -/
lemma addsNothing_of_eq (hsubs : bus'.subscriptions = bus.subscriptions)
    (hpublished : bus'.published = bus.published) : bus.AddsNothing bus' :=
  addsNothing_map (f := id) (fun _ => rfl) (fun _ => List.suffix_refl _)
    (hsubs.trans (List.map_id _).symm) hpublished

/-- A call adds nothing unless it publishes something. -/
theorem Serves.addsNothing (h : bus.Serves q answer bus') (hsent : sentBy ⟨q, answer⟩ = none) :
    bus.AddsNothing bus' := by
  cases h.changes with
  | opens pattern =>
    refine ⟨rfl, List.forall_mem_append.mpr ⟨fun s hs => Or.inr ?_, ?_⟩⟩
    · exact ⟨s, hs, rfl, List.suffix_refl _⟩
    · exact List.forall_mem_singleton.mpr (Or.inl rfl)
  | closes =>
    exact addsNothing_map (fun _ => Subscription.close_id)
      (fun _ => Subscription.close_waiting_suffix) rfl rfl
  | delivers => cases hsent
  | takes =>
    exact addsNothing_map (fun _ => Subscription.advance_id)
      (fun _ => Subscription.advance_waiting_suffix) rfl rfl
  | _ => exact addsNothing_of_eq rfl rfl

/-- What waits after a call has waited before it, or the call has published it to someone. -/
lemma Serves.waited (h : bus.Serves q answer bus') {s : Subscription} (hs : s ∈ bus'.subscriptions)
    {message : Message} (hmessage : message ∈ s.waiting) :
    (∃ s ∈ bus.subscriptions, message ∈ s.waiting) ∨
      ∃ heard, (⟨q, answer⟩ : Event BusCall.Answer) = ⟨.publish message, .ok (heard + 1)⟩ := by
  cases hsent : sentBy ⟨q, answer⟩ with
  | none =>
    rcases (h.addsNothing hsent).2 s hs with hnil | ⟨s₀, hs₀, -, hsuffix⟩
    · rw [hnil] at hmessage
      cases hmessage
    · exact Or.inl ⟨s₀, hs₀, hsuffix.subset hmessage⟩
  | some sent =>
    cases h.changes with
    | delivers message' _ =>
      obtain ⟨s₀, hs₀, rfl⟩ := List.mem_map.mp hs
      rw [Subscription.offer_waiting] at hmessage
      rcases List.mem_append.mp hmessage with hmessage | hmessage
      · exact Or.inl ⟨s₀, (List.mem_filter.mp hs₀).1, hmessage⟩
      · obtain ⟨hsame, hmatch⟩ := List.mem_filter.mp hmessage
        obtain rfl := List.mem_singleton.mp hsame
        -- The message went to this subscription at least.
        have hpos : 0 < bus.listeners message.subject := List.countP_pos_iff.mpr ⟨s₀, hs₀, hmatch⟩
        exact Or.inr ⟨bus.listeners message.subject - 1, by rw [Nat.sub_add_cancel hpos]⟩
    | _ => cases hsent

/-! ### The calls of a request -/

section Request

variable {subject : String} {payload : Payload} {wait : Nat} {t : BusTrace}
  {r : Except BusError Payload}

/-- The calls of a request with its result. -/
inductive Asked (subject : String) (payload : Payload) :
    BusTrace → Except BusError Payload → Prop where
  | refused (inbox : String) (id : Nat) (e : BusError) :
      Asked subject payload [⟨.inbox, inbox⟩, ⟨.subscribe inbox, id⟩,
        ⟨.publish ⟨subject, some inbox, payload⟩, .error e⟩, ⟨.unsubscribe id, ()⟩] (.error e)
  | unheard (inbox : String) (id : Nat) :
      Asked subject payload [⟨.inbox, inbox⟩, ⟨.subscribe inbox, id⟩,
        ⟨.publish ⟨subject, some inbox, payload⟩, .ok 0⟩, ⟨.unsubscribe id, ()⟩]
        (.error (.noResponders subject))
  | timedOut (inbox : String) (id heard : Nat) :
      Asked subject payload [⟨.inbox, inbox⟩, ⟨.subscribe inbox, id⟩,
        ⟨.publish ⟨subject, some inbox, payload⟩, .ok (heard + 1)⟩, ⟨.take id, none⟩,
        ⟨.unsubscribe id, ()⟩] (.error (.timeout subject))
  | answered (inbox : String) (id heard : Nat) (message : Message) :
      Asked subject payload [⟨.inbox, inbox⟩, ⟨.subscribe inbox, id⟩,
        ⟨.publish ⟨subject, some inbox, payload⟩, .ok (heard + 1)⟩, ⟨.take id, some message⟩,
        ⟨.unsubscribe id, ()⟩] (.ok message.payload)

/-- A request opens its inbox, is sent, and gives its inbox up; in between it takes a message from
there if it went to anyone. -/
theorem asked_of_runs_request (h : Runs (BusAccess.asking.request subject payload wait) t r) :
    Asked subject payload t r := by
  obtain ⟨inbox, t₁, rfl, h₁⟩ := runs_call.mp h
  obtain ⟨id, t₂, rfl, h₂⟩ := runs_call.mp h₁
  obtain ⟨sent, t₃, rfl, h₃⟩ := runs_call.mp h₂
  match sent with
  | .error e =>
    obtain ⟨_, t₄, rfl, h₄⟩ := runs_call.mp h₃
    obtain ⟨rfl, rfl⟩ := runs_pure.mp h₄
    exact .refused inbox id e
  | .ok 0 =>
    obtain ⟨_, t₄, rfl, h₄⟩ := runs_call.mp h₃
    obtain ⟨rfl, rfl⟩ := runs_pure.mp h₄
    exact .unheard inbox id
  | .ok (heard + 1) =>
    obtain ⟨reply, t₄, rfl, h₄⟩ := runs_call.mp h₃
    obtain ⟨_, t₅, rfl, h₅⟩ := runs_call.mp h₄
    cases reply with
    | none =>
      obtain ⟨rfl, rfl⟩ := runs_pure.mp h₅
      exact .timedOut inbox id heard
    | some message =>
      obtain ⟨rfl, rfl⟩ := runs_pure.mp h₅
      exact .answered inbox id heard message

instance (q : BusCall) : Nonempty q.Answer := by
  cases q <;> exact inferInstance

/-- What a request calls next, by what it has called. -/
inductive Next (subject : String) (payload : Payload) : BusTrace → BusCall → Prop where
  | draws : Next subject payload [] .inbox
  | opens (inbox : String) : Next subject payload [⟨.inbox, inbox⟩] (.subscribe inbox)
  | sends (inbox : String) (id : Nat) :
      Next subject payload [⟨.inbox, inbox⟩, ⟨.subscribe inbox, id⟩]
        (.publish ⟨subject, some inbox, payload⟩)
  | takes (inbox : String) (id heard : Nat) :
      Next subject payload [⟨.inbox, inbox⟩, ⟨.subscribe inbox, id⟩,
        ⟨.publish ⟨subject, some inbox, payload⟩, .ok (heard + 1)⟩] (.take id)
  | closes (inbox : String) (id : Nat) (answer : Except BusError Nat) (rest : BusTrace) :
      Next subject payload (⟨.inbox, inbox⟩ :: ⟨.subscribe inbox, id⟩ ::
        ⟨.publish ⟨subject, some inbox, payload⟩, answer⟩ :: rest) (.unsubscribe id)

/-- A request calls one thing after another. -/
theorem next_of_calls_request (h : (BusAccess.asking.request subject payload wait).Calls t q) :
    Next subject payload t q := by
  obtain ⟨rfl, rfl⟩ | ⟨inbox, t₁, rfl, h₁⟩ := calls_call.mp h
  · exact .draws
  obtain ⟨rfl, rfl⟩ | ⟨id, t₂, rfl, h₂⟩ := calls_call.mp h₁
  · exact .opens inbox
  obtain ⟨rfl, rfl⟩ | ⟨sent, t₃, rfl, h₃⟩ := calls_call.mp h₂
  · exact .sends inbox id
  match sent with
  | .error e =>
    obtain ⟨rfl, rfl⟩ | ⟨_, t₄, rfl, h₄⟩ := calls_call.mp h₃
    · exact .closes inbox id _ []
    · exact absurd h₄ not_calls_pure
  | .ok 0 =>
    obtain ⟨rfl, rfl⟩ | ⟨_, t₄, rfl, h₄⟩ := calls_call.mp h₃
    · exact .closes inbox id _ []
    · exact absurd h₄ not_calls_pure
  | .ok (heard + 1) =>
    obtain ⟨rfl, rfl⟩ | ⟨reply, t₄, rfl, h₄⟩ := calls_call.mp h₃
    · exact .takes inbox id heard
    obtain ⟨rfl, rfl⟩ | ⟨_, t₅, rfl, h₅⟩ := calls_call.mp h₄
    · exact .closes inbox id _ _
    · cases reply <;> exact absurd h₅ not_calls_pure

/-- A request is sent only once. -/
lemma Asked.publish_unique (h : Asked subject payload t r) {message message' : Message}
    {answer answer' : Except BusError Nat}
    (hmem : (⟨.publish message, answer⟩ : Event BusCall.Answer) ∈ t)
    (hmem' : (⟨.publish message', answer'⟩ : Event BusCall.Answer) ∈ t) :
    message' = message ∧ answer' = answer := by
  cases h <;>
  · simp at hmem hmem'
    exact ⟨hmem'.1.trans hmem.1.symm, hmem'.2.trans hmem.2.symm⟩

/-- A request draws only one inbox. -/
lemma Asked.inbox_unique (h : Asked subject payload t r) {inbox inbox' : String}
    (hmem : (⟨.inbox, inbox⟩ : Event BusCall.Answer) ∈ t)
    (hmem' : (⟨.inbox, inbox'⟩ : Event BusCall.Answer) ∈ t) : inbox' = inbox := by
  cases h <;>
  · simp at hmem hmem'
    exact hmem'.trans hmem.symm

/-- A request publishes at most one message. -/
lemma Asked.sent_le (h : Asked subject payload t r) : (sent t).length ≤ 1 := by
  cases h with
  | refused => exact Nat.zero_le 1
  | _ => exact Nat.le_refl 1

/-- A request that has been sent finds no responders exactly if its message has gone to nobody. -/
lemma Asked.noResponders_iff (h : Asked subject payload t r) {message : Message} {heard : Nat}
    (hmem : (⟨.publish message, .ok heard⟩ : Event BusCall.Answer) ∈ t) :
    r = .error (.noResponders subject) ↔ heard = 0 := by
  cases h <;>
  · simp at hmem
    try simp [hmem.2]

/-- The message that a call takes. -/
def gotBy : Event BusCall.Answer → Option Message
  | ⟨.take _, answer⟩ => answer
  | _ => none

/-- A request takes at most one message. -/
lemma Asked.got_le (h : Asked subject payload t r) : (t.filterMap gotBy).length ≤ 1 := by
  cases h with
  | answered inbox id heard message => exact Nat.le_refl 1
  | _ => exact Nat.zero_le 1

end Request

end MemoryBus

end ComputeExchange
