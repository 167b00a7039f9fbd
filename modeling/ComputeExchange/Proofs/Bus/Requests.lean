import ComputeExchange.Proofs.Bus.Delivery
import ComputeExchange.Proofs.Bus.Subjects
import ComputeExchange.Proofs.Interleaving

/-!
# Requests side by side

Any number of requests and any other parties share a bus, and their calls come in any order.  An
`Exchange` is what they have called, if nobody other than a request publishes to an inbox except to
answer a message that has been taken, at the subject that the message names.

A message goes only to those who were subscribed when it was sent, so it is taken only after it has
been sent to someone (`published_of_taken`).  Inboxes and subscriptions are numbered, so each
belongs to one request (`drawn_of_served`, `opened_of_served`).  Together: whatever is published to
the inbox of a request answers this very request (`Exchange.answers_request`), and the request
returns the first such message (`requests_answered_apart`).
-/

namespace ComputeExchange

open Program Protocol

namespace MemoryBus

/-! ### Numbers -/

/-- Different things of a list give different values if no value is given twice. -/
lemma eq_of_nodup_filterMap {α β : Type} {f : α → Option β} {l : List α}
    (h : (l.filterMap f).Nodup) {a a' : α} (ha : a ∈ l) (ha' : a' ∈ l) {b : β} (hb : f a = some b)
    (hb' : f a' = some b) : a = a' := by
  induction l with
  | nil => cases ha
  | cons x l ih =>
    have hlast : ∀ a ∈ l, f a = some b → b ∈ l.filterMap f :=
      fun a ha hb => List.mem_filterMap.mpr ⟨a, ha, hb⟩
    rcases List.mem_cons.mp ha with rfl | hal <;> rcases List.mem_cons.mp ha' with rfl | hal'
    · rfl
    · rw [List.filterMap_cons_some hb, List.nodup_cons] at h
      exact absurd (hlast a' hal' hb') h.1
    · rw [List.filterMap_cons_some hb', List.nodup_cons] at h
      exact absurd (hlast a hal hb) h.1
    · refine ih ?_ hal hal'
      cases hx : f x with
      | none => rwa [List.filterMap_cons_none hx] at h
      | some y =>
        rw [List.filterMap_cons_some hx] at h
        exact h.of_cons

/-- A value that is given at most once is given at one place. -/
lemma before_unique {α β : Type} [DecidableEq β] {f : α → Option β} {b : β} {a a' : α}
    {before before' after after' : List α}
    (h : ((before ++ a :: after).filterMap f).count b ≤ 1)
    (heq : before ++ a :: after = before' ++ a' :: after') (ha : f a = some b)
    (ha' : f a' = some b) : before = before' := by
  have hcount : ∀ {x : α} (early late : List α), f x = some b →
      0 < ((early ++ x :: late).filterMap f).count b := fun early late hx =>
    List.count_pos_iff.mpr (List.mem_filterMap.mpr ⟨_, by simp, hx⟩)
  induction before generalizing before' with
  | nil =>
    cases before' with
    | nil => rfl
    | cons x before' =>
      obtain ⟨rfl, rfl⟩ : a = x ∧ after = before' ++ a' :: after' := List.cons.inj heq
      have hlater := hcount before' after' ha'
      rw [List.nil_append, List.filterMap_cons_some ha, List.count_cons_self] at h
      omega
  | cons x before ih =>
    cases before' with
    | nil =>
      obtain ⟨rfl, rfl⟩ : x = a' ∧ before ++ a :: after = after' := List.cons.inj heq
      have hlater := hcount before after ha
      rw [List.cons_append, List.filterMap_cons_some ha', List.count_cons_self] at h
      omega
    | cons x' before' =>
      obtain ⟨rfl, htail⟩ := List.cons.inj heq
      rw [ih ((((List.sublist_cons_self x _).filterMap f).count_le b).trans h) htail]

variable {bus bus' : MemoryBus} {t : BusTrace}

/-- Inboxes are drawn one after another. -/
theorem drawn_of_served (h : Served Serves bus t bus') :
    ∃ count, t.filterMap drawnBy =
      (List.range' bus.requests count).map (inboxOf bus.inboxRoot) := by
  induction h with
  | nil => exact ⟨0, rfl⟩
  | cons hserves _ ih =>
    obtain ⟨count, ih⟩ := ih
    obtain ⟨hroot, ⟨hnone, hsame⟩ | ⟨hsome, hnext⟩⟩ := hserves.drawn
    · exact ⟨count, by rw [List.filterMap_cons_none hnone, ih, hroot, hsame]⟩
    · refine ⟨count + 1, ?_⟩
      rw [List.filterMap_cons_some hsome, ih, hroot, hnext, List.range'_succ, List.map_cons]

/-- Subscriptions are opened one after another. -/
theorem opened_of_served (h : Served Serves bus t bus') :
    ∃ count, t.filterMap openedBy = List.range' bus.nextId count := by
  induction h with
  | nil => exact ⟨0, rfl⟩
  | cons hserves _ ih =>
    obtain ⟨count, ih⟩ := ih
    rcases hserves.opened with ⟨hnone, hsame⟩ | ⟨hsome, hnext⟩
    · exact ⟨count, by rw [List.filterMap_cons_none hnone, ih, hsame]⟩
    · exact ⟨count + 1, by rw [List.filterMap_cons_some hsome, ih, hnext, List.range'_succ]⟩

/-! ### Where messages come from -/

/-- What waits in a subscription has waited before, or has been published to someone. -/
lemma waiting_of_served (h : Served Serves bus t bus') {s : Subscription}
    (hs : s ∈ bus'.subscriptions) {message : Message} (hmessage : message ∈ s.waiting) :
    (∃ s ∈ bus.subscriptions, message ∈ s.waiting) ∨
      ∃ heard, (⟨.publish message, .ok (heard + 1)⟩ : Event BusCall.Answer) ∈ t := by
  induction h with
  | nil => exact Or.inl ⟨s, hs, hmessage⟩
  | cons hserves _ ih =>
    rcases ih hs with ⟨s₁, hs₁, hmessage₁⟩ | ⟨heard, hmem⟩
    · rcases hserves.waited hs₁ hmessage₁ with hbefore | ⟨heard, heq⟩
      · exact Or.inl hbefore
      · exact Or.inr ⟨heard, heq ▸ List.mem_cons_self⟩
    · exact Or.inr ⟨heard, List.mem_cons_of_mem _ hmem⟩

/-- What is taken has been published to someone before. -/
theorem published_of_taken {before after : BusTrace} {id : Nat} {message : Message}
    (h : Served Serves .empty (before ++ ⟨.take id, some message⟩ :: after) bus) :
    ∃ heard, (⟨.publish message, .ok (heard + 1)⟩ : Event BusCall.Answer) ∈ before := by
  obtain ⟨bus₁, hbefore, hrest⟩ := h.of_append
  cases hrest with
  | cons hserves _ =>
    obtain ⟨s, hs, hmessage⟩ := hserves.waiting_of_taken
    exact (waiting_of_served hbefore hs hmessage).resolve_left fun ⟨_, hs, _⟩ => nomatch hs

/-! ### Exchanges -/

section Exchange

variable {ι κ : Type}

/-- What another party may call, by what has been called before.  Its messages ask for no reply, and
it publishes to an inbox only to answer a message that has been taken and names this inbox.  It
takes from and gives up only what such a party has opened. -/
def Admitted (past : Interleaving BusCall.Answer (ι ⊕ κ)) : Event BusCall.Answer → Prop
  | ⟨.publish message, _⟩ =>
    message.reply = none ∧
      (Subject.IsBelow "_INBOX" message.subject →
        ∃ k id request, (.inr k, ⟨.take id, some request⟩) ∈ past ∧
          request.reply = some message.subject)
  | ⟨.take id, _⟩ => ∃ k pattern, (.inr k, ⟨.subscribe pattern, id⟩) ∈ past
  | ⟨.unsubscribe id, _⟩ => ∃ k pattern, (.inr k, ⟨.subscribe pattern, id⟩) ∈ past
  | _ => True

variable [DecidableEq ι] [DecidableEq κ] {subject : ι → String} {payload : ι → Payload}
  {wait : ι → Nat} {log before after : Interleaving BusCall.Answer (ι ⊕ κ)}

/-- What requests to subjects other than inboxes, and other parties, have called on a bus. -/
structure Exchange (subject : ι → String) (payload : ι → Payload) (wait : ι → Nat)
    (log : Interleaving BusCall.Answer (ι ⊕ κ)) (bus : MemoryBus) : Prop where
  served : Served Serves .empty (log.map (·.2)) bus
  requests : ∀ i, ∃ rest,
    Reaches (BusAccess.asking.request (subject i) (payload i) (wait i)) (callsOf (.inl i) log) rest
  outside : ∀ i, ¬ Subject.IsBelow "_INBOX" (subject i)
  admitted : ∀ before k e after, log = before ++ (.inr k, e) :: after → Admitted before e

/-- What has been called up to some moment is an exchange. -/
lemma Exchange.of_append (h : Exchange subject payload wait (before ++ after) bus) :
    ∃ bus₁, Exchange subject payload wait before bus₁ ∧
      Served Serves bus₁ (after.map (·.2)) bus := by
  have hserved := h.served
  rw [List.map_append] at hserved
  obtain ⟨bus₁, hbefore, hafter⟩ := hserved.of_append
  refine ⟨bus₁, ⟨hbefore, fun i => ?_, h.outside, fun early k e late heq => ?_⟩, hafter⟩
  · obtain ⟨rest, hreaches⟩ := h.requests i
    rw [callsOf_append] at hreaches
    obtain ⟨rest', hreaches', -⟩ := hreaches.of_append
    exact ⟨rest', hreaches'⟩
  · subst heq
    exact h.admitted early k e (late ++ after) (by simp)

/-- A request calls what comes next for it. -/
lemma Exchange.next {i : ι} {q : BusCall} {answer : q.Answer}
    (h : Exchange subject payload wait (before ++ (.inl i, ⟨q, answer⟩) :: after) bus) :
    Next (subject i) (payload i) (callsOf (.inl i) before) q := by
  obtain ⟨rest, hreaches⟩ := h.requests i
  rw [callsOf_append, callsOf_cons_self] at hreaches
  exact next_of_calls_request hreaches.calls

/-- The calls of a request are the first of those of a whole one. -/
lemma Exchange.asked (h : Exchange subject payload wait log bus) (i : ι) :
    ∃ t r, callsOf (.inl i) log <+: t ∧ Asked (subject i) (payload i) t r := by
  obtain ⟨rest, hreaches⟩ := h.requests i
  obtain ⟨t, r, hrun⟩ := hreaches.exists_runs
  exact ⟨_, r, List.prefix_append _ t, asked_of_runs_request hrun⟩

/-- A request publishes nothing other than its own message, and this once. -/
lemma Exchange.publish_unique (h : Exchange subject payload wait log bus) {i : ι}
    {message message' : Message} {answer answer' : Except BusError Nat}
    (hmem : (.inl i, ⟨.publish message, answer⟩) ∈ log)
    (hmem' : (.inl i, ⟨.publish message', answer'⟩) ∈ log) :
    message' = message ∧ answer' = answer := by
  obtain ⟨t, r, hmade, hasked⟩ := h.asked i
  exact hasked.publish_unique (hmade.subset (mem_callsOf.mpr hmem))
    (hmade.subset (mem_callsOf.mpr hmem'))

/-- A request draws one inbox. -/
lemma Exchange.drawn_unique (h : Exchange subject payload wait log bus) {i : ι}
    {inbox inbox' : String} (hmem : (.inl i, ⟨.inbox, inbox⟩) ∈ log)
    (hmem' : (.inl i, ⟨.inbox, inbox'⟩) ∈ log) : inbox' = inbox := by
  obtain ⟨t, r, hmade, hasked⟩ := h.asked i
  exact hasked.inbox_unique (hmade.subset (mem_callsOf.mpr hmem))
    (hmade.subset (mem_callsOf.mpr hmem'))

/-- A request sends its message, with the inbox that it has drawn. -/
lemma Exchange.publishes {i : ι} {message : Message} {answer : Except BusError Nat}
    (h : Exchange subject payload wait (before ++ (.inl i, ⟨.publish message, answer⟩) :: after)
      bus) :
    ∃ inbox id, callsOf (.inl i) before = [⟨.inbox, inbox⟩, ⟨.subscribe inbox, id⟩] ∧
      message = ⟨subject i, some inbox, payload i⟩ := by
  have hnext := h.next
  generalize callsOf (.inl i) before = t at hnext ⊢
  cases hnext with
  | sends inbox id => exact ⟨inbox, id, rfl, rfl⟩

/-- An inbox is drawn by one alone. -/
lemma Exchange.inbox_unique (h : Exchange subject payload wait log bus) {inbox : String}
    {c c' : ι ⊕ κ} (hc : (c, ⟨.inbox, inbox⟩) ∈ log) (hc' : (c', ⟨.inbox, inbox⟩) ∈ log) :
    c = c' := by
  obtain ⟨count, hdrawn⟩ := drawn_of_served h.served
  have hnodup : (log.filterMap fun c => drawnBy c.2).Nodup := by
    rw [← Function.comp_def drawnBy, ← List.filterMap_map, hdrawn]
    exact List.Nodup.map (fun _ _ => inboxOf_inj.mp) List.nodup_range'
  exact congrArg Prod.fst (eq_of_nodup_filterMap hnodup hc hc' rfl rfl)

/-- A subscription is opened by one alone. -/
lemma Exchange.opener_unique (h : Exchange subject payload wait log bus) {id : Nat}
    {c c' : ι ⊕ κ} {pattern pattern' : String} (hc : (c, ⟨.subscribe pattern, id⟩) ∈ log)
    (hc' : (c', ⟨.subscribe pattern', id⟩) ∈ log) : c = c' := by
  obtain ⟨count, hopened⟩ := opened_of_served h.served
  have hnodup : (log.filterMap fun c => openedBy c.2).Nodup := by
    rw [← Function.comp_def openedBy, ← List.filterMap_map, hopened]
    exact List.nodup_range'
  exact congrArg Prod.fst (eq_of_nodup_filterMap hnodup hc hc' rfl rfl)

/-- An inbox that has been drawn is one. -/
lemma Exchange.inbox_eq (h : Exchange subject payload wait log bus) {inbox : String} {c : ι ⊕ κ}
    (hc : (c, ⟨.inbox, inbox⟩) ∈ log) : ∃ n, inbox = inboxOf "_INBOX" n := by
  obtain ⟨count, hdrawn⟩ := drawn_of_served h.served
  have hmem : inbox ∈ (log.map (·.2)).filterMap drawnBy :=
    List.mem_filterMap.mpr ⟨_, List.mem_map_of_mem hc, rfl⟩
  rw [hdrawn] at hmem
  obtain ⟨n, -, rfl⟩ := List.mem_map.mp hmem
  exact ⟨n, rfl⟩

/-- A request takes from and gives up only the subscription that it has opened. -/
lemma Exchange.opens_own (h : Exchange subject payload wait log bus) {j : ι} {id : Nat}
    {e : Event BusCall.Answer} (hmem : (.inl j, e) ∈ log)
    (he : e.1 = .take id ∨ e.1 = .unsubscribe id) :
    ∃ inbox, (.inl j, ⟨.subscribe inbox, id⟩) ∈ log := by
  obtain ⟨before, after, rfl⟩ := List.append_of_mem hmem
  obtain ⟨q, answer⟩ := e
  have hnext := h.next
  have hown : ∃ inbox,
      (⟨.subscribe inbox, id⟩ : Event BusCall.Answer) ∈ callsOf (.inl j) before := by
    generalize callsOf (.inl j) before = t at hnext
    cases hnext with
    | takes inbox id' heard =>
      obtain rfl : id' = id := by simpa using he
      exact ⟨inbox, by simp⟩
    | closes inbox id' answer rest =>
      obtain rfl : id' = id := by simpa using he
      exact ⟨inbox, by simp⟩
    | _ => simp at he
  obtain ⟨inbox, hown⟩ := hown
  exact ⟨inbox, List.mem_append_left _ (mem_callsOf.mp hown)⟩

/-- A subscription of a request is taken from and given up by this request alone. -/
lemma Exchange.holder_unique (h : Exchange subject payload wait log bus) {i : ι} {inbox : String}
    {id : Nat} (hopened : (.inl i, ⟨.subscribe inbox, id⟩) ∈ log) {c : ι ⊕ κ}
    {e : Event BusCall.Answer} (hc : (c, e) ∈ log) (he : e.1 = .take id ∨ e.1 = .unsubscribe id) :
    c = .inl i := by
  cases c with
  | inl j =>
    obtain ⟨inbox', hown⟩ := h.opens_own hc he
    exact h.opener_unique hown hopened
  | inr k =>
    obtain ⟨before, after, rfl⟩ := List.append_of_mem hc
    obtain ⟨q, answer⟩ := e
    have hadmitted := h.admitted before k _ after rfl
    have hother : ∃ k' pattern, (.inr k', ⟨.subscribe pattern, id⟩) ∈ before := by
      rcases he with rfl | rfl <;> exact hadmitted
    obtain ⟨k', pattern, hother⟩ := hother
    cases h.opener_unique (List.mem_append_left _ hother) hopened

/-- A message that names the inbox of a request is the one that this request sends. -/
lemma Exchange.sender_unique (h : Exchange subject payload wait log bus) {i : ι} {inbox : String}
    (hinbox : (.inl i, ⟨.inbox, inbox⟩) ∈ log) {c : ι ⊕ κ} {message : Message}
    {answer : Except BusError Nat} (hc : (c, ⟨.publish message, answer⟩) ∈ log)
    (hreply : message.reply = some inbox) :
    c = .inl i ∧ message = ⟨subject i, some inbox, payload i⟩ := by
  obtain ⟨before, after, rfl⟩ := List.append_of_mem hc
  cases c with
  | inl j =>
    obtain ⟨inbox', id, hbefore, rfl⟩ := h.publishes
    obtain rfl : inbox' = inbox := Option.some.inj hreply
    have hdrawn : (.inl j, ⟨.inbox, inbox'⟩) ∈ before :=
      mem_callsOf.mp (hbefore ▸ List.mem_cons_self)
    cases h.inbox_unique (List.mem_append_left _ hdrawn) hinbox
    exact ⟨rfl, rfl⟩
  | inr k =>
    rw [(h.admitted before k _ after rfl).1] at hreply
    cases hreply

/-- A message that has been taken and names the inbox of a request is the one that this request has
sent before. -/
lemma Exchange.sent_of_taken {i : ι} {inbox : String} {c : ι ⊕ κ} {id : Nat} {message : Message}
    (h : Exchange subject payload wait (before ++ (c, ⟨.take id, some message⟩) :: after) bus)
    (hinbox : (.inl i, ⟨.inbox, inbox⟩) ∈ before ++ (c, ⟨.take id, some message⟩) :: after)
    (hreply : message.reply = some inbox) :
    message = ⟨subject i, some inbox, payload i⟩ ∧ ∃ heard early mid,
      before = early ++ (.inl i, ⟨.publish message, .ok (heard + 1)⟩) :: mid := by
  have hserved := h.served
  rw [List.map_append, List.map_cons] at hserved
  obtain ⟨heard, hsent⟩ := published_of_taken hserved
  obtain ⟨⟨c', e⟩, hsent, heq⟩ := List.mem_map.mp hsent
  obtain rfl : e = _ := heq
  -- It has been sent by the request itself, as it names its inbox.
  obtain ⟨rfl, hmessage⟩ := h.sender_unique hinbox (List.mem_append_left _ hsent) hreply
  obtain ⟨early, mid, rfl⟩ := List.append_of_mem hsent
  exact ⟨hmessage, heard, early, mid, rfl⟩

/-- A message that names the inbox of a request is published at most once. -/
lemma Exchange.sent_once (h : Exchange subject payload wait log bus) {i : ι} {inbox : String}
    (hinbox : (.inl i, ⟨.inbox, inbox⟩) ∈ log) {message : Message}
    (hreply : message.reply = some inbox) : (sent (log.map (·.2))).count message ≤ 1 := by
  have hown : ∀ c ∈ log, sentBy c.2 = some message → c.1 = .inl i := by
    rintro ⟨c, e⟩ hmem hsent
    obtain ⟨heard, rfl⟩ := sentBy_eq_some hsent
    exact (h.sender_unique hinbox hmem hreply).1
  obtain ⟨t, r, hmade, hasked⟩ := h.asked i
  calc (sent (log.map (·.2))).count message
      = (sent (callsOf (.inl i) log)).count message := count_filterMap_callsOf hown
    _ ≤ (sent (callsOf (.inl i) log)).length := List.count_le_length
    _ ≤ (sent t).length := (hmade.sublist.filterMap sentBy).length_le
    _ ≤ 1 := hasked.sent_le

/-- What is published to the inbox of a request answers this request: another party publishes it,
after the message of the request has been sent to someone and then taken. -/
theorem Exchange.answers_request {i : ι} {c : ι ⊕ κ} {message : Message}
    {answer : Except BusError Nat}
    (h : Exchange subject payload wait (before ++ (c, ⟨.publish message, answer⟩) :: after) bus)
    (hinbox : (.inl i, ⟨.inbox, message.subject⟩) ∈
      before ++ (c, ⟨.publish message, answer⟩) :: after) :
    ∃ k k' id heard early mid late, c = .inr k ∧ message.reply = none ∧
      before = early ++
        (.inl i, ⟨.publish ⟨subject i, some message.subject, payload i⟩, .ok (heard + 1)⟩) ::
        (mid ++ (.inr k', ⟨.take id, some ⟨subject i, some message.subject, payload i⟩⟩) ::
          late) := by
  have hbelow : Subject.IsBelow "_INBOX" message.subject := by
    obtain ⟨n, hn⟩ := h.inbox_eq hinbox
    exact hn ▸ isBelow_inboxOf _ n
  cases c with
  | inl j =>
    obtain ⟨inbox, id, -, rfl⟩ := h.publishes
    exact absurd hbelow (h.outside j)
  | inr k =>
    obtain ⟨hplain, hreplies⟩ := h.admitted before k _ after rfl
    obtain ⟨k', id, request, htaken, hreply⟩ := hreplies hbelow
    obtain ⟨untaken, late, rfl⟩ := List.append_of_mem htaken
    rw [List.append_assoc, List.cons_append] at h hinbox
    obtain ⟨rfl, heard, early, mid, rfl⟩ := h.sent_of_taken hinbox hreply
    exact ⟨k, k', id, heard, early, mid, late, rfl, hplain, by simp⟩

/-- Nothing is published to the inbox of a request whose message has gone to nobody. -/
theorem Exchange.unanswered (h : Exchange subject payload wait log bus) {i : ι} {inbox : String}
    (hinbox : (.inl i, ⟨.inbox, inbox⟩) ∈ log)
    (hunheard : ∀ message heard, (.inl i, ⟨.publish message, .ok (heard + 1)⟩) ∉ log) :
    ∀ e ∈ log, ∀ message, sentBy e.2 = some message → message.subject ≠ inbox := by
  rintro ⟨c, e⟩ he message hsent rfl
  obtain ⟨heard, rfl⟩ := sentBy_eq_some hsent
  obtain ⟨before, after, rfl⟩ := List.append_of_mem he
  obtain ⟨k, k', id, heard', early, mid, late, -, -, rfl⟩ := h.answers_request hinbox
  exact hunheard ⟨subject i, some message.subject, payload i⟩ heard' (by simp)

/-! ### The reply -/

/-- What waits in the inbox of a request that has not taken anything from it yet is what has been
published to the inbox since it was opened. -/
lemma Exchange.holds_inbox {i : ι} {inbox : String} {id : Nat}
    (h : Exchange subject payload wait (before ++ (.inl i, ⟨.subscribe inbox, id⟩) :: after) bus)
    (huntouched : ∀ e ∈ callsOf (.inl i) after, e.1 ≠ .take id ∧ e.1 ≠ .unsubscribe id) :
    bus.Holds id inbox
      ((sent (after.map (·.2))).filter (Subject.isMatch inbox ·.subject)) := by
  have huntouched' : ∀ e ∈ after.map (·.2), e.1 ≠ .take id ∧ e.1 ≠ .unsubscribe id := by
    intro e he
    obtain ⟨⟨c, e⟩, hmem, rfl⟩ := List.mem_map.mp he
    rw [← not_or]
    intro htouches
    have hopened : (.inl i, ⟨.subscribe inbox, id⟩) ∈
        before ++ (.inl i, ⟨.subscribe inbox, id⟩) :: after := by simp
    obtain rfl := h.holder_unique hopened
      (List.mem_append_right _ (List.mem_cons_of_mem _ hmem)) htouches
    exact htouches.elim (huntouched e (mem_callsOf.mpr hmem)).1
      (huntouched e (mem_callsOf.mpr hmem)).2
  have hserved := h.served
  rw [List.map_append, List.map_cons] at hserved
  obtain ⟨opened, waiting, -, -, hholds, heq⟩ :=
    holds_of_opened hserved fun hmem => (huntouched' _ hmem).2 rfl
  have htaken : taken id (after.map (·.2)) = [] := by
    refine List.filterMap_eq_nil_iff.mpr fun e he => ?_
    obtain ⟨q, answer⟩ := e
    cases q with
    | take id' => exact if_neg fun hid => (huntouched' _ he).1 (congrArg BusCall.take hid)
    | _ => rfl
  rw [htaken, List.nil_append] at heq
  exact heq ▸ hholds

/-- A request that looks into its inbox after something was published there takes a message. -/
theorem Exchange.takes_reply {i : ι} {c : ι ⊕ κ} {id heard : Nat} {answer : Option Message}
    {message : Message}
    (h : Exchange subject payload wait (before ++ (.inl i, ⟨.take id, answer⟩) :: after) bus)
    (hinbox : (.inl i, ⟨.inbox, message.subject⟩) ∈ before ++ (.inl i, ⟨.take id, answer⟩) :: after)
    (hsent : (c, ⟨.publish message, .ok heard⟩) ∈ before) : answer ≠ none := by
  rintro rfl
  have hnext := h.next
  obtain ⟨bus₁, hbefore, hafter⟩ := h.of_append
  obtain ⟨t, ht⟩ : ∃ t, callsOf (.inl i) before = t := ⟨_, rfl⟩
  rw [ht] at hnext
  cases hnext with
  | takes inbox id heard' =>
    rw [← List.singleton_append] at ht
    obtain ⟨unopened, between, rfl, hunopened, hbetween⟩ := exists_split_of_callsOf ht
    have hdrawn : (.inl i, ⟨.inbox, inbox⟩) ∈ unopened :=
      mem_callsOf.mp (hunopened ▸ List.mem_singleton.mpr rfl)
    obtain rfl : message.subject = inbox :=
      h.drawn_unique (List.mem_append_left _ (List.mem_append_left _ hdrawn)) hinbox
    have hholds := hbefore.holds_inbox (by simp [hbetween])
    have hnone : ((sent (between.map (·.2))).filter
        (Subject.isMatch message.subject ·.subject)).head? = none := by
      cases hafter with
      | cons hserves _ => exact (hserves.taken_eq hholds).symm
    rcases List.mem_append.mp hsent with hsent | hsent
    · -- Before the request was sent nothing is published to its inbox.
      obtain ⟨bus₂, hquiet, -⟩ := hbefore.of_append
      refine hquiet.unanswered hdrawn (fun message' heard hmem => ?_) _ hsent message rfl rfl
      simpa [hunopened] using mem_callsOf.mpr hmem
    · have hmem : message ∈ (sent (between.map (·.2))).filter
          (Subject.isMatch message.subject ·.subject) := by
        obtain ⟨n, hn⟩ := h.inbox_eq hinbox
        rcases List.mem_cons.mp hsent with heq | hsent
        · cases heq
        · have hmem : message ∈ sent (between.map (·.2)) :=
            List.mem_filterMap.mpr ⟨_, List.mem_map_of_mem hsent, rfl⟩
          refine List.mem_filter.mpr ⟨hmem, ?_⟩
          rw [hn]
          exact isMatch_inboxOf.mpr rfl
      rw [List.head?_eq_none_iff.mp hnone] at hmem
      cases hmem

/-- The first message of some kind that has been published is published somewhere, and none of this
kind before. -/
lemma exists_first_sent {C : Type} {log : Interleaving BusCall.Answer C} {p : Message → Bool}
    {message : Message} (h : ((sent (log.map (·.2))).filter p).head? = some message) :
    ∃ before c heard after, log = before ++ (c, ⟨.publish message, .ok heard⟩) :: after ∧
      p message = true ∧ ∀ e ∈ before, ∀ message', sentBy e.2 = some message' →
        ¬ p message' = true := by
  induction log with
  | nil => cases h
  | cons e log ih =>
    obtain ⟨c, e⟩ := e
    by_cases hfirst : ∃ message', sentBy e = some message' ∧ p message' = true
    · obtain ⟨message', hsent, hp⟩ := hfirst
      rw [List.map_cons, sent_cons, hsent, Option.toList_some, List.singleton_append,
        List.filter_cons_of_pos hp] at h
      obtain rfl := Option.some.inj h
      obtain ⟨heard, rfl⟩ := sentBy_eq_some hsent
      exact ⟨[], c, heard, log, rfl, hp, fun e he => nomatch he⟩
    · have hskip : (sentBy e).toList.filter p = [] := by
        refine List.filter_eq_nil_iff.mpr fun message' hmem hp => hfirst ⟨message', ?_, hp⟩
        exact Option.mem_toList.mp hmem
      rw [List.map_cons, sent_cons, List.filter_append, hskip, List.nil_append] at h
      obtain ⟨before, c', heard, after, rfl, hp, hbefore⟩ := ih h
      refine ⟨(c, e) :: before, c', heard, after, rfl, hp, ?_⟩
      refine List.forall_mem_cons.mpr ⟨fun message' hsent hp' => ?_, hbefore⟩
      exact hfirst ⟨message', hsent, hp'⟩

/-- The moments at which a request that has a reply has opened its inbox and taken the reply. -/
lemma exists_moments_of_answered {i : ι} {inbox : String} {id heard : Nat} {message : Message}
    (h : callsOf (.inl i) log = [⟨.inbox, inbox⟩, ⟨.subscribe inbox, id⟩,
      ⟨.publish ⟨subject i, some inbox, payload i⟩, .ok (heard + 1)⟩, ⟨.take id, some message⟩,
      ⟨.unsubscribe id, ()⟩]) :
    ∃ opening between closing,
      log = (opening ++ (.inl i, ⟨.subscribe inbox, id⟩) :: between) ++
        (.inl i, ⟨.take id, some message⟩) :: closing ∧
      callsOf (.inl i) opening = [⟨.inbox, inbox⟩] ∧
      callsOf (.inl i) between =
        [⟨.publish ⟨subject i, some inbox, payload i⟩, .ok (heard + 1)⟩] := by
  obtain ⟨undrawn, r₁, rfl, hundrawn, hr₁⟩ := exists_split_of_callsOf (t := []) h
  obtain ⟨unopened, r₂, rfl, hunopened, hr₂⟩ := exists_split_of_callsOf (t := []) hr₁
  obtain ⟨unsent, r₃, rfl, hunsent, hr₃⟩ := exists_split_of_callsOf (t := []) hr₂
  obtain ⟨untaken, closing, rfl, huntaken, -⟩ := exists_split_of_callsOf (t := []) hr₃
  refine ⟨undrawn ++ (.inl i, ⟨.inbox, inbox⟩) :: unopened,
    unsent ++ (.inl i, ⟨.publish ⟨subject i, some inbox, payload i⟩, .ok (heard + 1)⟩) :: untaken,
    closing, by simp, ?_, ?_⟩
  · rw [callsOf_append, callsOf_cons_self, hundrawn, hunopened, List.nil_append]
  · rw [callsOf_append, callsOf_cons_self, hunsent, huntaken, List.nil_append]

/-- A request that has a reply has the payload of the first message that has been published to its
inbox after it was sent, by another party and after its own message had been taken. -/
theorem Exchange.first_reply (h : Exchange subject payload wait log bus) {i : ι} {reply : Payload}
    (hrun : Runs (BusAccess.asking.request (subject i) (payload i) (wait i)) (callsOf (.inl i) log)
      (.ok reply)) :
    ∃ before mid after inbox heard k heard',
      log = before ++ (.inl i, ⟨.publish ⟨subject i, some inbox, payload i⟩, .ok heard⟩) ::
        (mid ++ (.inr k, ⟨.publish ⟨inbox, none, reply⟩, .ok heard'⟩) :: after) ∧
      (∀ e ∈ mid, ∀ message, sentBy e.2 = some message → message.subject ≠ inbox) ∧
      ∃ k' id, (.inr k', ⟨.take id, some ⟨subject i, some inbox, payload i⟩⟩) ∈ mid := by
  obtain ⟨t, ht⟩ : ∃ t, callsOf (.inl i) log = t := ⟨_, rfl⟩
  rw [ht] at hrun
  have hasked := asked_of_runs_request hrun
  cases hasked with
  | answered inbox id heard message =>
    obtain ⟨opening, between, closing, rfl, hopening, hbetween⟩ := exists_moments_of_answered ht
    obtain ⟨bus₁, hbefore, hafter⟩ := h.of_append
    have hdrawn : (.inl i, ⟨.inbox, inbox⟩) ∈ opening :=
      mem_callsOf.mp (hopening ▸ List.mem_singleton.mpr rfl)
    obtain ⟨n, hn⟩ := hbefore.inbox_eq (List.mem_append_left _ hdrawn)
    -- What is taken is the first message that has been published to the inbox.
    have hholds := hbefore.holds_inbox (by simp [hbetween])
    have hfirst : ((sent (between.map (·.2))).filter
        (Subject.isMatch inbox ·.subject)).head? = some message := by
      cases hafter with
      | cons hserves _ => exact (hserves.taken_eq hholds).symm
    obtain ⟨unanswered, c, heard', answered, rfl, hmatch, hnone⟩ := exists_first_sent hfirst
    obtain rfl : message.subject = inbox := by rwa [hn, isMatch_inboxOf, ← hn] at hmatch
    rw [← List.cons_append, ← List.append_assoc] at hbefore
    obtain ⟨k, k', id', heard'', early, mid, late, rfl, hplain, hsplit⟩ :=
      hbefore.answers_request (List.mem_append_left _ (List.mem_append_left _ hdrawn))
    have hmessage : message = ⟨message.subject, none, message.payload⟩ := by rw [← hplain]
    refine ⟨early, mid ++ (.inr k', ⟨.take id', some ⟨subject i, some message.subject, payload i⟩⟩)
      :: late, answered ++ (.inl i, ⟨.take id, some message⟩) :: closing, message.subject,
      heard'' + 1, k, heard', ?_, ?_, k', id', by simp⟩
    · rw [← hmessage, ← List.cons_append, ← List.append_assoc, hsplit]
      simp
    · -- Before it was sent, nothing was published to the inbox either.
      obtain ⟨bus₂, hopened, -⟩ := (List.append_assoc opening _ _ ▸ hbefore).of_append
      have hquiet := hopened.unanswered hdrawn fun message' heard hmem => by
        simpa [hopening] using mem_callsOf.mpr hmem
      intro e he message' hsent
      have hmem : e ∈ opening ++ (.inl i, ⟨.subscribe message.subject, id⟩) :: unanswered := by
        rw [hsplit]
        exact List.mem_append_right _ (List.mem_cons_of_mem _ he)
      rcases List.mem_append.mp hmem with hmem | hmem
      · exact hquiet e hmem message' hsent
      · rcases List.mem_cons.mp hmem with rfl | hmem
        · cases hsent
        · intro heq
          refine hnone e hmem message' hsent ?_
          rw [hn, isMatch_inboxOf, ← hn, heq]

/-- A message that is not refused goes to nobody exactly if no subscription that is held then
matches its subject. -/
lemma Exchange.unheard_iff {i : ι} {message : Message} {heard : Nat}
    (h : Exchange subject payload wait
      (before ++ (.inl i, ⟨.publish message, .ok heard⟩) :: after) bus) :
    ∃ w, Served Serves .empty (before.map (·.2)) w ∧
      (heard = 0 ↔ ∀ s ∈ w.held, ¬ Subject.isMatch s.pattern (subject i) = true) := by
  obtain ⟨inbox, id, -, rfl⟩ := h.publishes
  obtain ⟨w, hbefore, hafter⟩ := h.of_append
  refine ⟨w, hbefore.served, ?_⟩
  cases hafter with
  | cons hserves _ =>
    obtain rfl := hserves.heard_eq
    exact List.countP_eq_zero

/-- Requests side by side are kept apart.  The inboxes of different requests are different.  A
request that has a reply has the first one that was published to its inbox after it was sent, in
answer to its own message.  A request that is not refused finds no responders exactly if no
subscription held when it was sent matches its subject, and then nothing is ever published to its
inbox.  No request takes more than one message. -/
theorem requests_answered_apart (h : Exchange subject payload wait log bus) :
    (∀ i j inbox, (.inl i, ⟨.inbox, inbox⟩) ∈ log → (.inl j, ⟨.inbox, inbox⟩) ∈ log → i = j) ∧
    (∀ i reply, Runs (BusAccess.asking.request (subject i) (payload i) (wait i))
        (callsOf (.inl i) log) (.ok reply) →
      ∃ before mid after inbox heard k heard',
        log = before ++ (.inl i, ⟨.publish ⟨subject i, some inbox, payload i⟩, .ok heard⟩) ::
          (mid ++ (.inr k, ⟨.publish ⟨inbox, none, reply⟩, .ok heard'⟩) :: after) ∧
        (∀ e ∈ mid, ∀ message, sentBy e.2 = some message → message.subject ≠ inbox) ∧
        ∃ k' id, (.inr k', ⟨.take id, some ⟨subject i, some inbox, payload i⟩⟩) ∈ mid) ∧
    (∀ i before message heard after,
      log = before ++ (.inl i, ⟨.publish message, .ok heard⟩) :: after →
      ∃ w, Served Serves .empty (before.map (·.2)) w ∧
        (∀ t r, callsOf (.inl i) log <+: t →
          Runs (BusAccess.asking.request (subject i) (payload i) (wait i)) t r →
          (r = .error (.noResponders (subject i)) ↔
            ∀ s ∈ w.held, ¬ Subject.isMatch s.pattern (subject i) = true)) ∧
        ((∀ s ∈ w.held, ¬ Subject.isMatch s.pattern (subject i) = true) →
          ∀ e ∈ log, ∀ answer, sentBy e.2 = some answer → message.reply ≠ some answer.subject)) ∧
    ∀ i, ((callsOf (.inl i) log).filterMap gotBy).length ≤ 1 := by
  refine ⟨fun i j inbox hi hj => Sum.inl.inj (h.inbox_unique hi hj),
    fun i reply hrun => h.first_reply hrun, ?_, fun i => ?_⟩
  · rintro i before message heard after rfl
    obtain ⟨w, hserved, hunheard⟩ := h.unheard_iff
    have hsent : (⟨.publish message, .ok heard⟩ : Event BusCall.Answer) ∈
        callsOf (.inl i) (before ++ (.inl i, ⟨.publish message, .ok heard⟩) :: after) :=
      mem_callsOf.mpr (by simp)
    refine ⟨w, hserved, fun t r hmade hrun => ?_, fun hnobody e he answer hanswer heq => ?_⟩
    · rw [← hunheard]
      exact (asked_of_runs_request hrun).noResponders_iff (hmade.subset hsent)
    · obtain ⟨inbox, id, hbefore, rfl⟩ := h.publishes
      have hdrawn : (.inl i, ⟨.inbox, inbox⟩) ∈ before :=
        mem_callsOf.mp (hbefore ▸ List.mem_cons_self)
      refine h.unanswered (List.mem_append_left _ hdrawn) (fun message' heard' hmem => ?_) e he
        answer hanswer (Option.some.inj heq).symm
      -- The request is sent only once, and this went to nobody.
      obtain ⟨-, hsame⟩ := h.publish_unique (mem_callsOf.mp hsent) hmem
      rw [hunheard.mpr hnobody] at hsame
      cases hsame
  · obtain ⟨t, r, hmade, hasked⟩ := h.asked i
    exact (hmade.sublist.filterMap gotBy).length_le.trans hasked.got_le

/-- What holds of the first element and of each later one with those before it. -/
lemma forall_splits_cons {α : Type} {P : List α → α → Prop} {a : α} {l : List α} (hfirst : P [] a)
    (hrest : ∀ before c after, l = before ++ c :: after → P (a :: before) c) :
    ∀ before c after, a :: l = before ++ c :: after → P before c := by
  intro before c after heq
  cases before with
  | nil =>
    cases heq
    exact hfirst
  | cons b before =>
    obtain ⟨rfl, hl⟩ := List.cons.inj heq
    exact hrest before c after hl

/-- Two requests, of which one is answered and the other finds nobody. -/
def twoRequests : Interleaving BusCall.Answer (Bool ⊕ Unit) :=
  [(.inr (), ⟨.subscribe "echo", 0⟩), (.inl false, ⟨.inbox, "_INBOX.0"⟩),
    (.inl false, ⟨.subscribe "_INBOX.0", 1⟩), (.inl true, ⟨.inbox, "_INBOX.1"⟩),
    (.inl true, ⟨.subscribe "_INBOX.1", 2⟩),
    (.inl true, ⟨.publish ⟨"void", some "_INBOX.1", .ofText "b"⟩, .ok 0⟩),
    (.inl false, ⟨.publish ⟨"echo", some "_INBOX.0", .ofText "a"⟩, .ok 1⟩),
    (.inr (), ⟨.take 0, some ⟨"echo", some "_INBOX.0", .ofText "a"⟩⟩),
    (.inr (), ⟨.publish ⟨"_INBOX.0", none, .ofText "c"⟩, .ok 1⟩),
    (.inl false, ⟨.take 1, some ⟨"_INBOX.0", none, .ofText "c"⟩⟩),
    (.inl false, ⟨.unsubscribe 1, ()⟩), (.inl true, ⟨.unsubscribe 2, ()⟩)]

/-- The subjects of the two requests. -/
def twoSubjects : Bool → String
  | false => "echo"
  | true => "void"

/-- The payloads of the two requests. -/
def twoPayloads : Bool → Payload
  | false => .ofText "a"
  | true => .ofText "b"

/-- The one request has the reply to it, and nothing is published to the inbox of the other. -/
theorem requests_answered_apart_of_two :
    ∃ bus, Exchange twoSubjects twoPayloads (fun _ => 1) twoRequests bus ∧
      (∃ k' id, (.inr k', ⟨.take id, some ⟨"echo", some "_INBOX.0", .ofText "a"⟩⟩) ∈ twoRequests) ∧
      ∀ e ∈ twoRequests, ∀ answer, sentBy e.2 = some answer → answer.subject ≠ "_INBOX.1" := by
  have hfalse : Runs (BusAccess.asking.request "echo" (.ofText "a") 1)
      (callsOf (.inl false) twoRequests) (.ok (.ofText "c")) :=
    .call _ (.call _ (.call _ (.call _ (.call _ (.here _)))))
  have htrue : Runs (BusAccess.asking.request "void" (.ofText "b") 1)
      (callsOf (.inl true) twoRequests) (.error (.noResponders "void")) :=
    .call _ (.call _ (.call _ (.call _ (.here _))))
  obtain ⟨bus, hserved⟩ : ∃ bus, Served Serves .empty (twoRequests.map (·.2)) bus :=
    ⟨_, .cons rfl (.cons rfl (.cons rfl (.cons rfl (.cons rfl (.cons rfl (.cons rfl (.cons rfl
      (.cons rfl (.cons rfl (.cons rfl (.cons rfl (.nil _))))))))))))⟩
  have hadmitted : ∀ before c after, twoRequests = before ++ c :: after →
      ∀ k e, c = (.inr k, e) → Admitted before e := by
    unfold twoRequests
    repeat' refine forall_splits_cons ?_ ?_
    all_goals simp [Admitted]
  have hexchange : Exchange twoSubjects twoPayloads (fun _ => 1) twoRequests bus := by
    refine ⟨hserved, fun i => ?_, fun i hbelow => ?_,
      fun before k e after heq => hadmitted before _ after heq k e rfl⟩
    · cases i with
      | false => exact ⟨_, hfalse⟩
      | true => exact ⟨_, htrue⟩
    · cases i <;> exact absurd hbelow.isPrefix (by decide)
  obtain ⟨-, hfirst, hheard, -⟩ := requests_answered_apart hexchange
  refine ⟨bus, hexchange, ?_, ?_⟩
  · obtain ⟨before, mid, after, inbox, heard, k, heard', hlog, -, k', id, htaken⟩ :=
      hfirst false _ hfalse
    have hmem : (.inr k', ⟨.take id, some ⟨"echo", some inbox, .ofText "a"⟩⟩) ∈ twoRequests := by
      rw [hlog]
      exact List.mem_append_right _ (List.mem_cons_of_mem _ (List.mem_append_left _ htaken))
    obtain ⟨rfl, rfl⟩ : id = 0 ∧ inbox = "_INBOX.0" := by simpa [twoRequests] using hmem
    exact ⟨k', 0, hmem⟩
  · obtain ⟨w, -, hiff, hnone⟩ := hheard true (twoRequests.take 5) _ 0 (twoRequests.drop 6) rfl
    have hnobody := (hiff _ _ (List.prefix_refl _) htrue).mp rfl
    exact fun e he answer hanswer heq => hnone hnobody e he answer hanswer (by rw [heq])

end Exchange

end MemoryBus

end ComputeExchange
