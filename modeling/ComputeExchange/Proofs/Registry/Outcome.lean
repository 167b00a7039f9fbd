import ComputeExchange.Proofs.Provider.Heard
import ComputeExchange.Proofs.Registry.Rows
import ComputeExchange.Proofs.Sync.Following
import ComputeExchange.Proofs.Sync.Saving

/-!
# What the registry makes of a chain

`Registry.registering` is the synchronizer that hands the registrations and heartbeats of a chain to
the registry, with its cursor saved beside the providers.  It deals with the registrations of a
window before its heartbeats, and with both again after a window has been broken off, so the order
in which events are recorded is not that of the chain.

While the clock stands still this makes no difference.  `heard_of_passes` says what every row is in
the end, without a word on windows; so `outcome_unique` says that two runs which have come from the
same providers and the same block to the same block have the same providers in the end.
-/

namespace ComputeExchange

namespace Registry

open Program Protocol Synchronizer

/-- What following the chain asks for the registry. -/
abbrev FollowAnswer : FollowCall RegistryKind RegistryEvent RegistryCall → Type :=
  FollowCall.Answer RegistryKind RegistryEvent RegistryCall.Answer

/-- The synchronizer that hands registrations and heartbeats to the registry. -/
abbrev registering (threshold : Nat) (label : RegistryKind → String) (config : Sync.Config) :
    Synchronizer (Program FollowAnswer) RegistryKind RegistryEvent :=
  following label RegistryKind.all config (asking threshold).handle

/-- How the calls are answered: the cursor is saved beside the providers, and the clock stands
still. -/
abbrev Registers : World → (q : FollowCall RegistryKind RegistryEvent RegistryCall) →
    FollowAnswer q → World → Prop :=
  FollowCall.Serves (fun w c answer w' => World.Serves w (.store c) answer w') World.Serves

variable {threshold : Nat} {label : RegistryKind → String} {config : Sync.Config}
  {w w' : World}

/-! ### One event -/

/-- An event is recorded with two calls, and is not applied only if the second fails. -/
lemma runs_handle {event : RegistryEvent} {t : Trace RegistryCall.Answer}
    {r : Except HandleError Unit} (h : Runs ((asking threshold).handle event) t r) :
    ∃ now answer, t = [⟨.clock, now⟩, ⟨.store (event.recording now), answer⟩] ∧
      ((∃ told, answer = .ok told ∧ r = .ok ()) ∨
        ∃ e, answer = .error e ∧ r = .error (.ofStore e)) := by
  cases event with
  | registered event | heartbeat event =>
    cases h with
    | call now h =>
      cases h with
      | call answer h =>
        cases answer with
        | ok told =>
          cases h
          exact ⟨now, .ok told, rfl, Or.inl ⟨told, rfl, rfl⟩⟩
        | error e =>
          cases h
          exact ⟨now, .error e, rfl, Or.inr ⟨e, rfl, rfl⟩⟩

/-- What recording an event leaves behind: the providers as they should be, or nothing at all. -/
lemma served_handling {event : RegistryEvent} {t : Trace RegistryCall.Answer}
    {r : Except HandleError Unit} (hrun : Runs ((asking threshold).handle event) t r)
    (hserved : Served Registers w (handlingOf RegistryKind event t) w') :
    w'.wall = w.wall ∧
      (r = .ok () ∧ (event.recording w.wall).Makes w.store.providers w'.store.providers ∨
        r ≠ .ok () ∧ w' = w) := by
  obtain ⟨now, answer, rfl, hanswer⟩ := runs_handle hrun
  obtain ⟨w₁, hclock, hstored⟩ := Served.of_concat (t := [_]) hserved
  cases hclock.of_singleton.of_handling
  have hstored := hstored.of_handling
  refine ⟨hstored.wall_eq, ?_⟩
  rcases hanswer with ⟨told, rfl, rfl⟩ | ⟨e, rfl, rfl⟩
  · obtain ⟨-, hmade⟩ | ⟨⟨e, he⟩, -⟩ := hstored.of_store
    · exact Or.inl ⟨rfl, hmade⟩
    · cases he
  · obtain ⟨⟨told, htold⟩, -⟩ | ⟨-, rfl⟩ := hstored.of_store
    · cases htold
    · exact Or.inr ⟨by simp, rfl⟩

/-! ### All events -/

/-- Whether a world is what recording events one after another makes of another at its time. -/
structure Recorded (events : List RegistryEvent) (w w' : World) : Prop where
  wall : w'.wall = w.wall
  rows : ∀ wallet, w'.provider? wallet = events.foldl
    (fun row e => (e.recording w.wall).onProvider wallet row) (w.provider? wallet)
  wallets : w'.store.providers.keys = events.foldl
    (fun wallets e => (e.recording w.wall).onWallets wallets) w.store.providers.keys

lemma Recorded.append {events events' : List RegistryEvent} {w₁ : World}
    (h : Recorded events w w₁) (h' : Recorded events' w₁ w') :
    Recorded (events ++ events') w w' := by
  refine ⟨h'.wall.trans h.wall, fun wallet => ?_, ?_⟩
  · rw [List.foldl_append, ← h.rows, ← h.wall]
    exact h'.rows wallet
  · rw [List.foldl_append, ← h.wallets, ← h.wall]
    exact h'.wallets

/-- A call of the synchronizer, with all that is called to answer it, records the event that it
applies. -/
lemma recorded_of_call {q : SyncCall RegistryKind RegistryEvent}
    {answer : SyncCall.Answer RegistryKind RegistryEvent q} {v : Trace FollowAnswer}
    (hrun : Runs ((registering threshold label config).answers q) v answer)
    (hserved : Served Registers w v w')
    (hsaves : ∀ c, q = .store c → ∃ service block, c = .saveCursor service block) :
    Recorded (applied [⟨q, answer⟩]) w w' := by
  cases q with
  | handle event =>
    obtain ⟨t, hhandle, rfl⟩ := runs_handlingFor.mp hrun
    obtain ⟨hwall, ⟨rfl, hmade⟩ | ⟨hfailed, rfl⟩⟩ := served_handling hhandle hserved
    · exact ⟨hwall, hmade.rows, hmade.wallets⟩
    · have hnone : applied [(⟨.handle event, answer⟩ :
          Event (SyncCall.Answer RegistryKind RegistryEvent))] = [] := by
        cases answer with
        | ok => exact absurd rfl hfailed
        | error e => rfl
      rw [hnone]
      exact ⟨rfl, fun _ => rfl, rfl⟩
  | store c =>
    obtain rfl := runs_ask.mp hrun
    obtain ⟨service, block, rfl⟩ := hsaves c rfl
    cases hserved.of_singleton with
    | store h =>
      obtain ⟨-, hmade⟩ | ⟨-, rfl⟩ := h.of_store
      · exact ⟨h.wall_eq, hmade.rows, hmade.wallets⟩
      · exact ⟨rfl, fun _ => rfl, rfl⟩
    | sync hc => exact absurd rfl (hc _)
  | _ =>
    obtain rfl := runs_ask.mp hrun
    cases hserved.of_singleton
    exact ⟨rfl, fun _ => rfl, rfl⟩

/-- The calls of passes record the events that they apply. -/
lemma recorded_of_served {t : SyncTrace RegistryKind RegistryEvent}
    (hsaves : ∀ e ∈ t, ∀ c, e.1 = .store c → ∃ service block, c = .saveCursor service block)
    (h : Served (fun w q answer w' => ∃ v,
      Runs ((registering threshold label config).answers q) v answer ∧ Served Registers w v w')
      w t w') : Recorded (applied t) w w' := by
  induction h with
  | nil => exact ⟨rfl, fun _ => rfl, rfl⟩
  | @cons w w₁ w₂ q answer t hcall _ ih =>
    rw [List.forall_mem_cons] at hsaves
    obtain ⟨v, hrun, hserved⟩ := hcall
    have hparts : applied (⟨q, answer⟩ :: t) = applied [⟨q, answer⟩] ++ applied t :=
      applied_append [_] t
    rw [hparts]
    exact (recorded_of_call hrun hserved hsaves.1).append (ih hsaves.2)

/-! ### Runs -/

/-- Whether calls are answered from a chain whose head has not come past a block, and the store
fails only for a time. -/
structure Faithful (chain : FixedChain RegistryKind RegistryEvent) (last : UInt64)
    (u : Trace FollowAnswer) : Prop where
  fetched : ∀ kind first last events, ⟨.sync (.fetch kind first last), .ok events⟩ ∈ u →
    events = chain.slice kind first last
  heads : ∀ head, ⟨.sync .head, .ok head⟩ ∈ u → head ≤ last
  transient : ∀ event c e, ⟨.handling event (.store c), .error e⟩ ∈ u → e.isTransient = true

namespace Faithful

variable {chain : FixedChain RegistryKind RegistryEvent} {last : UInt64} {u v : Trace FollowAnswer}

/-- Calls that are answered faithfully in two parts are so altogether. -/
lemma append (h : Faithful chain last u) (h' : Faithful chain last v) :
    Faithful chain last (u ++ v) where
  fetched kind first stop events hmem :=
    (List.mem_append.mp hmem).elim (h.fetched kind first stop events)
      (h'.fetched kind first stop events)
  heads head hmem := (List.mem_append.mp hmem).elim (h.heads head) (h'.heads head)
  transient event c e hmem :=
    (List.mem_append.mp hmem).elim (h.transient event c e) (h'.transient event c e)

/-- Calls that are answered faithfully pass by pass are so altogether. -/
lemma flatten {us : List (Trace FollowAnswer)} (h : ∀ u ∈ us, Faithful chain last u) :
    Faithful chain last us.flatten := by
  induction us with
  | nil => exact ⟨by simp, by simp, by simp⟩
  | cons u us ih =>
    rw [List.forall_mem_cons] at h
    exact h.1.append (ih h.2)

end Faithful

/-- The events of a chain after a block, up to another, one kind after the other. -/
def eventsOf (chain : FixedChain RegistryKind RegistryEvent) (start stop : UInt64) :
    List RegistryEvent :=
  RegistryKind.all.flatMap fun kind => chain.after kind start stop

variable {chain : FixedChain RegistryKind RegistryEvent} {start stop : UInt64}

/-- No event is given up if the store fails only for a time. -/
lemma givesUpNone {t : SyncTrace RegistryKind RegistryEvent} {u : Trace FollowAnswer}
    (hexpands : Expands (registering threshold label config).answers t u)
    (hfaithful : Faithful chain stop u) : GivesUpNone t := by
  intro event answer hmem hsettled
  obtain ⟨v, hrun, hsub⟩ := exists_handling_of_expands hexpands hmem
  obtain ⟨now, answer', rfl, ⟨told, rfl, rfl⟩ | ⟨e, rfl, rfl⟩⟩ := runs_handle hrun
  · rfl
  · have htransient := hfaithful.transient event _ e
      (hsub (mem_handlingOf.mpr ⟨rfl, List.mem_cons_of_mem _ (List.mem_singleton_self _)⟩))
    rw [isSettled_ofStore.mp hsettled] at htransient
    cases htransient

/-- Passes record the events of the chain, each kind in its order but for replays. -/
lemma recorded_of_passes (hkinds : ∀ kind, ∀ event ∈ chain.events kind, event.kind = kind)
    {us : List (Trace FollowAnswer)}
    (h : Passes (registering threshold label config) Registers start w us stop w')
    (hfaithful : ∀ u ∈ us, Faithful chain stop u) :
    ∃ es, Recorded es w w' ∧ ∀ kind,
      Replays ((eventsOf chain start stop).filter (·.kind = kind)) (es.filter (·.kind = kind)) := by
  obtain ⟨passes, hrun, hexpands, hserved⟩ := h.exists_run
  have hall := Faithful.flatten hfaithful
  have hpass : ∀ p ∈ passes, p.trace ⊆ passes.flatMap (·.trace) :=
    fun p hp e he => List.mem_flatMap.mpr ⟨p, hp, he⟩
  have hchain : ∀ p ∈ passes, chain.Explains p.trace := by
    intro p hp kind first last events hmem
    exact hall.fetched kind first last events
      (mem_of_expands hexpands (by simp) (hpass p hp hmem))
  have hheads : ∀ p ∈ passes, ∀ head, (⟨.head, .ok head⟩ : Event _) ∈ p.trace → head ≤ stop :=
    fun p hp head hmem =>
      hall.heads head (mem_of_expands hexpands (by simp) (hpass p hp hmem))
  have hnone : ∀ p ∈ passes, GivesUpNone p.trace :=
    fun p hp => (givesUpNone hexpands hall).subset (hpass p hp)
  have hsaves : ∀ e ∈ passes.flatMap (·.trace), ∀ c, e.1 = .store c →
      ∃ service block, c = .saveCursor service block := by
    intro e he c hc
    obtain ⟨p, hp, he⟩ := List.mem_flatMap.mp he
    exact ⟨_, (hrun.passed p hp).saves_cursor e he c hc⟩
  refine ⟨_, recorded_of_served hsaves (Served.of_expands hexpands hserved), fun kind => ?_⟩
  have hmem : kind ∈ RegistryKind.all := by cases kind <;> decide
  have hevents : (eventsOf chain start stop).filter (·.kind = kind) =
      chain.after kind start stop :=
    filter_flatMap_kind (fun k e he => hkinds k e (List.mem_filter.mp he).1) (by decide) hmem
  rw [hevents]
  exact hrun.replays hkinds (by decide) hmem hchain hnone hheads

/-- What passes leave behind is what is heard of the events of the chain between their cursors, each
of them once: every row is the one that is heard, and the wallets that are new have come in the
order of their registrations. -/
theorem heard_of_passes (hkinds : ∀ kind, ∀ event ∈ chain.events kind, event.kind = kind)
    {us : List (Trace FollowAnswer)}
    (h : Passes (registering threshold label config) Registers start w us stop w')
    (hfaithful : ∀ u ∈ us, Faithful chain stop u) :
    (∀ wallet, w'.provider? wallet =
      Provider.heard w.wall wallet (eventsOf chain start stop) (w.provider? wallet)) ∧
    w'.store.providers.keys = (eventsOf chain start stop).foldl
      (fun wallets e => (e.recording w.wall).onWallets wallets) w.store.providers.keys := by
  obtain ⟨es, hrecorded, hreplays⟩ := recorded_of_passes hkinds h hfaithful
  refine ⟨fun wallet => ?_, ?_⟩
  · rw [hrecorded.rows, Provider.foldl_onProvider]
    exact Provider.heard_eq_of_replays hreplays
  · rw [hrecorded.wallets]
    exact RegistryEvent.foldl_onWallets_eq_of_replays (hreplays .registered) _

/-- Two runs of the registry over the same blocks of a chain, from the same providers and at the
same time, have the same providers in the end: whatever the sizes of their windows, whichever heads
they see on the way, and wherever their passes are broken off. -/
theorem outcome_unique (hkinds : ∀ kind, ∀ event ∈ chain.events kind, event.kind = kind)
    {threshold' : Nat} {label' : RegistryKind → String} {config' : Sync.Config}
    {first first' : World} {us us' : List (Trace FollowAnswer)} (hwall : first'.wall = first.wall)
    (hproviders : first'.store.providers = first.store.providers)
    (h : Passes (registering threshold label config) Registers start first us stop w)
    (h' : Passes (registering threshold' label' config') Registers start first' us' stop w')
    (hfaithful : ∀ u ∈ us, Faithful chain stop u) (hfaithful' : ∀ u ∈ us', Faithful chain stop u) :
    (∀ wallet, w'.provider? wallet = w.provider? wallet) ∧
      (first.store.providers.keys.Nodup → w'.store.providers = w.store.providers) := by
  obtain ⟨hrows, hkeys⟩ := heard_of_passes hkinds h hfaithful
  obtain ⟨hrows', hkeys'⟩ := heard_of_passes hkinds h' hfaithful'
  have hsame : ∀ wallet, w'.provider? wallet = w.provider? wallet := by
    intro wallet
    have hfirst : first'.provider? wallet = first.provider? wallet :=
      congrArg (Table.get? · wallet) hproviders
    rw [hrows', hrows, hwall, hfirst]
  refine ⟨hsame, fun hnodup => Table.ext_of_keys ?_ ?_ hsame⟩
  · rw [hkeys', hkeys, hwall, hproviders]
  · rw [hkeys', hproviders]
    exact RegistryEvent.nodup_foldl_onWallets _ hnodup

/-! ### Two runs -/

/-- The provider registers. -/
def joins : RegistryEvent := .registered ⟨offered, ⟨12, "tx"⟩⟩

/-- The provider shows that it is alive, one block before it registers. -/
def beats : RegistryEvent := .heartbeat ⟨"w", 0, ⟨11, "tx"⟩⟩

/-- A chain with a heartbeat and then a registration. -/
def lateRegistration : FixedChain RegistryKind RegistryEvent where
  block := fun
    | .registered e => e.position.block
    | .heartbeat e => e.position.block
  events := fun
    | .registered => [joins]
    | .heartbeat => [beats]
  sorted := fun kind => by cases kind <;> exact List.pairwise_singleton _ _

/-- The calls that record an event. -/
def recordingCalls (event : RegistryEvent)
    (answer : Except StoreError (event.recording default).Answer) : Trace FollowAnswer :=
  handlingOf RegistryKind event [⟨.clock, default⟩, ⟨.store (event.recording default), answer⟩]

/-- Both events in one window, the registration before the heartbeat. -/
def bothBlocks : Window RegistryKind.all RegistryEvent where
  first := 11
  last := 12
  first_le := by decide
  batches := [(.registered, [joins]), (.heartbeat, [beats])]
  fetched := rfl
  answers := [(joins, .ok ()), (beats, .ok ())]
  handed := rfl
  settled := by simp [isSettled]

/-- A window with the heartbeat alone. -/
def firstBlock : Window RegistryKind.all RegistryEvent where
  first := 11
  last := 11
  first_le := Nat.le_refl 11
  batches := [(.registered, []), (.heartbeat, [beats])]
  fetched := rfl
  answers := [(beats, .ok ())]
  handed := rfl
  settled := by simp [isSettled]

/-- A window with the registration alone. -/
def secondBlock : Window RegistryKind.all RegistryEvent where
  first := 12
  last := 12
  first_le := by decide
  batches := [(.registered, [joins]), (.heartbeat, [])]
  fetched := rfl
  answers := [(joins, .ok ())]
  handed := rfl
  settled := by simp [isSettled]

/-- The calls of a run in one pass. -/
def atOnce : List (Trace FollowAnswer) :=
  [windowCalls "svc" bothBlocks (recordingCalls joins (.ok (.ofRegistration offered default)) ++
    recordingCalls beats (.ok true))]

/-- The calls of a run block by block: the heartbeat comes too early, and the registration is tried
again because the store has been out of reach. -/
def blockByBlock : List (Trace FollowAnswer) :=
  [windowCalls "svc" firstBlock (recordingCalls beats (.ok false)),
    brokenCalls 12 12 12 secondBlock.batches (recordingCalls joins (.error .unavailable)),
    windowCalls "svc" secondBlock (recordingCalls joins (.ok (.ofRegistration offered default)))]

lemma expands_recording (event : RegistryEvent) (told : (event.recording default).Answer) :
    Expands (registering threshold label config).answers [⟨.handle event, .ok ()⟩]
      (recordingCalls event (.ok told)) := by
  refine expands_handover ?_
  cases event <;> exact .call _ (.call _ (.here _))

lemma expands_refusal (event : RegistryEvent) (e : StoreError) :
    Expands (registering threshold label config).answers
      [⟨.handle event, .error (.ofStore e)⟩] (recordingCalls event (.error e)) := by
  refine expands_handover ?_
  cases event <;> exact .call _ (.call _ (.here _))

/-- What recording an event does to a world whose clock shows the time. -/
lemma served_recording (event : RegistryEvent) {s : MemoryStore}
    {answer : Except StoreError (event.recording default).Answer}
    (h : answer = (s.perform (event.recording default)).1) :
    Served Registers ⟨default, s⟩ (recordingCalls event answer)
      ⟨default, (s.perform (event.recording default)).2⟩ := by
  subst h
  exact .cons (.handling event (.told _)) (.cons (.handling event (.stored _ _)) (.nil _))

/-- The names of the kinds. -/
def eventName : RegistryKind → String
  | .registered => "NodeRegistered"
  | .heartbeat => "NodeHeartbeat"

/-- The service with windows of up to so many blocks. -/
def windowsOf (range : UInt64) : Sync.Config := ⟨"svc", 1, range, none⟩

lemma passes_atOnce :
    ∃ w, Passes (registering 0 eventName (windowsOf 100)) Registers 10 fresh atOnce 12 w ∧
      w.provider? "w" = some (.ofRegistration offered default) := by
  have hrun : Runs ((registering 0 eventName (windowsOf 100)).poll (some 10)) _ _ :=
    runs_following_window bothBlocks rfl (by decide) (by decide)
      ((expands_recording joins (.ofRegistration offered default)).append
        (expands_recording beats true))
  have hserved : Served Registers fresh (windowCalls "svc" bothBlocks
      (recordingCalls joins (.ok (.ofRegistration offered default)) ++
        recordingCalls beats (.ok true))) _ :=
    served_windowCalls bothBlocks
      ((served_recording joins rfl).append (served_recording beats rfl)) (.stored _ _)
  exact ⟨_, .cons hrun hserved (.nil 12 _), rfl⟩

/-- The store is out of reach when the registration is to be recorded. -/
lemma runs_refused :
    Runs ((registering 0 eventName (windowsOf 1)).poll (some 11))
      (brokenCalls 12 12 12 secondBlock.batches (recordingCalls joins (.error .unavailable)))
      (.error (.handler 12 12 (Explained.cause StoreError.unavailable)), some 11) := by
  have hnone : ∀ a ∈ ([] : List (RegistryEvent × Except HandleError Unit)),
      isSettled a.2 = true := by simp
  have hnext : (12 : UInt64).toNat = (11 : UInt64).toNat + 1 := rfl
  have hend : windowEnd (windowsOf 1).rangeSize 12 12 = 12 := by decide
  have hhanded : ([] : List (RegistryEvent × Except HandleError Unit)).map (·.1) ++ joins :: [] =
      secondBlock.batches.flatMap (·.2) := rfl
  have hcause : HandleError.ofStore .unavailable =
      .retry (Explained.cause StoreError.unavailable) := rfl
  have hrefused : Expands (registering 0 eventName (windowsOf 1)).answers
      (handovers [] ++ [⟨.handle joins, .error (.ofStore .unavailable)⟩])
      (recordingCalls joins (.error .unavailable)) := expands_refusal joins .unavailable
  rw [hcause] at hrefused
  exact runs_following_retried hnext (UInt64.le_refl 12) hend secondBlock.fetched hnone hhanded
    hrefused

/-- What the heartbeat leaves behind: a saved cursor, since the provider is not known. -/
def onlySaved : World := ⟨default, (MemoryStore.empty.perform (.saveCursor "svc" 11)).2⟩

lemma passes_blockByBlock :
    ∃ w, Passes (registering 0 eventName (windowsOf 1)) Registers 10 fresh blockByBlock 12 w := by
  have hfirst : Runs ((registering 0 eventName (windowsOf 1)).poll (some 10)) _ _ :=
    runs_following_window firstBlock rfl (by decide) (by decide) (expands_recording beats false)
  have hsecond : Runs ((registering 0 eventName (windowsOf 1)).poll (some 11)) _ _ :=
    runs_following_window secondBlock rfl (by decide) (by decide)
      (expands_recording joins (.ofRegistration offered default))
  have hserved : Served Registers fresh
      (windowCalls "svc" firstBlock (recordingCalls beats (.ok false))) onlySaved :=
    served_windowCalls firstBlock (served_recording beats rfl) (.stored _ _)
  have hrefused : Served Registers onlySaved (brokenCalls 12 12 12 secondBlock.batches
      (recordingCalls joins (.error .unavailable))) onlySaved :=
    served_brokenCalls _ _ _ _ (.cons (.handling joins (.told _))
      (.cons (.handling joins (.unstored _ _ _)) (.nil _)))
  have hretried : Served Registers onlySaved (windowCalls "svc" secondBlock
      (recordingCalls joins (.ok (.ofRegistration offered default)))) _ :=
    served_windowCalls secondBlock (served_recording joins rfl) (.stored _ _)
  exact ⟨_, .cons hfirst hserved (.cons runs_refused hrefused
    (.cons hsecond hretried (.nil 12 _)))⟩

lemma faithful_recording (last : UInt64) (event : RegistryEvent)
    {answer : Except StoreError (event.recording default).Answer}
    (h : ∀ e, answer = .error e → e.isTransient = true) :
    Faithful chain last (recordingCalls event answer) := by
  refine ⟨fun kind first last events hmem => ?_, fun head hmem => ?_, fun event' c e hmem => ?_⟩
  · obtain ⟨_, -, heq⟩ := List.mem_map.mp hmem
    cases heq
  · obtain ⟨_, -, heq⟩ := List.mem_map.mp hmem
    cases heq
  · obtain ⟨rfl, hmem⟩ := mem_handlingOf.mp hmem
    rcases List.mem_cons.mp hmem with heq | hmem
    · cases heq
    · cases List.mem_singleton.mp hmem
      exact h e rfl

lemma faithful_fetching {head first last stop : UInt64}
    {batches : List (RegistryKind × List RegistryEvent)} (hhead : head ≤ stop)
    (hbatches : ∀ batch ∈ batches, batch.2 = chain.slice batch.1 first last) :
    Faithful chain stop (syncCalls (⟨.head, .ok head⟩ :: ⟨.tell (.head head), ()⟩ ::
      fetches first last batches)) := by
  refine ⟨fun kind first' last' events hmem => ?_, fun head' hmem => ?_, fun event c e hmem => ?_⟩
  · rcases List.mem_cons.mp hmem with heq | hmem
    · cases heq
    rcases List.mem_cons.mp hmem with heq | hmem
    · cases heq
    obtain ⟨call, hcall, heq⟩ := List.mem_map.mp hmem
    obtain ⟨batch, hbatch, rfl⟩ := List.mem_map.mp hcall
    cases heq
    exact hbatches batch hbatch
  · rcases List.mem_cons.mp hmem with heq | hmem
    · cases heq
      exact hhead
    rcases List.mem_cons.mp hmem with heq | hmem
    · cases heq
    obtain ⟨call, hcall, heq⟩ := List.mem_map.mp hmem
    obtain ⟨batch, -, rfl⟩ := List.mem_map.mp hcall
    cases heq
  · obtain ⟨call, -, heq⟩ := List.mem_map.mp hmem
    cases heq

/-- A pass that completes a window is answered from the chain if its events are. -/
lemma faithful_windowCalls {last : UInt64} {service : String}
    (window : Window RegistryKind.all RegistryEvent) {v : Trace FollowAnswer}
    (hlast : window.last ≤ last)
    (hbatches : ∀ batch ∈ window.batches, batch.2 = chain.slice batch.1 window.first window.last)
    (hv : Faithful chain last v) : Faithful chain last (windowCalls service window v) := by
  refine ((faithful_fetching hlast hbatches).append hv).append ⟨?_, ?_, ?_⟩ <;>
    simp [syncCalls]

lemma faithful_joins : Faithful lateRegistration 12
    (recordingCalls joins (.ok (.ofRegistration offered default))) :=
  faithful_recording 12 joins (by simp)

lemma faithful_beats (known : Bool) :
    Faithful lateRegistration 12 (recordingCalls beats (.ok known)) :=
  faithful_recording 12 beats (by simp)

lemma faithful_atOnce : ∀ u ∈ atOnce, Faithful lateRegistration 12 u := by
  have hbatches : ∀ batch ∈ bothBlocks.batches, batch.2 = lateRegistration.slice batch.1 11 12 :=
    List.forall_mem_cons.mpr ⟨rfl, List.forall_mem_singleton.mpr rfl⟩
  exact List.forall_mem_singleton.mpr
    (faithful_windowCalls bothBlocks (by decide) hbatches
      (faithful_joins.append (faithful_beats _)))

lemma faithful_blockByBlock : ∀ u ∈ blockByBlock, Faithful lateRegistration 12 u := by
  have hfirst : ∀ batch ∈ firstBlock.batches, batch.2 = lateRegistration.slice batch.1 11 11 :=
    List.forall_mem_cons.mpr ⟨rfl, List.forall_mem_singleton.mpr rfl⟩
  have hsecond : ∀ batch ∈ secondBlock.batches, batch.2 = lateRegistration.slice batch.1 12 12 :=
    List.forall_mem_cons.mpr ⟨rfl, List.forall_mem_singleton.mpr rfl⟩
  have hrefused : Faithful lateRegistration 12 (recordingCalls joins (.error .unavailable)) :=
    faithful_recording 12 joins fun e he => by rw [← Except.error.inj he]; rfl
  refine List.forall_mem_cons.mpr ⟨?_, List.forall_mem_cons.mpr
    ⟨?_, List.forall_mem_singleton.mpr ?_⟩⟩
  · exact faithful_windowCalls firstBlock (by decide) hfirst (faithful_beats _)
  · exact (faithful_fetching (UInt64.le_refl 12) hsecond).append hrefused
  · exact faithful_windowCalls secondBlock (by decide) hsecond faithful_joins

/-- A run in one pass and a run block by block, which records the heartbeat before the registration
and is refused by the store on the way, end with the same row of the provider. -/
theorem outcome_unique_late_registration :
    ∃ w w', Passes (registering 0 eventName (windowsOf 100)) Registers 10 fresh atOnce 12 w ∧
      Passes (registering 0 eventName (windowsOf 1)) Registers 10 fresh blockByBlock 12 w' ∧
      w'.store.providers = w.store.providers ∧
      w'.provider? "w" = some (.ofRegistration offered default) := by
  have hkinds : ∀ kind, ∀ event ∈ lateRegistration.events kind, event.kind = kind := by
    intro kind
    cases kind <;> exact List.forall_mem_singleton.mpr rfl
  obtain ⟨w, hatOnce, hrow⟩ := passes_atOnce
  obtain ⟨w', hblocks⟩ := passes_blockByBlock
  obtain ⟨hrows, htables⟩ := outcome_unique hkinds rfl rfl hatOnce hblocks faithful_atOnce
    faithful_blockByBlock
  exact ⟨w, w', hatOnce, hblocks, htables List.nodup_nil, (hrows "w").trans hrow⟩

end Registry

end ComputeExchange
