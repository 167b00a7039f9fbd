import ComputeExchange.Chain.Node
import ComputeExchange.Proofs.Store.Providers
import ComputeExchange.Proofs.Sync.Replayed

/-!
# What is heard of a provider

The chain tells of registrations and heartbeats, and each is recorded by a call to the store
(`RegistryEvent.recording`).  If they are all recorded at one time, then the row of a provider comes
down to little: the card of its last registration, or that it has shown a sign of life
(`Provider.heard`).  It does not matter how the two kinds are mixed, nor what is recorded again
(`heard_eq_of_replays`), and the wallets that have rows are no different
(`foldl_onWallets_eq_of_replays`).
-/

namespace ComputeExchange

namespace RegistryEvent

/-- The kind of an event. -/
def kind : RegistryEvent → RegistryKind
  | .registered _ => .registered
  | .heartbeat _ => .heartbeat

/-- What a store is asked to record an event at some time. -/
def recording (now : Timestamp) : RegistryEvent → StoreCall
  | .registered e => .upsertProvider e.registration now
  | .heartbeat e => .touchProvider e.wallet now

variable (wallet : String)

/-- The registration of a wallet that an event tells of. -/
def registrationOf : RegistryEvent → Option Registration
  | .registered e => if e.registration.wallet = wallet then some e.registration else none
  | .heartbeat _ => none

/-- Whether an event is a heartbeat of a wallet. -/
def isHeartbeatOf : RegistryEvent → Bool
  | .registered _ => false
  | .heartbeat e => e.wallet = wallet

/-- The last registration of a wallet. -/
def lastRegistration? (events : List RegistryEvent) : Option Registration :=
  (events.filterMap (registrationOf wallet)).getLast?

variable {wallet} {events : List RegistryEvent} {e : RegistryEvent}

lemma lastRegistration?_concat :
    lastRegistration? wallet (events ++ [e]) =
      (registrationOf wallet e).or (lastRegistration? wallet events) := by
  unfold lastRegistration?
  rw [List.filterMap_append, List.getLast?_append]
  cases he : registrationOf wallet e <;> simp [he]

/-- The last registration of a wallet names the wallet. -/
lemma wallet_eq_of_lastRegistration? {r : Registration}
    (h : lastRegistration? wallet events = some r) : r.wallet = wallet := by
  obtain ⟨event, -, hr⟩ := List.mem_filterMap.mp (List.mem_of_getLast? h)
  cases event with
  | registered e =>
    by_cases hwallet : e.registration.wallet = wallet
    · obtain rfl := Option.some.inj ((if_pos hwallet).symm.trans hr)
      exact hwallet
    · cases (if_neg hwallet).symm.trans hr
  | heartbeat e => cases hr

/-- Only registrations tell of a registration. -/
lemma lastRegistration?_filter (wallet : String) (events : List RegistryEvent) :
    lastRegistration? wallet (events.filter (·.kind = .registered)) =
      lastRegistration? wallet events := by
  unfold lastRegistration?
  rw [List.filterMap_filter]
  congr 1
  refine List.filterMap_congr fun event _ => ?_
  cases event <;> rfl

/-- Only heartbeats tell of a heartbeat. -/
lemma any_isHeartbeatOf_filter (wallet : String) (events : List RegistryEvent) :
    (events.filter (·.kind = .heartbeat)).any (isHeartbeatOf wallet) =
      events.any (isHeartbeatOf wallet) := by
  rw [List.any_filter]
  refine congrArg _ (funext fun event => ?_)
  cases event <;> rfl

end RegistryEvent

open RegistryEvent

/-- The row of a provider that has registered once more. -/
def Provider.registeredOver (r : Registration) (now : Timestamp) : Option Provider → Provider
  | some known => known.register r now
  | none => ofRegistration r now

/-- The row of a provider after all that is told of it has been recorded at one time. -/
def Provider.heard (now : Timestamp) (wallet : String) (events : List RegistryEvent)
    (row : Option Provider) : Option Provider :=
  match lastRegistration? wallet events with
  | some r => some (registeredOver r now row)
  | none => if events.any (isHeartbeatOf wallet) then row.map (·.touch now) else row

namespace Provider

variable {now : Timestamp} {wallet : String} {events : List RegistryEvent} {row : Option Provider}

lemma heard_of_some {r : Registration} (h : lastRegistration? wallet events = some r) :
    heard now wallet events row = some (registeredOver r now row) := by
  unfold heard
  rw [h]

lemma heard_of_none (h : lastRegistration? wallet events = none) :
    heard now wallet events row =
      if events.any (isHeartbeatOf wallet) then row.map (·.touch now) else row := by
  unfold heard
  rw [h]

/-- Another registration replaces all that has been heard at the time. -/
lemma registeredOver_heard {r : Registration} (hwallet : r.wallet = wallet) :
    registeredOver r now (heard now wallet events row) = registeredOver r now row := by
  cases hlast : lastRegistration? wallet events with
  | some earlier =>
    have hsame : earlier.wallet = r.wallet :=
      (wallet_eq_of_lastRegistration? hlast).trans hwallet.symm
    rw [heard_of_some hlast]
    cases row with
    | none => simp [registeredOver, register, ofRegistration, hsame]
    | some p => rfl
  | none =>
    rw [heard_of_none hlast]
    by_cases hbeat : events.any (isHeartbeatOf wallet) = true
    · rw [if_pos hbeat]
      cases row <;> rfl
    · rw [if_neg hbeat]

/-- A heartbeat tells no more than a registration at the time has told. -/
lemma touch_registeredOver (r : Registration) :
    (registeredOver r now row).touch now = registeredOver r now row := by
  cases row <;> rfl

/-- An event that is not about a wallet is not heard of it. -/
lemma heard_concat_of_other {e : RegistryEvent} (hregistration : registrationOf wallet e = none)
    (hheartbeat : isHeartbeatOf wallet e = false) :
    heard now wallet (events ++ [e]) row = heard now wallet events row := by
  unfold heard
  rw [lastRegistration?_concat, hregistration, Option.none_or, List.any_append]
  simp [hheartbeat]

/-- A registration is heard last. -/
lemma heard_concat_registered {e : ProviderRegistered} (hwallet : e.registration.wallet = wallet) :
    heard now wallet (events ++ [.registered e]) row =
      some (registeredOver e.registration now (heard now wallet events row)) := by
  have hlast : lastRegistration? wallet (events ++ [.registered e]) = some e.registration := by
    rw [lastRegistration?_concat, registrationOf, if_pos hwallet]
    rfl
  rw [heard_of_some hlast, registeredOver_heard hwallet]

/-- A heartbeat is heard if there is a row. -/
lemma heard_concat_heartbeat {e : ProviderHeartbeat} (hwallet : e.wallet = wallet) :
    heard now wallet (events ++ [.heartbeat e]) row =
      (heard now wallet events row).map (·.touch now) := by
  have hlast : lastRegistration? wallet (events ++ [.heartbeat e]) =
      lastRegistration? wallet events := lastRegistration?_concat
  have hbeat : (events ++ [RegistryEvent.heartbeat e]).any (isHeartbeatOf wallet) = true := by
    simp [isHeartbeatOf, hwallet]
  cases hr : lastRegistration? wallet events with
  | some r =>
    rw [heard_of_some (hlast.trans hr), heard_of_some hr, Option.map_some, touch_registeredOver]
  | none =>
    rw [heard_of_none (hlast.trans hr), heard_of_none hr, if_pos hbeat]
    by_cases hearlier : events.any (isHeartbeatOf wallet) = true
    · rw [if_pos hearlier]
      cases row <;> rfl
    · rw [if_neg hearlier]

/-- One more event is heard as it is recorded. -/
lemma heard_concat (e : RegistryEvent) :
    heard now wallet (events ++ [e]) row =
      (e.recording now).onProvider wallet (heard now wallet events row) := by
  cases e with
  | registered e =>
    by_cases hwallet : e.registration.wallet = wallet
    · exact (heard_concat_registered hwallet).trans (if_pos hwallet).symm
    · have hother : registrationOf wallet (.registered e) = none := if_neg hwallet
      exact (heard_concat_of_other hother rfl).trans (if_neg hwallet).symm
  | heartbeat e =>
    by_cases hwallet : e.wallet = wallet
    · exact (heard_concat_heartbeat hwallet).trans (if_pos hwallet).symm
    · have hother : isHeartbeatOf wallet (.heartbeat e) = false := decide_eq_false hwallet
      exact (heard_concat_of_other rfl hother).trans (if_neg hwallet).symm

/-- Recording events one after another at one time makes of a row what is heard. -/
theorem foldl_onProvider (now : Timestamp) (wallet : String) (events : List RegistryEvent)
    (row : Option Provider) :
    events.foldl (fun row e => (e.recording now).onProvider wallet row) row =
      heard now wallet events row := by
  induction events using List.reverseRecOn with
  | nil => rfl
  | append_singleton events e ih =>
    rw [List.foldl_append, ih, heard_concat]
    rfl

/-- What is heard does not depend on how the kinds are mixed, nor on replays. -/
theorem heard_eq_of_replays {es : List RegistryEvent}
    (h : ∀ k, Replays (events.filter (·.kind = k)) (es.filter (·.kind = k))) :
    heard now wallet es row = heard now wallet events row := by
  have hlast : lastRegistration? wallet es = lastRegistration? wallet events := by
    rw [← lastRegistration?_filter wallet es, ← lastRegistration?_filter wallet events]
    exact (h .registered).getLast?_filterMap _
  have hbeat : es.any (isHeartbeatOf wallet) = events.any (isHeartbeatOf wallet) := by
    rw [← any_isHeartbeatOf_filter wallet es, ← any_isHeartbeatOf_filter wallet events,
      Bool.eq_iff_iff, List.any_eq_true, List.any_eq_true]
    simp only [(h .heartbeat).mem_iff]
  unfold heard
  rw [hlast, hbeat]

end Provider

/-! ### The wallets that have rows -/

namespace RegistryEvent

variable {now : Timestamp} {wallets : List String}

/-- The wallets that have rows after an event has been recorded. -/
lemma mem_onWallets_iff {e : RegistryEvent} {wallet : String} :
    wallet ∈ (e.recording now).onWallets wallets ↔
      wallet ∈ wallets ∨ ∃ r, e = .registered r ∧ r.registration.wallet = wallet := by
  cases e with
  | registered r =>
    simp only [recording, StoreCall.onWallets]
    by_cases hknown : r.registration.wallet ∈ wallets
    · rw [if_pos hknown]
      refine ⟨Or.inl, ?_⟩
      rintro (hmem | ⟨r', hr, rfl⟩)
      · exact hmem
      · cases hr
        exact hknown
    · rw [if_neg hknown, List.mem_append, List.mem_singleton]
      simp [eq_comm]
  | heartbeat e => simp [recording, StoreCall.onWallets]

/-- Recording an event adds no wallet exactly if it is no first registration. -/
lemma onWallets_eq_self_iff {e : RegistryEvent} :
    (e.recording now).onWallets wallets = wallets ↔
      ∀ r, e = .registered r → r.registration.wallet ∈ wallets := by
  constructor
  · rintro hsame r rfl
    rw [← hsame]
    exact mem_onWallets_iff.mpr (Or.inr ⟨r, rfl, rfl⟩)
  · intro h
    cases e with
    | registered r => exact if_pos (h r rfl)
    | heartbeat e => rfl

/-- Each wallet that has a row is named once, whatever has been recorded. -/
lemma nodup_foldl_onWallets (events : List RegistryEvent) (h : wallets.Nodup) :
    (events.foldl (fun wallets e => (e.recording now).onWallets wallets) wallets).Nodup := by
  induction events generalizing wallets with
  | nil => exact h
  | cons e events ih => exact ih ((e.recording now).nodup_onWallets h)

/-- Only registrations change which wallets have rows. -/
lemma foldl_onWallets_filter (events : List RegistryEvent) (wallets : List String) :
    (events.filter (·.kind = .registered)).foldl
        (fun wallets e => (e.recording now).onWallets wallets) wallets =
      events.foldl (fun wallets e => (e.recording now).onWallets wallets) wallets := by
  rw [List.foldl_filter]
  congr 1
  funext wallets e
  cases e <;> rfl

/-- The wallets that have rows do not depend on how the kinds are mixed, nor on replays. -/
theorem foldl_onWallets_eq_of_replays {events es : List RegistryEvent}
    (h : Replays (events.filter (·.kind = .registered)) (es.filter (·.kind = .registered)))
    (wallets : List String) :
    es.foldl (fun wallets e => (e.recording now).onWallets wallets) wallets =
      events.foldl (fun wallets e => (e.recording now).onWallets wallets) wallets := by
  have hagain : ∀ (wallets : List String) (e : RegistryEvent),
      (e.recording now).onWallets ((e.recording now).onWallets wallets) =
        (e.recording now).onWallets wallets := by
    intro wallets e
    refine onWallets_eq_self_iff.mpr fun r hr => ?_
    exact mem_onWallets_iff.mpr (Or.inr ⟨r, hr, rfl⟩)
  have hstays : ∀ (wallets : List String) (e e' : RegistryEvent),
      (e.recording now).onWallets wallets = wallets →
        (e.recording now).onWallets ((e'.recording now).onWallets wallets) =
          (e'.recording now).onWallets wallets := by
    intro wallets e e' hsame
    refine onWallets_eq_self_iff.mpr fun r hr => ?_
    exact mem_onWallets_iff.mpr (Or.inl (onWallets_eq_self_iff.mp hsame r hr))
  rw [← foldl_onWallets_filter, ← foldl_onWallets_filter events]
  exact h.foldl_eq (foldl_foldl_self hagain hstays) wallets

end RegistryEvent

end ComputeExchange
