import ComputeExchange.Store.Call
import Mathlib.Tactic
import Mathlib.Data.List.DropRight

/-!
# What is recorded of a provider

The row of a provider is changed call by call (`StoreCall.onProvider`).  It can also be read off the
calls at once: which of them were registrations, which were signs of life since the first
registration, and so on.  `Provider.Told` is this reading, and `told_of_calls` says that the row
that the calls have led to is the one that is read.
-/

namespace ComputeExchange

/-- A provider after a sweep: it is offline if it was so or has been looked past. -/
def Provider.swept (p : Provider) (cutoff : Timestamp) : Provider :=
  { p with isOnline := p.isOnline && !p.lastSeen.before cutoff }

/-- Only what is stale is changed by a sweep. -/
lemma Provider.swept_eq (p : Provider) (cutoff : Timestamp) :
    (if p.isStale cutoff then { p with isOnline := false } else p) = p.swept cutoff := by
  obtain ⟨wallet, gpuModel, vram, lastSeen, isOnline, jobs, reputation, createdAt, updatedAt⟩ := p
  cases isOnline <;> cases hbefore : lastSeen.before cutoff <;> simp [swept, isStale, hbefore]

/-- What a call to a store makes of the row under a wallet, if it succeeds. -/
def StoreCall.onProvider (wallet : String) : StoreCall → Option Provider → Option Provider
  | .upsertProvider r now, row =>
    if r.wallet = wallet then
      some (match row with
        | some known => known.register r now
        | none => Provider.ofRegistration r now)
    else row
  | .touchProvider w now, row => if w = wallet then row.map (·.touch now) else row
  | .markOfflineBefore cutoff, row => row.map (·.swept cutoff)
  | .recordSettlement w count now, row =>
    if w = wallet then row.map (·.settle count now) else row
  | _, row => row

namespace Provider

variable (wallet : String)

/-! ### Reading calls -/

/-- The registration that a call is, with its time. -/
def registration? : StoreCall → Option (Registration × Timestamp)
  | .upsertProvider r now => if r.wallet = wallet then some (r, now) else none
  | _ => none

/-- The time at which a call tells that the provider is alive. -/
def sign? : StoreCall → Option Timestamp
  | .upsertProvider r now => if r.wallet = wallet then some now else none
  | .touchProvider w now => if w = wallet then some now else none
  | _ => none

/-- The count that a call records along with a settlement. -/
def settlement? : StoreCall → Option Int64
  | .recordSettlement w count _ => if w = wallet then some count else none
  | _ => none

/-- The registrations of a wallet, in order. -/
def registrations (calls : List StoreCall) : List (Registration × Timestamp) :=
  calls.filterMap (registration? wallet)

/-- The calls from the first registration of a wallet on. -/
def sinceRegistration (calls : List StoreCall) : List StoreCall :=
  calls.dropWhile fun c => (registration? wallet c).isNone

/-- The times at which a provider has shown that it is alive since its first registration. -/
def signs (calls : List StoreCall) : List Timestamp :=
  (sinceRegistration wallet calls).filterMap (sign? wallet)

/-- The calls after the last sign of life. -/
def sinceSign (calls : List StoreCall) : List StoreCall :=
  (sinceRegistration wallet calls).rtakeWhile fun c => (sign? wallet c).isNone

/-- The counts that have been recorded along with settlements since the first registration. -/
def settlements (calls : List StoreCall) : List Int64 :=
  (sinceRegistration wallet calls).filterMap (settlement? wallet)

/-- Whether a row is the one that is read off some calls. -/
structure Told (calls : List StoreCall) (p : Provider) : Prop where
  owner : p.wallet = wallet
  /-- The row stands from the first registration on. -/
  created : (registrations wallet calls).head?.map (·.2) = some p.createdAt
  /-- The card is that of the last registration. -/
  card : (registrations wallet calls).getLast?.map (fun r => (r.1.gpuModel, r.1.vram)) =
    some (p.gpuModel, p.vram)
  seen : (signs wallet calls).getLast? = some p.lastSeen
  /-- It is offline exactly if a sweep after the last sign of life has looked past it. -/
  offline : p.isOnline = false ↔
    ∃ cutoff, .markOfflineBefore cutoff ∈ sinceSign wallet calls ∧ p.lastSeen.before cutoff = true
  completed : p.jobsCompleted = Int64.ofNat (settlements wallet calls).length
  /-- The reputation is the count of the last settlement. -/
  reputation : p.reputation = (settlements wallet calls).getLast?.getD 0

/-! ### One more call -/

variable {wallet} {calls : List StoreCall} {c : StoreCall} {p : Provider}

lemma registrations_concat : registrations wallet (calls ++ [c]) =
    registrations wallet calls ++ (registration? wallet c).toList := by
  rw [registrations, List.filterMap_append]
  cases hc : registration? wallet c <;> simp [hc, registrations]

lemma sinceRegistration_eq_nil :
    sinceRegistration wallet calls = [] ↔ registrations wallet calls = [] := by
  rw [sinceRegistration, registrations, List.dropWhile_eq_nil_iff, List.filterMap_eq_nil_iff]
  simp only [Option.isNone_iff_eq_none]

/-- Once a wallet is registered, every call counts. -/
lemma sinceRegistration_concat (h : registrations wallet calls ≠ []) :
    sinceRegistration wallet (calls ++ [c]) = sinceRegistration wallet calls ++ [c] := by
  have hne : sinceRegistration wallet calls ≠ [] := mt sinceRegistration_eq_nil.mp h
  unfold sinceRegistration at hne ⊢
  rw [List.dropWhile_append, if_neg (by simpa using hne)]

/-- Before a wallet is registered, only its first registration counts. -/
lemma sinceRegistration_concat_first (h : registrations wallet calls = []) :
    sinceRegistration wallet (calls ++ [c]) = sinceRegistration wallet [c] := by
  have hnil := sinceRegistration_eq_nil.mpr h
  unfold sinceRegistration at hnil ⊢
  rw [List.dropWhile_append, if_pos (by simpa using hnil)]

lemma signs_concat (h : registrations wallet calls ≠ []) :
    signs wallet (calls ++ [c]) = signs wallet calls ++ (sign? wallet c).toList := by
  rw [signs, sinceRegistration_concat h, List.filterMap_append]
  cases hc : sign? wallet c <;> simp [hc, signs]

lemma settlements_concat (h : registrations wallet calls ≠ []) :
    settlements wallet (calls ++ [c]) =
      settlements wallet calls ++ (settlement? wallet c).toList := by
  rw [settlements, sinceRegistration_concat h, List.filterMap_append]
  cases hc : settlement? wallet c <;> simp [hc, settlements]

/-- A call that is not about a wallet is not read. -/
lemma registrations_concat_of_none (h : registration? wallet c = none) :
    registrations wallet (calls ++ [c]) = registrations wallet calls := by
  rw [registrations_concat, h]
  exact List.append_nil _

lemma signs_concat_of_none (h : registrations wallet calls ≠ []) (hc : sign? wallet c = none) :
    signs wallet (calls ++ [c]) = signs wallet calls := by
  rw [signs_concat h, hc]
  exact List.append_nil _

lemma settlements_concat_of_none (h : registrations wallet calls ≠ [])
    (hc : settlement? wallet c = none) :
    settlements wallet (calls ++ [c]) = settlements wallet calls := by
  rw [settlements_concat h, hc]
  exact List.append_nil _

lemma sinceSign_concat (h : registrations wallet calls ≠ []) :
    sinceSign wallet (calls ++ [c]) =
      if (sign? wallet c).isNone then sinceSign wallet calls ++ [c] else [] := by
  rw [sinceSign, sinceRegistration_concat h, List.rtakeWhile_concat]
  rfl

/-- A first registration is all that is read. -/
lemma told_ofRegistration (h : registrations wallet calls = []) {r : Registration}
    (hwallet : r.wallet = wallet) (now : Timestamp) :
    Told wallet (calls ++ [.upsertProvider r now]) (ofRegistration r now) := by
  have hsince : sinceRegistration wallet (calls ++ [.upsertProvider r now]) =
      [.upsertProvider r now] := by
    rw [sinceRegistration_concat_first h]
    simp [sinceRegistration, registration?, hwallet]
  have hsettlements : settlements wallet (calls ++ [.upsertProvider r now]) = [] := by
    rw [settlements, hsince]
    rfl
  refine ⟨hwallet, ?_, ?_, ?_, ?_, ?_, ?_⟩
  · simp [registrations_concat, h, registration?, hwallet, ofRegistration]
  · simp [registrations_concat, h, registration?, hwallet, ofRegistration]
  · simp [signs, hsince, sign?, hwallet, ofRegistration]
  · simp [sinceSign, hsince, sign?, hwallet, ofRegistration, List.rtakeWhile]
  · rw [hsettlements]
    rfl
  · rw [hsettlements]
    rfl

/-- Another registration changes the card and is a sign of life. -/
lemma Told.register (h : Told wallet calls p) (hknown : registrations wallet calls ≠ [])
    {r : Registration} (hwallet : r.wallet = wallet) (now : Timestamp) :
    Told wallet (calls ++ [.upsertProvider r now]) (p.register r now) := by
  refine ⟨h.owner, ?_, ?_, ?_, ?_, ?_, ?_⟩
  · rw [registrations_concat, List.head?_append_of_ne_nil _ hknown]
    exact h.created
  · simp [registrations_concat, registration?, hwallet, Provider.register]
  · simp [signs_concat hknown, sign?, hwallet, Provider.register]
  · simp [sinceSign_concat hknown, sign?, hwallet, Provider.register]
  · rw [settlements_concat_of_none hknown rfl]
    exact h.completed
  · rw [settlements_concat_of_none hknown rfl]
    exact h.reputation

/-- A heartbeat is a sign of life and changes nothing else. -/
lemma Told.touch (h : Told wallet calls p) (hknown : registrations wallet calls ≠ [])
    (now : Timestamp) : Told wallet (calls ++ [.touchProvider wallet now]) (p.touch now) := by
  refine ⟨h.owner, ?_, ?_, ?_, ?_, ?_, ?_⟩
  · rw [registrations_concat_of_none rfl]
    exact h.created
  · rw [registrations_concat_of_none rfl]
    exact h.card
  · simp [signs_concat hknown, sign?, Provider.touch]
  · simp [sinceSign_concat hknown, sign?, Provider.touch]
  · rw [settlements_concat_of_none hknown rfl]
    exact h.completed
  · rw [settlements_concat_of_none hknown rfl]
    exact h.reputation

/-- A sweep may take the provider offline and changes nothing else. -/
lemma Told.sweep (h : Told wallet calls p) (hknown : registrations wallet calls ≠ [])
    (cutoff : Timestamp) : Told wallet (calls ++ [.markOfflineBefore cutoff]) (p.swept cutoff) := by
  refine ⟨h.owner, ?_, ?_, ?_, ?_, ?_, ?_⟩
  · rw [registrations_concat_of_none rfl]
    exact h.created
  · rw [registrations_concat_of_none rfl]
    exact h.card
  · rw [signs_concat_of_none hknown rfl]
    exact h.seen
  · have hsince : sinceSign wallet (calls ++ [.markOfflineBefore cutoff]) =
        sinceSign wallet calls ++ [.markOfflineBefore cutoff] := sinceSign_concat hknown
    have hoffline : (p.swept cutoff).isOnline = false ↔
        p.isOnline = false ∨ p.lastSeen.before cutoff = true := by
      cases hp : p.isOnline <;> simp [swept, hp]
    rw [hsince, hoffline, h.offline]
    constructor
    · rintro (⟨earlier, hmem, hbefore⟩ | hbefore)
      · exact ⟨earlier, List.mem_append_left _ hmem, hbefore⟩
      · exact ⟨cutoff, by simp, hbefore⟩
    · rintro ⟨swept, hmem, hbefore⟩
      rcases List.mem_append.mp hmem with hmem | hmem
      · exact Or.inl ⟨swept, hmem, hbefore⟩
      · obtain rfl : swept = cutoff := by simpa using hmem
        exact Or.inr hbefore
  · rw [settlements_concat_of_none hknown rfl]
    exact h.completed
  · rw [settlements_concat_of_none hknown rfl]
    exact h.reputation

/-- A settlement is counted and changes nothing else. -/
lemma Told.settle (h : Told wallet calls p) (hknown : registrations wallet calls ≠ [])
    (count : Int64) (now : Timestamp) :
    Told wallet (calls ++ [.recordSettlement wallet count now]) (p.settle count now) := by
  refine ⟨h.owner, ?_, ?_, ?_, ?_, ?_, ?_⟩
  · rw [registrations_concat_of_none rfl]
    exact h.created
  · rw [registrations_concat_of_none rfl]
    exact h.card
  · rw [signs_concat_of_none hknown rfl]
    exact h.seen
  · have hsince : sinceSign wallet (calls ++ [.recordSettlement wallet count now]) =
        sinceSign wallet calls ++ [.recordSettlement wallet count now] := sinceSign_concat hknown
    rw [hsince]
    refine h.offline.trans ?_
    simp [Provider.settle]
  · simp [settlements_concat hknown, settlement?, Provider.settle, h.completed]
  · simp [settlements_concat hknown, settlement?, Provider.settle]

/-- A call that is not about a wallet changes nothing. -/
lemma Told.other (h : Told wallet calls p) (hknown : registrations wallet calls ≠ [])
    (hregistration : registration? wallet c = none) (hsign : sign? wallet c = none)
    (hsettlement : settlement? wallet c = none) (hsweep : ∀ cutoff, c ≠ .markOfflineBefore cutoff) :
    Told wallet (calls ++ [c]) p := by
  refine ⟨h.owner, ?_, ?_, ?_, ?_, ?_, ?_⟩
  · rw [registrations_concat_of_none hregistration]
    exact h.created
  · rw [registrations_concat_of_none hregistration]
    exact h.card
  · rw [signs_concat_of_none hknown hsign]
    exact h.seen
  · have hsince : sinceSign wallet (calls ++ [c]) = sinceSign wallet calls ++ [c] := by
      rw [sinceSign_concat hknown, hsign]
      rfl
    rw [hsince]
    refine h.offline.trans ?_
    simp [fun cutoff => (hsweep cutoff).symm]
  · rw [settlements_concat_of_none hknown hsettlement]
    exact h.completed
  · rw [settlements_concat_of_none hknown hsettlement]
    exact h.reputation

/-- The row of a registered wallet stays the one that is read, whatever is called next. -/
lemma Told.step (h : Told wallet calls p) (hknown : registrations wallet calls ≠ [])
    (c : StoreCall) :
    ∃ p', c.onProvider wallet (some p) = some p' ∧ Told wallet (calls ++ [c]) p' := by
  cases c with
  | upsertProvider r now =>
    by_cases hwallet : r.wallet = wallet
    · exact ⟨p.register r now, if_pos hwallet, h.register hknown hwallet now⟩
    · exact ⟨p, if_neg hwallet, h.other hknown (if_neg hwallet) (if_neg hwallet) rfl (by simp)⟩
  | touchProvider w now =>
    by_cases hwallet : w = wallet
    · subst hwallet
      exact ⟨p.touch now, if_pos rfl, h.touch hknown now⟩
    · exact ⟨p, if_neg hwallet, h.other hknown rfl (if_neg hwallet) rfl (by simp)⟩
  | markOfflineBefore cutoff => exact ⟨p.swept cutoff, rfl, h.sweep hknown cutoff⟩
  | recordSettlement w count now =>
    by_cases hwallet : w = wallet
    · subst hwallet
      exact ⟨p.settle count now, if_pos rfl, h.settle hknown count now⟩
    · exact ⟨p, if_neg hwallet, h.other hknown rfl rfl (if_neg hwallet) (by simp)⟩
  | _ => exact ⟨p, rfl, h.other hknown rfl rfl rfl (by simp)⟩

/-- Only a sweep takes a provider offline, and only a settlement changes its reputation and what it
has completed. -/
lemma onProvider_some {p' : Provider} (h : c.onProvider wallet (some p) = some p') :
    (p.isOnline = true → p'.isOnline = false → ∃ cutoff, c = .markOfflineBefore cutoff) ∧
      ((p'.reputation, p'.jobsCompleted) ≠ (p.reputation, p.jobsCompleted) →
        ∃ count now, c = .recordSettlement wallet count now) := by
  have hsame : p' = p →
      (p.isOnline = true → p'.isOnline = false → ∃ cutoff, c = .markOfflineBefore cutoff) ∧
        ((p'.reputation, p'.jobsCompleted) ≠ (p.reputation, p.jobsCompleted) →
          ∃ count now, c = .recordSettlement wallet count now) := by
    rintro rfl
    exact ⟨fun hon hoff => absurd hon (by simp [hoff]), fun hne => absurd rfl hne⟩
  cases c with
  | upsertProvider r now =>
    by_cases hwallet : r.wallet = wallet
    · obtain rfl := Option.some.inj ((if_pos hwallet).symm.trans h)
      exact ⟨fun _ hoff => absurd hoff (by simp [register]), fun hne => absurd rfl hne⟩
    · exact hsame (Option.some.inj ((if_neg hwallet).symm.trans h)).symm
  | touchProvider w now =>
    by_cases hwallet : w = wallet
    · obtain rfl := Option.some.inj ((if_pos hwallet).symm.trans h)
      exact ⟨fun _ hoff => absurd hoff (by simp [touch]), fun hne => absurd rfl hne⟩
    · exact hsame (Option.some.inj ((if_neg hwallet).symm.trans h)).symm
  | markOfflineBefore cutoff =>
    obtain rfl := Option.some.inj h
    exact ⟨fun _ _ => ⟨cutoff, rfl⟩, fun hne => absurd rfl hne⟩
  | recordSettlement w count now =>
    by_cases hwallet : w = wallet
    · subst hwallet
      obtain rfl := Option.some.inj ((if_pos rfl).symm.trans h)
      exact ⟨fun hon hoff => absurd (hon.symm.trans hoff) (by simp), fun _ => ⟨count, now, rfl⟩⟩
    · exact hsame (Option.some.inj ((if_neg hwallet).symm.trans h)).symm
  | _ => exact hsame (Option.some.inj h).symm

/-- A wallet that is not registered has no row until it is. -/
lemma onProvider_none (wallet : String) (c : StoreCall) :
    (registration? wallet c = none ∧ c.onProvider wallet none = none) ∨
      ∃ r now, r.wallet = wallet ∧ c = .upsertProvider r now ∧
        c.onProvider wallet none = some (ofRegistration r now) := by
  cases c with
  | upsertProvider r now =>
    by_cases hwallet : r.wallet = wallet
    · exact Or.inr ⟨r, now, hwallet, rfl, if_pos hwallet⟩
    · exact Or.inl ⟨if_neg hwallet, if_neg hwallet⟩
  | touchProvider w now => exact Or.inl ⟨rfl, ite_self _⟩
  | recordSettlement w count now => exact Or.inl ⟨rfl, ite_self _⟩
  | _ => exact Or.inl ⟨rfl, rfl⟩

/-- The row that calls make of no row. -/
def rowAfter (wallet : String) (calls : List StoreCall) : Option Provider :=
  calls.foldl (fun row c => c.onProvider wallet row) none

lemma rowAfter_concat (wallet : String) (calls : List StoreCall) (c : StoreCall) :
    rowAfter wallet (calls ++ [c]) = c.onProvider wallet (rowAfter wallet calls) :=
  List.foldl_append

/-- What the calls have made of the row under a wallet is what is read off them: there is a row
exactly if the wallet has been registered, and it is the one that is read. -/
theorem told_of_calls (wallet : String) (calls : List StoreCall) :
    (registrations wallet calls = [] ∧ rowAfter wallet calls = none) ∨
      registrations wallet calls ≠ [] ∧
        ∃ p, rowAfter wallet calls = some p ∧ Told wallet calls p := by
  induction calls using List.reverseRecOn with
  | nil => exact Or.inl ⟨rfl, rfl⟩
  | append_singleton calls c ih =>
    rw [rowAfter_concat]
    rcases ih with ⟨hnone, hempty⟩ | ⟨hknown, p, hsome, htold⟩
    · rw [hempty]
      rcases onProvider_none wallet c with ⟨hc, hstill⟩ | ⟨r, now, hwallet, rfl, hfirst⟩
      · exact Or.inl ⟨(registrations_concat_of_none hc).trans hnone, hstill⟩
      · refine Or.inr ⟨?_, _, hfirst, told_ofRegistration hnone hwallet now⟩
        simp [registrations_concat, registration?, hwallet]
    · rw [hsome]
      refine Or.inr ⟨?_, htold.step hknown c⟩
      rw [registrations_concat]
      exact List.append_ne_nil_of_left_ne_nil hknown _

end Provider

end ComputeExchange
