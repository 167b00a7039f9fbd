import ComputeExchange.Registry.Engine
import ComputeExchange.Proofs.Store.Providers
import ComputeExchange.Proofs.Time.Order

/-!
# What a sweep does

A sweep compares times with a cutoff, which need not be representable, and its threshold is cut to
what a time span can hold.  Neither shows: it marks offline exactly the online providers that have
been silent for longer than the threshold in unbounded arithmetic, changes nothing else, and leaves
nothing to do for another sweep at the same time or before (`Registry.sweeps_exactly`).  If the
cutoff lies before all time (`Registry.cutoff?_cases`), no provider can have been silent for that
long.
-/

namespace ComputeExchange

/-! ### Silence -/

/-- The last sign of life that lets a provider stay online, in nanoseconds since 1 January 1970. -/
def Registry.limit (now : Timestamp) (seconds : UInt64) : Int :=
  now.sinceEpoch - seconds.toNat * nanosPerSecond

namespace Provider

/-- Whether a provider counts as online though it has been silent for longer than so many
seconds. -/
def isSilent (p : Provider) (now : Timestamp) (seconds : UInt64) : Bool :=
  p.isOnline &&
    decide ((seconds.toNat : Int) * nanosPerSecond < now.sinceEpoch - p.lastSeen.sinceEpoch)

/-- A provider marked offline if it has been silent for longer than so many seconds. -/
def silenced (p : Provider) (now : Timestamp) (seconds : UInt64) : Provider :=
  if p.isSilent now seconds then { p with isOnline := false } else p

variable {p : Provider} {now : Timestamp} {seconds : UInt64}

lemma isSilent_iff : p.isSilent now seconds = true ↔
    p.isOnline = true ∧ p.lastSeen.sinceEpoch < Registry.limit now seconds := by
  rw [isSilent, Bool.and_eq_true, decide_eq_true_iff, Registry.limit]
  exact and_congr_right fun _ => ⟨fun h => by omega, fun h => by omega⟩

lemma silenced_of_not (h : p.isSilent now seconds = false) : p.silenced now seconds = p :=
  if_neg (Bool.eq_false_iff.mp h)

lemma lastSeen_silenced : (p.silenced now seconds).lastSeen = p.lastSeen := by
  unfold silenced
  split_ifs <;> rfl

/-- Who is online after being judged has been seen recently enough. -/
lemma limit_le_of_isOnline (h : (p.silenced now seconds).isOnline = true) :
    Registry.limit now seconds ≤ p.lastSeen.sinceEpoch := by
  by_contra hlate
  unfold silenced at h
  by_cases hsilent : p.isSilent now seconds = true
  · rw [if_pos hsilent] at h
    cases h
  · rw [if_neg hsilent] at h
    exact hsilent (isSilent_iff.mpr ⟨h, Int.not_le.mp hlate⟩)

end Provider

/-- The registry of providers over a store in memory, with a threshold of whole seconds. -/
def MemoryStore.registry (seconds : UInt64) (clock : StateM MemoryStore Timestamp) :
    Registry (StateM MemoryStore) :=
  ⟨store, clock, Registry.thresholdOfSeconds seconds⟩

/-- A store in which the providers have been judged. -/
def MemoryStore.silenced (s : MemoryStore) (now : Timestamp) (seconds : UInt64) : MemoryStore :=
  { s with providers := s.providers.mapValues (·.silenced now seconds) }

namespace MemoryStore

variable {s : MemoryStore} {now : Timestamp} {seconds : UInt64}

/-- The rows of a judged store are the judged rows. -/
lemma forall_silenced {P : Provider → Prop}
    (h : ∀ p ∈ s.providers.values, P (p.silenced now seconds)) :
    ∀ p ∈ (s.silenced now seconds).providers.values, P p := by
  have hvalues : (s.silenced now seconds).providers.values =
      s.providers.values.map (·.silenced now seconds) := Table.values_mapValues
  rw [hvalues]
  exact List.forall_mem_map.mpr h

/-- Where nobody has been silent for too long there is nothing to do. -/
lemma silenced_eq_self (h : ∀ p ∈ s.providers.values, p.isSilent now seconds = false) :
    s.providers.values.countP (·.isSilent now seconds) = 0 ∧ s.silenced now seconds = s := by
  have hjudged : s.providers.mapValues (·.silenced now seconds) = s.providers :=
    Table.mapValues_eq_self fun p hp => Provider.silenced_of_not (h p hp)
  refine ⟨List.countP_eq_zero.mpr fun p hp => Bool.eq_false_iff.mp (h p hp), ?_⟩
  rw [silenced, hjudged]

end MemoryStore

namespace Registry

variable {now : Timestamp} {seconds : UInt64} {s : MemoryStore}

/-! ### The cutoff -/

/-- The cutoff is the exact limit, or the exact limit lies before all time.  A threshold that is cut
is longer than all time. -/
lemma cutoff?_cases (seconds : UInt64) (hnow : now.IsRegular) :
    (∃ cutoff, cutoff? now (thresholdOfSeconds seconds) = some cutoff ∧ cutoff.IsRegular ∧
      cutoff.sinceEpoch = limit now seconds) ∨
    (cutoff? now (thresholdOfSeconds seconds) = none ∧
      limit now seconds < Timestamp.earliest.sinceEpoch) := by
  have hlast := hnow.le_latest
  have hspan : Timestamp.latest.sinceEpoch - Timestamp.earliest.sinceEpoch < greatestThreshold := by
    decide
  rw [cutoff?, Timestamp.add?, limit, thresholdOfSeconds]
  rcases le_total (seconds.toNat * nanosPerSecond) greatestThreshold with hwhole | hcut
  · rw [min_eq_left hwhole, Nat.cast_mul, ← sub_eq_add_neg]
    rcases le_or_gt Timestamp.earliest.sinceEpoch
      (now.sinceEpoch - (seconds.toNat : Int) * (nanosPerSecond : Int)) with hfirst | hearly
    · exact Or.inl (Timestamp.exists_ofNanos? hfirst (by omega))
    · exact Or.inr ⟨Timestamp.ofNanos?_eq_none hearly, hearly⟩
  · rw [min_eq_right hcut, ← sub_eq_add_neg]
    have hcast : (greatestThreshold : Int) ≤ (seconds.toNat : Int) * (nanosPerSecond : Int) := by
      exact_mod_cast hcut
    exact Or.inr ⟨Timestamp.ofNanos?_eq_none (by omega), by omega⟩

/-- A provider is stale at the exact limit if it has been silent for too long. -/
lemma isStale_eq_isSilent {p : Provider} {cutoff : Timestamp} (hp : p.lastSeen.IsRegular)
    (hcutoff : cutoff.IsRegular) (hlimit : cutoff.sinceEpoch = limit now seconds) :
    p.isStale cutoff = p.isSilent now seconds := by
  rw [Bool.eq_iff_iff, Provider.isSilent_iff, Provider.isStale, Bool.and_eq_true,
    Timestamp.before_iff hp hcutoff, hlimit]

/-- Nobody has been silent since before all time. -/
lemma isSilent_eq_false (h : limit now seconds < Timestamp.earliest.sinceEpoch) (p : Provider) :
    p.isSilent now seconds = false := by
  have hseen := p.lastSeen.earliest_le
  rw [Bool.eq_false_iff, ne_eq, Provider.isSilent_iff]
  omega

/-! ### The sweep -/

/-- A sweep with a cutoff is one call to the store. -/
lemma run_sweep_of_some (clock : StateM MemoryStore Timestamp) {cutoff : Timestamp}
    (h : cutoff? now (thresholdOfSeconds seconds) = some cutoff) :
    ((MemoryStore.registry seconds clock).sweep now).run s =
      ((s.perform (.markOfflineBefore cutoff)).1.mapError .sweep,
        (s.perform (.markOfflineBefore cutoff)).2) := by
  have hcall : StateT.run (MemoryStore.store.perform (.markOfflineBefore cutoff)) s =
      s.perform (.markOfflineBefore cutoff) := rfl
  simp only [sweep, MemoryStore.registry, h, StateT.run_bind, hcall]
  generalize s.perform (.markOfflineBefore cutoff) = outcome
  obtain ⟨answer, s'⟩ := outcome
  cases answer <;> rfl

/-- A sweep without a cutoff does nothing. -/
lemma run_sweep_of_none (clock : StateM MemoryStore Timestamp)
    (h : cutoff? now (thresholdOfSeconds seconds) = none) :
    ((MemoryStore.registry seconds clock).sweep now).run s = (.ok 0, s) := by
  simp only [sweep, MemoryStore.registry, h]
  rfl

/-- A sweep judges all providers and counts those who have been silent for too long.  It fails only
in a store out of reach, and even there it succeeds if the limit lies before all time. -/
lemma run_sweep (seconds : UInt64) (clock : StateM MemoryStore Timestamp) (hnow : now.IsRegular)
    (hrows : ∀ p ∈ s.providers.values, p.lastSeen.IsRegular) :
    ((MemoryStore.registry seconds clock).sweep now).run s =
      if s.isUnavailable = true ∧ Timestamp.earliest.sinceEpoch ≤ limit now seconds then
        (.error (.sweep .unavailable), s)
      else (.ok (s.providers.values.countP (·.isSilent now seconds)), s.silenced now seconds) := by
  rcases cutoff?_cases seconds hnow with ⟨cutoff, hcutoff, hregular, hlimit⟩ | ⟨hnone, hearly⟩
  · have hfirst : Timestamp.earliest.sinceEpoch ≤ limit now seconds :=
      hlimit ▸ cutoff.earliest_le
    have hstale : ∀ p ∈ s.providers.values, p.isStale cutoff = p.isSilent now seconds :=
      fun p hp => isStale_eq_isSilent (hrows p hp) hregular hlimit
    rw [run_sweep_of_some clock hcutoff]
    by_cases hdown : s.isUnavailable = true
    · rw [if_pos ⟨hdown, hfirst⟩, MemoryStore.perform, if_pos hdown]
      rfl
    · have hcount : s.providers.values.countP (·.isStale cutoff) =
          s.providers.values.countP (·.isSilent now seconds) :=
        List.countP_congr fun p hp => by rw [hstale p hp]
      have hjudged : (s.providers.mapValues fun p =>
          if p.isStale cutoff then { p with isOnline := false } else p) =
            s.providers.mapValues (·.silenced now seconds) := by
        refine Table.mapValues_congr fun p hp => ?_
        rw [hstale p hp, Provider.silenced]
      rw [if_neg fun h => hdown h.1, MemoryStore.perform, if_neg hdown, MemoryStore.silenced,
        ← hcount, ← hjudged]
      rfl
  · obtain ⟨hcount, hjudged⟩ := MemoryStore.silenced_eq_self fun p (_ : p ∈ s.providers.values) =>
      isSilent_eq_false hearly p
    rw [if_neg fun h => Int.not_le.mpr hearly h.2, run_sweep_of_none clock hnone, hcount, hjudged]

/-- Another sweep at the same time or before finds nobody silent among those that have been
judged. -/
lemma isSilent_silenced {now' : Timestamp} (hlimit : limit now' seconds ≤ limit now seconds)
    (p : Provider) : (p.silenced now seconds).isSilent now' seconds = false := by
  rw [Bool.eq_false_iff, ne_eq, Provider.isSilent_iff, Provider.lastSeen_silenced]
  rintro ⟨honline, hsilent⟩
  have hseen := Provider.limit_le_of_isOnline honline
  omega

/-- A successful sweep marks offline exactly the online providers that have been silent for longer
than the threshold in unbounded arithmetic, tells their number and changes nothing else.  Afterwards
every online provider has been seen since the limit, and another sweep at the same time or before
finds nobody and changes nothing.  A sweep of a store within reach is successful. -/
theorem sweeps_exactly (seconds : UInt64) (clock : StateM MemoryStore Timestamp)
    (hnow : now.IsRegular) (hrows : ∀ p ∈ s.providers.values, p.lastSeen.IsRegular) :
    (s.isUnavailable = false →
      ∃ n s', ((MemoryStore.registry seconds clock).sweep now).run s = (.ok n, s')) ∧
    ∀ n s', ((MemoryStore.registry seconds clock).sweep now).run s = (.ok n, s') →
      n = s.providers.values.countP (·.isSilent now seconds) ∧
      s' = { s with providers := s.providers.mapValues (·.silenced now seconds) } ∧
      (∀ p ∈ s'.providers.values, p.isOnline = true →
        limit now seconds ≤ p.lastSeen.sinceEpoch) ∧
      ∀ now', now'.IsRegular → now' ≤ now →
        ((MemoryStore.registry seconds clock).sweep now').run s' = (.ok 0, s') := by
  have hrun := run_sweep seconds clock hnow hrows
  refine ⟨fun hup => ?_, fun n s' h => ?_⟩
  · rw [hrun, if_neg fun hdown => Bool.false_ne_true (hup.symm.trans hdown.1)]
    exact ⟨_, _, rfl⟩
  rw [hrun] at h
  by_cases hfails : s.isUnavailable = true ∧ Timestamp.earliest.sinceEpoch ≤ limit now seconds
  · rw [if_pos hfails] at h
    cases h
  rw [if_neg hfails] at h
  cases h
  refine ⟨rfl, rfl, ?_, fun now' hnow' hle => ?_⟩
  · refine MemoryStore.forall_silenced fun p _ honline => ?_
    rw [Provider.lastSeen_silenced]
    exact Provider.limit_le_of_isOnline honline
  · have hlimit : limit now' seconds ≤ limit now seconds :=
      Int.sub_le_sub_right ((Timestamp.le_iff_sinceEpoch_le hnow' hnow).mp hle) _
    have hrows' : ∀ p ∈ (s.silenced now seconds).providers.values, p.lastSeen.IsRegular :=
      MemoryStore.forall_silenced fun p hp => Provider.lastSeen_silenced.symm ▸ hrows p hp
    obtain ⟨hcount, hjudged⟩ := MemoryStore.silenced_eq_self
      (MemoryStore.forall_silenced fun p (_ : p ∈ s.providers.values) => isSilent_silenced hlimit p)
    rw [run_sweep seconds clock hnow' hrows', if_neg fun h => hfails ⟨h.1, h.2.trans hlimit⟩,
      hcount, hjudged]

/-- A provider that has been silent for all time. -/
def silentAllTime : MemoryStore :=
  { MemoryStore.empty with
    providers := Table.empty.put "w" (Provider.ofRegistration ⟨"w", "card", 8⟩ .earliest) }

/-- At the end of time a sweep with a threshold of a minute marks it offline, and another one finds
nobody. -/
theorem swept_at_latest : ∃ s',
    ((MemoryStore.registry 60 (pure default)).sweep .latest).run silentAllTime = (.ok 1, s') ∧
      (∀ p ∈ s'.providers.values, p.isOnline = true →
        limit .latest 60 ≤ p.lastSeen.sinceEpoch) ∧
      ((MemoryStore.registry 60 (pure default)).sweep .latest).run s' = (.ok 0, s') := by
  have hnow : Timestamp.latest.IsRegular := by
    unfold Timestamp.IsRegular
    decide
  have hrows : ∀ p ∈ silentAllTime.providers.values, p.lastSeen.IsRegular := by
    unfold Timestamp.IsRegular
    decide
  obtain ⟨hup, hexact⟩ := sweeps_exactly 60 (pure default) hnow hrows
  obtain ⟨n, s', hrun⟩ := hup rfl
  obtain ⟨hn, -, hseen, hagain⟩ := hexact n s' hrun
  obtain rfl : n = 1 := hn.trans (by decide)
  exact ⟨s', hrun, hseen, hagain _ hnow (le_refl _)⟩

end Registry

end ComputeExchange
