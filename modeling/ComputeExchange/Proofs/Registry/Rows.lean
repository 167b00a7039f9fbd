import ComputeExchange.Proofs.Interleaving
import ComputeExchange.Proofs.Registry.Calls

/-!
# The rows of providers

Registrations, heartbeats, sweeps and settlements may come in any order and at the same time, the
clock may be set back and forth, and calls to the store may fail.  `provider_told` says that the row
of a provider is nevertheless the one that is read off the calls that have succeeded, in their
order, and that an operation which has ended well has its call among them.
-/

namespace ComputeExchange

namespace Registry

open Program Provider

variable {ι : Type}

/-- The calls to the store that have succeeded, in order. -/
def succeeded (log : Interleaving RegistryCall.Answer ι) : List StoreCall :=
  performed (log.map (·.2))

lemma succeeded_append (log log' : Interleaving RegistryCall.Answer ι) :
    succeeded (log ++ log') = succeeded log ++ succeeded log' := by
  rw [succeeded, List.map_append, performed_append]
  rfl

variable [DecidableEq ι] {ops : ι → Operation} {threshold : Nat} {first w w' : World}
  {log : Interleaving RegistryCall.Answer ι}

/-- Operations of a registry that go on at the same time, each call of which the store may fail to
serve, while the clock may be set at any time. -/
abbrev Operates (threshold : Nat) (ops : ι → Operation) (first : World) :
    Interleaving RegistryCall.Answer ι → World → Prop :=
  Interleaves World.Serves (fun w w' => ∃ wall, w' = { w with wall := wall })
    (fun i => (ops i).body threshold) first

/-- The row under a wallet is what the calls that have succeeded have made of it. -/
lemma provider?_eq_rowAfter (hempty : first.store.providers = .empty)
    (h : Operates threshold ops first log w) (wallet : String) :
    w.provider? wallet = rowAfter wallet (succeeded log) := by
  induction h with
  | begins =>
    rw [World.provider?, hempty]
    rfl
  | @serve log w w' i q answer _ _ hserves ih =>
    rw [succeeded_append]
    cases q with
    | clock =>
      cases hserves
      exact ih.trans (congrArg _ (List.append_nil _).symm)
    | store c =>
      obtain ⟨⟨told, rfl⟩, hmade⟩ | ⟨⟨e, rfl⟩, rfl⟩ := hserves.of_store
      · have hone : succeeded [(i, (⟨.store c, .ok told⟩ : Event RegistryCall.Answer))] = [c] := rfl
        rw [hone, rowAfter_concat, ← ih]
        exact hmade.rows wallet
      · exact ih.trans (congrArg _ (List.append_nil _).symm)
  | drift _ hdrifts ih =>
    obtain ⟨wall, rfl⟩ := hdrifts
    exact ih

/-- No wallet has two rows. -/
lemma nodup_wallets (hempty : first.store.providers = .empty)
    (h : Operates threshold ops first log w) : w.store.providers.keys.Nodup := by
  induction h with
  | begins =>
    rw [hempty]
    exact List.nodup_nil
  | serve _ _ hserves ih => exact hserves.nodup_keys ih
  | drift _ hdrifts ih =>
    obtain ⟨wall, rfl⟩ := hdrifts
    exact ih

/-- Every call to the store is one that its operation asks for. -/
lemma asks_of_mem (h : Operates threshold ops first log w) {i : ι} {c : StoreCall}
    {answer : Except StoreError c.Answer} (hmem : (i, ⟨.store c, answer⟩) ∈ log) :
    Asks threshold (callsOf i log) (ops i) c := by
  induction h with
  | begins => cases hmem
  | @serve log w w' j q answer' _ hcalls _ ih =>
    have hsub : callsOf i log ⊆ callsOf i (log ++ [(j, ⟨q, answer'⟩)]) := by
      rw [callsOf_append]
      exact List.subset_append_left _ _
    rcases List.mem_append.mp hmem with hmem | hmem
    · exact (ih hmem).mono hsub
    · cases List.mem_singleton.mp hmem
      exact (asks_of_calls hcalls).mono hsub
  | drift _ _ ih => exact ih hmem

/-- What the calls of one operation have done is done among the calls of all. -/
lemma performed_callsOf_sublist (i : ι) (log : Interleaving RegistryCall.Answer ι) :
    (performed (callsOf i log)).Sublist (succeeded log) :=
  (List.filter_sublist.map _).filterMap _

/-- Whatever is done to providers, in whatever order, at whatever times and whatever fails: every
wallet has one row if it has been registered and none if it has not; the row is the one that is read
off the calls that have succeeded; these are the calls that the operations ask for, the one call of
every operation that has ended well, a sweep without a cutoff apart, and none of an operation that
has failed; and only a sweep takes a provider offline, and only a settlement changes its reputation
and what it has completed. -/
theorem provider_told (hempty : first.store.providers = .empty)
    (h : Operates threshold ops first log w) :
    w.store.providers.keys.Nodup ∧
    (∀ wallet, (registrations wallet (succeeded log) = [] ∧ w.provider? wallet = none) ∨
      registrations wallet (succeeded log) ≠ [] ∧
        ∃ p, w.provider? wallet = some p ∧ Told wallet (succeeded log) p) ∧
    (∀ i c answer, (i, ⟨.store c, answer⟩) ∈ log → Asks threshold (callsOf i log) (ops i) c) ∧
    (∀ i r, Runs ((ops i).body threshold) (callsOf i log) r →
      Counted threshold (ops i) (callsOf i log) r ∧
        (performed (callsOf i log)).Sublist (succeeded log)) ∧
    ∀ c answer w', World.Serves w (.store c) answer w' → ∀ wallet p p',
      w.provider? wallet = some p → w'.provider? wallet = some p' →
        (p.isOnline = true → p'.isOnline = false → ∃ cutoff, c = .markOfflineBefore cutoff) ∧
        ((p'.reputation, p'.jobsCompleted) ≠ (p.reputation, p.jobsCompleted) →
          ∃ count now, c = .recordSettlement wallet count now) := by
  refine ⟨nodup_wallets hempty h, fun wallet => ?_, fun i c answer hmem => asks_of_mem h hmem,
    fun i r hruns => ⟨counted_of_runs hruns, performed_callsOf_sublist i log⟩,
    fun c answer w' hserves wallet p p' hrow hrow' => ?_⟩
  · rw [provider?_eq_rowAfter hempty h wallet]
    exact told_of_calls wallet (succeeded log)
  · obtain ⟨-, hmade⟩ | ⟨-, rfl⟩ := hserves.of_store
    · have hstep : c.onProvider wallet (w.provider? wallet) = some p' :=
        (hmade.rows wallet).symm.trans hrow'
      rw [hrow] at hstep
      exact onProvider_some hstep
    · obtain rfl := Option.some.inj (hrow.symm.trans hrow')
      exact ⟨fun hon hoff => absurd (hon.symm.trans hoff) (by simp), fun hne => absurd rfl hne⟩

/-- A card that is offered. -/
def offered : Registration := ⟨"w", "card", 24⟩

/-- The provider registers and gives a sign of life, two of its jobs are settled, and a sweep looks
past all times. -/
def visit : Fin 5 → Operation :=
  ![.register offered, .heartbeat "w", .settle "w" 7 .earliest, .settle "w" 8 .earliest,
    .sweep .latest]

/-- The calls of the registration. -/
def registeringCalls : Interleaving RegistryCall.Answer (Fin 5) :=
  [(0, ⟨.clock, default⟩),
    (0, ⟨.store (.upsertProvider offered default), .ok (.ofRegistration offered default)⟩)]

/-- The calls of the others, after the clock has been set back; the second settlement is not
recorded. -/
def laterCalls : Interleaving RegistryCall.Answer (Fin 5) :=
  [(1, ⟨.clock, .earliest⟩),
    (1, ⟨.store (.touchProvider "w" .earliest), .ok true⟩),
    (2, ⟨.store (.recordSettlement "w" 7 .earliest), .ok true⟩),
    (3, ⟨.store (.recordSettlement "w" 8 .earliest), .error .unavailable⟩),
    (4, ⟨.store (.markOfflineBefore .latest), .ok 1⟩)]

/-- A registry before anything has been done. -/
def fresh : World := ⟨default, .empty⟩

/-- The registry can go through the visit. -/
lemma operates_visit : ∃ w, Operates 0 visit fresh (registeringCalls ++ laterCalls) w := by
  have hbegun : Operates 0 visit fresh registeringCalls
      { fresh with store := (fresh.store.perform (.upsertProvider offered default)).2 } := by
    refine .of_served (.cons (.told _) (.cons (.stored _ _) (.nil _))) fun i => ?_
    fin_cases i
    · exact ⟨_, .call _ (.call _ (.here _))⟩
    all_goals exact ⟨_, .here _⟩
  have hlater := hbegun.drift ⟨Timestamp.earliest, rfl⟩
  refine ⟨_, hlater.append_of_served (.cons (.told _) (.cons (.stored _ _) (.cons (.stored _ _)
    (.cons (.unstored _ _ _) (.cons (.stored _ _) (.nil _)))))) fun i => ?_⟩
  fin_cases i
  · exact ⟨_, .call _ (.call _ (.here _))⟩
  · exact ⟨_, .call _ (.call _ (.here _))⟩
  all_goals exact ⟨_, .call _ (.here _)⟩

/-- A provider that has registered, has given a sign of life after the clock was set back, has had
one of two settlements recorded and has then been looked past by a sweep shows all of this in its
row, and the heartbeat and the settlement that was not recorded have counted as they have ended. -/
theorem swept_offline :
    ∃ w, fresh.store.providers = .empty ∧
      Operates 0 visit fresh (registeringCalls ++ laterCalls) w ∧
      (∃ p, w.provider? "w" = some p ∧ p.isOnline = false ∧ p.createdAt = default ∧
        p.lastSeen = .earliest ∧ p.jobsCompleted = 1 ∧ p.reputation = 7) ∧
      performed (callsOf 1 (registeringCalls ++ laterCalls)) = [.touchProvider "w" .earliest] ∧
      performed (callsOf 3 (registeringCalls ++ laterCalls)) = [] := by
  obtain ⟨w, hrun⟩ := operates_visit
  obtain ⟨-, hrows, -, hcounted, -⟩ := provider_told rfl hrun
  have hheartbeat : Runs ((visit 1).body 0) (callsOf 1 (registeringCalls ++ laterCalls))
      (.ok true) := .call _ (.call _ (.here _))
  have hunrecorded : Runs ((visit 3).body 0) (callsOf 3 (registeringCalls ++ laterCalls))
      (.error .unavailable) := .call _ (.here _)
  refine ⟨w, rfl, hrun, ?_, ?_, ((hcounted 3 _ hunrecorded).1.failed _ rfl).1⟩
  · rcases hrows "w" with ⟨hnone, -⟩ | ⟨-, p, hrow, htold⟩
    · cases hnone
    · have hseen : some Timestamp.earliest = some p.lastSeen := htold.seen
      have hcreated : some default = some p.createdAt := htold.created
      have hlater : StoreCall.markOfflineBefore .latest ∈
          sinceSign "w" (succeeded (registeringCalls ++ laterCalls)) := by
        have hsince : sinceSign "w" (succeeded (registeringCalls ++ laterCalls)) =
            [.recordSettlement "w" 7 .earliest, .markOfflineBefore .latest] := rfl
        simp [hsince]
      refine ⟨p, hrow, htold.offline.mpr ⟨.latest, hlater, ?_⟩, (Option.some.inj hcreated).symm,
        (Option.some.inj hseen).symm, htold.completed, htold.reputation⟩
      rw [← Option.some.inj hseen]
      decide
  · rcases (hcounted 1 _ hheartbeat).1.well _ rfl with ⟨c, hasks, hperformed⟩ | ⟨now, hsweep, -⟩
    · cases hasks with
      | @heartbeat wallet now hclock =>
        have hevents : callsOf 1 (registeringCalls ++ laterCalls) =
            [⟨.clock, .earliest⟩, ⟨.store (.touchProvider "w" .earliest), .ok true⟩] := rfl
        have hnow : now = .earliest := by
          rw [hevents] at hclock
          simpa using hclock
        rw [hperformed, hnow]
    · cases hsweep

end Registry

end ComputeExchange
