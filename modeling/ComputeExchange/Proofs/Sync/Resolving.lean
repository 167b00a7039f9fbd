import ComputeExchange.Proofs.Sync.Calls

/-!
# Finding the starting cursor

The starting cursor is the one that was saved, or the head of the chain if none was, unless a first
block is configured.  `Resolution` tells all ways in which it is looked for, call by call; what else
is said about this is read off it (`resolution_of_runs_resolve`).  `runs_poll_none_iff` says that a
pass without a cursor finds one and goes on from there.
-/

namespace ComputeExchange

namespace Synchronizer

open Program

variable {κ ε : Type} {label : κ → String} {kinds : List κ} {config : Sync.Config}

/-- Whether a call looks for the cursor of a service, or waits to try again. -/
def IsFinding (service : String) (e : Event (SyncCall.Answer κ ε)) : Prop :=
  e.1 = .store (.loadCursor service) ∨ e.1 = .head ∨ ∃ span, e.1 = .pause span

/-- Nothing was saved for a service, and the head of the chain was read to be a block. -/
def Blind (service : String) (block : UInt64) (t : SyncTrace κ ε) : Prop :=
  (⟨.store (.loadCursor service), .ok none⟩ : Event _) ∈ t ∧ (⟨.head, .ok block⟩ : Event _) ∈ t

/-! ### Its calls -/

/-- Loads of the cursor of a service that fail, each with the wait that follows it. -/
def failedLoads (service : String) (failures : List StoreError) : SyncTrace κ ε :=
  failedTries (.loadCursor service) failures Retry.waits

/-- How the starting cursor is not found: the calls that are made, and why. -/
inductive Unresolved (config : Sync.Config) : SyncTrace κ ε → SyncError → Prop where
  /-- Windows would have no blocks. -/
  | zeroRange (hrange : config.rangeSize = 0) : Unresolved config [] .zeroRange
  /-- Four loads fail. -/
  | unloaded (hrange : config.rangeSize ≠ 0) {failures : List StoreError}
      (hthree : failures.length = 3) (last : StoreError) :
      Unresolved config
        (failedLoads config.service failures ++
          [⟨.store (.loadCursor config.service), .error last⟩])
        (.cursor (Explained.cause last))
  /-- Nothing is saved, and the head of the chain cannot be read. -/
  | headless (hrange : config.rangeSize ≠ 0) {failures : List StoreError}
      (hthree : failures.length ≤ 3) (cause : Cause) :
      Unresolved config
        (failedLoads config.service failures ++
          [⟨.store (.loadCursor config.service), .ok none⟩, ⟨.head, .error cause⟩])
        (.head cause)

/-- How the starting cursor is looked for: the calls that are made, and what comes of it. -/
inductive Resolution (label : κ → String) (kinds : List κ) (config : Sync.Config) :
    SyncTrace κ ε → Except SyncError UInt64 → Prop where
  | failed {t : SyncTrace κ ε} {e : SyncError} (h : Unresolved config t e) :
      Resolution label kinds config t (.error e)
  /-- A saved cursor is found. -/
  | saved (hrange : config.rangeSize ≠ 0) {failures : List StoreError}
      (hthree : failures.length ≤ 3) (block : UInt64) {saving : SyncTrace κ ε}
      (hsaving : Runs
        ((asking label kinds config).persist (startingCursor config (some block) block))
        saving ()) :
      Resolution label kinds config
        (failedLoads config.service failures ++
          ⟨.store (.loadCursor config.service), .ok (some block)⟩ :: saving)
        (.ok (startingCursor config (some block) block))
  /-- Nothing is saved, and the head of the chain is read. -/
  | current (hrange : config.rangeSize ≠ 0) {failures : List StoreError}
      (hthree : failures.length ≤ 3) (head : UInt64) {saving : SyncTrace κ ε}
      (hsaving : Runs ((asking label kinds config).persist (startingCursor config none head))
        saving ()) :
      Resolution label kinds config
        (failedLoads config.service failures ++
          ⟨.store (.loadCursor config.service), .ok none⟩ :: ⟨.head, .ok head⟩ :: saving)
        (.ok (startingCursor config none head))

/-- The starting cursor is looked for in one of the ways that `Resolution` tells. -/
theorem resolution_of_runs_resolve {t : SyncTrace κ ε} {r : Except SyncError UInt64}
    (h : Runs (asking label kinds config).resolve t r) : Resolution label kinds config t r := by
  rw [resolve] at h
  by_cases hrange : (asking (ε := ε) label kinds config).config.rangeSize = 0
  · rw [if_pos hrange] at h
    obtain ⟨rfl, rfl⟩ := runs_pure.mp h
    exact .failed (.zeroRange hrange)
  rw [if_neg hrange] at h
  obtain ⟨t₁, loaded, t₂, rfl, h₁, h₂⟩ := runs_bind.mp h
  obtain ⟨failures, hle, hall, rfl⟩ := runs_attempt h₁
  cases loaded with
  | error last =>
    obtain ⟨rfl, rfl⟩ := runs_pure.mp h₂
    rw [List.append_nil]
    exact .failed (.unloaded hrange (hall last rfl) last)
  | ok found =>
    rw [List.append_assoc]
    cases found with
    | some block =>
      obtain ⟨t₃, _, t₄, rfl, h₃, h₄⟩ := runs_bind.mp h₂
      obtain ⟨rfl, rfl⟩ := runs_pure.mp h₃
      obtain ⟨t₅, _, t₆, rfl, h₅, h₆⟩ := runs_bind.mp h₄
      obtain ⟨rfl, rfl⟩ := runs_pure.mp h₆
      rw [List.append_nil]
      exact .saved hrange hle block h₅
    | none =>
      obtain ⟨t₃, head, t₄, rfl, h₃, h₄⟩ := runs_bind.mp h₂
      obtain rfl := runs_ask.mp h₃
      cases head with
      | error cause =>
        obtain ⟨rfl, rfl⟩ := runs_pure.mp h₄
        exact .failed (.headless hrange hle cause)
      | ok head =>
        obtain ⟨t₅, _, t₆, rfl, h₅, h₆⟩ := runs_bind.mp h₄
        obtain ⟨rfl, rfl⟩ := runs_pure.mp h₆
        rw [List.append_nil]
        exact .current hrange hle head h₅

/-! ### What the calls tell -/

/-- Loads that fail look for the cursor. -/
lemma isFinding_failedLoads (service : String) (failures : List StoreError) :
    ∀ e ∈ failedLoads (κ := κ) (ε := ε) service failures, IsFinding service e := by
  intro e he
  rcases calls_of_failedTries e he with hload | hpause
  · exact Or.inl hload
  · exact Or.inr (Or.inr hpause)

/-- Finding the starting cursor makes no other calls than loads, pauses and a reading of the head;
then the cursor that has been found is saved.  No event is in play if it cannot be found. -/
lemma parts_of_runs_resolve {t : SyncTrace κ ε} {r : Except SyncError UInt64}
    (h : Runs (asking label kinds config).resolve t r) :
    ∃ finding saving, t = finding ++ saving ∧ (∀ e ∈ finding, IsFinding config.service e) ∧
      ((∃ e, r = .error e ∧ ∀ first last cause, e ≠ .handler first last cause) ∧ saving = [] ∨
        ∃ saved block, r = .ok (startingCursor config saved block) ∧
          Runs ((asking label kinds config).persist (startingCursor config saved block)) saving () ∧
          (saved = some block ∧
              (⟨.store (.loadCursor config.service), .ok (some block)⟩ : Event _) ∈ finding ∨
            saved = none ∧ Blind config.service block finding)) := by
  have hfinding : ∀ (failures : List StoreError) (calls : SyncTrace κ ε),
      (∀ e ∈ calls, IsFinding config.service e) →
      ∀ e ∈ failedLoads config.service failures ++ calls, IsFinding config.service e :=
    fun failures calls hcalls =>
      List.forall_mem_append.mpr ⟨isFinding_failedLoads config.service failures, hcalls⟩
  cases resolution_of_runs_resolve h with
  | failed hfailed =>
    refine ⟨t, [], (List.append_nil t).symm, ?_, Or.inl ⟨⟨_, rfl, ?_⟩, rfl⟩⟩
    · cases hfailed with
      | zeroRange => simp
      | unloaded => exact hfinding _ _ (by simp [IsFinding])
      | headless => exact hfinding _ _ (by simp [IsFinding])
    · cases hfailed <;> simp
  | @saved _ failures _ block saving hsaving =>
    refine ⟨failedLoads config.service failures ++
      [⟨.store (.loadCursor config.service), .ok (some block)⟩], saving, by simp,
      hfinding _ _ (by simp [IsFinding]),
      Or.inr ⟨some block, block, rfl, hsaving, Or.inl ⟨rfl, ?_⟩⟩⟩
    exact List.mem_append_right _ List.mem_cons_self
  | @current _ failures _ head saving hsaving =>
    refine ⟨failedLoads config.service failures ++
      [⟨.store (.loadCursor config.service), .ok none⟩, ⟨.head, .ok head⟩], saving, by simp,
      hfinding _ _ (by simp [IsFinding]), Or.inr ⟨none, head, rfl, hsaving, Or.inr ⟨rfl, ?_⟩⟩⟩
    exact ⟨List.mem_append_right _ (by simp), List.mem_append_right _ (by simp)⟩

/-- Finding the starting cursor makes no other calls than loads, pauses and a reading of the head;
only the cursor that has been found is saved then.  No event is in play if it cannot be found. -/
theorem calls_of_runs_resolve_any {t : SyncTrace κ ε} {r : Except SyncError UInt64}
    (h : Runs (asking label kinds config).resolve t r) :
    ∃ finding saving, t = finding ++ saving ∧ (∀ e ∈ finding, IsFinding config.service e) ∧
      ((∃ e, r = .error e ∧ ∀ first last cause, e ≠ .handler first last cause) ∧ saving = [] ∨
        ∃ saved block, r = .ok (startingCursor config saved block) ∧
          (∀ e ∈ saving, IsSaving config.service (startingCursor config saved block) e) ∧
          (saved = some block ∧
              (⟨.store (.loadCursor config.service), .ok (some block)⟩ : Event _) ∈ finding ∨
            saved = none ∧ Blind config.service block finding)) := by
  obtain ⟨finding, saving, rfl, hfinding, hend⟩ := parts_of_runs_resolve h
  refine ⟨finding, saving, rfl, hfinding, hend.imp_right ?_⟩
  rintro ⟨saved, block, hr, hsaving, hfound⟩
  exact ⟨saved, block, hr, calls_of_runs_persist hsaving, hfound⟩

/-- Without a configured first block, the starting cursor is the one that was saved, or the head. -/
theorem calls_of_runs_resolve (hnone : config.startBlock = none) {t : SyncTrace κ ε}
    {r : Except SyncError UInt64} (h : Runs (asking label kinds config).resolve t r) :
    ∃ finding saving, t = finding ++ saving ∧ (∀ e ∈ finding, IsFinding config.service e) ∧
      ((∃ e, r = .error e) ∧ saving = [] ∨
        ∃ block, r = .ok block ∧ (∀ e ∈ saving, IsSaving config.service block e) ∧
          ((⟨.store (.loadCursor config.service), .ok (some block)⟩ : Event _) ∈ finding ∨
            Blind config.service block finding)) := by
  obtain ⟨finding, saving, rfl, hfinding, hend⟩ := calls_of_runs_resolve_any h
  refine ⟨finding, saving, rfl, hfinding, ?_⟩
  rcases hend with ⟨⟨e, rfl, -⟩, rfl⟩ | ⟨saved, block, rfl, hsaving, hfound⟩
  · exact Or.inl ⟨⟨e, rfl⟩, rfl⟩
  · have hcursor : startingCursor config saved block = block := by
      rw [startingCursor, hnone]
    rw [hcursor] at hsaving ⊢
    exact Or.inr ⟨block, rfl, hsaving, hfound.imp And.right And.right⟩

/-- The starting cursor is not found if windows would have no blocks, or if the store does not tell
what was saved, or if the chain does not tell its head. -/
lemma failure_of_runs_resolve {t : SyncTrace κ ε} {e : SyncError}
    (h : Runs (asking label kinds config).resolve t (.error e)) :
    (config.rangeSize = 0 ∧ t = [] ∧ e = .zeroRange) ∨
      (∃ failure, e = .cursor (Explained.cause failure) ∧
        (⟨.store (.loadCursor config.service), .error failure⟩ : Event _) ∈ t) ∨
      ∃ cause, e = .head cause ∧ (⟨.head, .error cause⟩ : Event _) ∈ t := by
  cases resolution_of_runs_resolve h with
  | failed hfailed =>
    cases hfailed with
    | zeroRange hrange => exact Or.inl ⟨hrange, rfl, rfl⟩
    | unloaded _ _ last => exact Or.inr (Or.inl ⟨last, rfl, by simp⟩)
    | headless _ _ cause => exact Or.inr (Or.inr ⟨cause, rfl, by simp⟩)

/-! ### A pass that looks for its cursor -/

/-- Nothing is handed out while the starting cursor is found. -/
lemma handed_resolving {t : SyncTrace κ ε} {r : Except SyncError UInt64}
    (h : Runs (asking label kinds config).resolve t r) : handed t = [] := by
  obtain ⟨finding, saving, rfl, hfinding, hend⟩ := calls_of_runs_resolve_any h
  have hfound : handed finding = [] := by
    refine List.filterMap_eq_nil_iff.mpr fun e he => ?_
    obtain ⟨q, answer⟩ := e
    rcases hfinding _ he with hq | hq | ⟨span, hq⟩ <;>
    · change q = _ at hq
      subst hq
      rfl
  rw [handed_append, hfound]
  rcases hend with ⟨-, rfl⟩ | ⟨saved, block, -, hsaving, -⟩
  · rfl
  · exact handed_saving hsaving

/-- A pass without a cursor finds one and then is a pass from it, or cannot find one. -/
theorem runs_poll_none_iff {B : Type} {A : B → Type} {s : Synchronizer (Program A) κ ε}
    {t : Trace A} {r : Except SyncError Sync.Outcome} {stop : Option UInt64} :
    Runs (s.poll none) t (r, stop) ↔
      (∃ e, Runs s.resolve t (.error e) ∧ r = .error e ∧ stop = none) ∨
      ∃ t₁ block t₂, t = t₁ ++ t₂ ∧ Runs s.resolve t₁ (.ok block) ∧
        Runs (s.poll (some block)) t₂ (r, stop) := by
  rw [poll, runs_bind]
  constructor
  · rintro ⟨t₁, found, t₂, rfl, h₁, h₂⟩
    cases found with
    | error e =>
      obtain ⟨rfl, rfl, rfl⟩ := runs_pure_mk.mp h₂
      rw [List.append_nil]
      exact Or.inl ⟨e, h₁, rfl, rfl⟩
    | ok block => exact Or.inr ⟨t₁, block, t₂, rfl, h₁, h₂⟩
  · rintro (⟨e, h, rfl, rfl⟩ | ⟨t₁, block, t₂, rfl, h₁, h₂⟩)
    · exact ⟨t, .error e, [], (List.append_nil t).symm, h, .here _⟩
    · exact ⟨t₁, .ok block, t₂, rfl, h₁, h₂⟩

end Synchronizer

end ComputeExchange
