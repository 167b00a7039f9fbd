import ComputeExchange.Proofs.Program
import ComputeExchange.Sync.Synchronizer

/-!
# The calls of a synchronizer

`Synchronizer.asking` is the synchronizer over programs: its chain, its handler, its store of
cursors and its health report are calls, and nothing is known of their answers.  This file says
which traces its parts have.  `runs_fetchAll` and `runs_handleAll` give the traces of fetching and
of handing out exactly, and `runs_attempt` those of a store call that is tried again;
`calls_of_runs_persist` says that saving the cursor makes no other calls than saves and pauses.
-/

namespace ComputeExchange

/-- What a synchronizer asks of its surroundings. -/
inductive SyncCall (κ ε : Type) : Type where
  | head
  | fetch (kind : κ) (first last : UInt64)
  | handle (event : ε)
  | store (c : StoreCall)
  | pause (span : Nat)
  | tell (event : Health.Event)

/-- What each call is answered with. -/
abbrev SyncCall.Answer (κ ε : Type) : SyncCall κ ε → Type
  | .head => Except Cause UInt64
  | .fetch .. => Except Cause (List ε)
  | .handle _ => Except HandleError Unit
  | .store c => Except StoreError c.Answer
  | .pause _ => Unit
  | .tell _ => Unit

instance {κ ε : Type} (q : SyncCall κ ε) : Nonempty (SyncCall.Answer κ ε q) := by
  cases q with
  | head => exact ⟨.error default⟩
  | fetch => exact ⟨.error default⟩
  | handle => exact ⟨.ok ()⟩
  | store => exact ⟨.error .unavailable⟩
  | pause => exact ⟨()⟩
  | tell => exact ⟨()⟩

/-- What a synchronizer has called, with the answers. -/
abbrev SyncTrace (κ ε : Type) : Type := Program.Trace (SyncCall.Answer κ ε)

/-- The event that a call hands out. -/
def handedBy {κ ε : Type} : Program.Event (SyncCall.Answer κ ε) → Option ε
  | ⟨.handle event, _⟩ => some event
  | _ => none

/-- The events that are handed out, in order. -/
def handed {κ ε : Type} (t : SyncTrace κ ε) : List ε := t.filterMap handedBy

/-- Whether an event is settled by the answer of its handler: it has been applied or left out, and
is not to be handed out again. -/
def isSettled : Except HandleError Unit → Bool
  | .ok () => true
  | .error (.skip _) => true
  | .error (.retry _) => false

/-- A failure of the store settles an event if another try cannot help. -/
lemma isSettled_ofStore {e : StoreError} :
    isSettled (.error (HandleError.ofStore e)) = true ↔ e.isTransient = false := by
  unfold HandleError.ofStore
  by_cases htransient : e.isTransient = true
  · rw [if_pos htransient, htransient]
    simp [isSettled]
  · rw [if_neg htransient]
    simpa [isSettled] using htransient

namespace Synchronizer

open Program

variable {κ ε : Type}

/-- The synchronizer whose surroundings are calls. -/
def asking (label : κ → String) (kinds : List κ) (config : Sync.Config) :
    Synchronizer (Program (SyncCall.Answer κ ε)) κ ε where
  source :=
    { label := label
      head := ask (A := SyncCall.Answer κ ε) .head
      fetch := fun kind first last => ask (A := SyncCall.Answer κ ε) (.fetch kind first last) }
  handle := fun event => ask (A := SyncCall.Answer κ ε) (.handle event)
  cursors := ⟨fun c => ask (A := SyncCall.Answer κ ε) (.store c)⟩
  kinds := kinds
  config := config
  pause := fun span => ask (A := SyncCall.Answer κ ε) (.pause span)
  tell := fun event => ask (A := SyncCall.Answer κ ε) (.tell event)

variable {label : κ → String} {kinds : List κ} {config : Sync.Config}

@[simp] lemma asking_kinds : (asking (ε := ε) label kinds config).kinds = kinds := rfl

@[simp] lemma asking_config : (asking (ε := ε) label kinds config).config = config := rfl

/-! ### Fetching and handing out -/

/-- The calls that fetch a batch of events for each of some kinds in a window. -/
def fetches (first last : UInt64) (batches : List (κ × List ε)) : SyncTrace κ ε :=
  batches.map fun batch => ⟨.fetch batch.1 first last, .ok batch.2⟩

/-- The calls that hand out events, with their answers. -/
def handovers (answers : List (ε × Except HandleError Unit)) : SyncTrace κ ε :=
  answers.map fun a => ⟨.handle a.1, a.2⟩

/-- What is handed out in two parts of a trace is handed out one after the other. -/
lemma handed_append (t u : SyncTrace κ ε) : handed (t ++ u) = handed t ++ handed u :=
  List.filterMap_append

/-- Fetching hands out nothing. -/
lemma handed_fetches (first last : UInt64) (batches : List (κ × List ε)) :
    handed (fetches first last batches) = [] := by
  simp [handed, fetches, handedBy, List.filterMap_map, Function.comp_def]

/-- Handing out hands out every event. -/
lemma handed_handovers (answers : List (ε × Except HandleError Unit)) :
    handed (handovers (κ := κ) answers) = answers.map (·.1) := by
  simp [handed, handovers, handedBy, List.filterMap_map, Function.comp_def]

/-- Fetching ends with the events of every kind, or with the first kind that cannot be fetched. -/
theorem runs_fetchAll {first last : UInt64} {wanted : List κ} {t : SyncTrace κ ε}
    {r : Except SyncError (List ε)}
    (h : Runs ((asking label kinds config).fetchAll first last wanted) t r) :
    (∃ batches : List (κ × List ε), batches.map (·.1) = wanted ∧ t = fetches first last batches ∧
      r = .ok (batches.flatMap (·.2))) ∨
    ∃ (batches : List (κ × List ε)) (kind : κ) (cause : Cause),
      t = fetches first last batches ++ [⟨.fetch kind first last, .error cause⟩] ∧
      r = .error (.fetch (label kind) first last cause) := by
  induction wanted generalizing t r with
  | nil =>
    obtain ⟨rfl, rfl⟩ := runs_pure.mp h
    exact Or.inl ⟨[], rfl, rfl, rfl⟩
  | cons kind rest ih =>
    rw [fetchAll, runs_bind] at h
    obtain ⟨t₁, answer, t₂, rfl, h₁, h₂⟩ := h
    obtain rfl := runs_ask.mp h₁
    cases answer with
    | error cause =>
      obtain ⟨rfl, rfl⟩ := runs_pure.mp h₂
      exact Or.inr ⟨[], kind, cause, rfl, rfl⟩
    | ok events =>
      obtain ⟨t₃, more, t₄, rfl, h₃, h₄⟩ := runs_bind.mp h₂
      rcases ih h₃ with ⟨batches, rfl, rfl, rfl⟩ | ⟨batches, failed, cause, rfl, rfl⟩
      · obtain ⟨rfl, rfl⟩ := runs_pure.mp h₄
        exact Or.inl ⟨(kind, events) :: batches, rfl, by simp [fetches], rfl⟩
      · obtain ⟨rfl, rfl⟩ := runs_pure.mp h₄
        exact Or.inr ⟨(kind, events) :: batches, failed, cause, by simp [fetches], rfl⟩

/-- A tally after some more events have been settled: those left out count as failed. -/
def Tally.after : Tally → List (ε × Except HandleError Unit) → Tally
  | tally, [] => tally
  | tally, a :: rest =>
    Tally.after ⟨tally.events + 1, if a.2.isOk then tally.failed else tally.failed + 1⟩ rest

/-- Handing out ends with every event settled, or with the first one that asks for another try. -/
theorem runs_handleAll {events : List ε} {tally : Tally} {t : SyncTrace κ ε}
    {r : Except Cause Tally} (h : Runs ((asking label kinds config).handleAll events tally) t r) :
    (∃ answers : List (ε × Except HandleError Unit), answers.map (·.1) = events ∧
      (∀ a ∈ answers, isSettled a.2 = true) ∧ t = handovers answers ∧
      r = .ok (tally.after answers)) ∨
    ∃ (answers : List (ε × Except HandleError Unit)) (event : ε) (cause : Cause),
      answers.map (·.1) ++ [event] <+: events ∧ (∀ a ∈ answers, isSettled a.2 = true) ∧
      t = handovers answers ++ [⟨.handle event, .error (.retry cause)⟩] ∧ r = .error cause := by
  induction events generalizing tally t r with
  | nil =>
    obtain ⟨rfl, rfl⟩ := runs_pure.mp h
    exact Or.inl ⟨[], rfl, by simp, rfl, rfl⟩
  | cons event rest ih =>
    rw [handleAll, runs_bind] at h
    obtain ⟨t₁, answer, t₂, rfl, h₁, h₂⟩ := h
    obtain rfl := runs_ask.mp h₁
    by_cases hset : isSettled answer = true
    · -- Whether it was applied or left out, the rest is handed out with the tally after it.
      have hrest : Runs ((asking label kinds config).handleAll rest
          (tally.after [(event, answer)])) t₂ r := by
        match answer, hset, h₂ with
        | .ok (), _, h₂ => exact h₂
        | .error (.skip _), _, h₂ => exact h₂
      rcases ih hrest with
        ⟨answers, rfl, hall, rfl, rfl⟩ | ⟨answers, last, cause, hpre, hall, rfl, rfl⟩
      · exact Or.inl ⟨(event, answer) :: answers, rfl, List.forall_mem_cons.mpr ⟨hset, hall⟩,
          rfl, rfl⟩
      · exact Or.inr ⟨(event, answer) :: answers, last, cause,
          (List.prefix_cons_inj event).mpr hpre, List.forall_mem_cons.mpr ⟨hset, hall⟩, rfl, rfl⟩
    · match answer, hset, h₂ with
      | .error (.retry cause), _, h₂ =>
        obtain ⟨rfl, rfl⟩ := runs_pure.mp h₂
        exact Or.inr ⟨[], event, cause, by simp, by simp, rfl, rfl⟩
      | .ok (), hset, _ => exact absurd rfl hset
      | .error (.skip _), hset, _ => exact absurd rfl hset

/-! ### The cursor -/

/-- Tries of a store call that fail, each with the wait that follows it. -/
def failedTries (c : StoreCall) (failures : List StoreError) (waits : List Nat) : SyncTrace κ ε :=
  (failures.zip waits).flatMap fun failure =>
    [⟨.store c, .error failure.1⟩, ⟨.pause failure.2, ()⟩]

/-- Failed tries are calls of one kind, and pauses. -/
lemma calls_of_failedTries {c : StoreCall} {failures : List StoreError} {waits : List Nat} :
    ∀ e ∈ failedTries (κ := κ) (ε := ε) c failures waits,
      e.1 = .store c ∨ ∃ span, e.1 = .pause span := by
  intro e he
  obtain ⟨failure, -, he⟩ := List.mem_flatMap.mp he
  rcases List.mem_pair.mp he with rfl | rfl
  · exact Or.inl rfl
  · exact Or.inr ⟨failure.2, rfl⟩

/-- Trying a store call again makes failed tries, up to as many as there are waits, and then one
more; if this fails as well, there is no wait left. -/
theorem runs_attempt {c : StoreCall} {waits : List Nat} {t : SyncTrace κ ε}
    {r : Except StoreError c.Answer}
    (h : Runs (Retry.attempt (asking label kinds config).pause
      ((asking label kinds config).cursors.perform c) waits) t r) :
    ∃ failures : List StoreError, failures.length ≤ waits.length ∧
      (∀ e, r = .error e → failures.length = waits.length) ∧
      t = failedTries c failures waits ++ [⟨.store c, r⟩] := by
  induction waits generalizing t with
  | nil =>
    obtain rfl := runs_ask.mp h
    exact ⟨[], le_rfl, fun _ _ => rfl, rfl⟩
  | cons wait rest ih =>
    rw [Retry.attempt, runs_bind] at h
    obtain ⟨t₁, answer, t₂, rfl, htry, hafter⟩ := h
    obtain rfl := runs_ask.mp htry
    cases answer with
    | ok a =>
      obtain ⟨rfl, rfl⟩ := runs_pure.mp hafter
      exact ⟨[], Nat.zero_le _, nofun, rfl⟩
    | error e =>
      obtain ⟨t₃, _, t₄, rfl, hpause, hrest⟩ := runs_bind.mp hafter
      obtain rfl := runs_ask.mp hpause
      obtain ⟨failures, hle, hall, rfl⟩ := ih hrest
      refine ⟨e :: failures, Nat.succ_le_succ hle, fun e' he' => ?_, rfl⟩
      rw [List.length_cons, List.length_cons, hall e' he']

/-- Whether a call saves a block as the cursor of a service, or waits to try again. -/
def IsSaving (service : String) (block : UInt64) (e : Event (SyncCall.Answer κ ε)) : Prop :=
  e.1 = .store (.saveCursor service block) ∨ ∃ span, e.1 = .pause span

/-- Saving the cursor hands out nothing. -/
lemma handed_saving {service : String} {block : UInt64} {saving : SyncTrace κ ε}
    (h : ∀ e ∈ saving, IsSaving service block e) : handed saving = [] := by
  refine List.filterMap_eq_nil_iff.mpr fun e he => ?_
  obtain ⟨q, answer⟩ := e
  rcases h _ he with hq | ⟨span, hq⟩ <;>
  · change q = _ at hq
    subst hq
    rfl

/-- Saving the cursor makes no other calls than saves of the block and pauses. -/
theorem calls_of_runs_persist {block : UInt64} {t : SyncTrace κ ε}
    (h : Runs ((asking label kinds config).persist block) t ()) :
    ∀ e ∈ t, IsSaving config.service block e := by
  obtain ⟨t₁, r, t₂, rfl, h₁, h₂⟩ := runs_bind.mp h
  obtain ⟨rfl, -⟩ := runs_pure.mp h₂
  rw [List.append_nil]
  obtain ⟨failures, -, -, rfl⟩ := runs_attempt h₁
  exact List.forall_mem_append.mpr
    ⟨calls_of_failedTries, List.forall_mem_singleton.mpr (Or.inl rfl)⟩

end Synchronizer

end ComputeExchange
