import ComputeExchange.Proofs.Store.Providers
import ComputeExchange.Proofs.Program
import ComputeExchange.Registry.Engine

/-!
# The calls of the registry

`Registry.asking` is the registry over programs: its store and its clock are calls.  `Ended` tells
the traces of its operations: an operation makes one call to the store, and a sweep without a cutoff
none.  `asks_of_calls` says which call this is, whatever the clock has shown, and `counted_of_runs`
that the operation ends well exactly if it has succeeded.
-/

namespace ComputeExchange

/-- What the registry asks of its surroundings. -/
inductive RegistryCall : Type where
  | store (c : StoreCall)
  | clock

/-- What each call is answered with. -/
abbrev RegistryCall.Answer : RegistryCall → Type
  | .store c => Except StoreError c.Answer
  | .clock => Timestamp

namespace Registry

/-- What all that the registry does shares. -/
structure World where
  /-- What the wall clock shows. -/
  wall : Timestamp
  store : MemoryStore

namespace World

/-- The row of a provider. -/
def provider? (w : World) (wallet : String) : Option Provider := w.store.providers.get? wallet

/-- How a call may be answered, and what it leaves behind. -/
inductive Serves : World → (q : RegistryCall) → q.Answer → World → Prop where
  | stored (w : World) (c : StoreCall) :
      Serves w (.store c) (w.store.perform c).1 { w with store := (w.store.perform c).2 }
  | unstored (w : World) (c : StoreCall) (e : StoreError) : Serves w (.store c) (.error e) w
  | told (w : World) : Serves w .clock w.wall w

variable {w w' : World} {c : StoreCall} {answer : Except StoreError c.Answer}

/-- A call to the store succeeds and makes of the providers what it should, or fails and leaves
everything as it is. -/
lemma Serves.of_store (h : Serves w (.store c) answer w') :
    (∃ told, answer = .ok told) ∧ c.Makes w.store.providers w'.store.providers ∨
      (∃ e, answer = .error e) ∧ w' = w := by
  cases h with
  | stored =>
    rcases w.store.providers_perform c with ⟨told, htold, hmade⟩ | ⟨e, hperform⟩
    · exact Or.inl ⟨⟨told, htold⟩, hmade⟩
    · refine Or.inr ⟨⟨e, by rw [hperform]⟩, ?_⟩
      rw [hperform]
  | unstored _ e => exact Or.inr ⟨⟨e, rfl⟩, rfl⟩

/-- No call moves the clock. -/
lemma Serves.wall_eq {q : RegistryCall} {answer : q.Answer} (h : Serves w q answer w') :
    w'.wall = w.wall := by
  cases h <;> rfl

/-- A store keeps one row for each wallet. -/
lemma Serves.nodup_keys {q : RegistryCall} {answer : q.Answer} (h : Serves w q answer w')
    (hkeys : w.store.providers.keys.Nodup) : w'.store.providers.keys.Nodup := by
  cases h with
  | stored c => exact MemoryStore.nodup_keys_perform hkeys c
  | unstored => exact hkeys
  | told => exact hkeys

end World

open Program

/-- The registry whose surroundings are calls. -/
def asking (threshold : Nat) : Registry (Program RegistryCall.Answer) where
  store := ⟨fun c => ask (A := RegistryCall.Answer) (.store c)⟩
  clock := ask (A := RegistryCall.Answer) .clock
  threshold := threshold

/-! ### Operations -/

/-- What is done to the providers of the registry; settlements are recorded from outside. -/
inductive Operation : Type where
  | register (registration : Registration)
  | heartbeat (wallet : String)
  | sweep (now : Timestamp)
  | settle (wallet : String) (count : Int64) (now : Timestamp)

/-- Why an operation may fail. -/
abbrev Operation.Failure : Operation → Type
  | .register _ => LivenessError
  | .heartbeat _ => LivenessError
  | .sweep _ => LivenessError
  | .settle .. => StoreError

/-- What an operation that ends well tells. -/
abbrev Operation.Value : Operation → Type
  | .register _ => Provider
  | .heartbeat _ => Bool
  | .sweep _ => Nat
  | .settle .. => Bool

/-- What an operation ends with. -/
abbrev Operation.Result (o : Operation) : Type := Except o.Failure o.Value

/-- The program of an operation. -/
def Operation.body (threshold : Nat) : (o : Operation) → Program RegistryCall.Answer o.Result
  | .register registration => (asking threshold).register registration
  | .heartbeat wallet => (asking threshold).heartbeat wallet
  | .sweep now => (asking threshold).sweep now
  | .settle wallet count now =>
    ask (A := RegistryCall.Answer) (.store (.recordSettlement wallet count now))

/-- What an operation asks of the store after some calls. -/
inductive Asks (threshold : Nat) (t : Trace RegistryCall.Answer) :
    Operation → StoreCall → Prop where
  | register (registration : Registration) {now : Timestamp} (hclock : ⟨.clock, now⟩ ∈ t) :
      Asks threshold t (.register registration) (.upsertProvider registration now)
  | heartbeat (wallet : String) {now : Timestamp} (hclock : ⟨.clock, now⟩ ∈ t) :
      Asks threshold t (.heartbeat wallet) (.touchProvider wallet now)
  | sweep {now cutoff : Timestamp} (hcutoff : cutoff? now threshold = some cutoff) :
      Asks threshold t (.sweep now) (.markOfflineBefore cutoff)
  | settle (wallet : String) (count : Int64) (now : Timestamp) :
      Asks threshold t (.settle wallet count now) (.recordSettlement wallet count now)

/-- What is asked after some calls is asked after all that has these calls. -/
lemma Asks.mono {threshold : Nat} {t t' : Trace RegistryCall.Answer} {o : Operation} {c : StoreCall}
    (h : Asks threshold t o c) (hsub : t ⊆ t') : Asks threshold t' o c := by
  cases h with
  | register registration hclock => exact .register registration (hsub hclock)
  | heartbeat wallet hclock => exact .heartbeat wallet (hsub hclock)
  | sweep hcutoff => exact .sweep hcutoff
  | settle wallet count now => exact .settle wallet count now

/-- The traces of an operation with their results: it calls the store once and ends as it is
answered, or it is a sweep without a cutoff, and calls nothing. -/
inductive Ended (threshold : Nat) :
    (o : Operation) → Trace RegistryCall.Answer → o.Result → Prop where
  | register (registration : Registration) (now : Timestamp) (answer : Except StoreError Provider) :
      Ended threshold (.register registration)
        [⟨.clock, now⟩, ⟨.store (.upsertProvider registration now), answer⟩]
        (answer.mapError (.register registration.wallet))
  | heartbeat (wallet : String) (now : Timestamp) (answer : Except StoreError Bool) :
      Ended threshold (.heartbeat wallet)
        [⟨.clock, now⟩, ⟨.store (.touchProvider wallet now), answer⟩]
        (answer.mapError (.heartbeat wallet))
  | sweep {now cutoff : Timestamp} (hcutoff : cutoff? now threshold = some cutoff)
      (answer : Except StoreError Nat) :
      Ended threshold (.sweep now) [⟨.store (.markOfflineBefore cutoff), answer⟩]
        (answer.mapError .sweep)
  | nothing {now : Timestamp} (hcutoff : cutoff? now threshold = none) :
      Ended threshold (.sweep now) [] (.ok 0)
  | settle (wallet : String) (count : Int64) (now : Timestamp) (answer : Except StoreError Bool) :
      Ended threshold (.settle wallet count now)
        [⟨.store (.recordSettlement wallet count now), answer⟩] answer

/-- An operation has one of its traces. -/
theorem ended_of_runs {threshold : Nat} {o : Operation} {t : Trace RegistryCall.Answer}
    {r : o.Result} (h : Runs (o.body threshold) t r) : Ended threshold o t r := by
  cases o with
  | register registration =>
    cases h with
    | call now h =>
      cases h with
      | call answer h =>
        cases answer with
        | ok provider =>
          cases h
          exact .register registration now (.ok provider)
        | error e =>
          cases h
          exact .register registration now (.error e)
  | heartbeat wallet =>
    cases h with
    | call now h =>
      cases h with
      | call answer h =>
        cases answer with
        | ok known =>
          cases h
          exact .heartbeat wallet now (.ok known)
        | error e =>
          cases h
          exact .heartbeat wallet now (.error e)
  | sweep now =>
    change Runs ((asking threshold).sweep now) t r at h
    unfold sweep at h
    have hthreshold : (asking threshold).threshold = threshold := rfl
    rw [hthreshold] at h
    cases hcutoff : cutoff? now threshold with
    | none =>
      rw [hcutoff] at h
      cases h
      exact .nothing hcutoff
    | some cutoff =>
      rw [hcutoff] at h
      cases h with
      | call answer h =>
        cases answer with
        | ok count =>
          cases h
          exact .sweep hcutoff (.ok count)
        | error e =>
          cases h
          exact .sweep hcutoff (.error e)
  | settle wallet count now =>
    cases h with
    | call answer h =>
      cases h
      exact .settle wallet count now r

/-- A call to the store behind a look at the clock. -/
lemma store_behind_clock {t t' : Trace RegistryCall.Answer} {now : Timestamp} {c c' : StoreCall}
    {answer : Except StoreError c.Answer} {answer' : Except StoreError c'.Answer}
    (h : t ++ ⟨.store c, answer⟩ :: t' = [⟨.clock, now⟩, ⟨.store c', answer'⟩]) :
    t = [⟨.clock, now⟩] ∧ c = c' := by
  rcases t with _ | ⟨e, _ | ⟨e', t⟩⟩
  · cases h
  · cases h
    exact ⟨rfl, rfl⟩
  · simp at h

/-- A call to the store that is the only call. -/
lemma store_alone {t t' : Trace RegistryCall.Answer} {c c' : StoreCall}
    {answer : Except StoreError c.Answer} {answer' : Except StoreError c'.Answer}
    (h : t ++ ⟨.store c, answer⟩ :: t' = [⟨.store c', answer'⟩]) : t = [] ∧ c = c' := by
  rcases t with _ | ⟨e, t⟩
  · cases h
    exact ⟨rfl, rfl⟩
  · simp at h

/-- In a trace of an operation the store is asked what it should be. -/
lemma Ended.asks {threshold : Nat} {o : Operation} {t t' : Trace RegistryCall.Answer}
    {c : StoreCall} {answer : Except StoreError c.Answer} {r : o.Result}
    (h : Ended threshold o (t ++ ⟨.store c, answer⟩ :: t') r) : Asks threshold t o c := by
  generalize htrace : t ++ ⟨.store c, answer⟩ :: t' = u at h
  cases h with
  | register registration now =>
    obtain ⟨rfl, rfl⟩ := store_behind_clock htrace
    exact .register registration List.mem_cons_self
  | heartbeat wallet now =>
    obtain ⟨rfl, rfl⟩ := store_behind_clock htrace
    exact .heartbeat wallet List.mem_cons_self
  | sweep hcutoff =>
    obtain ⟨rfl, rfl⟩ := store_alone htrace
    exact .sweep hcutoff
  | nothing => simp at htrace
  | settle wallet count now =>
    obtain ⟨rfl, rfl⟩ := store_alone htrace
    exact .settle wallet count now

/-- An operation asks of the store what it should. -/
theorem asks_of_calls {threshold : Nat} {o : Operation} {t : Trace RegistryCall.Answer}
    {c : StoreCall} (h : (o.body threshold).Calls t (.store c)) : Asks threshold t o c := by
  have hanswers : ∀ q : RegistryCall, Nonempty q.Answer := by
    intro q
    cases q with
    | store c => exact ⟨.error .unavailable⟩
    | clock => exact ⟨default⟩
  obtain ⟨rest, hreaches⟩ := h.reaches (.error .unavailable)
  obtain ⟨t', r, hruns⟩ := hreaches.exists_runs
  rw [List.append_assoc] at hruns
  exact (ended_of_runs hruns).asks

/-! ### What counts -/

/-- The call to the store that has succeeded, if an event is one. -/
def performed? : Event RegistryCall.Answer → Option StoreCall
  | ⟨.store c, .ok _⟩ => some c
  | _ => none

/-- The calls to the store that have succeeded, in order. -/
def performed (t : Trace RegistryCall.Answer) : List StoreCall := t.filterMap performed?

lemma performed_append (t t' : Trace RegistryCall.Answer) :
    performed (t ++ t') = performed t ++ performed t' := List.filterMap_append

/-- An operation that has ended counts once if it has ended well, with the call that it asks for,
unless it is a sweep without a cutoff, and it does not count if it has failed, which it does only
with this call. -/
structure Counted (threshold : Nat) (o : Operation) (t : Trace RegistryCall.Answer)
    (r : o.Result) : Prop where
  well : ∀ value, r = .ok value →
    (∃ c, Asks threshold t o c ∧ performed t = [c]) ∨
      ∃ now, o = .sweep now ∧ cutoff? now threshold = none ∧ performed t = []
  failed : ∀ e, r = .error e →
    performed t = [] ∧ ∃ c e', Asks threshold t o c ∧ ⟨.store c, .error e'⟩ ∈ t

/-- An operation counts if the store has answered the call that it asks for, and ends well exactly
if the call has succeeded. -/
lemma counted_of_answer {threshold : Nat} {o : Operation} {t : Trace RegistryCall.Answer}
    {c : StoreCall} {answer : Except StoreError c.Answer} {r : o.Result}
    (hasks : Asks threshold (t ++ [⟨.store c, answer⟩]) o c) (hbefore : performed t = [])
    (hwell : (∃ value, r = .ok value) ↔ ∃ told, answer = .ok told) :
    Counted threshold o (t ++ [⟨.store c, answer⟩]) r := by
  have hperformed : performed (t ++ [⟨.store c, answer⟩]) =
      (performed? ⟨.store c, answer⟩).toList := by
    rw [performed_append, hbefore, List.nil_append]
    cases hcall : performed? ⟨.store c, answer⟩ <;> simp [performed, hcall]
  constructor
  · intro value hvalue
    obtain ⟨told, rfl⟩ := hwell.mp ⟨value, hvalue⟩
    exact Or.inl ⟨c, hasks, hperformed⟩
  · rintro e rfl
    cases answer with
    | ok told => exact absurd (hwell.mpr ⟨told, rfl⟩) (by simp)
    | error e' => exact ⟨hperformed, c, e', hasks, List.mem_append_right _ List.mem_cons_self⟩

/-- Renaming the failures of a call keeps its successes. -/
lemma exists_mapError_eq_ok {α δ : Type} (f : StoreError → δ) (answer : Except StoreError α) :
    (∃ value, answer.mapError f = .ok value) ↔ ∃ told, answer = .ok told := by
  cases answer <;> simp [Except.mapError]

/-- An operation counts as it has ended. -/
theorem counted_of_runs {threshold : Nat} {o : Operation} {t : Trace RegistryCall.Answer}
    {r : o.Result} (h : Runs (o.body threshold) t r) : Counted threshold o t r := by
  cases ended_of_runs h with
  | register registration now answer =>
    have hclock : (⟨.clock, now⟩ : Event RegistryCall.Answer) ∈
        [⟨.clock, now⟩, ⟨.store (.upsertProvider registration now), answer⟩] := List.mem_cons_self
    exact counted_of_answer (t := [⟨.clock, now⟩]) (.register registration hclock) rfl
      (exists_mapError_eq_ok _ answer)
  | heartbeat wallet now answer =>
    have hclock : (⟨.clock, now⟩ : Event RegistryCall.Answer) ∈
        [⟨.clock, now⟩, ⟨.store (.touchProvider wallet now), answer⟩] := List.mem_cons_self
    exact counted_of_answer (t := [⟨.clock, now⟩]) (.heartbeat wallet hclock) rfl
      (exists_mapError_eq_ok _ answer)
  | sweep hcutoff answer =>
    exact counted_of_answer (t := []) (.sweep hcutoff) rfl (exists_mapError_eq_ok _ answer)
  | nothing hcutoff =>
    exact ⟨fun _ _ => Or.inr ⟨_, rfl, hcutoff, rfl⟩, fun _ heq => (nomatch heq)⟩
  | settle wallet count now answer =>
    exact counted_of_answer (t := []) (.settle wallet count now) rfl Iff.rfl

end Registry

end ComputeExchange
