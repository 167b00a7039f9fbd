import ComputeExchange.Proofs.Store.Keys

/-!
# What a call to a store leaves alone

A call names the one place of a store to which it may write (`StoreCall.place`): the row under a key
in one of the tables, the rows that a sweep looks past, or nothing.  `MemoryStore.Performs` says all
that a call can do, and what it never does is read off there: it writes nothing outside its place,
nothing at all unless it succeeds, and removes no row (`MemoryStore.confined_to_place`).
-/

namespace ComputeExchange

/-! ### Places -/

/-- A place of a store. -/
inductive StorePlace where
  | nowhere
  | job (id : String)
  | provider (wallet : String)
  /-- The providers that count as online though they were last seen before a time. -/
  | stale (cutoff : Timestamp)
  | cursor (service : String)

namespace StorePlace

/-- Whether two stores are the same outside a place.  Of the providers that are stale only the mark
that they are online may differ. -/
def Confines : StorePlace → MemoryStore → MemoryStore → Prop
  | nowhere, s, s' => s' = s
  | job id, s, s' => ∃ jobs, s' = { s with jobs := jobs } ∧
      ∀ other, other ≠ id → jobs.get? other = s.jobs.get? other
  | provider wallet, s, s' => ∃ providers, s' = { s with providers := providers } ∧
      ∀ other, other ≠ wallet → providers.get? other = s.providers.get? other
  | stale cutoff, s, s' => ∃ providers, s' = { s with providers := providers } ∧
      ∀ wallet, providers.get? wallet = s.providers.get? wallet ∨
        ∃ p, s.providers.get? wallet = some p ∧ p.isOnline = true ∧
          p.lastSeen.before cutoff = true ∧
          providers.get? wallet = some { p with isOnline := false }
  | cursor service, s, s' => ∃ cursors, s' = { s with cursors := cursors } ∧
      ∀ other, other ≠ service → cursors.get? other = s.cursors.get? other

/-- Whether a place that is a row is there. -/
def IsFilled : StorePlace → MemoryStore → Prop
  | job id, s => s.jobs.get? id ≠ none
  | provider wallet, s => s.providers.get? wallet ≠ none
  | cursor service, s => s.cursors.get? service ≠ none
  | _, _ => True

/-- Nothing differs between a store and itself. -/
lemma confines_self (place : StorePlace) (s : MemoryStore) : place.Confines s s := by
  cases place with
  | nowhere => rfl
  | stale cutoff => exact ⟨_, rfl, fun _ => Or.inl rfl⟩
  | _ => exact ⟨_, rfl, fun _ _ => rfl⟩

end StorePlace

namespace StoreCall

/-- The place to which a call may write. -/
def place : StoreCall → StorePlace
  | .insertJob new _ => .job new.id
  | .transitionJob id .. => .job id
  | .upsertProvider registration _ => .provider registration.wallet
  | .touchProvider wallet _ => .provider wallet
  | .markOfflineBefore cutoff => .stale cutoff
  | .recordSettlement wallet .. => .provider wallet
  | .saveCursor service _ => .cursor service
  | _ => .nowhere

/-- Whether a call may add a row. -/
def mayAdd : StoreCall → Bool
  | .insertJob .. => true
  | .upsertProvider .. => true
  | .saveCursor .. => true
  | _ => false

/-- The answer that tells of nothing found or changed, a sweep that has changed no row included. -/
def idle? : (c : StoreCall) → Option c.Answer
  | .markOfflineBefore _ => some (0 : Nat)
  | c => c.nothing?

/-- Whether a call is answered with a failure, or told of nothing found or changed. -/
def IsIdle (c : StoreCall) : Except StoreError c.Answer → Prop
  | .error _ => True
  | .ok answer => c.idle? = some answer

end StoreCall

namespace Table

variable {α : Type} {t : Table α} {key other : String} {row : α}

/-- A row that is put into a table changes no other. -/
lemma get?_put_of_ne (h : other ≠ key) : (t.put key row).get? other = t.get? other := by
  rw [get?_put]
  exact if_neg (Ne.symm h)

/-- A row that is put into a table is there. -/
lemma get?_put_self_ne_none : (t.put key row).get? key ≠ none := by
  rw [get?_put, if_pos rfl]
  exact Option.some_ne_none row

/-- No row is lost where one is put. -/
lemma get?_put_ne_none (h : t.get? other ≠ none) : (t.put key row).get? other ≠ none := by
  by_cases hkey : other = key
  · subst hkey
    exact get?_put_self_ne_none
  · rwa [get?_put_of_ne hkey]

end Table

/-! ### What a call does -/

namespace MemoryStore

/-- What a call can do to a store, with its answer. -/
inductive Performs (s : MemoryStore) :
    (c : StoreCall) → Except StoreError c.Answer → MemoryStore → Prop where
  | fails (c : StoreCall) (e : StoreError) : s.Performs c (.error e) s
  | misses {c : StoreCall} {answer : c.Answer} (h : c.idle? = some answer) :
      s.Performs c (.ok answer) s
  | reads {c : StoreCall} (answer : c.Answer) (h : c.place = .nowhere) : s.Performs c (.ok answer) s
  | inserts {new : NewJob} (now : Timestamp) (hnew : s.jobs.get? new.id = none) :
      s.Performs (.insertJob new now) (.ok (.ofNew new now))
        { s with jobs := s.jobs.put new.id (.ofNew new now) }
  | moves {id : String} {job : Job} (change : StatusChange) (hrow : s.jobs.get? id = some job) :
      s.Performs (.transitionJob id job.status change) (.ok (some (job.apply change)))
        { s with jobs := s.jobs.put id (job.apply change) }
  | registers (r : Registration) (now : Timestamp) (p : Provider) :
      s.Performs (.upsertProvider r now) (.ok p)
        { s with providers := s.providers.put r.wallet p }
  | touches {wallet : String} {p : Provider} (now : Timestamp)
      (hrow : s.providers.get? wallet = some p) :
      s.Performs (.touchProvider wallet now) (.ok true)
        { s with providers := s.providers.put wallet (p.touch now) }
  | sweeps (cutoff : Timestamp) :
      s.Performs (.markOfflineBefore cutoff) (.ok (s.providers.values.countP (·.isStale cutoff)))
        { s with providers := s.providers.mapValues (·.swept cutoff) }
  | settles {wallet : String} {p : Provider} (count : Int64) (now : Timestamp)
      (hrow : s.providers.get? wallet = some p) :
      s.Performs (.recordSettlement wallet count now) (.ok true)
        { s with providers := s.providers.put wallet (p.settle count now) }
  | saves (service : String) (block : UInt64) :
      s.Performs (.saveCursor service block) (.ok ())
        { s with cursors := s.cursors.put service block }

/-- A store does what the call can do. -/
theorem performs (s : MemoryStore) (c : StoreCall) :
    s.Performs c (s.perform c).1 (s.perform c).2 := by
  unfold perform
  by_cases hdown : s.isUnavailable = true
  · rw [if_pos hdown]
    exact .fails c _
  rw [if_neg hdown]
  cases c with
  | insertJob new now =>
    cases hrow : s.jobs.get? new.id with
    | none =>
      simp only [hrow]
      exact .inserts now hrow
    | some job =>
      simp only [hrow]
      exact .fails _ _
  | transitionJob id source change =>
    cases hrow : s.jobs.get? id with
    | none =>
      simp only [hrow]
      exact .misses rfl
    | some job =>
      simp only [hrow]
      by_cases hstatus : job.status = source
      · subst hstatus
        simp only [if_true]
        exact .moves change hrow
      · rw [if_neg hstatus]
        exact .misses rfl
  | upsertProvider r now => exact .registers r now _
  | touchProvider wallet now =>
    cases hrow : s.providers.get? wallet with
    | none =>
      simp only [hrow]
      exact .misses rfl
    | some p =>
      simp only [hrow]
      exact .touches now hrow
  | markOfflineBefore cutoff =>
    simp only [Provider.swept_eq]
    exact .sweeps cutoff
  | recordSettlement wallet count now =>
    cases hrow : s.providers.get? wallet with
    | none =>
      simp only [hrow]
      exact .misses rfl
    | some p =>
      simp only [hrow]
      exact .settles count now hrow
  | saveCursor service block => exact .saves service block
  | _ => exact .reads _ rfl

variable {s s' : MemoryStore} {c : StoreCall} {answer : Except StoreError c.Answer}

/-- A call that is told to have done nothing has done nothing. -/
lemma Performs.eq_of_isIdle (h : s.Performs c answer s') (hidle : c.IsIdle answer) : s' = s := by
  cases h with
  | fails => rfl
  | misses => rfl
  | reads => rfl
  | sweeps cutoff =>
    have hnone : s.providers.values.countP (·.isStale cutoff) = 0 :=
      (Option.some.inj hidle).symm
    have hsame : s.providers.mapValues (·.swept cutoff) = s.providers := by
      refine Table.mapValues_eq_self fun p hp => ?_
      rw [← Provider.swept_eq]
      exact if_neg (List.countP_eq_zero.mp hnone p hp)
    rw [hsame]
  | inserts | moves | registers | touches | settles | saves => cases hidle

/-- A call writes to its place only. -/
lemma Performs.confined (h : s.Performs c answer s') : c.place.Confines s s' := by
  cases h with
  | fails => exact c.place.confines_self s
  | misses => exact c.place.confines_self s
  | reads => exact c.place.confines_self s
  | sweeps cutoff =>
    refine ⟨_, rfl, fun wallet => ?_⟩
    rw [Table.get?_mapValues]
    cases hrow : s.providers.get? wallet with
    | none => exact Or.inl rfl
    | some p =>
      rw [Option.map_some, ← Provider.swept_eq]
      by_cases hstale : p.isStale cutoff = true
      · rw [if_pos hstale]
        obtain ⟨honline, hbefore⟩ := Bool.and_eq_true_iff.mp hstale
        exact Or.inr ⟨p, rfl, honline, hbefore, rfl⟩
      · rw [if_neg hstale]
        exact Or.inl rfl
  | inserts | moves | registers | touches | settles | saves =>
    exact ⟨_, rfl, fun other hother => Table.get?_put_of_ne hother⟩

/-- A call that succeeds leaves a row at its place, and has found one there unless it may add it. -/
lemma Performs.filled (h : s.Performs c answer s') (hdone : ¬ c.IsIdle answer) :
    c.place.IsFilled s' ∧ (c.mayAdd = false → c.place.IsFilled s) := by
  cases h with
  | fails => exact absurd trivial hdone
  | misses hidle => exact absurd hidle hdone
  | reads answer hplace =>
    rw [hplace]
    exact ⟨trivial, fun _ => trivial⟩
  | sweeps => exact ⟨trivial, fun _ => trivial⟩
  | inserts | registers | saves => exact ⟨Table.get?_put_self_ne_none, fun hadds => nomatch hadds⟩
  | moves change hrow | touches now hrow | settles count now hrow =>
    exact ⟨Table.get?_put_self_ne_none, fun _ hnone => nomatch hrow.symm.trans hnone⟩

/-- No call removes a row. -/
lemma Performs.isFilled (h : s.Performs c answer s') {place : StorePlace}
    (hfilled : place.IsFilled s) : place.IsFilled s' := by
  cases place with
  | nowhere => trivial
  | stale => trivial
  | job id =>
    cases h with
    | inserts | moves => exact Table.get?_put_ne_none hfilled
    | _ => exact hfilled
  | provider wallet =>
    cases h with
    | registers | touches | settles => exact Table.get?_put_ne_none hfilled
    | sweeps cutoff =>
      intro hnone
      rw [Table.get?_mapValues, Option.map_eq_none_iff] at hnone
      exact hfilled hnone
    | _ => exact hfilled
  | cursor service =>
    cases h with
    | saves => exact Table.get?_put_ne_none hfilled
    | _ => exact hfilled

/-- A job is inserted only where there is none. -/
lemma Performs.eq_none_of_inserted {new : NewJob} {now : Timestamp} {job : Job}
    (h : s.Performs (.insertJob new now) (.ok job) s') : s.jobs.get? new.id = none := by
  cases h with
  | misses hidle => cases hidle
  | reads _ hplace => cases hplace
  | inserts _ hnew => exact hnew

/-- Whatever a store is asked, it stays as it is if it fails or tells of nothing found or changed,
and otherwise differs at most at the place that the call names; there it has a row then, which is
new only if the call may add one, and always new if a job is inserted.  No row is removed.  In every
store that can come about each row stands under its own key, and no call puts one elsewhere. -/
theorem confined_to_place (s : MemoryStore) (c : StoreCall) :
    (c.IsIdle (s.perform c).1 → (s.perform c).2 = s) ∧
    c.place.Confines s (s.perform c).2 ∧
    (¬ c.IsIdle (s.perform c).1 →
      c.place.IsFilled (s.perform c).2 ∧ (c.mayAdd = false → c.place.IsFilled s)) ∧
    (∀ new now job, (s.perform (.insertJob new now)).1 = .ok job → s.jobs.get? new.id = none) ∧
    (∀ place : StorePlace, place.IsFilled s → place.IsFilled (s.perform c).2) ∧
    (s.Arises → s.Keyed) ∧ (s.Keyed → (s.perform c).2.Keyed) := by
  have hperforms := s.performs c
  refine ⟨hperforms.eq_of_isIdle, hperforms.confined, hperforms.filled, ?_,
    fun place => hperforms.isFilled, Arises.keyed, fun h => h.perform c⟩
  intro new now job htold
  have hinserts := s.performs (.insertJob new now)
  rw [htold] at hinserts
  exact hinserts.eq_none_of_inserted

/-- A store with two jobs that wait for their delivery. -/
def twoWaiting : MemoryStore :=
  ((empty.perform (.insertJob ⟨"a", "r", "p", "i", "c", "1"⟩ default)).2.perform
    (.insertJob ⟨"b", "r", "p", "i", "c", "1"⟩ default)).2

/-- Of two jobs one is assigned, and the other is left alone; a worker that takes the job for
assigned already is told of no row, and leaves the store as it is. -/
theorem assigned_beside_another :
    twoWaiting.Arises ∧ twoWaiting.Keyed ∧
    ((twoWaiting.perform (.transitionJob "a" .created (.assigned default))).2.jobs.get? "a").map
      (·.status) = some .assigned ∧
    (∃ jobs, (twoWaiting.perform (.transitionJob "a" .created (.assigned default))).2 =
        { twoWaiting with jobs := jobs } ∧
      jobs.get? "b" = twoWaiting.jobs.get? "b" ∧ jobs.get? "b" ≠ none) ∧
    (twoWaiting.perform (.transitionJob "a" .assigned (.assigned default))).2 = twoWaiting := by
  have harises : twoWaiting.Arises := .perform (.perform .empty _) _
  obtain ⟨-, ⟨jobs, hjobs, hothers⟩, -, -, -, hkeyed, -⟩ :=
    confined_to_place twoWaiting (.transitionJob "a" .created (.assigned default))
  obtain ⟨hidle, -⟩ :=
    confined_to_place twoWaiting (.transitionJob "a" .assigned (.assigned default))
  refine ⟨harises, hkeyed harises, rfl, ⟨jobs, hjobs, hothers "b" (by decide), ?_⟩, hidle rfl⟩
  rw [hothers "b" (by decide)]
  exact Option.some_ne_none _

end MemoryStore

end ComputeExchange
