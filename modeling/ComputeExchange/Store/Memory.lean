import ComputeExchange.Store.Call

/-!
# A store in memory

Tables are lists of rows with one row for each key.  A call either fails and leaves the tables as
they are, or succeeds and changes the rows it is about.
-/

namespace ComputeExchange

/-- Rows by key, each key once. -/
structure Table (α : Type) where
  rows : List (String × α)
  deriving Inhabited

namespace Table

variable {α : Type}

/-- The first row under a key. -/
def find? (key : String) : List (String × α) → Option α
  | [] => none
  | (k, row) :: rest => if k = key then some row else find? key rest

/-- The rows with that under a key replaced, or added at the end. -/
def set (key : String) (row : α) : List (String × α) → List (String × α)
  | [] => [(key, row)]
  | (k, old) :: rest => if k = key then (key, row) :: rest else (k, old) :: set key row rest

/-- The table without rows. -/
def empty : Table α := ⟨[]⟩

/-- The row under a key. -/
def get? (t : Table α) (key : String) : Option α := find? key t.rows

/-- The row under a key replaced, or added at the end. -/
def put (t : Table α) (key : String) (row : α) : Table α := ⟨set key row t.rows⟩

/-- All rows. -/
def values (t : Table α) : List α := t.rows.map (·.2)

/-- Every row changed by the same function. -/
def mapValues (t : Table α) (f : α → α) : Table α := ⟨t.rows.map fun r => (r.1, f r.2)⟩

@[simp] theorem get?_empty (key : String) : (empty : Table α).get? key = none := rfl

theorem get?_put (t : Table α) (key other : String) (row : α) :
    (t.put key row).get? other = if key = other then some row else t.get? other := by
  obtain ⟨rows⟩ := t
  simp only [put, get?]
  induction rows with
  | nil => simp [set, find?]
  | cons r rows ih =>
    obtain ⟨k, old⟩ := r
    by_cases hk : k = key
    · subst hk; by_cases ho : k = other <;> simp [set, find?, ho]
    · by_cases ho : k = other
      · subst ho; simp [set, find?, hk, Ne.symm hk]
      · simp [set, find?, hk, ho, ih]

theorem get?_mapValues (t : Table α) (f : α → α) (key : String) :
    (t.mapValues f).get? key = (t.get? key).map f := by
  obtain ⟨rows⟩ := t
  simp only [mapValues, get?]
  induction rows with
  | nil => rfl
  | cons r rows ih =>
    obtain ⟨k, row⟩ := r
    by_cases hk : k = key <;> simp [find?, hk, ih]

end Table

/-- A store in memory. -/
structure MemoryStore where
  jobs : Table Job
  providers : Table Provider
  cursors : Table UInt64
  /-- Whether every call is refused for now. -/
  isUnavailable : Bool
  deriving Inhabited

namespace MemoryStore

/-- A store without rows. -/
def empty : MemoryStore := ⟨.empty, .empty, .empty, false⟩

/-- The jobs a filter admits, in the order of listings. -/
def matchingJobs (s : MemoryStore) (f : JobFilter) : List Job :=
  (s.jobs.values.filter f.admits).mergeSort Job.listsBefore

/-- The online providers a filter admits, in the order of listings. -/
def matchingProviders (s : MemoryStore) (f : NodeFilter) : List Provider :=
  (s.providers.values.filter fun p => p.isOnline && f.admits p).mergeSort Provider.listsBefore

/-- Performs a call: what it answers, and the store after it. -/
def perform (s : MemoryStore) (c : StoreCall) : Except StoreError c.Answer × MemoryStore :=
  if s.isUnavailable then (.error .unavailable, s)
  else
    match c with
    | .insertJob new now =>
      match s.jobs.get? new.id with
      | some _ => (.error (.duplicate new.id), s)
      | none =>
        let job := Job.ofNew new now
        (.ok job, { s with jobs := s.jobs.put new.id job })
    | .getJob id => (.ok (s.jobs.get? id), s)
    | .transitionJob id source change =>
      match s.jobs.get? id with
      | none => (.ok none, s)
      | some job =>
        if job.status = source then
          let job := job.apply change
          (.ok (some job), { s with jobs := s.jobs.put id job })
        else (.ok none, s)
    | .listJobs filter => (.ok (filter.page.cut (s.matchingJobs filter)), s)
    | .upsertProvider registration now =>
      let provider :=
        match s.providers.get? registration.wallet with
        | some known => known.register registration now
        | none => Provider.ofRegistration registration now
      (.ok provider, { s with providers := s.providers.put registration.wallet provider })
    | .touchProvider wallet now =>
      match s.providers.get? wallet with
      | none => (.ok false, s)
      | some p => (.ok true, { s with providers := s.providers.put wallet (p.touch now) })
    | .markOfflineBefore cutoff =>
      (.ok (s.providers.values.countP (·.isStale cutoff)),
        { s with providers := s.providers.mapValues fun p =>
            if p.isStale cutoff then { p with isOnline := false } else p })
    | .getProvider wallet => (.ok (s.providers.get? wallet), s)
    | .listActiveProviders filter => (.ok (filter.page.cut (s.matchingProviders filter)), s)
    | .recordSettlement wallet count now =>
      match s.providers.get? wallet with
      | none => (.ok false, s)
      | some p => (.ok true, { s with providers := s.providers.put wallet (p.settle count now) })
    | .loadCursor service => (.ok (s.cursors.get? service), s)
    | .saveCursor service block => (.ok (), { s with cursors := s.cursors.put service block })

/-- A provider's row with another time of its last sign of life. -/
def setLastSeen (s : MemoryStore) (wallet : String) (at_ : Timestamp) : MemoryStore :=
  match s.providers.get? wallet with
  | none => s
  | some p => { s with providers := s.providers.put wallet { p with lastSeen := at_ } }

/-- The store in memory as a store. -/
def store : Store (StateM MemoryStore) where
  perform c s := s.perform c

end MemoryStore

end ComputeExchange
