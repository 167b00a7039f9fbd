import ComputeExchange.Proofs.Store.Providers

/-!
# Rows under their own keys

A store keeps a job under its id and a provider under its wallet, one row for each
(`MemoryStore.Arises.keyed`).  `Table.KeyedBy` says this of a table; putting a row under its own key
and changing rows without touching their keys keep it so.
-/

namespace ComputeExchange

namespace Table

variable {α : Type} {name : α → String} {t : Table α} {key : String} {row : α}

/-- Whether every row of a table stands under its own key, each key once. -/
structure KeyedBy (name : α → String) (t : Table α) : Prop where
  nodup : t.keys.Nodup
  name_eq : ∀ r ∈ t.rows, name r.2 = r.1

lemma KeyedBy.empty : (empty : Table α).KeyedBy name :=
  ⟨List.nodup_nil, fun _ hr => absurd hr List.not_mem_nil⟩

/-- What is found under a key is the row that stands there. -/
lemma find?_eq_some_iff {rows : List (String × α)} (hnodup : (rows.map (·.1)).Nodup) :
    find? key rows = some row ↔ (key, row) ∈ rows := by
  induction rows with
  | nil => simp [find?]
  | cons r rows ih =>
    obtain ⟨k, old⟩ := r
    obtain ⟨hk, hnodup⟩ := List.nodup_cons.mp hnodup
    by_cases hkey : k = key
    · subst hkey
      have hrest : (k, row) ∉ rows := fun h => hk (List.mem_map.mpr ⟨(k, row), h, rfl⟩)
      simp only [find?, if_true, Option.some.injEq, List.mem_cons, Prod.mk.injEq, true_and, hrest,
        or_false]
      exact eq_comm
    · simp only [find?, if_neg hkey, ih hnodup, List.mem_cons, Prod.mk.injEq, Ne.symm hkey,
        false_and, false_or]

/-- The row under a key. -/
lemma KeyedBy.get?_eq_some_iff (h : t.KeyedBy name) : t.get? key = some row ↔ (key, row) ∈ t.rows :=
  find?_eq_some_iff h.nodup

/-- A row that is found has the key under which it is found. -/
lemma KeyedBy.name_of_get? (h : t.KeyedBy name) (hrow : t.get? key = some row) : name row = key :=
  h.name_eq _ (h.get?_eq_some_iff.mp hrow)

/-- The values of a table are the rows that are found in it. -/
lemma KeyedBy.mem_values_iff (h : t.KeyedBy name) :
    row ∈ t.values ↔ ∃ key, t.get? key = some row := by
  unfold values
  rw [List.mem_map]
  constructor
  · rintro ⟨⟨k, row'⟩, hmem, rfl⟩
    exact ⟨k, h.get?_eq_some_iff.mpr hmem⟩
  · rintro ⟨k, hk⟩
    exact ⟨(k, row), h.get?_eq_some_iff.mp hk, rfl⟩

/-- No two values of a table have the same name. -/
lemma KeyedBy.pairwise_values (h : t.KeyedBy name) :
    t.values.Pairwise fun a b => name a ≠ name b := by
  have hnames : t.rows.map (fun r => name r.2) = t.keys := List.map_congr_left h.name_eq
  unfold values
  rw [List.pairwise_map]
  have hnodup := h.nodup
  rw [← hnames, List.Nodup, List.pairwise_map] at hnodup
  exact hnodup

/-- A row that is put under its own key stands there. -/
lemma KeyedBy.put (h : t.KeyedBy name) (hrow : name row = key) : (t.put key row).KeyedBy name := by
  refine ⟨?_, ?_⟩
  · rw [keys_put]
    by_cases hkey : key ∈ t.keys
    · rw [if_pos hkey]
      exact h.nodup
    · rw [if_neg hkey]
      refine List.nodup_append.mpr ⟨h.nodup, List.nodup_singleton _, ?_⟩
      rintro known hknown _ hsame rfl
      exact hkey (List.eq_of_mem_singleton hsame ▸ hknown)
  · have hset : ∀ rows : List (String × α), (∀ r ∈ rows, name r.2 = r.1) →
        ∀ r ∈ set key row rows, name r.2 = r.1 := by
      intro rows
      induction rows with
      | nil =>
        intro _ r hr
        obtain rfl := List.mem_singleton.mp hr
        exact hrow
      | cons old rows ih =>
        intro hrows
        rw [List.forall_mem_cons] at hrows
        unfold set
        by_cases hkey : old.1 = key
        · rw [if_pos hkey]
          exact List.forall_mem_cons.mpr ⟨hrow, hrows.2⟩
        · rw [if_neg hkey]
          exact List.forall_mem_cons.mpr ⟨hrows.1, ih hrows.2⟩
    exact hset t.rows h.name_eq

/-- Changing rows without touching their names leaves every row under its own key. -/
lemma KeyedBy.mapValues (h : t.KeyedBy name) {f : α → α} (hf : ∀ a, name (f a) = name a) :
    (t.mapValues f).KeyedBy name := by
  refine ⟨?_, ?_⟩
  · rw [keys_mapValues]
    exact h.nodup
  · intro r hr
    obtain ⟨r', hr', rfl⟩ := List.mem_map.mp hr
    exact (hf r'.2).trans (h.name_eq r' hr')

end Table

namespace MemoryStore

/-- Whether every job of a store stands under its id and every provider under its wallet. -/
structure Keyed (s : MemoryStore) : Prop where
  jobs : s.jobs.KeyedBy Job.id
  providers : s.providers.KeyedBy Provider.wallet

lemma keyed_empty : empty.Keyed := ⟨.empty, .empty⟩

/-- A call leaves every row under its own key. -/
lemma Keyed.perform {s : MemoryStore} (h : s.Keyed) (c : StoreCall) : (s.perform c).2.Keyed := by
  unfold MemoryStore.perform
  by_cases hdown : s.isUnavailable = true
  · rw [if_pos hdown]
    exact h
  rw [if_neg hdown]
  cases c with
  | insertJob new now =>
    cases hrow : s.jobs.get? new.id with
    | some job =>
      simp only [hrow]
      exact h
    | none =>
      simp only [hrow]
      exact ⟨h.jobs.put rfl, h.providers⟩
  | transitionJob id source change =>
    cases hrow : s.jobs.get? id with
    | none =>
      simp only [hrow]
      exact h
    | some job =>
      simp only [hrow]
      by_cases hstatus : job.status = source
      · rw [if_pos hstatus]
        have hid : job.id = id := h.jobs.name_of_get? hrow
        exact ⟨h.jobs.put hid, h.providers⟩
      · rw [if_neg hstatus]
        exact h
  | upsertProvider r now =>
    refine ⟨h.jobs, h.providers.put ?_⟩
    cases hrow : s.providers.get? r.wallet with
    | none => rfl
    | some known =>
      have hwallet : known.wallet = r.wallet := h.providers.name_of_get? hrow
      exact hwallet
  | touchProvider wallet now =>
    cases hrow : s.providers.get? wallet with
    | none =>
      simp only [hrow]
      exact h
    | some p =>
      simp only [hrow]
      have hwallet : p.wallet = wallet := h.providers.name_of_get? hrow
      exact ⟨h.jobs, h.providers.put hwallet⟩
  | markOfflineBefore cutoff =>
    have hwallet : ∀ p : Provider,
        (if p.isStale cutoff then { p with isOnline := false } else p).wallet = p.wallet := by
      intro p
      split <;> rfl
    exact ⟨h.jobs, h.providers.mapValues hwallet⟩
  | recordSettlement wallet count now =>
    cases hrow : s.providers.get? wallet with
    | none =>
      simp only [hrow]
      exact h
    | some p =>
      simp only [hrow]
      have hwallet : p.wallet = wallet := h.providers.name_of_get? hrow
      exact ⟨h.jobs, h.providers.put hwallet⟩
  | saveCursor service block => exact ⟨h.jobs, h.providers⟩
  | _ => exact h

/-- Giving a provider another time of its last sign of life leaves every row under its own key. -/
lemma Keyed.setLastSeen {s : MemoryStore} (h : s.Keyed) (wallet : String) (at_ : Timestamp) :
    (s.setLastSeen wallet at_).Keyed := by
  unfold MemoryStore.setLastSeen
  cases hrow : s.providers.get? wallet with
  | none => exact h
  | some p =>
    have hwallet : p.wallet = wallet := h.providers.name_of_get? hrow
    exact ⟨h.jobs, h.providers.put hwallet⟩

/-- The stores that can come about: calls are performed one after another, a provider may be given
another time of its last sign of life, and calls may be refused for a while. -/
inductive Arises : MemoryStore → Prop where
  | empty : Arises .empty
  | perform {s : MemoryStore} (h : Arises s) (c : StoreCall) : Arises (s.perform c).2
  | setLastSeen {s : MemoryStore} (h : Arises s) (wallet : String) (at_ : Timestamp) :
      Arises (s.setLastSeen wallet at_)
  | refuse {s : MemoryStore} (h : Arises s) (value : Bool) :
      Arises { s with isUnavailable := value }

/-- In every store that can come about each row stands under its own key. -/
theorem Arises.keyed {s : MemoryStore} (h : s.Arises) : s.Keyed := by
  induction h with
  | empty => exact keyed_empty
  | perform _ c ih => exact ih.perform c
  | setLastSeen _ wallet at_ ih => exact ih.setLastSeen wallet at_
  | refuse _ value ih => exact ⟨ih.jobs, ih.providers⟩

end MemoryStore

end ComputeExchange
