import ComputeExchange.Proofs.Provider.Record
import ComputeExchange.Store.Memory

/-!
# Providers in a store

What the calls of a store do to the row of a provider is what `StoreCall.onProvider` says, and which
wallets have rows is what `StoreCall.onWallets` says, unless they fail, and then they do nothing
(`MemoryStore.providers_perform`).  A store keeps one row for each wallet, and a table with one row
for each key is known by its keys and by what is found under them (`Table.ext_of_keys`).
-/

namespace ComputeExchange

namespace Table

variable {α : Type}

/-- The keys of a table, one for each row. -/
def keys (t : Table α) : List String := t.rows.map (·.1)

/-- A row that is put into a table takes the place of the one under its key. -/
lemma keys_put (t : Table α) (key : String) (row : α) :
    (t.put key row).keys = if key ∈ t.keys then t.keys else t.keys ++ [key] := by
  obtain ⟨rows⟩ := t
  unfold keys put
  induction rows with
  | nil => simp [set]
  | cons r rows ih =>
    obtain ⟨k, old⟩ := r
    by_cases hk : k = key
    · subst hk
      simp [set]
    · simp only [set, if_neg hk, List.map_cons, List.mem_cons, Ne.symm hk, false_or, ih]
      split <;> rfl

lemma keys_mapValues (t : Table α) (f : α → α) : (t.mapValues f).keys = t.keys := by
  simp [keys, mapValues, Function.comp_def]

/-- Changing every row changes all values. -/
lemma values_mapValues {t : Table α} {f : α → α} : (t.mapValues f).values = t.values.map f := by
  simp only [values, mapValues, List.map_map, Function.comp_def]

/-- What a change of every row does is told by the rows that there are. -/
lemma mapValues_congr {t : Table α} {f g : α → α} (h : ∀ row ∈ t.values, f row = g row) :
    t.mapValues f = t.mapValues g :=
  congrArg Table.mk (List.map_congr_left fun r hr =>
    congrArg (Prod.mk r.1) (h r.2 (List.mem_map_of_mem hr)))

lemma mapValues_eq_self {t : Table α} {f : α → α} (h : ∀ row ∈ t.values, f row = row) :
    t.mapValues f = t := by
  rw [mapValues_congr h]
  exact congrArg Table.mk (List.map_id _)

/-- What is found is found under a key. -/
lemma mem_of_find?_eq_some {rows : List (String × α)} {key : String} {row : α}
    (h : find? key rows = some row) : key ∈ rows.map (·.1) := by
  induction rows with
  | nil => cases h
  | cons r rows ih =>
    by_cases hk : r.1 = key
    · exact List.mem_map.mpr ⟨r, List.mem_cons_self, hk⟩
    · exact List.mem_cons_of_mem _ (ih ((if_neg hk).symm.trans h))

/-- Putting a row in the place of another adds no key. -/
lemma keys_put_of_some {t : Table α} {key : String} {old : α} (h : t.get? key = some old)
    (row : α) : (t.put key row).keys = t.keys := by
  rw [keys_put]
  exact if_pos (mem_of_find?_eq_some h)

/-- Rows with one row for each key are known by their keys and by what is found under them. -/
lemma rows_eq_of_find?_eq {rows rows' : List (String × α)}
    (hkeys : rows.map (·.1) = rows'.map (·.1)) (hnodup : (rows.map (·.1)).Nodup)
    (hfind : ∀ key, find? key rows = find? key rows') : rows = rows' := by
  induction rows generalizing rows' with
  | nil => exact (List.map_eq_nil_iff.mp hkeys.symm).symm
  | cons r rows ih =>
    obtain ⟨k, row⟩ := r
    cases rows' with
    | nil => cases hkeys
    | cons r' rows' =>
      obtain ⟨k', row'⟩ := r'
      obtain ⟨rfl, hrest⟩ := List.cons.inj hkeys
      obtain ⟨hk, hnodup⟩ := List.nodup_cons.mp hnodup
      have hrow : row = row' := by simpa [find?] using hfind k
      subst hrow
      refine congrArg _ (ih hrest hnodup fun key => ?_)
      by_cases hkey : k = key
      · -- The first row hides nothing, since its key is found nowhere else.
        subst hkey
        have hnone : ∀ rows : List (String × α), k ∉ rows.map (·.1) → find? k rows = none :=
          fun rows hmem => Option.eq_none_iff_forall_ne_some.mpr fun row hsome =>
            hmem (mem_of_find?_eq_some hsome)
        rw [hnone rows hk, hnone rows' (hrest ▸ hk)]
      · simpa [find?, hkey] using hfind key

/-- Tables with one row for each key are the same if their keys are and what is found under them
is. -/
theorem ext_of_keys {t t' : Table α} (hkeys : t.keys = t'.keys) (hnodup : t.keys.Nodup)
    (hget : ∀ key, t.get? key = t'.get? key) : t = t' :=
  congrArg Table.mk (rows_eq_of_find?_eq hkeys hnodup hget)

/-- Changing the row under a key where there is none changes nothing. -/
lemma get?_of_none {t : Table α} {key : String} (h : t.get? key = none) (f : α → α)
    (other : String) :
    t.get? other = if key = other then (t.get? other).map f else t.get? other := by
  by_cases hkey : key = other
  · subst hkey
    rw [h]
    exact (ite_self _).symm
  · exact (if_neg hkey).symm

/-- Changing the row under a key changes no other row. -/
lemma get?_put_map {t : Table α} {key : String} {row : α} (h : t.get? key = some row) (f : α → α)
    (other : String) :
    (t.put key (f row)).get? other =
      if key = other then (t.get? other).map f else t.get? other := by
  rw [get?_put]
  by_cases hkey : key = other
  · subst hkey
    rw [if_pos rfl, if_pos rfl, h]
    rfl
  · rw [if_neg hkey, if_neg hkey]

end Table

/-- What a call to a store makes of the wallets that have rows, if it succeeds. -/
def StoreCall.onWallets : StoreCall → List String → List String
  | .upsertProvider r _, wallets => if r.wallet ∈ wallets then wallets else wallets ++ [r.wallet]
  | _, wallets => wallets

/-- Each wallet that has a row is named once. -/
lemma StoreCall.nodup_onWallets (c : StoreCall) {wallets : List String} (h : wallets.Nodup) :
    (c.onWallets wallets).Nodup := by
  cases c with
  | upsertProvider r now =>
    unfold onWallets
    by_cases hwallet : r.wallet ∈ wallets
    · simpa only [if_pos hwallet] using h
    · simp only [if_neg hwallet]
      refine List.nodup_append.mpr ⟨h, List.nodup_singleton _, ?_⟩
      rintro known hknown _ hsame rfl
      exact hwallet (List.eq_of_mem_singleton hsame ▸ hknown)
  | _ => exact h

/-- Whether a table of providers is what a call makes of another, if it succeeds. -/
structure StoreCall.Makes (c : StoreCall) (t t' : Table Provider) : Prop where
  rows : ∀ wallet, t'.get? wallet = c.onProvider wallet (t.get? wallet)
  wallets : t'.keys = c.onWallets t.keys

namespace MemoryStore

/-- A call succeeds and makes of the providers what it should, or fails and leaves the store as it
is. -/
theorem providers_perform (s : MemoryStore) (c : StoreCall) :
    (∃ answer, (s.perform c).1 = .ok answer ∧ c.Makes s.providers (s.perform c).2.providers) ∨
      ∃ e, s.perform c = (.error e, s) := by
  unfold perform
  by_cases hdown : s.isUnavailable = true
  · rw [if_pos hdown]
    exact Or.inr ⟨_, rfl⟩
  rw [if_neg hdown]
  cases c with
  | insertJob new now =>
    cases hrow : s.jobs.get? new.id with
    | none =>
      simp only [hrow]
      exact Or.inl ⟨_, rfl, fun _ => rfl, rfl⟩
    | some job =>
      simp only [hrow]
      exact Or.inr ⟨_, rfl⟩
  | transitionJob id source change =>
    refine Or.inl ?_
    cases hrow : s.jobs.get? id with
    | none =>
      simp only [hrow]
      exact ⟨_, rfl, fun _ => rfl, rfl⟩
    | some job =>
      simp only [hrow]
      by_cases hstatus : job.status = source
      · rw [if_pos hstatus]
        exact ⟨_, rfl, fun _ => rfl, rfl⟩
      · rw [if_neg hstatus]
        exact ⟨_, rfl, fun _ => rfl, rfl⟩
  | upsertProvider r now =>
    refine Or.inl ⟨_, rfl, fun wallet => ?_, Table.keys_put _ _ _⟩
    simp only [Table.get?_put, StoreCall.onProvider]
    by_cases hwallet : r.wallet = wallet
    · subst hwallet
      refine (if_pos rfl).trans (Eq.trans ?_ (if_pos rfl).symm)
      cases s.providers.get? r.wallet <;> rfl
    · rw [if_neg hwallet, if_neg hwallet]
  | touchProvider w now =>
    refine Or.inl ?_
    cases hrow : s.providers.get? w with
    | none =>
      simp only [hrow]
      exact ⟨_, rfl, Table.get?_of_none hrow _, rfl⟩
    | some p =>
      simp only [hrow]
      exact ⟨_, rfl, Table.get?_put_map hrow (·.touch now), Table.keys_put_of_some hrow _⟩
  | markOfflineBefore cutoff =>
    refine Or.inl ⟨_, rfl, fun wallet => ?_, Table.keys_mapValues _ _⟩
    simp only [Table.get?_mapValues, StoreCall.onProvider, Provider.swept_eq]
  | recordSettlement w count now =>
    refine Or.inl ?_
    cases hrow : s.providers.get? w with
    | none =>
      simp only [hrow]
      exact ⟨_, rfl, Table.get?_of_none hrow _, rfl⟩
    | some p =>
      simp only [hrow]
      exact ⟨_, rfl, Table.get?_put_map hrow (·.settle count now), Table.keys_put_of_some hrow _⟩
  | _ => exact Or.inl ⟨_, rfl, fun _ => rfl, rfl⟩

/-- A call keeps one row for each wallet. -/
lemma nodup_keys_perform {s : MemoryStore} (h : s.providers.keys.Nodup) (c : StoreCall) :
    (s.perform c).2.providers.keys.Nodup := by
  rcases s.providers_perform c with ⟨_, -, hmade⟩ | ⟨e, hperform⟩
  · rw [hmade.wallets]
    exact c.nodup_onWallets h
  · rw [hperform]
    exact h

end MemoryStore

end ComputeExchange
