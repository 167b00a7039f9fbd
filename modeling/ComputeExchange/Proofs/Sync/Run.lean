import ComputeExchange.Proofs.Sync.Pass

/-!
# Passes over a chain that does not change

`FixedChain` is a chain whose events of each kind are fixed and stand in the order of their blocks;
`FixedChain.Explains` says that every fetch that succeeds is answered from it.  `Run` is a
synchronizer that makes one pass after another, whatever its calls are answered with.

The cut of a chain into windows loses and repeats nothing: `FixedChain.after_append_after` puts the
events of consecutive stretches of blocks together, and `Tiles.flatMap_slice` does so for the
windows of a pass.
-/

namespace ComputeExchange

open Program

/-- What two filters keep, one after the other, is what both keep together, if all that the first
keeps stands before all that the second keeps. -/
lemma filter_append_filter {α : Type} {p q : α → Bool} {l : List α}
    (hdisjoint : ∀ a ∈ l, p a = true → ¬ q a = true)
    (hbefore : l.Pairwise fun a b => q a = true → ¬ p b = true) :
    l.filter p ++ l.filter q = l.filter fun a => p a || q a := by
  induction l with
  | nil => rfl
  | cons a rest ih =>
    rw [List.pairwise_cons] at hbefore
    obtain ⟨hhead, hrest⟩ := hbefore
    have hih := ih (fun x hx => hdisjoint x (List.mem_cons_of_mem a hx)) hrest
    by_cases hq : q a = true
    · -- From here on only the second filter keeps anything.
      have hp : ¬ p a = true := fun hp => hdisjoint a List.mem_cons_self hp hq
      have hnil : rest.filter p = [] := List.filter_eq_nil_iff.mpr fun x hx => hhead x hx hq
      rw [hnil, List.nil_append] at hih
      simp [hp, hq, hnil, hih]
    · by_cases hp : p a = true
      · simp [hp, hq, ← hih]
      · simp [hp, hq, ← hih]

/-- A chain whose events of each kind are fixed and stand in the order of their blocks. -/
structure FixedChain (κ ε : Type) where
  /-- The block of an event. -/
  block : ε → UInt64
  /-- The events of a kind. -/
  events : κ → List ε
  sorted : ∀ kind, (events kind).Pairwise fun a b => block a ≤ block b

namespace FixedChain

variable {κ ε : Type} (chain : FixedChain κ ε)

/-- The events of a kind in the blocks from the first to the last. -/
def slice (kind : κ) (first last : UInt64) : List ε :=
  (chain.events kind).filter fun e => decide (first ≤ chain.block e ∧ chain.block e ≤ last)

/-- The events of a kind after a block, up to another. -/
def after (kind : κ) (start stop : UInt64) : List ε :=
  (chain.events kind).filter fun e => decide (start < chain.block e ∧ chain.block e ≤ stop)

/-- Every fetch that succeeds is answered with the events of the chain. -/
def Explains (t : SyncTrace κ ε) : Prop :=
  ∀ kind first last events, (⟨.fetch kind first last, .ok events⟩ : Event _) ∈ t →
    events = chain.slice kind first last

variable {chain} in
/-- What a chain explains it explains of fewer calls. -/
lemma Explains.subset {t u : SyncTrace κ ε} (h : chain.Explains t) (hsub : u ⊆ t) :
    chain.Explains u :=
  fun kind first last events hmem => h kind first last events (hsub hmem)

variable {chain} in
/-- The events fetched in a window lie in it. -/
lemma Explains.block_mem {t : SyncTrace κ ε} (h : chain.Explains t) {first last : UInt64}
    {batches : List (κ × List ε)} (hsub : Synchronizer.fetches first last batches ⊆ t) :
    ∀ e ∈ batches.flatMap (·.2), first ≤ chain.block e ∧ chain.block e ≤ last := by
  intro e he
  obtain ⟨batch, hbatch, he⟩ := List.mem_flatMap.mp he
  rw [h batch.1 first last batch.2 (hsub (List.mem_map_of_mem hbatch))] at he
  exact of_decide_eq_true (List.mem_filter.mp he).2

/-- No event lies after a block and before the next. -/
lemma after_self (kind : κ) (start : UInt64) : chain.after kind start start = [] := by
  refine List.filter_eq_nil_iff.mpr fun e _ => ?_
  rw [decide_eq_true_eq, UInt64.lt_iff_toNat_lt, UInt64.le_iff_toNat_le]
  omega

/-- A window that starts with the next block has the events after the block before. -/
lemma slice_eq_after (kind : κ) {start first : UInt64} (h : first.toNat = start.toNat + 1)
    (last : UInt64) : chain.slice kind first last = chain.after kind start last := by
  refine List.filter_congr fun e _ => ?_
  rw [decide_eq_decide, UInt64.le_iff_toNat_le, h, UInt64.lt_iff_toNat_lt]
  exact Iff.rfl

/-- The events of two consecutive stretches of blocks, one after the other, are those of both. -/
lemma after_append_after (kind : κ) {start middle stop : UInt64} (h₁ : start ≤ middle)
    (h₂ : middle ≤ stop) :
    chain.after kind start middle ++ chain.after kind middle stop =
      chain.after kind start stop := by
  rw [after, after, filter_append_filter]
  · refine List.filter_congr fun e _ => ?_
    rw [Bool.eq_iff_iff, Bool.or_eq_true, decide_eq_true_eq, decide_eq_true_eq, decide_eq_true_eq]
    rw [UInt64.le_iff_toNat_le] at h₁ h₂
    simp only [UInt64.lt_iff_toNat_lt, UInt64.le_iff_toNat_le]
    omega
  · intro e _ hp hq
    exact UInt64.not_lt.mpr (of_decide_eq_true hp).2 (of_decide_eq_true hq).1
  · refine (chain.sorted kind).imp fun {a b} hab hq hp => ?_
    have hlt : middle < chain.block b := UInt64.lt_of_lt_of_le (of_decide_eq_true hq).1 hab
    exact UInt64.not_lt.mpr (of_decide_eq_true hp).2 hlt

/-- The chain of one kind whose only event is the number of its block. -/
def single (block : UInt64) : FixedChain Unit UInt64 where
  block := id
  events := fun _ => [block]
  sorted := fun _ => List.pairwise_singleton _ _

end FixedChain

namespace Synchronizer

variable {κ ε : Type} {label : κ → String} {kinds : List κ} {config : Sync.Config}

/-! ### Windows of a fixed chain -/

/-- The events of windows that follow one another are those of all the blocks that they pass. -/
lemma Tiles.flatMap_slice (chain : FixedChain κ ε) (kind : κ) {start stop : UInt64}
    {ws : List (Window kinds ε)} (h : Tiles start ws stop) :
    ws.flatMap (fun w => chain.slice kind w.first w.last) = chain.after kind start stop := by
  induction ws generalizing start with
  | nil =>
    obtain rfl := h
    exact (chain.after_self kind stop).symm
  | cons w ws ih =>
    obtain ⟨hfirst, hrest⟩ := h
    have hstart : start ≤ w.last := by
      have := UInt64.le_iff_toNat_le.mp w.first_le
      rw [UInt64.le_iff_toNat_le]
      omega
    rw [List.flatMap_cons, ih hrest, chain.slice_eq_after kind hfirst,
      chain.after_append_after kind hstart hrest.le]

/-- What has been fetched of each kind in a window is what the chain has there. -/
lemma batches_eq_slices {chain : FixedChain κ ε} {first last : UInt64} {batches : List (κ × List ε)}
    (hchain : chain.Explains (fetches first last batches)) (hfetched : batches.map (·.1) = kinds) :
    batches = kinds.map fun kind => (kind, chain.slice kind first last) := by
  have hbatch : ∀ batch ∈ batches, batch = (batch.1, chain.slice batch.1 first last) := by
    intro batch hmem
    exact Prod.ext rfl (hchain batch.1 first last batch.2 (List.mem_map_of_mem hmem))
  calc batches
      = batches.map fun batch => (batch.1, chain.slice batch.1 first last) := by
        conv_lhs => rw [← List.map_id batches]
        exact List.map_congr_left hbatch
    _ = (batches.map (·.1)).map fun kind => (kind, chain.slice kind first last) := by
        rw [List.map_map]
        rfl
    _ = kinds.map fun kind => (kind, chain.slice kind first last) := by
        rw [hfetched]

/-- What a window has fetched of a chain is what the chain has there. -/
lemma Window.batches_eq {chain : FixedChain κ ε} (w : Window kinds ε)
    (hchain : chain.Explains w.work) :
    w.batches = kinds.map fun kind => (kind, chain.slice kind w.first w.last) :=
  batches_eq_slices (hchain.subset (List.subset_append_left _ _)) w.fetched

/-! ### One pass after another -/

/-- A pass: the cursor it starts from, what it calls, its result and the cursor it leaves. -/
structure Pass (κ ε : Type) where
  start : UInt64
  trace : SyncTrace κ ε
  result : Except SyncError Sync.Outcome
  stop : UInt64

/-- Passes of a synchronizer, each from the cursor that the one before has left. -/
inductive Run (label : κ → String) (kinds : List κ) (config : Sync.Config) :
    UInt64 → List (Pass κ ε) → UInt64 → Prop where
  | nil (cursor : UInt64) : Run label kinds config cursor [] cursor
  | cons {p : Pass κ ε} {passes : List (Pass κ ε)} {stop : UInt64}
      (hpass : Runs ((asking label kinds config).poll (some p.start)) p.trace
        (p.result, some p.stop))
      (hrest : Run label kinds config p.stop passes stop) :
      Run label kinds config p.start (p :: passes) stop

/-- Every pass of a run has the shape of a pass. -/
lemma Run.passed {start stop : UInt64} {passes : List (Pass κ ε)}
    (h : Run label kinds config start passes stop) :
    ∀ p ∈ passes, Passed label kinds config p.start p.trace p.result p.stop := by
  induction h with
  | nil => simp
  | @cons p passes stop hpass _ ih =>
    refine List.forall_mem_cons.mpr ⟨?_, ih⟩
    obtain ⟨cursor, hcursor, hpassed⟩ := passed_of_runs_poll hpass
    rwa [Option.some.inj hcursor]

/-- A pass never leads back. -/
lemma Passed.le {start stop : UInt64} {t : SyncTrace κ ε} {r : Except SyncError Sync.Outcome}
    (h : Passed label kinds config start t r stop) : start ≤ stop := by
  cases h with
  | headless => exact UInt64.le_refl _
  | idle => exact UInt64.le_refl _
  | walked _ _ htiles => exact htiles.le

/-- A run never leads back. -/
lemma Run.le {start stop : UInt64} {passes : List (Pass κ ε)}
    (h : Run label kinds config start passes stop) : start ≤ stop := by
  have hpassed := h.passed
  induction h with
  | nil => exact UInt64.le_refl _
  | cons _ _ ih =>
    rw [List.forall_mem_cons] at hpassed
    exact UInt64.le_trans hpassed.1.le (ih hpassed.2)

end Synchronizer

end ComputeExchange
