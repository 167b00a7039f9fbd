import ComputeExchange.Proofs.Sync.Resolving
import ComputeExchange.Proofs.Sync.Saving

/-!
# The saved cursor

`Stored` says what becomes of the saved cursor of a service by the calls of its processes, when
saves may fail with or without having been done.  A process that looks for its cursor leaves the
saved one or saves a head that it has read because nothing was saved; a pass leaves it or saves a
block up to which it has completed everything.  Both also hold of a process that is broken off.
-/

namespace ComputeExchange

namespace Synchronizer

open Program

variable {κ ε : Type} {label : κ → String} {kinds : List κ} {config : Sync.Config}

/-! ### Calls -/

/-- What becomes of the saved cursor of a service by some calls.  A save that fails may have been
done all the same. -/
inductive Stored (service : String) : Option UInt64 → SyncTrace κ ε → Option UInt64 → Prop where
  | nil (saved : Option UInt64) : Stored service saved [] saved
  | loaded {saved saved' : Option UInt64} {t : SyncTrace κ ε} (h : Stored service saved t saved') :
      Stored service saved (⟨.store (.loadCursor service), .ok saved⟩ :: t) saved'
  | unloaded {saved saved' : Option UInt64} {t : SyncTrace κ ε} (e : StoreError)
      (h : Stored service saved t saved') :
      Stored service saved (⟨.store (.loadCursor service), .error e⟩ :: t) saved'
  | saved {saved saved' : Option UInt64} {t : SyncTrace κ ε} {block : UInt64}
      (answer : Except StoreError Unit) (h : Stored service (some block) t saved') :
      Stored service saved (⟨.store (.saveCursor service block), answer⟩ :: t) saved'
  | unsaved {saved saved' : Option UInt64} {t : SyncTrace κ ε} {block : UInt64} (e : StoreError)
      (h : Stored service saved t saved') :
      Stored service saved (⟨.store (.saveCursor service block), .error e⟩ :: t) saved'
  | other {saved saved' : Option UInt64} {t : SyncTrace κ ε} {e : Event (SyncCall.Answer κ ε)}
      (hother : ∀ c, e.1 ≠ .store c) (h : Stored service saved t saved') :
      Stored service saved (e :: t) saved'

namespace Stored

variable {service : String} {saved saved' : Option UInt64}

/-- What becomes of the saved cursor by two lists of calls, one after the other. -/
lemma append {t u : SyncTrace κ ε} (h : Stored service saved (t ++ u) saved') :
    ∃ mid, Stored service saved t mid ∧ Stored service mid u saved' := by
  induction t generalizing saved with
  | nil => exact ⟨saved, .nil saved, h⟩
  | cons e t ih =>
    cases h with
    | loaded h =>
      obtain ⟨mid, h₁, h₂⟩ := ih h
      exact ⟨mid, .loaded h₁, h₂⟩
    | unloaded e h =>
      obtain ⟨mid, h₁, h₂⟩ := ih h
      exact ⟨mid, .unloaded e h₁, h₂⟩
    | saved answer h =>
      obtain ⟨mid, h₁, h₂⟩ := ih h
      exact ⟨mid, .saved answer h₁, h₂⟩
    | unsaved e h =>
      obtain ⟨mid, h₁, h₂⟩ := ih h
      exact ⟨mid, .unsaved e h₁, h₂⟩
    | other hother h =>
      obtain ⟨mid, h₁, h₂⟩ := ih h
      exact ⟨mid, .other hother h₁, h₂⟩

/-- The saved cursor is the one before or one that has been saved. -/
lemma eq_or_saved {t : SyncTrace κ ε} (h : Stored service saved t saved') :
    saved' = saved ∨ ∃ pre block answer post,
      t = pre ++ ⟨.store (.saveCursor service block), answer⟩ :: post ∧ saved' = some block := by
  induction h with
  | nil => exact Or.inl rfl
  | loaded _ ih | unloaded _ _ ih | unsaved _ _ ih | other _ _ ih =>
    rcases ih with rfl | ⟨pre, block, answer, post, rfl, rfl⟩
    · exact Or.inl rfl
    · exact Or.inr ⟨_ :: pre, block, answer, post, rfl, rfl⟩
  | @saved _ _ t block answer _ ih =>
    rcases ih with rfl | ⟨pre, later, answer', post, rfl, rfl⟩
    · exact Or.inr ⟨[], block, answer, t, rfl, rfl⟩
    · exact Or.inr ⟨_ :: pre, later, answer', post, rfl, rfl⟩

/-- Looking for the cursor leaves the saved one, and every load that succeeds tells it. -/
lemma of_finding {t : SyncTrace κ ε} (h : Stored service saved t saved')
    (hfinding : ∀ e ∈ t, IsFinding service e) :
    saved' = saved ∧ ∀ found, (⟨.store (.loadCursor service), .ok found⟩ : Event _) ∈ t →
      found = saved := by
  induction h with
  | nil => simp
  | loaded _ ih =>
    rw [List.forall_mem_cons] at hfinding
    obtain ⟨rfl, hfound⟩ := ih hfinding.2
    refine ⟨rfl, fun found hmem => ?_⟩
    rcases List.mem_cons.mp hmem with heq | hmem
    · simpa using heq
    · exact hfound found hmem
  | unloaded _ _ ih | unsaved _ _ ih =>
    rw [List.forall_mem_cons] at hfinding
    obtain ⟨rfl, hfound⟩ := ih hfinding.2
    refine ⟨rfl, fun found hmem => hfound found ?_⟩
    rcases List.mem_cons.mp hmem with heq | hmem
    · simp at heq
    · exact hmem
  | saved _ _ ih =>
    rw [List.forall_mem_cons] at hfinding
    rcases hfinding.1 with hload | hhead | ⟨span, hpause⟩
    · simp at hload
    · cases hhead
    · cases hpause
  | other hother _ ih =>
    rw [List.forall_mem_cons] at hfinding
    obtain ⟨rfl, hfound⟩ := ih hfinding.2
    refine ⟨rfl, fun found hmem => hfound found ?_⟩
    rcases List.mem_cons.mp hmem with heq | hmem
    · exact absurd (congrArg Sigma.fst heq).symm (hother _)
    · exact hmem

/-- Saving a block leaves the saved cursor or makes it that block. -/
lemma of_saving {t : SyncTrace κ ε} {block : UInt64} (h : Stored service saved t saved')
    (hsaving : ∀ e ∈ t, IsSaving service block e) : saved' = saved ∨ saved' = some block := by
  rcases h.eq_or_saved with rfl | ⟨pre, later, answer, post, rfl, rfl⟩
  · exact Or.inl rfl
  · rcases hsaving ⟨_, answer⟩ (by simp) with hsave | ⟨span, hpause⟩
    · obtain rfl : later = block := by simpa using hsave
      exact Or.inr rfl
    · cases hpause

/-! ### Processes -/

/-- A process that looks for its cursor leaves the saved one, or saves a head that it has read
because nothing was saved. -/
lemma of_runs_resolve (hnone : config.startBlock = none) {t t' : SyncTrace κ ε}
    {r : Except SyncError UInt64} (hrun : Runs (asking label kinds config).resolve (t ++ t') r)
    (h : Stored config.service saved t saved') :
    saved' = saved ∨ ∃ block, saved' = some block ∧ Blind config.service block t := by
  obtain ⟨finding, saving, ht, hfinding, hsaving⟩ := calls_of_runs_resolve hnone hrun
  rcases List.append_eq_append_iff.mp ht with ⟨rest, rfl, -⟩ | ⟨begun, rfl, rfl⟩
  · exact Or.inl (h.of_finding fun e he => hfinding e (List.mem_append_left _ he)).1
  · obtain ⟨mid, h₁, h₂⟩ := h.append
    obtain ⟨rfl, hloads⟩ := h₁.of_finding hfinding
    rcases hsaving with ⟨-, hnil⟩ | ⟨block, -, hsaving, hfound⟩
    · obtain ⟨rfl, -⟩ := List.append_eq_nil_iff.mp hnil
      cases h₂
      exact Or.inl rfl
    · rcases h₂.of_saving fun e he => hsaving e (List.mem_append_left _ he) with rfl | rfl
      · exact Or.inl rfl
      · rcases hfound with hload | ⟨hload, hhead⟩
        · exact Or.inl (hloads _ hload)
        · exact Or.inr ⟨block, rfl, List.mem_append_left _ hload, List.mem_append_left _ hhead⟩

/-- A process that finds its cursor finds the saved one, or else the head that it has read; no other
block is saved then. -/
lemma of_runs_resolve_ok (hnone : config.startBlock = none) {t : SyncTrace κ ε} {block : UInt64}
    (hrun : Runs (asking label kinds config).resolve t (.ok block))
    (h : Stored config.service saved t saved') :
    (saved = some block ∨ Blind config.service block t) ∧ ∀ b, saved' = some b → b = block := by
  obtain ⟨finding, saving, rfl, hfinding, ⟨⟨e, he⟩, -⟩ | ⟨found, hok, hsaving, hfound⟩⟩ :=
    calls_of_runs_resolve hnone hrun
  · cases he
  · obtain rfl := Except.ok.inj hok
    obtain ⟨mid, h₁, h₂⟩ := h.append
    obtain ⟨rfl, hloads⟩ := h₁.of_finding hfinding
    rcases hfound with hload | ⟨hload, hhead⟩
    · obtain rfl := hloads _ hload
      refine ⟨Or.inl rfl, fun b hb => ?_⟩
      rcases h₂.of_saving hsaving with rfl | rfl <;> exact (Option.some.inj hb).symm
    · obtain rfl := hloads _ hload
      refine ⟨Or.inr ⟨List.mem_append_left _ hload, List.mem_append_left _ hhead⟩, fun b hb => ?_⟩
      rcases h₂.of_saving hsaving with rfl | rfl
      · cases hb
      · exact (Option.some.inj hb).symm

/-- A pass leaves the saved cursor, or saves a block to which windows that it has completed lead. -/
lemma of_runs_poll {start : UInt64} {t t' : SyncTrace κ ε}
    {r : Except SyncError Sync.Outcome × Option UInt64}
    (hrun : Runs ((asking label kinds config).poll (some start)) (t ++ t') r)
    (h : Stored config.service saved t saved') :
    saved' = saved ∨ ∃ (block : UInt64) (ws : List (Window kinds ε)), saved' = some block ∧
      Tiles start ws block ∧ ∀ w ∈ ws, w.work <:+: t := by
  obtain ⟨stop, -, hpassed⟩ := passed_of_runs_poll hrun
  rcases h.eq_or_saved with rfl | ⟨pre, block, answer, post, rfl, rfl⟩
  · exact Or.inl rfl
  · obtain ⟨-, ws, htiles, hwork⟩ := hpassed.saved (by rw [List.append_assoc, List.cons_append])
    exact Or.inr ⟨block, ws, rfl, htiles, fun w hw =>
      (hwork w hw).trans (List.prefix_append _ _).isInfix⟩

end Stored

end Synchronizer

end ComputeExchange
