import ComputeExchange.Proofs.Sync.Extent

/-!
# How often a cursor is tried to be saved

Each cursor that is to be saved is tried up to four times, until it is.  A `Save` is what has become
of one so far, and `tries` is what the calls of a trace tell of all of them.  What a synchronizer
tries is save after save, of blocks ever further along the chain (`Climbs`): the walk of a pass
makes one for each window, and finding the starting cursor makes the first.

Tries that are broken off anywhere still are save after save (`exists_saves_of_prefix`).
-/

namespace ComputeExchange

namespace Synchronizer

open Program

variable {κ ε : Type} {label : κ → String} {kinds : List κ} {config : Sync.Config}

/-! ### Tries -/

/-- The block that a call tries to save as the cursor of a service, and whether it has been. -/
def tryOf (service : String) : Event (SyncCall.Answer κ ε) → Option (UInt64 × Bool)
  | ⟨.store (.saveCursor key block), answer⟩ =>
    if key = service then some (block, answer.isOk) else none
  | _ => none

/-- What is tried to be saved, in order. -/
def tries (service : String) (t : SyncTrace κ ε) : List (UInt64 × Bool) :=
  t.filterMap (tryOf service)

/-- What has become of a cursor that is to be saved, in at most four tries. -/
structure Save where
  block : UInt64
  failures : Nat
  isDone : Bool
  one_le : 1 ≤ failures + isDone.toNat
  le_four : failures + isDone.toNat ≤ 4

/-- The tries of a save: those that have failed, and then the one that has not. -/
def Save.tries (s : Save) : List (UInt64 × Bool) :=
  List.replicate s.failures (s.block, false) ++ if s.isDone then [(s.block, true)] else []

variable {service : String} {t u : SyncTrace κ ε}

lemma tries_append : tries service (t ++ u) = tries service t ++ tries service u :=
  List.filterMap_append

/-- Without a save there is no try. -/
lemma tries_eq_nil (h : ∀ e ∈ t, ∀ key block, e.1 ≠ .store (.saveCursor key block)) :
    tries service t = [] := by
  refine List.filterMap_eq_nil_iff.mpr fun e he => ?_
  unfold tryOf
  split
  · exact absurd rfl (h _ he _ _)
  · rfl

/-- A single call to save. -/
lemma tries_save (block : UInt64) (answer : Except StoreError Unit) :
    tries (κ := κ) (ε := ε) service [⟨.store (.saveCursor service block), answer⟩] =
      [(block, answer.isOk)] := by
  simp [tries, tryOf]

/-- A single call to save for another service. -/
lemma tries_save_of_ne {key : String} (hkey : key ≠ service) (block : UInt64)
    (answer : Except StoreError Unit) :
    tries (κ := κ) (ε := ε) service [⟨.store (.saveCursor key block), answer⟩] = [] := by
  simp [tries, tryOf, hkey]

/-- What tries that fail tell. -/
lemma tries_failedTries {block : UInt64} {failures : List StoreError} {waits : List Nat}
    (hle : failures.length ≤ waits.length) :
    tries (κ := κ) (ε := ε) service (failedTries (.saveCursor service block) failures waits) =
      List.replicate failures.length (block, false) := by
  induction failures generalizing waits with
  | nil => rfl
  | cons e failures ih =>
    cases waits with
    | nil => exact absurd hle (Nat.not_succ_le_zero _)
    | cons wait waits =>
      have hpause : tries (κ := κ) (ε := ε) service [⟨.pause wait, ()⟩] = [] := rfl
      change tries service ([⟨.store (.saveCursor service block), .error e⟩] ++
        ([⟨.pause wait, ()⟩] ++ failedTries (.saveCursor service block) failures waits)) = _
      rw [tries_append, tries_append, tries_save, hpause, ih (Nat.le_of_succ_le_succ hle),
        List.length_cons, List.replicate_succ]
      rfl

/-- Trying to save goes on until it is done, or there is no wait left. -/
lemma tries_of_runs_attempt {block : UInt64} {waits : List Nat} {r : Except StoreError Unit}
    (h : Runs (Retry.attempt (asking label kinds config).pause
      ((asking label kinds config).cursors.perform (.saveCursor config.service block)) waits) t r) :
    ∃ failures, tries config.service t =
        List.replicate failures (block, false) ++ (if r.isOk then [(block, true)] else []) ∧
      1 ≤ failures + r.isOk.toNat ∧ failures + r.isOk.toNat ≤ waits.length + 1 := by
  obtain ⟨failures, hle, hall, rfl⟩ := runs_attempt h
  rw [tries_append, tries_failedTries hle, tries_save]
  cases r with
  | ok _ => exact ⟨failures.length, rfl, Nat.le_add_left _ _, Nat.succ_le_succ hle⟩
  | error e =>
    -- The last try has failed too, so it counts among the failures.
    refine ⟨failures.length + 1, ?_, Nat.le_add_left _ _, Nat.succ_le_succ hle⟩
    change List.replicate failures.length (block, false) ++ [(block, false)] = _ ++ []
    rw [List.append_nil, List.replicate_succ']

/-- A cursor that is saved is tried to be up to four times. -/
lemma exists_save_of_runs_persist {block : UInt64}
    (h : Runs ((asking label kinds config).persist block) t ()) :
    ∃ s : Save, s.block = block ∧ tries config.service t = s.tries := by
  obtain ⟨t₁, r, t₂, rfl, hattempt, hend⟩ := runs_bind.mp h
  obtain ⟨rfl, -⟩ := runs_pure.mp hend
  obtain ⟨failures, htries, hone, hmost⟩ := tries_of_runs_attempt hattempt
  rw [List.append_nil]
  exact ⟨⟨block, failures, r.isOk, hone, hmost⟩, rfl, htries⟩

/-! ### Save after save -/

/-- Saves that lead from one cursor to another, ever further along the chain. -/
def Climbs : Option UInt64 → List Save → Option UInt64 → Prop
  | start, [], stop => stop = start
  | start, s :: saves, stop => (∀ b ∈ start, b < s.block) ∧ Climbs (some s.block) saves stop

variable {start mid stop : Option UInt64} {saves saves' : List Save}

lemma Climbs.append (h : Climbs start saves mid) (h' : Climbs mid saves' stop) :
    Climbs start (saves ++ saves') stop := by
  induction saves generalizing start with
  | nil =>
    obtain rfl := h
    exact h'
  | cons s saves ih => exact ⟨h.1, ih h.2⟩

/-- Every save leads further than the start. -/
lemma Climbs.lt_block (h : Climbs start saves stop) : ∀ b ∈ start, ∀ s ∈ saves, b < s.block := by
  induction saves generalizing start with
  | nil => simp
  | cons s saves ih =>
    intro b hb
    refine List.forall_mem_cons.mpr ⟨h.1 b hb, fun s' hs' => ?_⟩
    exact UInt64.lt_trans (h.1 b hb) (ih h.2 _ rfl s' hs')

/-- Every save leads further than those before. -/
lemma Climbs.pairwise (h : Climbs start saves stop) : (saves.map (·.block)).Pairwise (· < ·) := by
  induction saves generalizing start with
  | nil => exact .nil
  | cons s saves ih =>
    refine List.pairwise_cons.mpr ⟨fun b hb => ?_, ih h.2⟩
    obtain ⟨s', hs', rfl⟩ := List.mem_map.mp hb
    exact h.2.lt_block _ rfl s' hs'

/-- The last save leads to where they stop. -/
lemma Climbs.stop_eq (h : Climbs start saves stop) :
    stop = (saves.getLast?.map (·.block)).or start := by
  induction saves generalizing start with
  | nil => exact h
  | cons s saves ih =>
    rw [ih h.2]
    cases saves with
    | nil => rfl
    | cons s' saves =>
      rw [List.getLast?_cons_cons]
      cases hlast : (s' :: saves).getLast? with
      | none => exact absurd (List.getLast?_eq_none_iff.mp hlast) (List.cons_ne_nil _ _)
      | some last => rfl

/-- What is tried of a save that is broken off. -/
lemma exists_save_of_prefix {s : Save} {l : List (UInt64 × Bool)} (h : l <+: s.tries)
    (hne : l ≠ []) : ∃ s' : Save, s'.block = s.block ∧ l = s'.tries := by
  have hfailed : ∀ l, l ≠ [] → l <+: List.replicate s.failures (s.block, false) →
      ∃ s' : Save, s'.block = s.block ∧ l = s'.tries := by
    intro l hne hl
    obtain ⟨hlength, hl⟩ := List.prefix_replicate_iff.mp hl
    have hpos := List.length_pos_iff.mpr hne
    have hfour := s.le_four
    refine ⟨⟨s.block, l.length, false, hpos, ?_⟩, rfl, ?_⟩
    · rw [Bool.toNat_false]
      omega
    · rw [Save.tries, if_neg Bool.false_ne_true, List.append_nil]
      exact hl
  rw [Save.tries] at h
  by_cases hdone : s.isDone = true
  · rw [if_pos hdone] at h
    rcases List.prefix_concat_iff.mp h with hwhole | hpart
    · refine ⟨s, rfl, ?_⟩
      rw [hwhole, Save.tries, if_pos hdone]
    · exact hfailed l hne hpart
  · rw [if_neg hdone, List.append_nil] at h
    exact hfailed l hne h

/-- Tries that are broken off are save after save as well, of the same blocks as far as they go. -/
lemma exists_saves_of_prefix {l : List (UInt64 × Bool)} (h : l <+: saves.flatMap Save.tries) :
    ∃ made : List Save, l = made.flatMap Save.tries ∧
      made.map (·.block) <+: saves.map (·.block) := by
  induction saves generalizing l with
  | nil => exact ⟨[], List.prefix_nil.mp h, List.nil_prefix⟩
  | cons s saves ih =>
    obtain ⟨post, hpost⟩ := h
    rw [List.flatMap_cons] at hpost
    rcases List.append_eq_append_iff.mp hpost with ⟨left, htries, -⟩ | ⟨more, rfl, hmore⟩
    · cases l with
      | nil => exact ⟨[], rfl, List.nil_prefix⟩
      | cons first l =>
        obtain ⟨s', hblock, hl⟩ := exists_save_of_prefix ⟨left, htries.symm⟩ (List.cons_ne_nil _ _)
        refine ⟨[s'], by rw [hl, List.flatMap_singleton], ?_⟩
        rw [List.map_singleton, hblock, List.map_cons]
        exact List.prefix_append [s.block] _
    · obtain ⟨made, rfl, hblocks⟩ := ih ⟨post, hmore.symm⟩
      exact ⟨s :: made, rfl, (List.prefix_cons_inj _).mpr hblocks⟩

/-! ### The calls of a synchronizer -/

/-- A stage makes one save. -/
lemma tries_calls (s : Stage kinds config.service ε) :
    tries config.service s.calls = tries config.service s.saving := by
  have hwork : tries config.service s.work = [] :=
    tries_eq_nil fun e he key block => s.savesNothing e he _
  have htell : tries (κ := κ) (ε := ε) config.service
      [⟨.tell (.progress (some s.last)), ()⟩] = [] := rfl
  rw [Stage.calls, tries_append, tries_append, hwork, htell, List.nil_append, List.append_nil]

/-- A walk makes one save for each window that it completes, up to where it stops. -/
lemma climbs_of_runs_walk {first head next cursor stop : UInt64} {tally : Tally}
    {r : Except SyncError Sync.Outcome} (hnext : next.toNat = cursor.toNat + 1)
    (h : Runs ((asking label kinds config).walk first head next cursor tally) t (r, stop)) :
    ∃ saves : List Save, tries config.service t = saves.flatMap Save.tries ∧
      Climbs (some cursor) saves (some stop) := by
  -- The induction is on the distance to the head, which every stage makes smaller.
  induction hn : head.toNat - cursor.toNat using Nat.strong_induction_on
    generalizing next cursor tally t with
  | _ n ih =>
  by_cases hle : next ≤ head
  · rcases runs_walk hnext hle h with
      ⟨hending, rfl⟩ | ⟨stage, rest, rfl, hfirst, hlast, hsaving, hrest⟩
    · exact ⟨[], tries_eq_nil fun e he key block => hending.savesNothing e he _, rfl⟩
    · obtain ⟨s, hblock, htries⟩ := exists_save_of_runs_persist hsaving
      have hbefore : cursor < stage.last := by
        have hstage := UInt64.le_iff_toNat_le.mp stage.first_le
        rw [UInt64.lt_iff_toNat_lt]
        rw [hfirst] at hstage
        omega
      rw [tries_append, tries_calls, htries]
      by_cases hmax : stage.last = Clamp.greatest
      · rw [if_pos hmax] at hrest
        obtain ⟨rfl, rfl, rfl⟩ := runs_pure_mk.mp hrest
        refine ⟨[s], rfl, ?_, ?_⟩
        · rintro b ⟨⟩
          rwa [hblock]
        · exact congrArg some hblock.symm
      · rw [if_neg hmax] at hrest
        have hcloser : head.toNat - stage.last.toNat < n := by
          rw [UInt64.lt_iff_toNat_lt] at hbefore
          rw [UInt64.le_iff_toNat_le] at hle
          omega
        obtain ⟨saves, htried, hclimbs⟩ := ih _ hcloser (toNat_add_one hmax) hrest rfl
        refine ⟨s :: saves, by rw [htried, List.flatMap_cons], ?_, ?_⟩
        · rintro b ⟨⟩
          rwa [hblock]
        · rwa [hblock]
  · rw [walk, dif_neg hle] at h
    obtain ⟨rfl, rfl, rfl⟩ := runs_pure_mk.mp h
    exact ⟨[], rfl, rfl⟩

/-- A pass from a cursor saves cursors after it. -/
lemma climbs_of_runs_poll {start : UInt64} {stop : Option UInt64}
    {r : Except SyncError Sync.Outcome}
    (h : Runs ((asking label kinds config).poll (some start)) t (r, stop)) :
    ∃ saves : List Save, tries config.service t = saves.flatMap Save.tries ∧
      Climbs (some start) saves stop := by
  rw [poll, runs_bind] at h
  obtain ⟨t₀, _, t₁, rfl, h₀, h₁⟩ := h
  obtain ⟨rfl, rfl⟩ := runs_pure.mp h₀
  obtain ⟨t₂, found, t₃, rfl, h₂, h₃⟩ := runs_bind.mp h₁
  obtain rfl := runs_ask.mp h₂
  cases found with
  | error cause =>
    obtain ⟨rfl, rfl, rfl⟩ := runs_pure_mk.mp h₃
    exact ⟨[], rfl, rfl⟩
  | ok head =>
    obtain ⟨t₄, _, t₅, rfl, h₄, h₅⟩ := runs_bind.mp h₃
    obtain rfl := runs_ask.mp h₄
    by_cases hle : head ≤ start
    · rw [if_pos hle] at h₅
      obtain ⟨rfl, rfl, rfl⟩ := runs_pure_mk.mp h₅
      exact ⟨[], rfl, rfl⟩
    · rw [if_neg hle] at h₅
      obtain ⟨t₆, ⟨result, cursor⟩, t₇, rfl, h₆, h₇⟩ := runs_bind.mp h₅
      obtain ⟨rfl, rfl, rfl⟩ := runs_pure_mk.mp h₇
      obtain ⟨saves, htries, hclimbs⟩ :=
        climbs_of_runs_walk (toNat_add_one (ne_greatest (UInt64.not_le.mp hle))) h₆
      rw [List.append_nil]
      exact ⟨saves, htries, hclimbs⟩

/-- Whatever looks for a cursor tries to save none. -/
lemma tries_finding (h : ∀ e ∈ t, IsFinding service e) : tries service t = [] := by
  refine tries_eq_nil fun e he key block heq => ?_
  rcases h e he with hq | hq | ⟨span, hq⟩ <;>
  · rw [hq] at heq
    cases heq

end Synchronizer

end ComputeExchange
