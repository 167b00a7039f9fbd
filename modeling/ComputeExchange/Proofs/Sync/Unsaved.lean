import ComputeExchange.Proofs.Overlooking
import ComputeExchange.Proofs.Protocol
import ComputeExchange.Proofs.Sync.Tries
import ComputeExchange.Store.Memory

/-!
# Following a chain without saving the cursor

A session finds the starting cursor and then makes some passes.  What becomes of its cursor in
memory, and what it does with the chain and its handler, does not depend on whether the cursor can
be saved; and the cursor in the store only ever falls behind the one in memory.

`Course` tells of a part of a session what it asks of the store: saves that climb, and loads only as
long as no cursor has been found, so that every load tells what was stored at the start
(`course_of_runs_session`).  The session overlooks its saves (`overlooks_session`), and both make up
`saves_unnoticed`.
-/

namespace ComputeExchange

open Program

/-! ### The cursor in a store -/

/-- How a call may be answered, and the store after it: a call to the store is performed, or fails
and leaves it as it is, and the others may be answered in any way. -/
inductive SyncCall.Serves {κ ε : Type} :
    MemoryStore → (q : SyncCall κ ε) → SyncCall.Answer κ ε q → MemoryStore → Prop where
  | performed (s : MemoryStore) (c : StoreCall) :
      Serves s (.store c) (s.perform c).1 (s.perform c).2
  | failed (s : MemoryStore) (c : StoreCall) (e : StoreError) : Serves s (.store c) (.error e) s
  | elsewhere (s : MemoryStore) {q : SyncCall κ ε} (h : ∀ c, q ≠ .store c)
      (answer : SyncCall.Answer κ ε q) : Serves s q answer s

/-- Only a save changes a cursor. -/
lemma MemoryStore.cursors_perform (s : MemoryStore) {c : StoreCall}
    (h : ∀ key block, c ≠ .saveCursor key block) : (s.perform c).2.cursors = s.cursors := by
  unfold perform
  split
  · rfl
  · cases c with
    | saveCursor key block => exact absurd rfl (h key block)
    | insertJob | touchProvider | recordSettlement =>
      dsimp only
      split <;> rfl
    | transitionJob =>
      dsimp only
      split
      · rfl
      · split <;> rfl
    | _ => rfl

namespace Synchronizer

variable {κ ε : Type} {label : κ → String} {kinds : List κ} {config : Sync.Config}
  {service : String} {s s' : MemoryStore} {t u : SyncTrace κ ε}

/-- The block of the latest try that has succeeded. -/
def latest (l : List (UInt64 × Bool)) : Option UInt64 := ((l.filter (·.2)).getLast?).map (·.1)

lemma latest_append (l l' : List (UInt64 × Bool)) :
    latest (l ++ l') = (latest l').or (latest l) := by
  unfold latest
  rw [List.filter_append, List.getLast?_append]
  cases (l'.filter (·.2)).getLast? <;> rfl

/-- Of saves, the latest that has succeeded is the latest that is done. -/
lemma latest_flatMap (saves : List Save) :
    latest (saves.flatMap Save.tries) = (saves.filter (·.isDone)).getLast?.map (·.block) := by
  have hdone : ∀ s : Save, s.tries.filter (·.2) = if s.isDone then [(s.block, true)] else [] := by
    intro s
    rw [Save.tries, List.filter_append, List.filter_replicate_of_neg Bool.false_ne_true,
      List.nil_append]
    split <;> rfl
  have hall : (saves.flatMap Save.tries).filter (·.2) =
      (saves.filter (·.isDone)).map fun s => (s.block, true) := by
    induction saves with
    | nil => rfl
    | cons s saves ih =>
      rw [List.flatMap_cons, List.filter_append, ih, hdone, List.filter_cons]
      split <;> rfl
  rw [latest, hall, List.getLast?_map, Option.map_map]
  rfl

/-- A try that fails is not the latest that has succeeded. -/
lemma latest_of_error (c : StoreCall) (e : StoreError) :
    latest (tries (κ := κ) (ε := ε) service [⟨.store c, .error e⟩]) = none := by
  cases c with
  | saveCursor key block =>
    by_cases hkey : key = service
    · rw [hkey, tries_save]
      rfl
    · rw [tries_save_of_ne hkey]
      rfl
  | _ => rfl

/-- What a call makes of the cursor of a service. -/
lemma cursor_of_serves {q : SyncCall κ ε} {answer : SyncCall.Answer κ ε q}
    (h : SyncCall.Serves s q answer s') :
    s'.cursors.get? service =
      (latest (tries service [⟨q, answer⟩])).or (s.cursors.get? service) := by
  cases h with
  | performed c =>
    by_cases hsave : ∃ key block, c = .saveCursor key block
    · obtain ⟨key, block, rfl⟩ := hsave
      by_cases hdown : s.isUnavailable = true
      · rw [MemoryStore.perform, if_pos hdown, latest_of_error, Option.none_or]
      · rw [MemoryStore.perform, if_neg hdown, Table.get?_put]
        by_cases hkey : key = service
        · rw [if_pos hkey, hkey, tries_save]
          rfl
        · rw [if_neg hkey, tries_save_of_ne hkey]
          rfl
    · have hnone : tries service [⟨.store c, (s.perform c).1⟩] = ([] : List (UInt64 × Bool)) :=
        tries_eq_nil (κ := κ) (ε := ε) fun e he key block heq => by
          rw [List.mem_singleton.mp he] at heq
          cases heq
          exact hsave ⟨key, block, rfl⟩
      rw [s.cursors_perform fun key block heq => hsave ⟨key, block, heq⟩, hnone]
      rfl
  | failed c e => rw [latest_of_error, Option.none_or]
  | elsewhere hother =>
    rw [tries_eq_nil fun e he key block => by
      rw [List.mem_singleton.mp he]
      exact hother _]
    rfl

/-- The cursor of a service in the store is the one of the latest save that has succeeded, or the
one that was there at first. -/
lemma cursor_of_served (h : Protocol.Served SyncCall.Serves s t s') :
    s'.cursors.get? service = (latest (tries service t)).or (s.cursors.get? service) := by
  induction h with
  | nil => rfl
  | @cons s s₁ s' q answer t hserves _ ih =>
    rw [ih, cursor_of_serves hserves, ← Option.or_assoc, ← latest_append, ← tries_append]
    rfl

/-- A load tells the cursor that is stored when it is made. -/
lemma load_of_served {pre post : SyncTrace κ ε} {saved : Option UInt64}
    (h : Protocol.Served SyncCall.Serves s
      (pre ++ ⟨.store (.loadCursor service), .ok saved⟩ :: post) s') :
    saved = (latest (tries service pre)).or (s.cursors.get? service) := by
  obtain ⟨s₁, hpre, hpost⟩ := h.of_append
  rw [← cursor_of_served hpre]
  cases hpost with
  | cons hload _ =>
    generalize hanswer : (Except.ok saved : Except StoreError (Option UInt64)) = answer at hload
    cases hload with
    | performed =>
      rw [MemoryStore.perform] at hanswer
      split at hanswer
      · cases hanswer
      · cases hanswer
        rfl
    | failed => cases hanswer
    | elsewhere hother => exact absurd rfl (hother _)

/-! ### Sessions -/

/-- Some passes one after another, each with its result and the cursor in memory after it. -/
def passes {m : Type → Type} [Monad m] (s : Synchronizer m κ ε) :
    Nat → Option UInt64 → m (List (Except SyncError Sync.Outcome × Option UInt64))
  | 0, _ => return []
  | n + 1, cursor => do
    let (result, next) ← s.poll cursor
    let rest ← s.passes n next
    return (result, next) :: rest

/-- Finds the starting cursor and makes some passes. -/
def session {m : Type → Type} [Monad m] (s : Synchronizer m κ ε) (n : Nat) :
    m (Except SyncError UInt64 × List (Except SyncError Sync.Outcome × Option UInt64)) := do
  let found ← s.resolve
  let results ← s.passes n found.toOption
  return (found, results)

/-- The cursor in memory after some passes. -/
def cursorAfter (cursor : Option UInt64)
    (results : List (Except SyncError Sync.Outcome × Option UInt64)) : Option UInt64 :=
  (results.map (·.2)).getLastD cursor

/-- What a part of a session asks of the store in which `saved` is the cursor: saves that climb from
the cursor in memory, and from none of them to a block before the one that was saved; and loads only
if there is no cursor in memory. -/
structure Course (service : String) (saved cursor : Option UInt64) (t : SyncTrace κ ε)
    (saves : List Save) (stop : Option UInt64) : Prop where
  tries_eq : tries service t = saves.flatMap Save.tries
  climbs : Climbs cursor saves stop
  le_block : cursor = none → ∀ b ∈ saved, ∀ s ∈ saves, b ≤ s.block
  loads : ∀ answer, (⟨.store (.loadCursor service), answer⟩ : Event _) ∈ t →
    cursor = none ∧ ∀ v, answer = .ok v → v = saved
  stores : ∀ e ∈ t, ∀ c, e.1 = .store c →
    c = .loadCursor service ∨ ∃ block, c = .saveCursor service block

variable {saved cursor mid stop : Option UInt64} {saves saves' : List Save}

/-- Parts of a session make up a part of it. -/
lemma Course.append (h : Course service saved cursor t saves mid)
    (h' : Course service saved mid u saves' stop) :
    Course service saved cursor (t ++ u) (saves ++ saves') stop where
  tries_eq := by rw [tries_append, h.tries_eq, h'.tries_eq, List.flatMap_append]
  climbs := h.climbs.append h'.climbs
  le_block hcursor b hb := by
    refine List.forall_mem_append.mpr ⟨h.le_block hcursor b hb, fun s hs => ?_⟩
    cases mid with
    | none => exact h'.le_block rfl b hb s hs
    | some c =>
      -- The cursor in between is the block of the last save before it.
      have hlast := h.climbs.stop_eq
      rw [hcursor, Option.or_none] at hlast
      obtain ⟨last, hmem, rfl⟩ := Option.map_eq_some_iff.mp hlast.symm
      exact UInt64.le_trans (h.le_block hcursor b hb last (List.mem_of_getLast? hmem))
        (UInt64.le_of_lt (h'.climbs.lt_block _ rfl s hs))
  loads answer hmem := by
    rcases List.mem_append.mp hmem with hmem | hmem
    · exact h.loads answer hmem
    · obtain ⟨rfl, htold⟩ := h'.loads answer hmem
      exact ⟨(Option.or_eq_none_iff.mp h.climbs.stop_eq.symm).2, htold⟩
  stores e he := (List.mem_append.mp he).elim (h.stores e) (h'.stores e)

/-- Once there is a cursor in memory, it does not matter what was saved. -/
lemma Course.of_some {saved' : Option UInt64} {start : UInt64}
    (h : Course service saved (some start) t saves stop) :
    Course service saved' (some start) t saves stop where
  tries_eq := h.tries_eq
  climbs := h.climbs
  le_block hcursor := absurd hcursor (Option.some_ne_none start)
  loads answer hmem := absurd (h.loads answer hmem).1 (Option.some_ne_none start)
  stores := h.stores

/-- A pass from a cursor asks nothing but to save. -/
lemma course_of_runs_poll_some {start : UInt64} {r : Except SyncError Sync.Outcome}
    (h : Runs ((asking label kinds config).poll (some start)) t (r, stop)) :
    ∃ saves, Course config.service saved (some start) t saves stop := by
  obtain ⟨saves, htries, hclimbs⟩ := climbs_of_runs_poll h
  obtain ⟨block, rfl, hpassed⟩ := passed_of_runs_poll h
  refine ⟨saves, htries, hclimbs, fun hcursor => absurd hcursor (Option.some_ne_none start), ?_, ?_⟩
  · intro answer hmem
    obtain ⟨block, hblock⟩ := hpassed.saves_cursor _ hmem _ rfl
    cases hblock
  · exact fun e he c hc => Or.inr (hpassed.saves_cursor e he c hc)

/-- Finding the starting cursor loads the one that is stored, and saves none before it. -/
lemma course_of_runs_resolve {r : Except SyncError UInt64}
    (hserved : Protocol.Served SyncCall.Serves s t s')
    (h : Runs (asking label kinds config).resolve t r) :
    ∃ saves, Course config.service (s.cursors.get? config.service) none t saves r.toOption := by
  obtain ⟨finding, saving, rfl, hfinding, hend⟩ := parts_of_runs_resolve h
  have htold : ∀ v, (⟨.store (.loadCursor config.service), .ok v⟩ : Event _) ∈ finding →
      v = s.cursors.get? config.service := by
    intro v hmem
    obtain ⟨pre, post, rfl⟩ := List.append_of_mem hmem
    rw [List.append_assoc] at hserved
    have hv := load_of_served hserved
    rw [tries_finding fun e he => hfinding e (List.mem_append_left _ he)] at hv
    exact hv
  have hstores : ∀ e ∈ finding, ∀ c, e.1 = .store c → c = .loadCursor config.service := by
    intro e he c hc
    rcases hfinding e he with hq | hq | ⟨span, hq⟩
    · exact SyncCall.store.inj (hc.symm.trans hq)
    · cases hc.symm.trans hq
    · cases hc.symm.trans hq
  rcases hend with ⟨⟨e, rfl, -⟩, rfl⟩ | ⟨loaded, block, rfl, hsaving, hfound⟩
  · rw [List.append_nil]
    exact ⟨[], tries_finding hfinding, rfl, by simp,
      fun answer hmem => ⟨rfl, fun v hv => htold v (hv ▸ hmem)⟩,
      fun e he c hc => Or.inl (hstores e he c hc)⟩
  · obtain ⟨save, hblock, htries⟩ := exists_save_of_runs_persist hsaving
    have hcalls := calls_of_runs_persist hsaving
    refine ⟨[save], ?_, ⟨by simp, congrArg some hblock.symm⟩, ?_, ?_, ?_⟩
    · rw [tries_append, tries_finding hfinding, htries, List.flatMap_singleton, List.nil_append]
    · intro _ b hb
      rw [List.forall_mem_singleton, hblock]
      rcases hfound with ⟨rfl, hload⟩ | ⟨rfl, hload, -⟩
      · obtain rfl := Option.some.inj ((htold _ hload).trans hb)
        rw [UInt64.le_iff_toNat_le, toNat_startingCursor_some]
        exact Nat.le_max_left _ _
      · cases (htold _ hload).trans hb
    · intro answer hmem
      rcases List.mem_append.mp hmem with hmem | hmem
      · exact ⟨rfl, fun v hv => htold v (hv ▸ hmem)⟩
      · rcases hcalls _ hmem with hq | ⟨span, hq⟩ <;> cases hq
    · intro e he c hc
      rcases List.mem_append.mp he with he | he
      · exact Or.inl (hstores e he c hc)
      · rcases hcalls e he with hq | ⟨span, hq⟩
        · exact Or.inr ⟨_, SyncCall.store.inj (hc.symm.trans hq)⟩
        · cases hc.symm.trans hq

/-- A pass. -/
lemma course_of_runs_poll {r : Except SyncError Sync.Outcome}
    (hserved : Protocol.Served SyncCall.Serves s t s')
    (h : Runs ((asking label kinds config).poll cursor) t (r, stop)) :
    ∃ saves, Course config.service (s.cursors.get? config.service) cursor t saves stop := by
  cases cursor with
  | some start => exact course_of_runs_poll_some h
  | none =>
    rcases runs_poll_none_iff.mp h with
      ⟨e, hresolve, rfl, rfl⟩ | ⟨t₁, block, t₂, rfl, hresolve, hpoll⟩
    · exact course_of_runs_resolve hserved hresolve
    · obtain ⟨s₁, hserved₁, -⟩ := hserved.of_append
      obtain ⟨saves, hcourse⟩ := course_of_runs_resolve hserved₁ hresolve
      obtain ⟨saves', hcourse'⟩ := course_of_runs_poll_some hpoll
      exact ⟨saves ++ saves', hcourse.append hcourse'⟩

/-- What comes after a part of a session goes on with the store that it has left. -/
lemma Course.append_served {s₁ : MemoryStore}
    (h : Course service (s.cursors.get? service) cursor t saves mid)
    (hserved : Protocol.Served SyncCall.Serves s t s₁)
    (h' : Course service (s₁.cursors.get? service) mid u saves' stop) :
    Course service (s.cursors.get? service) cursor (t ++ u) (saves ++ saves') stop := by
  refine h.append ?_
  cases mid with
  | some block => exact h'.of_some
  | none =>
    -- No cursor has been found, and so nothing has been saved.
    have hnone : saves = [] := by
      have hstop := (Option.or_eq_none_iff.mp h.climbs.stop_eq.symm).1
      exact List.getLast?_eq_none_iff.mp (Option.map_eq_none_iff.mp hstop)
    have hsame : s₁.cursors.get? service = s.cursors.get? service := by
      rw [cursor_of_served hserved, h.tries_eq, hnone]
      rfl
    rwa [← hsame]

/-- Passes one after another. -/
lemma course_of_runs_passes {n : Nat}
    {results : List (Except SyncError Sync.Outcome × Option UInt64)}
    (hserved : Protocol.Served SyncCall.Serves s t s')
    (h : Runs ((asking label kinds config).passes n cursor) t results) :
    ∃ saves, Course config.service (s.cursors.get? config.service) cursor t saves
      (cursorAfter cursor results) := by
  induction n generalizing s cursor t results with
  | zero =>
    obtain ⟨rfl, rfl⟩ := runs_pure.mp h
    exact ⟨[], rfl, rfl, by simp, by simp, by simp⟩
  | succ n ih =>
    obtain ⟨t₁, ⟨result, next⟩, t₂, rfl, hpoll, hafter⟩ := runs_bind.mp h
    obtain ⟨t₃, rest, t₄, rfl, hrest, hend⟩ := runs_bind.mp hafter
    obtain ⟨rfl, rfl⟩ := runs_pure.mp hend
    rw [List.append_nil] at hserved ⊢
    obtain ⟨s₁, hserved₁, hserved₂⟩ := hserved.of_append
    obtain ⟨saves, hcourse⟩ := course_of_runs_poll hserved₁ hpoll
    obtain ⟨saves', hcourse'⟩ := ih hserved₂ hrest
    have hcursor : cursorAfter cursor ((result, next) :: rest) = cursorAfter next rest :=
      List.getLastD_cons ..
    rw [hcursor]
    exact ⟨saves ++ saves', hcourse.append_served hserved₁ hcourse'⟩

/-- A session asks the store first for the cursor, and then to save further and further ones. -/
lemma course_of_runs_session {n : Nat} {found : Except SyncError UInt64}
    {results : List (Except SyncError Sync.Outcome × Option UInt64)}
    (hserved : Protocol.Served SyncCall.Serves s t s')
    (h : Runs ((asking label kinds config).session n) t (found, results)) :
    ∃ saves, Course config.service (s.cursors.get? config.service) none t saves
      (cursorAfter found.toOption results) := by
  obtain ⟨t₁, found', t₂, rfl, hresolve, hafter⟩ := runs_bind.mp h
  obtain ⟨t₃, results', t₄, rfl, hpasses, hend⟩ := runs_bind.mp hafter
  obtain ⟨rfl, hresult⟩ := runs_pure.mp hend
  cases hresult
  rw [List.append_nil] at hserved ⊢
  obtain ⟨s₁, hserved₁, hserved₂⟩ := hserved.of_append
  obtain ⟨saves, hcourse⟩ := course_of_runs_resolve hserved₁ hresolve
  obtain ⟨saves', hcourse'⟩ := course_of_runs_passes hserved₂ hpasses
  exact ⟨saves ++ saves', hcourse.append_served hserved₁ hcourse'⟩

/-! ### What a session overlooks -/

/-- Whether a call is shown: all are but the saves, and the waits between them. -/
def isShown : SyncCall κ ε → Bool
  | .store (.saveCursor _ _) => false
  | .pause _ => false
  | _ => true

/-- The block that a call tries to save as the cursor of a service. -/
def savedBy (service : String) : SyncCall κ ε → Option UInt64
  | .store (.saveCursor key block) => if key = service then some block else none
  | _ => none

/-- The marks of a trace are the blocks of its tries. -/
lemma marked_savedBy (service : String) (t : SyncTrace κ ε) :
    marked (savedBy service) t = (tries service t).map (·.1) := by
  have hcall : ∀ e : Event (SyncCall.Answer κ ε),
      (tryOf service e).map (·.1) = savedBy service e.1 := by
    rintro ⟨q, answer⟩
    cases q with
    | store c =>
      cases c with
      | saveCursor key block =>
        rw [tryOf, savedBy]
        split <;> rfl
      | _ => rfl
    | _ => rfl
  rw [marked, tries, List.map_filterMap]
  exact List.filterMap_congr fun e _ => (hcall e).symm

/-- The tries of a save are all of its block. -/
lemma Save.mem_blocks (s : Save) (block : UInt64) :
    block ∈ s.tries.map (·.1) ↔ block = s.block := by
  have hone := s.one_le
  rw [Save.tries, List.map_append, List.map_replicate, List.mem_append, List.mem_replicate]
  cases hdone : s.isDone with
  | true => simp
  | false =>
    rw [hdone, Bool.toNat_false, Nat.add_zero] at hone
    simp [Nat.one_le_iff_ne_zero.mp hone]

/-- Saving a cursor is overlooked. -/
lemma overlooks_persist (block : UInt64) :
    Overlooks isShown (savedBy config.service)
      ((asking (κ := κ) (ε := ε) label kinds config).persist block) := by
  refine overlooks_of_hidden [block] fun t _ hrun => ⟨fun e he => ?_, fun v => ?_⟩
  · rcases calls_of_runs_persist hrun e he with hq | ⟨span, hq⟩ <;>
    · rw [hq]
      rfl
  · obtain ⟨s, rfl, htries⟩ := exists_save_of_runs_persist hrun
    rw [marked_savedBy, htries, s.mem_blocks, List.mem_singleton]

/-- Loading the cursor is shown, and the waits between tries are overlooked. -/
lemma overlooks_load (waits : List Nat) :
    Overlooks isShown (savedBy service)
      (Retry.attempt (asking (κ := κ) (ε := ε) label kinds config).pause
        ((asking label kinds config).cursors.perform (.loadCursor config.service)) waits) := by
  induction waits with
  | nil => exact overlooks_ask rfl
  | cons wait rest ih =>
    rw [Retry.attempt]
    refine (overlooks_ask rfl).bind fun answer => ?_
    cases answer with
    | ok saved => exact overlooks_pure _
    | error e => exact (overlooks_ask_hidden rfl).bind fun _ => ih

/-- Finding the starting cursor. -/
lemma overlooks_resolve :
    Overlooks isShown (savedBy config.service)
      (asking (κ := κ) (ε := ε) label kinds config).resolve := by
  rw [resolve]
  split_ifs
  · exact overlooks_pure _
  · refine (overlooks_load _).bind fun loaded => ?_
    cases loaded with
    | error e => exact overlooks_pure _
    | ok saved =>
      have hblock : ∀ block, Overlooks isShown (savedBy config.service) (do
          (asking (κ := κ) (ε := ε) label kinds config).persist (startingCursor config saved block)
          return (.ok (startingCursor config saved block) : Except SyncError UInt64)) :=
        fun block => (overlooks_persist _).bind fun _ => overlooks_pure _
      cases saved with
      | some block => exact hblock block
      | none =>
        refine (overlooks_ask rfl).bind fun found => ?_
        cases found with
        | error cause => exact overlooks_pure _
        | ok block => exact hblock block

/-- Fetching is shown. -/
lemma overlooks_fetchAll (first last : UInt64) (wanted : List κ) :
    Overlooks isShown (savedBy service)
      ((asking (ε := ε) label kinds config).fetchAll first last wanted) := by
  induction wanted with
  | nil => exact overlooks_pure _
  | cons kind rest ih =>
    refine (overlooks_ask rfl).bind fun answer => ?_
    cases answer with
    | error cause => exact overlooks_pure _
    | ok events =>
      refine ih.bind fun more => ?_
      cases more with
      | error e => exact overlooks_pure _
      | ok events' => exact overlooks_pure _

/-- Handing out is shown. -/
lemma overlooks_handleAll (events : List ε) (tally : Tally) :
    Overlooks isShown (savedBy service)
      ((asking label kinds config).handleAll events tally) := by
  induction events generalizing tally with
  | nil => exact overlooks_pure _
  | cons event rest ih =>
    refine (overlooks_ask rfl).bind fun answer => ?_
    cases answer with
    | ok => exact ih _
    | error e =>
      cases e with
      | skip cause => exact ih _
      | retry cause => exact overlooks_pure _

/-- A walk along the chain. -/
lemma overlooks_walk (first head next cursor : UInt64) (tally : Tally) :
    Overlooks isShown (savedBy config.service)
      ((asking (κ := κ) (ε := ε) label kinds config).walk first head next cursor tally) := by
  -- The induction is on the distance to the head, which every window makes smaller.
  induction hn : head.toNat + 1 - next.toNat using Nat.strong_induction_on
    generalizing next cursor tally with
  | _ n ih =>
  rw [walk]
  by_cases hle : next ≤ head
  · rw [dif_pos hle]
    refine (overlooks_fetchAll _ _ _).bind fun fetched => ?_
    cases fetched with
    | error e => exact overlooks_pure _
    | ok events =>
      refine (overlooks_handleAll _ _).bind fun handled => ?_
      cases handled with
      | error cause => exact overlooks_pure _
      | ok tally' =>
        refine (overlooks_persist _).bind fun _ => (overlooks_ask rfl).bind fun _ => ?_
        split
        · exact overlooks_pure _
        · next hmax =>
          refine ih _ ?_ _ _ _ rfl
          have hfirst := UInt64.le_iff_toNat_le.mp (le_windowEnd config.rangeSize hle)
          have hlast := UInt64.le_iff_toNat_le.mp (windowEnd_le config.rangeSize next head)
          have hnext := toNat_add_one hmax
          rw [asking_config] at hnext ⊢
          omega
  · rw [dif_neg hle]
    exact overlooks_pure _

/-- A pass. -/
lemma overlooks_poll (cursor : Option UInt64) :
    Overlooks isShown (savedBy config.service)
      ((asking (κ := κ) (ε := ε) label kinds config).poll cursor) := by
  have hpass : ∀ block, Overlooks isShown (savedBy config.service)
      ((asking (κ := κ) (ε := ε) label kinds config).poll (some block)) := by
    intro block
    refine (overlooks_ask rfl).bind fun answer => ?_
    cases answer with
    | error cause => exact overlooks_pure _
    | ok head =>
      refine (overlooks_ask rfl).bind fun _ => ?_
      split
      · exact overlooks_pure _
      · exact (overlooks_walk _ _ _ _ _).bind fun _ => overlooks_pure _
  cases cursor with
  | some block => exact hpass block
  | none =>
    refine overlooks_resolve.bind fun found => ?_
    cases found with
    | error e => exact overlooks_pure _
    | ok block => exact hpass block

/-- Passes one after another. -/
lemma overlooks_passes (n : Nat) (cursor : Option UInt64) :
    Overlooks isShown (savedBy config.service)
      ((asking (κ := κ) (ε := ε) label kinds config).passes n cursor) := by
  induction n generalizing cursor with
  | zero => exact overlooks_pure _
  | succ n ih =>
    exact (overlooks_poll cursor).bind fun result =>
      (ih result.2).bind fun _ => overlooks_pure _

/-- A session overlooks its saves. -/
lemma overlooks_session (n : Nat) :
    Overlooks isShown (savedBy config.service)
      ((asking (κ := κ) (ε := ε) label kinds config).session n) :=
  overlooks_resolve.bind fun found =>
    (overlooks_passes n found.toOption).bind fun _ => overlooks_pure _

/-! ### Two sessions -/

/-- The cursor in memory.  It is moved to a block before the block is tried to be saved, or, if it
is the starting cursor, right after. -/
def inMemory (service : String) (t : SyncTrace κ ε) : Option UInt64 :=
  (tries service t).getLast?.map (·.1)

/-- Whether two answers agree: those of a store if both are the same failure or none is, and others
if they are the same. -/
def Agrees : (q : SyncCall κ ε) → SyncCall.Answer κ ε q → SyncCall.Answer κ ε q → Prop
  | .store _, .error e, .error e' => e = e'
  | .store _, .ok _, .ok _ => True
  | .store _, _, _ => False
  | .head, x, y => x = y
  | .fetch .., x, y => x = y
  | .handle _, x, y => x = y
  | .pause _, _, _ => True
  | .tell _, _, _ => True

/-- Whether the chain and the handler answer as they do outside, by what is shown, and whether loads
fail as they do outside. -/
def Meets (outside : SyncTrace κ ε → (q : SyncCall κ ε) → SyncCall.Answer κ ε q)
    (t : SyncTrace κ ε) : Prop :=
  ∀ before q x after, shown isShown t = before ++ ⟨q, x⟩ :: after → Agrees q x (outside before q)

/-- The answers outside, with the cursor that loads tell. -/
def withSaved (outside : SyncTrace κ ε → (q : SyncCall κ ε) → SyncCall.Answer κ ε q)
    (saved : Option UInt64) (before : SyncTrace κ ε) :
    (q : SyncCall κ ε) → SyncCall.Answer κ ε q
  | .store (.loadCursor key) =>
    match outside before (.store (.loadCursor key)) with
    | .error e => .error e
    | .ok _ => .ok saved
  | q => outside before q

/-- What is shown of a session is answered by what there is outside and by what was saved. -/
lemma answeredBy_withSaved {outside : SyncTrace κ ε → (q : SyncCall κ ε) → SyncCall.Answer κ ε q}
    (h : Course service saved cursor t saves stop) (hmeets : Meets outside t) :
    AnsweredBy (withSaved outside saved) (shown isShown t) := by
  intro before q x after heq
  have hagrees := hmeets before q x after heq
  have hin : (⟨q, x⟩ : Event _) ∈ shown isShown t := by
    rw [heq]
    exact List.mem_append_right _ List.mem_cons_self
  obtain ⟨hmem, hshown⟩ := List.mem_filter.mp hin
  cases q with
  | store c =>
    rcases h.stores _ hmem c rfl with rfl | ⟨block, rfl⟩
    · obtain ⟨-, htold⟩ := h.loads x hmem
      rw [withSaved]
      generalize outside before (.store (.loadCursor service)) = y at hagrees
      cases x with
      | error e =>
        cases y with
        | error e' => exact congrArg Except.error hagrees
        | ok _ => exact hagrees.elim
      | ok v =>
        cases y with
        | error e' => exact hagrees.elim
        | ok _ => exact congrArg Except.ok (htold v rfl)
    · cases hshown
  | pause span => cases hshown
  | tell event => rfl
  | _ => exact hagrees

/-- The blocks of some saves are those of their tries. -/
lemma mem_blocks_flatMap (saves : List Save) (block : UInt64) :
    block ∈ (saves.flatMap Save.tries).map (·.1) ↔ block ∈ saves.map (·.block) := by
  rw [List.map_flatMap, List.mem_flatMap, List.mem_map]
  simp only [Save.mem_blocks, eq_comm]

/-- Saves that climb over the same blocks are of the same blocks in the same order. -/
lemma Climbs.blocks_eq {start start' stop' : Option UInt64} (h : Climbs start saves stop)
    (h' : Climbs start' saves' stop')
    (hsame : ∀ block, block ∈ (saves.flatMap Save.tries).map (·.1) ↔
      block ∈ (saves'.flatMap Save.tries).map (·.1)) :
    saves.map (·.block) = saves'.map (·.block) := by
  simp only [mem_blocks_flatMap] at hsame
  exact h.pairwise.eq_of_mem_iff h'.pairwise hsame

/-- Of saves, the last try is one of the last save. -/
lemma getLast?_flatMap (saves : List Save) :
    (saves.flatMap Save.tries).getLast?.map (·.1) = saves.getLast?.map (·.block) := by
  have hlast : ∀ s : Save, s.tries.getLast?.map (·.1) = some s.block := by
    intro s
    have hone := s.one_le
    rw [Save.tries, List.getLast?_append]
    cases hdone : s.isDone with
    | true => rfl
    | false =>
      rw [hdone, Bool.toNat_false, Nat.add_zero] at hone
      rw [if_neg Bool.false_ne_true, List.getLast?_replicate,
        if_neg (Nat.one_le_iff_ne_zero.mp hone)]
      rfl
  induction saves using List.reverseRecOn with
  | nil => rfl
  | append_singleton saves s _ =>
    obtain ⟨e, he, hblock⟩ := Option.map_eq_some_iff.mp (hlast s)
    rw [List.flatMap_append, List.flatMap_singleton, List.getLast?_append, he, Option.some_or,
      List.getLast?_concat, Option.map_some, Option.map_some, hblock]

/-- The last of ascending blocks is the greatest. -/
lemma le_of_getLast? {blocks : List UInt64} (h : blocks.Pairwise (· < ·)) {b c : UInt64}
    (hb : b ∈ blocks) (hc : blocks.getLast? = some c) : b ≤ c := by
  obtain ⟨before, rfl⟩ := List.getLast?_eq_some_iff.mp hc
  rcases List.mem_append.mp hb with hbefore | hlast
  · exact UInt64.le_of_lt ((List.pairwise_append.mp h).2.2 b hbefore c List.mem_cons_self)
  · exact UInt64.le_of_eq (List.mem_singleton.mp hlast)

/-- Whatever becomes of the saves of a session, the cursor in the store is at every moment the one
that was there at first or the block of the latest save that has succeeded, within four tries, and
it is not ahead of the cursor in memory.  And two sessions that find the same cursor in the store
and meet the same chain and handler make the same calls on these, in the same order, have the same
results, and move their cursors in memory over the same blocks. -/
theorem saves_unnoticed (n : Nat) :
    (∀ (s s' : MemoryStore) (t : SyncTrace κ ε) (found : Except SyncError UInt64)
        (results : List (Except SyncError Sync.Outcome × Option UInt64)),
      Runs ((asking label kinds config).session n) t (found, results) →
      Protocol.Served SyncCall.Serves s t s' →
      inMemory config.service t = cursorAfter found.toOption results ∧
      ∀ pre post, t = pre ++ post → ∃ (saves : List Save) (s₁ : MemoryStore),
        Protocol.Served SyncCall.Serves s pre s₁ ∧
        tries config.service pre = saves.flatMap Save.tries ∧
        (saves.map (·.block)).Pairwise (· < ·) ∧
        s₁.cursors.get? config.service = ((saves.filter (·.isDone)).getLast?.map (·.block)).or
          (s.cursors.get? config.service) ∧
        ∀ b c, s₁.cursors.get? config.service = some b →
          inMemory config.service pre = some c → b ≤ c) ∧
    ∀ (outside : SyncTrace κ ε → (q : SyncCall κ ε) → SyncCall.Answer κ ε q)
        (s s' s₁ s₁' : MemoryStore) (t t' : SyncTrace κ ε)
        (r r' : Except SyncError UInt64 × List (Except SyncError Sync.Outcome × Option UInt64)),
      s.cursors.get? config.service = s'.cursors.get? config.service →
      Runs ((asking label kinds config).session n) t r →
      Runs ((asking label kinds config).session n) t' r' →
      Protocol.Served SyncCall.Serves s t s₁ → Protocol.Served SyncCall.Serves s' t' s₁' →
      Meets outside t → Meets outside t' →
      shown isShown t = shown isShown t' ∧ r = r' ∧
        ∃ saves saves' : List Save, tries config.service t = saves.flatMap Save.tries ∧
          tries config.service t' = saves'.flatMap Save.tries ∧
          saves.map (·.block) = saves'.map (·.block) := by
  constructor
  · intro s s' t found results hrun hserved
    obtain ⟨saves, hcourse⟩ := course_of_runs_session hserved hrun
    refine ⟨?_, fun pre post ht => ?_⟩
    · rw [inMemory, hcourse.tries_eq, getLast?_flatMap, hcourse.climbs.stop_eq, Option.or_none]
    · subst ht
      obtain ⟨s₁, hserved₁, -⟩ := hserved.of_append
      obtain ⟨made, hmade, hblocks⟩ := exists_saves_of_prefix
        (hcourse.tries_eq ▸ tries_append (t := pre) ▸ List.prefix_append _ _)
      have hclimbs := hcourse.climbs.pairwise.sublist hblocks.sublist
      have hstored : s₁.cursors.get? config.service =
          ((made.filter (·.isDone)).getLast?.map (·.block)).or (s.cursors.get? config.service) := by
        rw [cursor_of_served hserved₁, hmade, latest_flatMap]
      refine ⟨made, s₁, hserved₁, hmade, hclimbs, hstored, fun b c hb hc => ?_⟩
      rw [inMemory, hmade, getLast?_flatMap, ← List.getLast?_map] at hc
      rw [hstored] at hb
      rcases Option.or_eq_some_iff.mp hb with hlatest | ⟨-, hsaved⟩
      · obtain ⟨save, hmem, rfl⟩ := Option.map_eq_some_iff.mp hlatest
        have hsave := (List.mem_filter.mp (List.mem_of_getLast? hmem)).1
        exact le_of_getLast? hclimbs (List.mem_map_of_mem hsave) hc
      · obtain ⟨save, hsave, rfl⟩ := List.mem_map.mp (hblocks.subset (List.mem_of_getLast? hc))
        exact hcourse.le_block rfl b hsaved save hsave
  · intro outside s s' s₁ s₁' t t' r r' hsaved hrun hrun' hserved hserved' hmeets hmeets'
    obtain ⟨saves, hcourse⟩ := course_of_runs_session hserved hrun
    obtain ⟨saves', hcourse'⟩ := course_of_runs_session hserved' hrun'
    rw [← hsaved] at hcourse'
    obtain ⟨hshown, hmarks, hr⟩ := overlooks_session n hrun hrun'
      (answeredBy_withSaved hcourse hmeets) (answeredBy_withSaved hcourse' hmeets')
    refine ⟨hshown, hr, saves, saves', hcourse.tries_eq, hcourse'.tries_eq,
      hcourse.climbs.blocks_eq hcourse'.climbs fun block => ?_⟩
    rw [← hcourse.tries_eq, ← hcourse'.tries_eq, ← marked_savedBy, ← marked_savedBy]
    exact hmarks block

/-- The calls of a save that is done at the first try. -/
def savedAtOnce (block : UInt64) : SyncTrace Unit UInt64 :=
  [⟨.store (.saveCursor "svc" block), .ok ()⟩]

/-- The calls of a save of which every try fails. -/
def neverSaved (block : UInt64) : SyncTrace Unit UInt64 :=
  [⟨.store (.saveCursor "svc" block), .error .unavailable⟩, ⟨.pause 500000000, ()⟩,
    ⟨.store (.saveCursor "svc" block), .error .unavailable⟩, ⟨.pause 10000000000, ()⟩,
    ⟨.store (.saveCursor "svc" block), .error .unavailable⟩, ⟨.pause 10000000000, ()⟩,
    ⟨.store (.saveCursor "svc" block), .error .unavailable⟩]

/-- A session that starts from block 10 and hands out an event of block 11, with the calls of its
saves. -/
def eventSession (saving : UInt64 → SyncTrace Unit UInt64) : SyncTrace Unit UInt64 :=
  [⟨.store (.loadCursor "svc"), .ok (some 10)⟩] ++ (saving 10 ++
    ([⟨.head, .ok 11⟩, ⟨.tell (.head 11), ()⟩, ⟨.fetch () 11 11, .ok [7]⟩, ⟨.handle 7, .ok ()⟩] ++
      (saving 11 ++ [⟨.tell (.progress (some 11)), ()⟩])))

/-- A store with the cursor 10. -/
def storedAt10 : MemoryStore :=
  { MemoryStore.empty with cursors := Table.empty.put "svc" 10 }

/-- A chain with a new block and a handler that applies its event. -/
def oneNewBlock (_ : SyncTrace Unit UInt64) :
    (q : SyncCall Unit UInt64) → SyncCall.Answer Unit UInt64 q
  | .head => .ok 11
  | .fetch .. => .ok [7]
  | .handle _ => .ok ()
  | .store (.loadCursor _) => .ok none
  | .store _ => .error .unavailable
  | .pause _ => ()
  | .tell _ => ()

/-- A synchronizer that follows one kind of event. -/
def oneKind : Synchronizer (Program (SyncCall.Answer Unit UInt64)) Unit UInt64 :=
  asking (fun _ => "JobCreated") [()] ⟨"svc", 1, 100, none⟩

/-- A session may go on whatever becomes of its saves. -/
lemma runs_eventSession {saving : UInt64 → SyncTrace Unit UInt64}
    (hsaving : ∀ block, Runs (oneKind.persist block) (saving block) ()) :
    Runs (oneKind.session 1) (eventSession saving)
      (.ok 10, [(.ok (.advanced 11 11 1 0), some 11)]) := by
  have hresolve : Runs oneKind.resolve
      (⟨.store (.loadCursor "svc"), .ok (some 10)⟩ :: saving 10) (.ok 10) :=
    .call _ (runs_bind.mpr ⟨[], .ok (some 10), _, rfl, .here _, runs_bind.mpr
      ⟨[], .ok 10, _, rfl, .here _, runs_bind.mpr
        ⟨saving 10, (), [], (List.append_nil _).symm, hsaving 10, .here _⟩⟩⟩)
  have hpoll : Runs (oneKind.poll (some 10)) _ _ := runs_poll_stage
    ⟨11, 11, UInt64.le_refl 11, [((), [7])], rfl, [(7, .ok ())], rfl, by simp [isSettled]⟩
    (hsaving 11) rfl (windowEnd_head _ _) (by decide)
  exact runs_bind.mpr ⟨⟨.store (.loadCursor "svc"), .ok (some 10)⟩ :: saving 10, .ok 10, _, rfl,
    hresolve, runs_bind.mpr ⟨_, _, [], (List.append_nil _).symm,
      runs_bind.mpr ⟨_, _, [], (List.append_nil _).symm, hpoll, .here _⟩, .here _⟩⟩

/-- The chain and the handler are met whatever becomes of the saves. -/
lemma meets_eventSession {saving : UInt64 → SyncTrace Unit UInt64}
    (hhidden : ∀ block, shown isShown (saving block) = []) :
    Meets oneNewBlock (eventSession saving) := by
  intro before q x after heq
  have hshown : shown isShown (eventSession saving) =
      [⟨.store (.loadCursor "svc"), .ok (some 10)⟩, ⟨.head, .ok 11⟩, ⟨.tell (.head 11), ()⟩,
        ⟨.fetch () 11 11, .ok [7]⟩, ⟨.handle 7, .ok ()⟩, ⟨.tell (.progress (some 11)), ()⟩] := by
    rw [eventSession, shown_append, shown_append, shown_append, shown_append, hhidden, hhidden]
    rfl
  have hall : ∀ e ∈ shown isShown (eventSession saving), Agrees e.1 e.2 (oneNewBlock [] e.1) := by
    rw [hshown]
    simp [Agrees, oneNewBlock]
  exact hall ⟨q, x⟩ (heq ▸ List.mem_append_right _ List.mem_cons_self)

/-- A session that can never save its cursor does the same as one that always can. -/
theorem saves_unnoticed_in_outage :
    Runs (oneKind.session 1) (eventSession neverSaved)
      (.ok 10, [(.ok (.advanced 11 11 1 0), some 11)]) ∧
    inMemory "svc" (eventSession neverSaved) = some 11 ∧
    (∃ s, Protocol.Served SyncCall.Serves storedAt10 (eventSession neverSaved) s ∧
      s.cursors.get? "svc" = some 10) ∧
    (∃ s, Protocol.Served SyncCall.Serves storedAt10 (eventSession savedAtOnce) s ∧
      s.cursors.get? "svc" = some 11) ∧
    shown isShown (eventSession neverSaved) = shown isShown (eventSession savedAtOnce) := by
  have hload : SyncCall.Serves (κ := Unit) (ε := UInt64) storedAt10 (.store (.loadCursor "svc"))
      (.ok (some 10)) storedAt10 := .performed storedAt10 (.loadCursor "svc")
  have hunsaved : Protocol.Served SyncCall.Serves storedAt10 (eventSession neverSaved)
      storedAt10 := by
    have hsaving : ∀ block,
        Protocol.Served SyncCall.Serves storedAt10 (neverSaved block) storedAt10 := fun block =>
      .cons (.failed _ _ _) (.cons (.elsewhere _ (by simp) _) (.cons (.failed _ _ _)
        (.cons (.elsewhere _ (by simp) _) (.cons (.failed _ _ _) (.cons (.elsewhere _ (by simp) _)
          (.cons (.failed _ _ _) (.nil _)))))))
    exact .cons hload ((hsaving 10).append (.cons (.elsewhere _ (by simp) _)
      (.cons (.elsewhere _ (by simp) _) (.cons (.elsewhere _ (by simp) _)
        (.cons (.elsewhere _ (by simp) _) ((hsaving 11).append
          (.cons (.elsewhere _ (by simp) _) (.nil _))))))))
  have hsaved : Protocol.Served SyncCall.Serves storedAt10 (eventSession savedAtOnce) _ :=
    .cons hload (.cons (.performed _ (.saveCursor "svc" 10)) (.cons (.elsewhere _ (by simp) _)
      (.cons (.elsewhere _ (by simp) _) (.cons (.elsewhere _ (by simp) _)
        (.cons (.elsewhere _ (by simp) _) (.cons (.performed _ (.saveCursor "svc" 11))
          (.cons (.elsewhere _ (by simp) _) (.nil _))))))))
  have hrun : Runs (oneKind.session 1) (eventSession neverSaved) _ :=
    runs_eventSession fun block =>
      .call _ (.call _ (.call _ (.call _ (.call _ (.call _ (.call _ (.here _)))))))
  have hrun' : Runs (oneKind.session 1) (eventSession savedAtOnce) _ :=
    runs_eventSession fun block => .call _ (.here _)
  obtain ⟨hone, htwo⟩ :=
    @saves_unnoticed Unit UInt64 (fun _ => "JobCreated") [()] ⟨"svc", 1, 100, none⟩ 1
  refine ⟨hrun, (hone _ _ _ _ _ hrun hunsaved).1, ⟨storedAt10, hunsaved, rfl⟩, ⟨_, hsaved, rfl⟩, ?_⟩
  exact (htwo oneNewBlock _ _ _ _ _ _ _ _ rfl hrun hrun' hunsaved hsaved
    (meets_eventSession fun _ => rfl) (meets_eventSession fun _ => rfl)).1

end Synchronizer

end ComputeExchange
