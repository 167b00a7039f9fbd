import ComputeExchange.Proofs.Sync.Extent
import ComputeExchange.Proofs.Sync.Lag
import ComputeExchange.Proofs.Sync.Stored

/-!
# Where scanning starts

The starting cursor of a synchronizer decides which block its passes fetch first.  `firstWanted` is
the block that the saved cursor, the configured first block and the head of the chain ask for, in
numbers that do not wrap around, and `ScansFrom` says what it is to scan a chain from a block on:
nothing before it is fetched, fetching begins with it, and no block from it on is left out.  What
carries this is `Run.before_fetch`: before a window is fetched, windows have been completed without
a gap from the cursor at the start to the block before it.

A cursor is the last block that has been dealt with, and there is none before block 0.  So block 0
is never scanned, also if it is the configured first block (`scanned_from_first_wanted`).
-/

namespace ComputeExchange

namespace Synchronizer

open Program

variable {κ ε : Type} {label : κ → String} {kinds : List κ} {config : Sync.Config}

/-! ### What is fetched -/

/-- Whether a call fetches events. -/
def isFetch : Event (SyncCall.Answer κ ε) → Bool
  | ⟨.fetch .., _⟩ => true
  | _ => false

/-- A stage fetches its window and no other. -/
lemma Stage.first_of_fetch_mem {service : String} (s : Stage kinds service ε) {kind : κ}
    {first last : UInt64} {answer : Except Cause (List ε)}
    (h : (⟨.fetch kind first last, answer⟩ : Event _) ∈ s.calls) : first = s.first := by
  rcases List.mem_append.mp h with h | h
  · rcases s.fetch_or_handle _ h with ⟨kind', hfetch⟩ | ⟨event, hhandle⟩
    · cases hfetch
      rfl
    · cases hhandle
  · rcases List.mem_append.mp h with h | h
    · rcases s.saved _ h with hsave | ⟨span, hpause⟩
      · cases hsave
      · cases hpause
    · simp at h

/-- What is fetched after the last stage lies after the cursor. -/
lemma Ending.first_of_fetch_mem {first head cursor : UInt64} {tally : Tally} {t : SyncTrace κ ε}
    {r : Except SyncError Sync.Outcome} (h : Ending label kinds config first head cursor tally t r)
    {kind : κ} {next last : UInt64} {answer : Except Cause (List ε)}
    (hmem : (⟨.fetch kind next last, answer⟩ : Event _) ∈ t) :
    next.toNat = cursor.toNat + 1 := by
  cases h with
  | reached => cases hmem
  | exhausted => cases hmem
  | unfetched hnext hle batches =>
    rcases List.mem_append.mp hmem with hmem | hmem
    · obtain ⟨batch, -, hbatch⟩ := List.mem_map.mp hmem
      cases hbatch
      exact hnext
    · cases List.mem_singleton.mp hmem
      exact hnext
  | unhandled hnext hle batches =>
    rcases List.mem_append.mp hmem with hmem | hmem
    · obtain ⟨batch, -, hbatch⟩ := List.mem_map.mp hmem
      cases hbatch
      exact hnext
    · rcases List.mem_append.mp hmem with hmem | hmem
      · obtain ⟨handed, -, hhanded⟩ := List.mem_map.mp hmem
        cases hhanded
      · cases List.mem_singleton.mp hmem

/-- Before a window is fetched, windows have been completed that lead from a cursor to the block
before it. -/
def LedTo (kinds : List κ) (start : UInt64) (before : SyncTrace κ ε) (first : UInt64) : Prop :=
  ∃ (block : UInt64) (ws : List (Window kinds ε)), first.toNat = block.toNat + 1 ∧
    Tiles start ws block ∧ ∀ w ∈ ws, w.work <:+: before

/-- What comes after windows that lead to another cursor. -/
lemma LedTo.of_tiles {start mid first : UInt64} {calls before : SyncTrace κ ε}
    (h : LedTo kinds mid before first) (vs : List (Window kinds ε)) (htiles : Tiles start vs mid)
    (hwork : ∀ v ∈ vs, v.work <:+: calls) : LedTo kinds start (calls ++ before) first := by
  obtain ⟨block, ws, hfirst, hws, hdone⟩ := h
  refine ⟨block, vs ++ ws, hfirst, htiles.append hws, List.forall_mem_append.mpr ⟨?_, ?_⟩⟩
  · exact fun v hv => (hwork v hv).trans (List.prefix_append _ _).isInfix
  · exact fun w hw => (hdone w hw).trans (List.suffix_append _ _).isInfix

/-- A pass fetches a window when all windows before have been completed. -/
theorem Passed.before_fetch {start stop : UInt64} {t : SyncTrace κ ε}
    {r : Except SyncError Sync.Outcome} (h : Passed label kinds config start t r stop) {kind : κ}
    {first last : UInt64} {answer : Except Cause (List ε)} {pre post : SyncTrace κ ε}
    (ht : t = pre ++ ⟨.fetch kind first last, answer⟩ :: post) : LedTo kinds start pre first := by
  cases h.place (by simp) (by simp) ht with
  | @within s block ws before begun left htiles hfirst hdone hcalls =>
    have hmem : (⟨.fetch kind first last, answer⟩ : Event _) ∈ s.calls := by
      simp [hcalls]
    obtain rfl := s.first_of_fetch_mem hmem
    exact ⟨block, ws, hfirst, htiles, fun w hw =>
      (hdone w hw).trans (List.prefix_append _ _).isInfix⟩
  | @beyond stop ws _ htiles hdone _ _ _ _ _ hending hmem =>
    exact ⟨stop, ws, hending.first_of_fetch_mem hmem, htiles, hdone⟩

/-! ### That something is fetched -/

/-- A completed window has been fetched, unless there are no kinds. -/
lemma Window.exists_fetch (w : Window kinds ε) (hkinds : kinds ≠ []) :
    ∃ e ∈ w.work, isFetch e = true := by
  have hbatches : w.batches ≠ [] := by
    intro hnil
    have hfetched := w.fetched
    rw [hnil] at hfetched
    exact hkinds hfetched.symm
  obtain ⟨batch, hbatch⟩ := List.exists_mem_of_ne_nil _ hbatches
  exact ⟨_, List.mem_append_left _ (List.mem_map_of_mem hbatch), rfl⟩

/-- A pass that moves its cursor has fetched something. -/
lemma Passed.exists_fetch_of_lt {start stop : UInt64} {t : SyncTrace κ ε}
    {r : Except SyncError Sync.Outcome} (h : Passed label kinds config start t r stop)
    (hkinds : kinds ≠ []) (hlt : start < stop) : ∃ e ∈ t, isFetch e = true := by
  obtain ⟨ws, htiles, hws⟩ := h.windows
  obtain ⟨w, hw, -⟩ := htiles.exists_mem hlt (UInt64.le_refl stop)
  obtain ⟨e, he, hfetch⟩ := w.exists_fetch hkinds
  exact ⟨e, (hws w hw).1.subset he, hfetch⟩

/-- A pass that reads a head after its cursor fetches something. -/
lemma Passed.exists_fetch {start stop head : UInt64} {t : SyncTrace κ ε}
    {r : Except SyncError Sync.Outcome} (h : Passed label kinds config start t r stop)
    (hkinds : kinds ≠ []) (hhead : (⟨.head, .ok head⟩ : Event _) ∈ t) (hlt : start < head) :
    ∃ e ∈ t, isFetch e = true := by
  have hmoved := h.exists_fetch_of_lt hkinds
  cases h with
  | headless => simp at hhead
  | @idle head' hle =>
    obtain rfl : head = head' := by simpa using hhead
    exact absurd hle (UInt64.not_le.mpr hlt)
  | @walked head' _ hlt' stages htiles hsizes rest _ hending =>
    have hlast : ∀ e ∈ rest, isFetch e = true →
        ∃ e ∈ ⟨.head, .ok head'⟩ :: ⟨.tell (.head head'), ()⟩ ::
          (stages.flatMap Stage.calls ++ rest), isFetch e = true :=
      fun e he hfetch => ⟨e, by simp [he], hfetch⟩
    cases hending with
    | reached hcursor => exact hmoved (hcursor ▸ hlt')
    | exhausted hcursor =>
      refine hmoved (UInt64.lt_of_le_of_ne htiles.le fun hstart => ?_)
      exact ne_greatest hlt' (hstart.trans hcursor)
    | unfetched hnext hle batches kind cause =>
      exact hlast _ (List.mem_append_right _ (List.mem_singleton_self _)) rfl
    | unhandled hnext hle batches hfetched =>
      have hbatches : batches ≠ [] := by
        rintro rfl
        exact hkinds hfetched.symm
      obtain ⟨batch, hbatch⟩ := List.exists_mem_of_ne_nil _ hbatches
      exact hlast _ (List.mem_append_left _ (List.mem_map_of_mem hbatch)) rfl

/-! ### Passes from a cursor on -/

/-- The calls of passes, one after another. -/
def callsOfPasses (passes : List (Pass κ ε)) : SyncTrace κ ε := passes.flatMap (·.trace)

namespace Run

variable {start stop : UInt64} {passes : List (Pass κ ε)}

/-- Passes fetch a window when all windows before have been completed. -/
theorem before_fetch (h : Run label kinds config start passes stop) {kind : κ}
    {first last : UInt64} {answer : Except Cause (List ε)} {before after : SyncTrace κ ε}
    (ht : callsOfPasses passes = before ++ ⟨.fetch kind first last, answer⟩ :: after) :
    LedTo kinds start before first := by
  have hpassed := h.passed
  induction h generalizing before with
  | nil => simp [callsOfPasses] at ht
  | @cons p passes stop _ _ ih =>
    rw [List.forall_mem_cons] at hpassed
    rw [callsOfPasses, List.flatMap_cons] at ht
    rcases append_eq_append_cons ht with ⟨before', rfl, hbefore'⟩ | ⟨after', hp⟩
    · obtain ⟨vs, htiles, hvs⟩ := hpassed.1.windows
      exact (ih hbefore' hpassed.2).of_tiles vs htiles fun v hv => (hvs v hv).1
    · exact hpassed.1.before_fetch hp

/-- Once a head after the cursor at the start is read, something is fetched. -/
lemma exists_fetch (h : Run label kinds config start passes stop) (hkinds : kinds ≠ [])
    {p : Pass κ ε} (hp : p ∈ passes) {head : UInt64}
    (hhead : (⟨.head, .ok head⟩ : Event _) ∈ p.trace) (hlt : start < head) :
    ∃ e ∈ callsOfPasses passes, isFetch e = true := by
  have hpassed := h.passed
  induction h with
  | nil => cases hp
  | @cons q passes stop _ _ ih =>
    obtain ⟨hfirst, hothers⟩ := List.forall_mem_cons.mp hpassed
    have hq : (∃ e ∈ q.trace, isFetch e = true) →
        ∃ e ∈ callsOfPasses (q :: passes), isFetch e = true :=
      fun ⟨e, he, hfetch⟩ => ⟨e, List.mem_append_left _ he, hfetch⟩
    rcases List.mem_cons.mp hp with rfl | hp
    · exact hq (hfirst.exists_fetch hkinds hhead hlt)
    · by_cases hmoved : q.start < q.stop
      · exact hq (hfirst.exists_fetch_of_lt hkinds hmoved)
      · -- The first pass leaves its cursor where it was, so the others start from there.
        have hsame : q.stop = q.start := UInt64.le_antisymm (UInt64.not_lt.mp hmoved) hfirst.le
        obtain ⟨e, he, hfetch⟩ := ih hp (hsame ▸ hlt) hothers
        exact ⟨e, List.mem_append_right _ he, hfetch⟩

/-- Every block that passes have passed lies in a window that they have completed. -/
lemma exists_window (h : Run label kinds config start passes stop) {block : UInt64}
    (hlt : start < block) (hle : block ≤ stop) :
    ∃ w : Window kinds ε, w.work <:+: callsOfPasses passes ∧ w.first ≤ block ∧ block ≤ w.last := by
  obtain ⟨p, hp, hafter, hbefore⟩ := h.exists_pass hlt hle
  obtain ⟨ws, htiles, hws⟩ := (h.passed p hp).windows
  obtain ⟨w, hw, hblock⟩ := htiles.exists_mem hafter hbefore
  exact ⟨w, (hws w hw).1.trans (List.infix_of_mem_flatten (List.mem_map_of_mem hp)), hblock⟩

/-- Every pass of a run is a pass from its cursor. -/
lemma runs_poll (h : Run label kinds config start passes stop) : ∀ p ∈ passes,
    Runs ((asking label kinds config).poll (some p.start)) p.trace (p.result, some p.stop) := by
  induction h with
  | nil => simp
  | cons hpass _ ih => exact List.forall_mem_cons.mpr ⟨hpass, ih⟩

/-- A pass whose calls are answered brings the cursor to the head that it reads. -/
lemma head_le (h : Run label kinds config start passes stop) {p : Pass κ ε} (hp : p ∈ passes)
    (hanswered : ∀ e ∈ p.trace, IsAnswered e) {head : UInt64}
    (hhead : (⟨.head, .ok head⟩ : Event _) ∈ p.trace) : head ≤ stop := by
  refine UInt64.le_trans ?_ (h.le_and_le p hp).2.2
  obtain ⟨head', stages, htrace, hidle, hwalked⟩ :=
    stages_of_runs_poll hanswered (h.runs_poll p hp)
  have hread : p.trace.filterMap headRead = [.ok head'] := by
    rw [htrace]
    exact congrArg (.ok head' :: ·) (headsRead_stages stages)
  obtain rfl : head = head' := by
    have hmem : (.ok head : Except Cause UInt64) ∈ p.trace.filterMap headRead :=
      List.mem_filterMap.mpr ⟨_, hhead, rfl⟩
    rw [hread, List.mem_singleton] at hmem
    exact Except.ok.inj hmem
  by_cases hle : head ≤ p.start
  · exact UInt64.le_trans hle (h.le_and_le p hp).2.1
  · rw [Option.some.inj (hwalked (UInt64.not_le.mp hle)).2.2.1]
    exact UInt64.le_refl head

end Run

/-- Whether passes scan a chain from a block on, and have come to a cursor. -/
structure ScansFrom (kinds : List κ) (first : ℕ) (passes : List (Pass κ ε)) (stop : UInt64) :
    Prop where
  /-- Nothing is fetched before the block. -/
  notBefore : ∀ kind from_ last answer,
    (⟨.fetch kind from_ last, answer⟩ : Event _) ∈ callsOfPasses passes → first ≤ from_.toNat
  /-- Once a pass reads a head that is no earlier, the first fetch starts with the block. -/
  begins : kinds ≠ [] → ∀ p ∈ passes, ∀ head : UInt64, (⟨.head, .ok head⟩ : Event _) ∈ p.trace →
    first ≤ head.toNat → ∃ before kind from_ last answer after,
      callsOfPasses passes = before ++ ⟨.fetch kind from_ last, answer⟩ :: after ∧
      from_.toNat = first ∧ ∀ e ∈ before, isFetch e = false
  /-- When a window is fetched, all blocks before it have been completed, from the block on. -/
  inOrder : ∀ before kind from_ last answer after,
    callsOfPasses passes = before ++ ⟨.fetch kind from_ last, answer⟩ :: after →
    ∀ block : UInt64, first ≤ block.toNat → block < from_ →
      ∃ w : Window kinds ε, w.work <:+: before ∧ w.first ≤ block ∧ block ≤ w.last
  /-- All blocks up to the cursor have been completed, from the block on. -/
  completed : ∀ block : UInt64, first ≤ block.toNat → block ≤ stop →
    ∃ w : Window kinds ε, w.work <:+: callsOfPasses passes ∧ w.first ≤ block ∧ block ≤ w.last
  /-- A pass whose calls are answered brings the cursor to the head that it reads. -/
  reaches : ∀ p ∈ passes, (∀ e ∈ p.trace, IsAnswered e) →
    ∀ head, (⟨.head, .ok head⟩ : Event _) ∈ p.trace → head ≤ stop

/-- Passes scan the chain from the block after their cursor on. -/
theorem Run.scansFrom {start stop : UInt64} {passes : List (Pass κ ε)}
    (h : Run label kinds config start passes stop) :
    ScansFrom kinds (start.toNat + 1) passes stop where
  notBefore := by
    intro kind from_ last answer hmem
    obtain ⟨before, after, ht⟩ := List.append_of_mem hmem
    obtain ⟨block, ws, hfirst, htiles, -⟩ := h.before_fetch ht
    have hle := UInt64.le_iff_toNat_le.mp htiles.le
    omega
  begins := by
    intro hkinds p hp head hhead hfirst
    have hlt : start < head := UInt64.lt_iff_toNat_lt.mpr hfirst
    obtain ⟨e, he, hfetch⟩ := h.exists_fetch hkinds hp hhead hlt
    obtain ⟨found, hfound⟩ := Option.isSome_iff_exists.mp (List.find?_isSome.mpr ⟨e, he, hfetch⟩)
    obtain ⟨hfetch, before, after, ht, hbefore⟩ := List.find?_eq_some_iff_append.mp hfound
    obtain ⟨q, answer⟩ := found
    cases q with
    | fetch kind from_ last =>
      have hnone : ∀ e ∈ before, isFetch e = false := fun e he => by simpa using hbefore e he
      refine ⟨before, kind, from_, last, answer, after, ht, ?_, hnone⟩
      obtain ⟨block, ws, hnext, htiles, hwork⟩ := h.before_fetch ht
      cases ws with
      | nil =>
        obtain rfl := htiles
        exact hnext
      | cons w ws =>
        -- A window before the first fetch would have been fetched.
        obtain ⟨e, he, hfetch⟩ := w.exists_fetch hkinds
        have hmem := (hwork w List.mem_cons_self).subset he
        rw [hnone e hmem] at hfetch
        cases hfetch
    | _ => cases hfetch
  inOrder := by
    intro before kind from_ last answer after ht block hfirst hlt
    obtain ⟨mid, ws, hnext, htiles, hwork⟩ := h.before_fetch ht
    have hle : block ≤ mid := by
      rw [UInt64.lt_iff_toNat_lt] at hlt
      rw [UInt64.le_iff_toNat_le]
      omega
    obtain ⟨w, hw, hblock⟩ := htiles.exists_mem (UInt64.lt_iff_toNat_lt.mpr hfirst) hle
    exact ⟨w, hwork w hw, hblock⟩
  completed := fun _ hfirst hle => h.exists_window (UInt64.lt_iff_toNat_lt.mpr hfirst) hle
  reaches := fun _ hp hanswered _ hhead => h.head_le hp hanswered hhead

/-! ### The starting cursor -/

/-- The first block that is asked for: the one after the saved cursor, or the configured one if that
lies further on; or if nothing is saved, the configured one, or else the one after the head. -/
def firstWanted (startBlock saved : Option UInt64) (head : UInt64) : ℕ :=
  match saved, startBlock with
  | some block, none => block.toNat + 1
  | some block, some start => max start.toNat (block.toNat + 1)
  | none, some start => start.toNat
  | none, none => head.toNat + 1

/-- The block after the starting cursor is the one that is asked for, unless this is block 0. -/
lemma toNat_startingCursor (config : Sync.Config) (saved : Option UInt64) (head : UInt64) :
    (startingCursor config saved (saved.getD head)).toNat + 1 =
      max 1 (firstWanted config.startBlock saved head) := by
  cases saved with
  | some block =>
    rw [Option.getD_some, toNat_startingCursor_some]
    cases config.startBlock with
    | none => simp [firstWanted]
    | some start =>
      simp only [firstWanted, Option.elim_some]
      omega
  | none =>
    unfold startingCursor firstWanted
    cases config.startBlock with
    | none => simp
    | some start =>
      have hsub : (requested start).toNat = start.toNat - 1 := Clamp.toNat_sub start 1
      simp only [hsub]
      omega

/-- The block that is asked for is block 0 only if nothing is saved and it is configured so. -/
lemma firstWanted_eq_zero_iff (startBlock saved : Option UInt64) (head : UInt64) :
    firstWanted startBlock saved head = 0 ↔ saved = none ∧ startBlock = some 0 := by
  have hzero : ∀ start : UInt64, start.toNat = 0 ↔ start = 0 := fun start =>
    ⟨fun h => UInt64.toNat_inj.mp h, fun h => h ▸ rfl⟩
  cases saved <;> cases startBlock <;> simp [firstWanted, hzero]

/-- A synchronizer keeps the starting cursor that it finds, and else the cursor it has. -/
lemma runs_start_iff {memory memory' : Option UInt64} {t : SyncTrace κ ε}
    {r : Except SyncError UInt64} :
    Runs ((asking label kinds config).start memory) t (r, memory') ↔
      Runs (asking label kinds config).resolve t r ∧ memory' = r.toOption.or memory := by
  rw [start, runs_bind]
  constructor
  · rintro ⟨t₁, found, t₂, rfl, h₁, h₂⟩
    cases found with
    | ok cursor =>
      obtain ⟨rfl, rfl, rfl⟩ := runs_pure_mk.mp h₂
      exact ⟨(List.append_nil t₁).symm ▸ h₁, rfl⟩
    | error e =>
      obtain ⟨rfl, rfl, rfl⟩ := runs_pure_mk.mp h₂
      exact ⟨(List.append_nil t₁).symm ▸ h₁, rfl⟩
  · rintro ⟨h, rfl⟩
    refine ⟨t, r, [], (List.append_nil t).symm, h, ?_⟩
    cases r with
    | ok cursor => exact runs_pure_mk.mpr ⟨rfl, rfl, rfl⟩
    | error e => exact runs_pure_mk.mpr ⟨rfl, rfl, rfl⟩

/-- A pass without a cursor looks for one as a synchronizer that is started does. -/
lemma runs_poll_none_iff_start {t : SyncTrace κ ε} {r : Except SyncError Sync.Outcome}
    {stop : Option UInt64} :
    Runs ((asking label kinds config).poll none) t (r, stop) ↔
      (∃ e, Runs ((asking label kinds config).start none) t (.error e, none) ∧
        r = .error e ∧ stop = none) ∨
      ∃ t₁ cursor t₂, t = t₁ ++ t₂ ∧
        Runs ((asking label kinds config).start none) t₁ (.ok cursor, some cursor) ∧
        Runs ((asking label kinds config).poll (some cursor)) t₂ (r, stop) := by
  have herror : ∀ t e, Runs ((asking (ε := ε) label kinds config).start none) t (.error e, none) ↔
      Runs (asking label kinds config).resolve t (.error e) :=
    fun t e => runs_start_iff.trans (and_iff_left rfl)
  have hok : ∀ t cursor,
      Runs ((asking (ε := ε) label kinds config).start none) t (.ok cursor, some cursor) ↔
        Runs (asking label kinds config).resolve t (.ok cursor) :=
    fun t cursor => runs_start_iff.trans (and_iff_left rfl)
  simp only [herror, hok]
  exact runs_poll_none_iff

/-- If the starting cursor is not found, the saved one stays as it is; that the head of the chain
cannot be read is a reason only if nothing is saved. -/
lemma Unresolved.saved_eq {saved saved' : Option UInt64} {t : SyncTrace κ ε} {e : SyncError}
    (h : Unresolved config t e) (hstored : Stored config.service saved t saved') :
    saved' = saved ∧ ∀ cause, e = .head cause → saved = none := by
  have hloads := isFinding_failedLoads (κ := κ) (ε := ε) config.service
  cases h with
  | zeroRange =>
    cases hstored
    exact ⟨rfl, by simp⟩
  | @unloaded _ failures _ last =>
    refine ⟨(hstored.of_finding ?_).1, by simp⟩
    exact List.forall_mem_append.mpr ⟨hloads failures, by simp [IsFinding]⟩
  | @headless _ failures _ cause =>
    obtain ⟨hsaved, hfound⟩ := hstored.of_finding
      (List.forall_mem_append.mpr ⟨hloads failures, by simp [IsFinding]⟩)
    exact ⟨hsaved, fun _ _ => (hfound none (by simp)).symm⟩

/-- The load that succeeds after others have failed tells the saved cursor. -/
lemma Stored.of_load {saved saved' found : Option UInt64} {service : String}
    {failures : List StoreError} {t : SyncTrace κ ε}
    (h : Stored service saved
      (failedLoads service failures ++ ⟨.store (.loadCursor service), .ok found⟩ :: t) saved') :
    found = saved := by
  rw [List.append_cons] at h
  obtain ⟨mid, hfound, -⟩ := h.append
  refine (hfound.of_finding ?_).2 found (by simp)
  exact List.forall_mem_append.mpr ⟨isFinding_failedLoads service failures, by simp [IsFinding]⟩

/-- The head of the chain is read once if nothing is saved, and the starting cursor is found from it
then, and else from the saved one. -/
lemma Resolution.cursor_eq {saved saved' : Option UInt64} {t : SyncTrace κ ε} {cursor : UInt64}
    (h : Resolution label kinds config t (.ok cursor))
    (hstored : Stored config.service saved t saved') :
    (saved = none → ∃ head, (⟨.head, .ok head⟩ : Event _) ∈ t) ∧
      ∀ head, (saved = none → (⟨.head, .ok head⟩ : Event _) ∈ t) →
        cursor = startingCursor config saved (saved.getD head) := by
  cases h with
  | saved _ _ block _ =>
    obtain rfl := hstored.of_load
    exact ⟨nofun, fun _ _ => rfl⟩
  | @current _ failures _ block saving hsaving =>
    obtain rfl := hstored.of_load
    refine ⟨fun _ => ⟨block, by simp⟩, fun head hhead => ?_⟩
    have hloads : (⟨.head, .ok head⟩ : Event (SyncCall.Answer κ ε)) ∉
        failedLoads config.service failures := by
      intro hmem
      rcases calls_of_failedTries _ hmem with hload | ⟨span, hpause⟩
      · cases hload
      · cases hpause
    have hsaves : (⟨.head, .ok head⟩ : Event (SyncCall.Answer κ ε)) ∉ saving := by
      intro hmem
      rcases calls_of_runs_persist hsaving _ hmem with hsave | ⟨span, hpause⟩
      · cases hsave
      · cases hpause
    obtain rfl : head = block := by simpa [hloads, hsaves] using hhead rfl
    rfl

/-- A synchronizer that is started, with some cursor or none, and with some cursor saved or none,
finds its starting cursor or does not.  If not, then windows would have no blocks, or four loads
have failed, or nothing is saved and the head cannot be read; both cursors stay as they were, and a
pass without a cursor is such a start again, followed by a pass from where it leads.  If it does,
all its passes scan the chain from the first block that is asked for on, unless this is block 0, for
which they start with block 1; it is block 0 exactly if nothing is saved and it is configured. -/
theorem scanned_from_first_wanted {memory memory' saved saved' : Option UInt64}
    {t : SyncTrace κ ε} {r : Except SyncError UInt64}
    (hrun : Runs ((asking label kinds config).start memory) t (r, memory'))
    (hstored : Stored config.service saved t saved') :
    (∀ e, r = .error e → Unresolved config t e ∧ (∀ cause, e = .head cause → saved = none) ∧
      memory' = memory ∧ saved' = saved) ∧
    (∀ cursor, r = .ok cursor → memory' = some cursor ∧
      (saved = none → ∃ head, (⟨.head, .ok head⟩ : Event _) ∈ t) ∧
      ∀ head, (saved = none → (⟨.head, .ok head⟩ : Event _) ∈ t) →
        (max 1 (firstWanted config.startBlock saved head) =
            firstWanted config.startBlock saved head ↔
          ¬ (saved = none ∧ config.startBlock = some 0)) ∧
        ∀ (passes : List (Pass κ ε)) stop, Run label kinds config cursor passes stop →
          ScansFrom kinds (max 1 (firstWanted config.startBlock saved head)) passes stop) ∧
    ∀ t' r' stop, Runs ((asking (ε := ε) label kinds config).poll none) t' (r', stop) ↔
      (∃ e, Runs ((asking label kinds config).start none) t' (.error e, none) ∧
        r' = .error e ∧ stop = none) ∨
      ∃ t₁ cursor t₂, t' = t₁ ++ t₂ ∧
        Runs ((asking label kinds config).start none) t₁ (.ok cursor, some cursor) ∧
        Runs ((asking label kinds config).poll (some cursor)) t₂ (r', stop) := by
  obtain ⟨hresolve, rfl⟩ := runs_start_iff.mp hrun
  have hresolution := resolution_of_runs_resolve hresolve
  refine ⟨?_, ?_, fun _ _ _ => runs_poll_none_iff_start⟩
  · rintro e rfl
    cases hresolution with
    | failed hfailed =>
      obtain ⟨hsaved, hnone⟩ := hfailed.saved_eq hstored
      exact ⟨hfailed, hnone, rfl, hsaved⟩
  · rintro cursor rfl
    obtain ⟨hread, hcursor⟩ := hresolution.cursor_eq hstored
    refine ⟨rfl, hread, fun head hhead => ⟨?_, fun passes stop hpasses => ?_⟩⟩
    · rw [← firstWanted_eq_zero_iff config.startBlock saved head]
      omega
    · rw [← toNat_startingCursor, ← hcursor head hhead]
      exact hpasses.scansFrom

/-- The calls of a synchronizer that finds nothing saved and is to start with block 0. -/
def startAtZero : SyncTrace Unit UInt64 :=
  [⟨.store (.loadCursor "svc"), .ok none⟩, ⟨.head, .ok 5⟩, ⟨.store (.saveCursor "svc" 0), .ok ()⟩]

/-- Its pass up to the head. -/
def passAfterZero : Pass Unit UInt64 :=
  ⟨0, [⟨.head, .ok 5⟩, ⟨.tell (.head 5), ()⟩, ⟨.fetch () 1 5, .ok []⟩,
    ⟨.store (.saveCursor "svc" 5), .ok ()⟩, ⟨.tell (.progress (some 5)), ()⟩],
    .ok (.advanced 1 5 0 0), 5⟩

/-- Block 0 is asked for, but scanning begins with block 1. -/
theorem block_zero_not_scanned :
    Runs ((asking (fun _ => "Created") [()] ⟨"svc", 1, 100, some 0⟩).start none) startAtZero
      (.ok 0, some 0) ∧
    Stored "svc" none startAtZero (some 0) ∧
    Run (fun _ => "Created") [()] ⟨"svc", 1, 100, some 0⟩ 0 [passAfterZero] 5 ∧
    firstWanted (some 0) none 5 = 0 ∧ ScansFrom [()] 1 [passAfterZero] 5 := by
  have hrun : Runs ((asking (ε := UInt64) (fun _ => "Created") [()]
      ⟨"svc", 1, 100, some 0⟩).start none) startAtZero (.ok 0, some 0) :=
    .call _ (.call _ (.call _ (.here _)))
  have hstored : Stored "svc" none startAtZero (some 0) :=
    .loaded (.other (by simp) (.saved _ (.nil (some 0))))
  have hpasses : Run (fun _ => "Created") [()] ⟨"svc", 1, 100, some 0⟩ 0 [passAfterZero] 5 := by
    let w : Window [()] UInt64 := ⟨1, 5, by decide, [((), [])], rfl, [], rfl, by simp⟩
    exact .cons (p := passAfterZero) (runs_poll_window w rfl (by decide) (by decide)) (.nil 5)
  refine ⟨hrun, hstored, hpasses, rfl, ?_⟩
  have hfound := (scanned_from_first_wanted hrun hstored).2.1 0 rfl
  exact (hfound.2.2 5 fun _ => by simp [startAtZero]).2 [passAfterZero] 5 hpasses

end Synchronizer

end ComputeExchange
