import ComputeExchange.Proofs.Health.Position
import ComputeExchange.Proofs.Sync.Pass
import ComputeExchange.Proofs.Sync.Resolving

/-!
# The lag that is reported

A synchronizer tells its tracker of every head that it reads and of every window that it completes,
but not of the cursor that it starts from.  So the tracker knows the cursor only once a window has
been completed (`Synchronizer.Watched.follows`), and until then its report does not speak of a lag,
however far the cursor is behind the head (`Synchronizer.chain_lag_reported_iff`).
-/

namespace ComputeExchange

open Program Health

variable {κ ε : Type}

/-- What a call tells the health report. -/
def toldBy : Program.Event (SyncCall.Answer κ ε) → Option Health.Event
  | ⟨.tell event, _⟩ => some event
  | _ => none

/-- What the health report is told, in order. -/
def told (t : SyncTrace κ ε) : List Health.Event := t.filterMap toldBy

/-- What the chain answers to a call for its head. -/
def headRead : Program.Event (SyncCall.Answer κ ε) → Option (Except Cause UInt64)
  | ⟨.head, answer⟩ => some answer
  | _ => none

/-- What came of reading the head for the last time. -/
def lastHead (t : SyncTrace κ ε) : Option (Except Cause UInt64) :=
  (t.filterMap headRead).getLast?

/-- Whether a window has been completed. -/
def CompletesWindow (t : SyncTrace κ ε) : Prop :=
  ∃ last, (⟨.tell (.progress (some last)), ()⟩ : Program.Event (SyncCall.Answer κ ε)) ∈ t

lemma told_append (t u : SyncTrace κ ε) : told (t ++ u) = told t ++ told u :=
  List.filterMap_append

/-- Whether a call tells nothing and reads no head. -/
def IsSilent (e : Program.Event (SyncCall.Answer κ ε)) : Prop :=
  toldBy e = none ∧ headRead e = none

/-- Calls that tell nothing tell nothing together. -/
lemma told_eq_nil {t : SyncTrace κ ε} (h : ∀ e ∈ t, IsSilent e) : told t = [] :=
  List.filterMap_eq_nil_iff.mpr fun e he => (h e he).1

/-- Calls that read no head read none together. -/
lemma headsRead_eq_nil {t : SyncTrace κ ε} (h : ∀ e ∈ t, IsSilent e) : t.filterMap headRead = [] :=
  List.filterMap_eq_nil_iff.mpr fun e he => (h e he).2

/-- A window is completed exactly if a block is told. -/
lemma completesWindow_iff (t : SyncTrace κ ε) :
    CompletesWindow t ↔ (told t).filterMap Event.block? ≠ [] := by
  constructor
  · rintro ⟨last, hmem⟩ hnil
    have hlast : last ∈ (told t).filterMap Event.block? :=
      List.mem_filterMap.mpr ⟨_, List.mem_filterMap.mpr ⟨_, hmem, rfl⟩, rfl⟩
    rw [hnil] at hlast
    cases hlast
  · intro hne
    obtain ⟨last, hlast⟩ := List.exists_mem_of_ne_nil _ hne
    obtain ⟨event, htold, hblock⟩ := List.mem_filterMap.mp hlast
    obtain ⟨⟨q, answer⟩, hmem, hevent⟩ := List.mem_filterMap.mp htold
    cases q with
    | tell event' =>
      obtain rfl : event' = event := Option.some.inj hevent
      cases event' with
      | progress block =>
        obtain rfl : block = some last := hblock
        exact ⟨last, hmem⟩
      | _ => cases hblock
    | _ => cases hevent

namespace Synchronizer

variable {label : κ → String} {kinds : List κ} {config : Sync.Config}

/-! ### What a pass tells -/

/-- Saving the cursor is silent. -/
lemma IsSaving.isSilent {service : String} {block : UInt64}
    {e : Program.Event (SyncCall.Answer κ ε)} (h : IsSaving service block e) : IsSilent e := by
  obtain ⟨q, answer⟩ := e
  rcases h with hq | ⟨span, hq⟩ <;>
  · change q = _ at hq
    subst hq
    exact ⟨rfl, rfl⟩

/-- Fetching is silent. -/
lemma isSilent_fetches (first last : UInt64) (batches : List (κ × List ε)) :
    ∀ e ∈ fetches first last batches, IsSilent e := by
  intro e he
  obtain ⟨batch, -, rfl⟩ := List.mem_map.mp he
  exact ⟨rfl, rfl⟩

/-- Handing out is silent. -/
lemma isSilent_handovers (answers : List (ε × Except HandleError Unit)) :
    ∀ e ∈ handovers (κ := κ) answers, IsSilent e := by
  intro e he
  obtain ⟨answer, -, rfl⟩ := List.mem_map.mp he
  exact ⟨rfl, rfl⟩

/-- The end of a pass is silent. -/
lemma Ending.isSilent {first head cursor : UInt64} {tally : Tally} {t : SyncTrace κ ε}
    {r : Except SyncError Sync.Outcome}
    (h : Ending label kinds config first head cursor tally t r) : ∀ e ∈ t, IsSilent e := by
  have hlast : ∀ q answer, (∀ event, q ≠ .tell event) → q ≠ .head →
      ∀ e ∈ [(⟨q, answer⟩ : Program.Event (SyncCall.Answer κ ε))], IsSilent e := by
    intro q answer htell hhead e he
    obtain rfl := List.mem_singleton.mp he
    cases q with
    | tell event => exact absurd rfl (htell event)
    | head => exact absurd rfl hhead
    | _ => exact ⟨rfl, rfl⟩
  cases h with
  | reached => simp
  | exhausted => simp
  | unfetched =>
    exact List.forall_mem_append.mpr ⟨isSilent_fetches _ _ _, hlast _ _ (by simp) (by simp)⟩
  | unhandled =>
    exact List.forall_mem_append.mpr ⟨isSilent_fetches _ _ _,
      List.forall_mem_append.mpr ⟨isSilent_handovers _, hlast _ _ (by simp) (by simp)⟩⟩

/-- The calls of a window are silent. -/
lemma Window.isSilent (w : Window kinds ε) : ∀ e ∈ w.work, IsSilent e :=
  List.forall_mem_append.mpr ⟨isSilent_fetches _ _ _, isSilent_handovers _⟩

/-- Stages tell of the blocks that they end with. -/
lemma told_stages {service : String} (stages : List (Stage kinds service ε)) :
    told (stages.flatMap Stage.calls) = stages.map fun s => .progress (some s.last) := by
  induction stages with
  | nil => rfl
  | cons s stages ih =>
    have hwork := told_eq_nil s.isSilent
    have hsaving := told_eq_nil fun e he => (s.saved e he).isSilent
    rw [List.flatMap_cons, told_append, ih, Stage.calls, told_append, told_append, hwork, hsaving]
    rfl

/-- Stages read no head. -/
lemma headsRead_stages {service : String} (stages : List (Stage kinds service ε)) :
    (stages.flatMap Stage.calls).filterMap headRead = [] := by
  induction stages with
  | nil => rfl
  | cons s stages ih =>
    have hwork := headsRead_eq_nil s.isSilent
    have hsaving := headsRead_eq_nil fun e he => (s.saved e he).isSilent
    rw [List.flatMap_cons, List.filterMap_append, ih, Stage.calls, List.filterMap_append,
      List.filterMap_append, hwork, hsaving]
    rfl

/-- Windows that follow one another end with the last block of the last of them. -/
lemma Tiles.getLast?_last {start stop : UInt64} {ws : List (Window kinds ε)}
    (h : Tiles start ws stop) : (ws.map (·.last)).getLast?.getD start = stop := by
  induction ws generalizing start with
  | nil => exact h.symm
  | cons w ws ih => rw [← ih h.2, List.map_cons, List.getLast?_cons, Option.getD_some]

/-- The blocks of a walk along the chain. -/
lemma blocksTold_of_walk (head : UInt64) (blocks : List UInt64) :
    (Health.Event.head head :: blocks.map fun block => .progress (some block)).filterMap
      Event.block? = blocks := by
  induction blocks with
  | nil => rfl
  | cons block blocks ih => exact congrArg (block :: ·) ih

/-- The head of a walk along the chain. -/
lemma headsTold_of_walk (head : UInt64) (blocks : List UInt64) :
    (Health.Event.head head :: blocks.map fun block => .progress (some block)).filterMap
      Event.head? = [head] := by
  induction blocks with
  | nil => rfl
  | cons block blocks ih => exact ih

/-- A pass that reads the head of the chain tells of it, and then of each block up to which it has
got; the last of these is its cursor at the end. -/
lemma Passed.told_eq {start stop : UInt64} {t : SyncTrace κ ε}
    {r : Except SyncError Sync.Outcome} (h : Passed label kinds config start t r stop) :
    (∃ cause, t.filterMap headRead = [.error cause] ∧ told t = [] ∧ stop = start) ∨
    ∃ (head : UInt64) (blocks : List UInt64), t.filterMap headRead = [.ok head] ∧
      told t = .head head :: blocks.map (fun block => .progress (some block)) ∧
      blocks.getLast?.getD start = stop := by
  cases h with
  | headless cause => exact Or.inl ⟨cause, rfl, rfl, rfl⟩
  | @idle head _ => exact Or.inr ⟨head, [], rfl, rfl, rfl⟩
  | @walked head _ hlt stages htiles hsizes rest _ hending =>
    refine Or.inr ⟨head, stages.map (·.last), ?_, ?_, ?_⟩
    · change .ok head :: (stages.flatMap Stage.calls ++ rest).filterMap headRead = _
      rw [List.filterMap_append, headsRead_stages, headsRead_eq_nil hending.isSilent]
      rfl
    · change .head head :: told (stages.flatMap Stage.calls ++ rest) = _
      rw [told_append, told_stages, told_eq_nil hending.isSilent, List.append_nil, List.map_map]
      rfl
    · rw [← htiles.getLast?_last, List.map_map]
      rfl

/-- Nothing is told while the starting cursor is found. -/
lemma told_resolving {t : SyncTrace κ ε} {r : Except SyncError UInt64}
    (h : Runs (asking label kinds config).resolve t r) : told t = [] := by
  obtain ⟨finding, saving, rfl, hfinding, hend⟩ := calls_of_runs_resolve_any h
  have hfound : told finding = [] := by
    refine List.filterMap_eq_nil_iff.mpr fun e he => ?_
    obtain ⟨q, answer⟩ := e
    rcases hfinding _ he with hq | hq | ⟨span, hq⟩ <;>
    · change q = _ at hq
      subst hq
      rfl
  rw [told_append, hfound]
  rcases hend with ⟨-, rfl⟩ | ⟨saved, block, -, hsaving, -⟩
  · rfl
  · exact told_eq_nil fun e he => (hsaving e he).isSilent

/-- What a pass tells, whether or not it starts with a cursor: if it ends with one, this is the last
block that it tells of, or else the one it has started from. -/
lemma told_of_runs_poll {cursor : Option UInt64} {stop : UInt64} {t : SyncTrace κ ε}
    {r : Except SyncError Sync.Outcome}
    (h : Runs ((asking label kinds config).poll cursor) t (r, some stop)) :
    ∃ start, (∀ block, cursor = some block → start = block) ∧
      ((told t).filterMap Event.block?).getLast?.getD start = stop ∧
      ∀ head, lastHead t = some (.ok head) → (told t).filterMap Event.head? = [head] := by
  have hpassed : ∃ t₁ start t₂, t = t₁ ++ t₂ ∧ told t₁ = [] ∧
      (∀ block, cursor = some block → start = block) ∧
      Passed label kinds config start t₂ r stop := by
    cases cursor with
    | some start =>
      obtain ⟨stop', hstop, hpassed⟩ := passed_of_runs_poll h
      obtain rfl := Option.some.inj hstop
      exact ⟨[], start, t, rfl, rfl, fun block hblock => Option.some.inj hblock, hpassed⟩
    | none =>
      rcases runs_poll_none_iff.mp h with ⟨e, -, -, hstop⟩ | ⟨t₁, start, t₂, rfl, h₁, h₂⟩
      · cases hstop
      · obtain ⟨stop', hstop, hpassed⟩ := passed_of_runs_poll h₂
        obtain rfl := Option.some.inj hstop
        exact ⟨t₁, start, t₂, rfl, told_resolving h₁, by simp, hpassed⟩
  obtain ⟨t₁, start, t₂, rfl, hsilent, hstart, hpassed⟩ := hpassed
  refine ⟨start, hstart, ?_⟩
  rw [told_append, hsilent, List.nil_append, lastHead, List.filterMap_append, List.getLast?_append]
  rcases hpassed.told_eq with ⟨cause, hread, htold, rfl⟩ | ⟨head, blocks, hread, htold, hlast⟩
  · rw [htold, hread]
    exact ⟨rfl, fun head hhead => nomatch hhead⟩
  · rw [htold, hread]
    rw [blocksTold_of_walk, headsTold_of_walk]
    refine ⟨hlast, fun head' hhead => ?_⟩
    obtain rfl : head = head' := by simpa using hhead
    rfl

/-! ### One pass after another -/

variable {log t : SyncTrace κ ε} {cursor stop : Option UInt64} {tracker tracker' : Tracker}
  {r : Except SyncError Sync.Outcome}

/-- A synchronizer begins with some cursor or none and makes one pass after another, whatever its
calls are answered with, and a tracker is told what they tell.  Kept are the calls of all passes,
the cursor that the last one has left and the tracker. -/
inductive Watched (label : κ → String) (kinds : List κ) (config : Sync.Config) :
    SyncTrace κ ε → Option UInt64 → Tracker → Prop where
  | begins (cursor : Option UInt64) (service : String) (now : Timestamp) :
      Watched label kinds config [] cursor (.start service (.forRange config.rangeSize) now)
  | polls {log t : SyncTrace κ ε} {cursor stop : Option UInt64} {tracker tracker' : Tracker}
      {r : Except SyncError Sync.Outcome} (h : Watched label kinds config log cursor tracker)
      (hrun : Runs ((asking label kinds config).poll cursor) t (r, stop))
      (hhears : tracker.Hears (told t) tracker') :
      Watched label kinds config (log ++ t) stop tracker'

/-- Whether the block that a tracker knows is the cursor, if a window has been completed, and none
otherwise. -/
structure Follows (log : SyncTrace κ ε) (cursor : Option UInt64) (tracker : Tracker) : Prop where
  completed : CompletesWindow log →
    ∃ block, cursor = some block ∧ tracker.lastProcessedBlock = some (Clamp.signedOfWord block)
  fresh : ¬ CompletesWindow log → tracker.lastProcessedBlock = none

/-- A window is completed in one part or in the other. -/
lemma completesWindow_append :
    CompletesWindow (log ++ t) ↔ CompletesWindow log ∨ CompletesWindow t := by
  simp only [CompletesWindow, List.mem_append, exists_or]

/-- A pass that ends without a cursor has told nothing, and there was none before. -/
lemma told_of_runs_poll_none (h : Runs ((asking label kinds config).poll cursor) t (r, none)) :
    cursor = none ∧ told t = [] := by
  cases cursor with
  | some start =>
    obtain ⟨stop', hstop, -⟩ := passed_of_runs_poll h
    cases hstop
  | none =>
    rcases runs_poll_none_iff.mp h with ⟨e, hrun, -, -⟩ | ⟨t₁, start, t₂, rfl, -, h₂⟩
    · exact ⟨rfl, told_resolving hrun⟩
    · obtain ⟨stop', hstop, -⟩ := passed_of_runs_poll h₂
      cases hstop

/-- A pass keeps the tracker at the cursor. -/
lemma Follows.poll (h : Follows log cursor tracker)
    (hrun : Runs ((asking label kinds config).poll cursor) t (r, stop))
    (hhears : tracker.Hears (told t) tracker') : Follows (log ++ t) stop tracker' := by
  have hknown := hhears.lastProcessedBlock_eq
  cases hlast : ((told t).filterMap Event.block?).getLast? with
  | none =>
    -- Nothing has been completed in this pass, and the cursor is where it was.
    have hnone : ¬ CompletesWindow t := by
      rw [completesWindow_iff, not_not]
      exact List.getLast?_eq_none_iff.mp hlast
    have hsame : tracker'.lastProcessedBlock = tracker.lastProcessedBlock := by
      rw [hknown, hlast]
      rfl
    refine ⟨fun hcompleted => ?_, fun hfresh => ?_⟩
    · obtain ⟨block, rfl, hblock⟩ :=
        h.completed ((completesWindow_append.mp hcompleted).resolve_right hnone)
      cases stop with
      | none => cases (told_of_runs_poll_none hrun).1
      | some stop =>
        obtain ⟨start, hstart, hstop, -⟩ := told_of_runs_poll hrun
        rw [hlast, Option.getD_none, hstart block rfl] at hstop
        exact ⟨block, congrArg some hstop.symm, hsame.trans hblock⟩
    · exact hsame.trans (h.fresh fun hlog => hfresh (completesWindow_append.mpr (Or.inl hlog)))
  | some last =>
    have hcompletes : CompletesWindow t := by
      rw [completesWindow_iff]
      intro hnil
      rw [hnil] at hlast
      cases hlast
    refine ⟨fun _ => ?_, fun hfresh =>
      absurd (completesWindow_append.mpr (Or.inr hcompletes)) hfresh⟩
    cases stop with
    | none =>
      rw [(told_of_runs_poll_none hrun).2] at hlast
      cases hlast
    | some stop =>
      obtain ⟨start, -, hstop, -⟩ := told_of_runs_poll hrun
      rw [hlast, Option.getD_some] at hstop
      refine ⟨last, congrArg some hstop.symm, ?_⟩
      rw [hknown, hlast]
      rfl

/-- After any number of passes, the tracker knows the cursor if a window has been completed, and no
block otherwise. -/
theorem Watched.follows (h : Watched label kinds config log cursor tracker) :
    Follows log cursor tracker := by
  induction h with
  | begins cursor service now =>
    exact ⟨fun ⟨_, hmem⟩ => (List.not_mem_nil hmem).elim, fun _ => rfl⟩
  | polls _ hrun hhears ih => exact ih.poll hrun hhears

/-- The limits of the tracker are those for the blocks of a window. -/
lemma Watched.config_eq (h : Watched label kinds config log cursor tracker) :
    tracker.config = .forRange config.rangeSize := by
  induction h with
  | begins cursor service now => rfl
  | polls _ _ hhears ih => rw [hhears.config_eq, ih]

/-- Right after a pass that has read a head, and with no task stopped, the report says that the
service lags behind its chain exactly if the head is ahead of the cursor by more than the limit and
a window has been completed since the start. -/
theorem chain_lag_reported_iff {stop head : UInt64}
    (h : Watched label kinds config log cursor tracker)
    (hrun : Runs ((asking label kinds config).poll cursor) t (r, some stop))
    (hhears : tracker.Hears (told t) tracker') (hread : lastHead t = some (.ok head))
    (hhead : (head.toNat : Int) ≤ Int64.maxValue.toInt) (htasks : tracker'.failedTasks = [])
    (now : Timestamp) :
    ((tracker'.report now).status = .unhealthy ∧
        (tracker'.report now).reason = some .chainLag) ↔
      CompletesWindow (log ++ t) ∧
        (Health.Config.forRange config.rangeSize).unhealthyLag.toInt <
          (head.toNat : Int) - stop.toNat := by
  have hwatched := h.polls hrun hhears
  have hlimit := Tracker.unhealthyLag_forRange_nonneg config.rangeSize
  obtain ⟨start, -, -, hheads⟩ := told_of_runs_poll hrun
  have hknown : tracker'.chainHead = some (Clamp.signedOfWord head) := by
    rw [hhears.chainHead_eq, hheads head hread]
    rfl
  rw [Tracker.report_lags_iff, hwatched.config_eq, and_iff_right htasks]
  by_cases hcompleted : CompletesWindow (log ++ t)
  · obtain ⟨block, hblock, hreached⟩ := hwatched.follows.completed hcompleted
    obtain rfl := Option.some.inj hblock
    rw [Tracker.lt_lag_iff hlimit hhead hknown hreached, and_iff_right hcompleted]
  · refine iff_of_false (Tracker.not_lt_lag hlimit (hwatched.follows.fresh hcompleted)) ?_
    exact fun hboth => hcompleted hboth.1

/-- The calls of a first pass that finds a cursor far behind the head and cannot fetch. -/
def stuckStart : SyncTrace Unit UInt64 :=
  [⟨.store (.loadCursor "svc"), .ok (some 10)⟩, ⟨.store (.saveCursor "svc" 10), .ok ()⟩,
    ⟨.head, .ok 1000⟩, ⟨.tell (.head 1000), ()⟩,
    ⟨.fetch () 11 110, .error (.ofText "log query failed")⟩]

/-- A service that starts with a cursor 990 blocks behind the head and is stuck there is not said to
lag behind its chain, although the limit is 300 blocks. -/
theorem lag_unreported_after_start :
    ∃ tracker : Tracker,
      Watched (fun _ => "Created") [()] ⟨"svc", 1, 100, none⟩ stuckStart (some 10) tracker ∧
      lastHead stuckStart = some (.ok 1000) ∧ tracker.failedTasks = [] ∧
      (Health.Config.forRange 100).unhealthyLag.toInt < (1000 : Int) - 10 ∧
      ¬ ((tracker.report default).status = .unhealthy ∧
        (tracker.report default).reason = some .chainLag) := by
  have hresolve :
      Runs (asking (ε := UInt64) (fun _ => "Created") [()] ⟨"svc", 1, 100, none⟩).resolve
      [⟨.store (.loadCursor "svc"), .ok (some 10)⟩, ⟨.store (.saveCursor "svc" 10), .ok ()⟩]
      (.ok 10) :=
    .call _ (.call _ (.here _))
  have hpoll : Runs
      ((asking (ε := UInt64) (fun _ => "Created") [()] ⟨"svc", 1, 100, none⟩).poll (some 10))
      [⟨.head, .ok 1000⟩, ⟨.tell (.head 1000), ()⟩,
        ⟨.fetch () 11 110, .error (.ofText "log query failed")⟩]
      (.error (.fetch "Created" 11 110 (.ofText "log query failed")), some 10) := by
    refine runs_poll_of_runs_walk (by decide) ?_
    rw [walk, dif_pos (by decide)]
    exact .call _ (.here _)
  have hrun : Runs ((asking (fun _ => "Created") [()] ⟨"svc", 1, 100, none⟩).poll none) stuckStart
      (.error (.fetch "Created" 11 110 (.ofText "log query failed")), some 10) :=
    runs_poll_none_iff.mpr (Or.inr ⟨_, _, _, rfl, hresolve, hpoll⟩)
  refine ⟨_, (Watched.begins none "svc" default).polls hrun (.told default (.nil _)), rfl, rfl,
    by decide, ?_⟩
  rw [chain_lag_reported_iff (.begins none "svc" default) hrun (.told default (.nil _)) rfl
    (by decide) rfl]
  rintro ⟨⟨last, hmem⟩, -⟩
  simp [stuckStart] at hmem

end Synchronizer

end ComputeExchange
