import ComputeExchange.Proofs.Sync.Extent
import ComputeExchange.Proofs.Sync.Lag

/-!
# The account of a pass

If none of its calls fails, a pass consists of windows and of nothing else: each fetches every kind
once, then hands out what it has fetched, and is followed by the saving of its last block
(`Window.calls`).  The windows have the size that is configured, but for the last (`Tiles.sizes`).
The result of the pass counts what its calls have fetched, and what its handler has left out
(`whole_pass`).
-/

namespace ComputeExchange

namespace Synchronizer

open Program

variable {κ ε : Type} {label : κ → String} {kinds : List κ} {config : Sync.Config}

/-! ### Calls -/

/-- Whether a call does not fail, where a handler may leave an event out. -/
def Succeeds : Event (SyncCall.Answer κ ε) → Prop
  | ⟨.store _, answer⟩ => answer.isOk = true
  | e => IsAnswered e

/-- The events that a call fetches. -/
def fetchedBy : Event (SyncCall.Answer κ ε) → List ε
  | ⟨.fetch .., .ok events⟩ => events
  | _ => []

/-- Whether a call leaves an event out. -/
def leavesOut : Event (SyncCall.Answer κ ε) → Bool
  | ⟨.handle _, .error (.skip _)⟩ => true
  | _ => false

/-- The calls of a window whose last block is saved at the first try. -/
def Window.calls (service : String) (w : Window kinds ε) : SyncTrace κ ε :=
  w.work ++ [⟨.store (.saveCursor service w.last), .ok ()⟩, ⟨.tell (.progress (some w.last)), ()⟩]

lemma Succeeds.isAnswered {e : Event (SyncCall.Answer κ ε)} (h : Succeeds e) : IsAnswered e := by
  obtain ⟨q, answer⟩ := e
  cases q with
  | store => trivial
  | _ => exact h

/-- A cursor that is saved without a failure is saved at the first try. -/
lemma runs_persist_of_succeeds {block : UInt64} {t : SyncTrace κ ε}
    (hsucceeds : ∀ e ∈ t, Succeeds e)
    (h : Runs ((asking label kinds config).persist block) t ()) :
    t = [⟨.store (.saveCursor config.service block), .ok ()⟩] := by
  obtain ⟨t₁, r, t₂, rfl, h₁, h₂⟩ := runs_bind.mp h
  obtain ⟨rfl, -⟩ := runs_pure.mp h₂
  rw [List.append_nil] at hsucceeds ⊢
  rw [Retry.waits, Retry.attempt] at h₁
  obtain ⟨t₃, answer, t₄, rfl, h₃, h₄⟩ := runs_bind.mp h₁
  obtain rfl := runs_ask.mp h₃
  cases answer with
  | ok _ =>
    obtain ⟨rfl, -⟩ := runs_pure.mp h₄
    rfl
  | error e => cases hsucceeds _ List.mem_cons_self

/-! ### Sizes -/

/-- How many blocks a window has. -/
def Window.size (w : Window kinds ε) : ℕ := w.last.toNat + 1 - w.first.toNat

/-- Windows that end where they should have the size that is configured, but for the last of them,
which may be smaller. -/
lemma Tiles.sizes {range start stop : UInt64} (hrange : range ≠ 0) {ws : List (Window kinds ε)}
    (htiles : Tiles start ws stop) (hends : ∀ w ∈ ws, w.last = windowEnd range w.first stop) :
    (∀ w ∈ ws, w.size ≤ range.toNat) ∧ ∀ w ∈ ws.dropLast, w.size = range.toNat := by
  induction ws generalizing start with
  | nil => simp
  | cons w ws ih =>
    obtain ⟨hfirst, hrest⟩ := htiles
    obtain ⟨hend, hends⟩ := List.forall_mem_cons.mp hends
    obtain ⟨hsizes, hfull⟩ := ih hrest hends
    have hpos : range.toNat ≠ 0 := fun hzero => hrange (UInt64.toNat_inj.mp hzero)
    have hlast : w.last.toNat = min (w.first.toNat + range.toNat - 1) stop.toNat := by
      rw [hend, toNat_windowEnd_of_ne_zero hrange]
    refine ⟨List.forall_mem_cons.mpr ⟨?_, hsizes⟩, ?_⟩
    · unfold Window.size
      omega
    · cases ws with
      | nil => simp
      | cons v ws =>
        -- The next window starts before the stop, so this one has not been cut there.
        have hnext : w.last.toNat < stop.toNat := by
          have hv := UInt64.le_iff_toNat_le.mp v.first_le
          have hstop := UInt64.le_iff_toNat_le.mp hrest.2.le
          have hv' := hrest.1
          omega
        rw [List.dropLast_cons_of_ne_nil (List.cons_ne_nil v ws)]
        refine List.forall_mem_cons.mpr ⟨?_, hfull⟩
        unfold Window.size
        omega

/-! ### Counts -/

/-- A tally counts what is handed out, and what is left out of it. -/
lemma Tally.after_eq (tally : Tally) (answers : List (ε × Except HandleError Unit)) :
    tally.after answers =
      ⟨tally.events + answers.length, tally.failed + answers.countP fun a => !a.2.isOk⟩ := by
  induction answers generalizing tally with
  | nil => rfl
  | cons a answers ih =>
    rw [Tally.after, ih, List.length_cons, List.countP_cons]
    cases a.2 with
    | ok => simp [Except.isOk, Except.toBool]; omega
    | error => simp [Except.isOk, Except.toBool]; omega

/-- What a window fetches it hands out. -/
lemma Window.length_fetched (service : String) (w : Window kinds ε) :
    ((w.calls service).flatMap fetchedBy).length = w.answers.length := by
  have hfetches : (fetches w.first w.last w.batches).flatMap fetchedBy = w.batches.flatMap (·.2) :=
    List.flatMap_map ..
  have hhandovers : (handovers (κ := κ) w.answers).flatMap fetchedBy = [] := by
    rw [handovers, List.flatMap_map]
    exact List.flatMap_eq_nil_iff.mpr fun _ _ => rfl
  have hhanded : w.answers.length = (w.batches.flatMap (·.2)).length := by
    rw [← w.handed, List.length_map]
  rw [hhanded, Window.calls, Window.work, List.flatMap_append, List.flatMap_append, hfetches,
    hhandovers]
  simp [fetchedBy]

/-- What a window leaves out is what its handler has not applied. -/
lemma Window.countP_leavesOut (service : String) (w : Window kinds ε) :
    (w.calls service).countP leavesOut = w.answers.countP fun a => !a.2.isOk := by
  have hfetches : (fetches w.first w.last w.batches).countP leavesOut = 0 := by
    refine List.countP_eq_zero.mpr fun e he => ?_
    obtain ⟨batch, -, rfl⟩ := List.mem_map.mp he
    simp [leavesOut]
  have hhandovers : (handovers (κ := κ) w.answers).countP leavesOut =
      w.answers.countP fun a => !a.2.isOk := by
    rw [handovers, List.countP_map]
    refine List.countP_congr fun a ha => ?_
    have hsettled := w.settled a ha
    obtain ⟨event, answer⟩ := a
    cases answer with
    | ok => simp [leavesOut, Except.isOk, Except.toBool]
    | error e =>
      cases e with
      | skip => simp [leavesOut, Except.isOk, Except.toBool]
      | retry => cases hsettled
  rw [Window.calls, Window.work, List.countP_append, List.countP_append, hfetches, hhandovers]
  simp [leavesOut]

/-- What windows hand out and leave out together. -/
lemma tally_windows (service : String) (ws : List (Window kinds ε)) :
    Tally.after ⟨0, 0⟩ (ws.flatMap (·.answers)) =
      ⟨((ws.flatMap (Window.calls service)).flatMap fetchedBy).length,
        (ws.flatMap (Window.calls service)).countP leavesOut⟩ := by
  rw [Tally.after_eq, Nat.zero_add, Nat.zero_add]
  induction ws with
  | nil => rfl
  | cons w ws ih =>
    obtain ⟨hevents, hfailed⟩ := Tally.mk.inj ih
    rw [List.flatMap_cons, List.flatMap_cons, List.flatMap_append, List.countP_append,
      List.length_append, List.length_append, List.countP_append, hevents, hfailed,
      w.length_fetched, w.countP_leavesOut]

/-! ### A whole pass -/

/-- The calls of stages none of whose calls fails are those of their windows. -/
lemma flatMap_calls_eq {stages : List (Stage kinds config.service ε)}
    (hsaving : ∀ s ∈ stages, Runs ((asking label kinds config).persist s.last) s.saving ())
    (hsucceeds : ∀ e ∈ stages.flatMap Stage.calls, Succeeds e) :
    stages.flatMap Stage.calls =
      (stages.map (·.toWindow)).flatMap (Window.calls config.service) := by
  rw [List.flatMap_map]
  refine List.flatMap_congr fun s hs => ?_
  have hsaved : ∀ e ∈ s.saving, Succeeds e := by
    intro e he
    refine hsucceeds e (List.mem_flatMap.mpr ⟨s, hs, ?_⟩)
    exact List.mem_append_right _ (List.mem_append_left _ he)
  rw [Stage.calls, runs_persist_of_succeeds hsaved (hsaving s hs)]
  rfl

/-- A pass to a new head none of whose calls fails.  It completes windows one after another, which
are all blocks after the cursor up to the head, of the configured size but for the last, which may
be smaller.  In each, every kind is fetched once and in order before the first event is handed out,
the events of one kind after those of another, and the last block is saved after the last event.
The result tells the first block and the head, and counts all events that have been fetched and
those that have been left out. -/
theorem whole_pass {cursor head : UInt64} {t : SyncTrace κ ε} {r : Except SyncError Sync.Outcome}
    {stop : Option UInt64} (hrange : config.rangeSize ≠ 0) (hlt : cursor < head)
    (hhead : head ≠ Clamp.greatest)
    (h : Runs ((asking label kinds config).poll (some cursor)) t (r, stop))
    (hread : ⟨.head, .ok head⟩ ∈ t) (hsucceeds : ∀ e ∈ t, Succeeds e) :
    ∃ ws : List (Window kinds ε),
      t = ⟨.head, .ok head⟩ :: ⟨.tell (.head head), ()⟩ ::
        ws.flatMap (Window.calls config.service) ∧
      Tiles cursor ws head ∧ (∀ w ∈ ws, w.size ≤ config.rangeSize.toNat) ∧
      (∀ w ∈ ws.dropLast, w.size = config.rangeSize.toNat) ∧
      r = .ok (.advanced (cursor + 1) head (t.flatMap fetchedBy).length (t.countP leavesOut)) ∧
      stop = some head := by
  obtain ⟨head', stages, rfl, -, hwalked⟩ :=
    stages_of_runs_poll (fun e he => (hsucceeds e he).isAnswered) h
  -- The head is read once.
  obtain rfl : head = head' := by
    have hheads : Except.ok head ∈ (⟨.head, .ok head'⟩ :: ⟨.tell (.head head'), ()⟩ ::
        stages.flatMap Stage.calls).filterMap headRead := List.mem_filterMap.mpr ⟨_, hread, rfl⟩
    have honly : (⟨.head, .ok head'⟩ :: ⟨.tell (.head head'), ()⟩ ::
        stages.flatMap Stage.calls).filterMap headRead = [.ok head'] :=
      congrArg (List.cons _) (headsRead_stages stages)
    rw [honly, List.mem_singleton] at hheads
    exact Except.ok.inj hheads
  obtain ⟨htiles, hstages, rfl, -, hadvanced⟩ := hwalked hlt
  have hcalls : stages.flatMap Stage.calls =
      (stages.map (·.toWindow)).flatMap (Window.calls config.service) :=
    flatMap_calls_eq (fun s hs => (hstages s hs).2)
      fun e he => hsucceeds e (List.mem_cons_of_mem _ (List.mem_cons_of_mem _ he))
  have hends : ∀ w ∈ stages.map (·.toWindow), w.last = windowEnd config.rangeSize w.first head := by
    intro w hw
    obtain ⟨s, hs, rfl⟩ := List.mem_map.mp hw
    exact (hstages s hs).1
  have hanswers : stages.flatMap (·.answers) = (stages.map (·.toWindow)).flatMap (·.answers) :=
    (List.flatMap_map ..).symm
  obtain ⟨hsizes, hfull⟩ := htiles.sizes hrange hends
  refine ⟨stages.map (·.toWindow), by rw [hcalls], htiles, hsizes, hfull, ?_, rfl⟩
  rw [hadvanced hhead, hanswers, tally_windows config.service, hcalls]
  rfl

/-- The calls of a pass over two kinds and three new blocks in windows of two, where one of three
events is left out. -/
def twoWindows : SyncTrace Bool UInt64 :=
  [⟨.head, .ok 13⟩, ⟨.tell (.head 13), ()⟩,
    ⟨.fetch false 11 12, .ok [112]⟩, ⟨.fetch true 11 12, .ok [111]⟩,
    ⟨.handle 112, .ok ()⟩, ⟨.handle 111, .error (.skip default)⟩,
    ⟨.store (.saveCursor "svc" 12), .ok ()⟩, ⟨.tell (.progress (some 12)), ()⟩,
    ⟨.fetch false 13 13, .ok []⟩, ⟨.fetch true 13 13, .ok [131]⟩, ⟨.handle 131, .ok ()⟩,
    ⟨.store (.saveCursor "svc" 13), .ok ()⟩, ⟨.tell (.progress (some 13)), ()⟩]

/-- The account of a pass of two windows. -/
theorem whole_pass_of_two :
    Runs ((asking (fun _ => "Created") [false, true] ⟨"svc", 1, 2, none⟩).poll (some 10)) twoWindows
      (.ok (.advanced 11 13 3 1), some 13) ∧
    (∀ e ∈ twoWindows, Succeeds e) ∧
    ∃ ws : List (Window [false, true] UInt64),
      twoWindows = ⟨.head, .ok 13⟩ :: ⟨.tell (.head 13), ()⟩ :: ws.flatMap (Window.calls "svc") ∧
      Tiles 10 ws 13 ∧ (∀ w ∈ ws, w.size ≤ 2) ∧ (∀ w ∈ ws.dropLast, w.size = 2) := by
  have hsecond : ∀ tally : Tally,
      Runs ((asking (fun _ => "Created") [false, true] ⟨"svc", 1, 2, none⟩).walk 11 13 13 12 tally)
        [⟨.fetch false 13 13, .ok []⟩, ⟨.fetch true 13 13, .ok [131]⟩,
          ⟨.handle (131 : UInt64), .ok ()⟩, ⟨.store (.saveCursor "svc" 13), .ok ()⟩,
          ⟨.tell (.progress (some 13)), ()⟩]
        (.ok (.advanced 11 13 (tally.events + 1) tally.failed), 13) := by
    intro tally
    rw [walk, dif_pos (by decide)]
    refine .call _ (.call _ (.call _ (.call _ (.call _ ?_))))
    change Runs ((asking (fun _ => "Created") [false, true] ⟨"svc", 1, 2, none⟩).walk 11 13 14 13
      ⟨tally.events + 1, tally.failed⟩) [] _
    rw [walk, dif_neg (by decide)]
    exact .here _
  have hrun : Runs ((asking (fun _ => "Created") [false, true] ⟨"svc", 1, 2, none⟩).poll (some 10))
      twoWindows (.ok (.advanced 11 13 3 1), some 13) := by
    refine runs_poll_of_runs_walk (by decide) ?_
    rw [walk, dif_pos (by decide)]
    exact .call _ (.call _ (.call _ (.call _ (.call _ (.call _ (hsecond ⟨2, 1⟩))))))
  have hsucceeds : ∀ e ∈ twoWindows, Succeeds e := by
    simp [twoWindows, Succeeds, IsAnswered, isSettled, Except.isOk, Except.toBool]
  have hread : ⟨.head, .ok 13⟩ ∈ twoWindows := List.mem_cons_self
  obtain ⟨ws, hcalls, htiles, hsizes, hfull, -, -⟩ :=
    whole_pass (by decide) (by decide) (by decide) hrun hread hsucceeds
  exact ⟨hrun, hsucceeds, ws, hcalls, htiles, hsizes, hfull⟩

end Synchronizer

end ComputeExchange
