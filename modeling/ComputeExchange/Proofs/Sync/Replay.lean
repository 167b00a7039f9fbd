import ComputeExchange.Proofs.Sync.Run
import ComputeExchange.Proofs.Sync.Saving

/-!
# Delivery with retries

A handler may ask for another try of its window, which is then handed out again as a whole.
`handed_out_until_settled` says what this leaves of a run over a fixed chain: all events up to the
cursor have been settled together with the rest of their window, none is handed out that lies
further from the cursor than the next window, and the failure of a pass says truly where it was
broken off.  `Advance` is what a pass does to the cursor, `Truthful` what its failure says.
-/

namespace ComputeExchange

namespace Synchronizer

open Program

variable {κ ε : Type} {label : κ → String} {kinds : List κ} {config : Sync.Config}

/-- The cursor of a pass moves along windows that the pass has completed, and so do its saves. -/
structure Advance (kinds : List κ) (config : Sync.Config) (p : Pass κ ε)
    (ws : List (Window kinds ε)) : Prop where
  /-- The windows lead from the cursor at the start to the cursor at the end. -/
  tiles : Tiles p.start ws p.stop
  completed : ∀ w ∈ ws, w.work <:+: p.trace
  /-- No window lies past the head that the pass has read. -/
  below : ∀ w ∈ ws, ∃ head, (⟨.head, .ok head⟩ : Event _) ∈ p.trace ∧ w.last ≤ head
  /-- A save follows windows that lead to the saved block. -/
  saved : ∀ service block answer pre post,
    p.trace = pre ++ ⟨.store (.saveCursor service block), answer⟩ :: post →
    service = config.service ∧ ∃ vs : List (Window kinds ε),
      Tiles p.start vs block ∧ ∀ v ∈ vs, v.work <:+: pre

/-- What the failure of a pass says. -/
structure Truthful (chain : FixedChain κ ε) (label : κ → String) (p : Pass κ ε) : Prop where
  /-- If the head cannot be read, then nothing else is called. -/
  headless : ∀ cause, p.result = .error (.head cause) →
    p.trace = [⟨.head, .error cause⟩] ∧ p.stop = p.start
  /-- If a kind cannot be fetched, then the window starts after the cursor and nothing of it is
  handed out. -/
  unfetched : ∀ name first last cause, p.result = .error (.fetch name first last cause) →
    first.toNat = p.stop.toNat + 1 ∧
    (∃ kind, label kind = name ∧ [⟨.fetch kind first last, .error cause⟩] <:+ p.trace) ∧
    ∀ e ∈ handed p.trace, chain.block e < first
  /-- If an event asks for another try, then the window starts after the cursor and holds the
  event. -/
  unhandled : ∀ first last cause, p.result = .error (.handler first last cause) →
    first.toNat = p.stop.toNat + 1 ∧
    ∃ event, [⟨.handle event, .error (.retry cause)⟩] <:+ p.trace ∧
      first ≤ chain.block event ∧ chain.block event ≤ last

/-! ### One pass -/

/-- Every pass moves its cursor along windows. -/
lemma Passed.advance {start stop : UInt64} {t : SyncTrace κ ε}
    {r : Except SyncError Sync.Outcome} (h : Passed label kinds config start t r stop) :
    ∃ ws, Advance kinds config ⟨start, t, r, stop⟩ ws := by
  obtain ⟨ws, htiles, hws⟩ := h.windows
  exact ⟨ws, htiles, fun w hw => (hws w hw).1, fun w hw => (hws w hw).2,
    fun _ _ _ _ _ => h.saved⟩

/-- What stages have handed out lies before their stop. -/
lemma handed_stages {chain : FixedChain κ ε} {start stop : UInt64}
    {stages : List (Stage kinds config.service ε)}
    (htiles : Tiles start (stages.map (·.toWindow)) stop)
    (hchain : chain.Explains (stages.flatMap Stage.calls)) :
    ∀ e ∈ handed (stages.flatMap Stage.calls), start < chain.block e ∧ chain.block e ≤ stop := by
  intro e he
  obtain ⟨call, hcall, he⟩ := List.mem_filterMap.mp he
  obtain ⟨s, hs, hcall⟩ := List.mem_flatMap.mp hcall
  have hsub : fetches s.first s.last s.batches ⊆ stages.flatMap Stage.calls := by
    intro c hc
    exact List.mem_flatMap.mpr ⟨s, hs, List.mem_append_left _ (List.mem_append_left _ hc)⟩
  have hbatch : e ∈ s.batches.flatMap (·.2) := by
    rw [← handed_calls s]
    exact List.mem_filterMap.mpr ⟨call, hcall, he⟩
  obtain ⟨hfirst, hlast⟩ := hchain.block_mem hsub e hbatch
  have hs := List.mem_map_of_mem (f := Stage.toWindow) hs
  exact ⟨UInt64.lt_of_lt_of_le (htiles.lt_first _ hs) hfirst,
    UInt64.le_trans hlast (htiles.last_le _ hs)⟩

/-- Where a window ends, as a number. -/
lemma toNat_windowEnd (range first head : UInt64) : (windowEnd range first head).toNat =
    min (min (first.toNat + (range - 1).toNat) (UInt64.size - 1)) head.toNat := by
  rw [← Clamp.toNat_add]
  unfold windowEnd
  by_cases h : Clamp.add first (range - 1) ≤ head
  · rw [show min (Clamp.add first (range - 1)) head = Clamp.add first (range - 1) from if_pos h]
    exact (Nat.min_eq_left (UInt64.le_iff_toNat_le.mp h)).symm
  · rw [show min (Clamp.add first (range - 1)) head = head from if_neg h]
    exact (Nat.min_eq_right (UInt64.le_iff_toNat_le.mp (UInt64.le_of_lt (UInt64.not_le.mp h)))).symm

/-- Windows that start later end later. -/
lemma windowEnd_mono (range head : UInt64) {first first' : UInt64} (h : first ≤ first') :
    windowEnd range first head ≤ windowEnd range first' head := by
  rw [UInt64.le_iff_toNat_le] at h ⊢
  rw [toNat_windowEnd, toNat_windowEnd]
  omega

/-- A window that starts after a block reaches at most a range further. -/
lemma toNat_windowEnd_le {range block : UInt64} (hrange : 0 < range) (head : UInt64)
    (hblock : (block + 1).toNat = block.toNat + 1) :
    (windowEnd range (block + 1) head).toNat ≤ block.toNat + range.toNat := by
  have hpos : 0 < range.toNat := UInt64.lt_iff_toNat_lt.mp hrange
  have hone : (1 : UInt64) ≤ range := by
    rw [UInt64.le_iff_toNat_le]
    exact hpos
  rw [toNat_windowEnd, hblock, UInt64.toNat_sub_of_le _ _ hone, UInt64.toNat_one]
  omega

/-- What is handed out after the last stage lies in the window after the cursor. -/
lemma Ending.handed_within {chain : FixedChain κ ε} {first head cursor : UInt64} {tally : Tally}
    {t : SyncTrace κ ε} {r : Except SyncError Sync.Outcome}
    (h : Ending label kinds config first head cursor tally t r) (hchain : chain.Explains t) :
    ∀ e ∈ handed t, (cursor + 1).toNat = cursor.toNat + 1 ∧ cursor < chain.block e ∧
      chain.block e ≤ windowEnd config.rangeSize (cursor + 1) head := by
  intro e he
  cases h with
  | reached => simp [handed] at he
  | exhausted => simp [handed] at he
  | unfetched _ _ batches =>
    rw [handed_append, handed_fetches] at he
    simp [handed, handedBy] at he
  | @unhandled next hnext hle batches hfetched answers event cause hhanded =>
    rw [handed_append, handed_fetches, handed_append, handed_handovers] at he
    have hbatch : e ∈ batches.flatMap (·.2) := hhanded.subset (by simpa [handed, handedBy] using he)
    obtain ⟨hfirst, hlast⟩ := hchain.block_mem (List.subset_append_left _ _) e hbatch
    rw [UInt64.le_iff_toNat_le, hnext] at hfirst
    rw [← eq_add_one hnext]
    exact ⟨hnext, UInt64.lt_iff_toNat_lt.mpr hfirst, hlast⟩

/-- A pass hands out only what lies before the cursor it leaves or in the window after it. -/
lemma Passed.handed_within {chain : FixedChain κ ε} {start stop : UInt64} {t : SyncTrace κ ε}
    {r : Except SyncError Sync.Outcome} (h : Passed label kinds config start t r stop)
    (hchain : chain.Explains t) :
    ∀ e ∈ handed t, start < chain.block e ∧ (chain.block e ≤ stop ∨
      (stop + 1).toNat = stop.toNat + 1 ∧ ∃ head, (⟨.head, .ok head⟩ : Event _) ∈ t ∧
        chain.block e ≤ windowEnd config.rangeSize (stop + 1) head) := by
  intro e he
  cases h with
  | headless => simp [handed, handedBy] at he
  | idle => simp [handed, handedBy] at he
  | @walked head _ hlt stages htiles hsizes rest _ hending =>
    have hstages : chain.Explains (stages.flatMap Stage.calls) :=
      hchain.subset fun c hc => by simp [hc]
    have hrest : chain.Explains rest := hchain.subset fun c hc => by simp [hc]
    have hsplit : e ∈ handed (stages.flatMap Stage.calls) ++ handed rest := by
      rw [← handed_append]
      exact he
    rcases List.mem_append.mp hsplit with he | he
    · obtain ⟨hafter, hbefore⟩ := handed_stages htiles hstages e he
      exact ⟨hafter, Or.inl hbefore⟩
    · obtain ⟨hstop, hafter, hlast⟩ := hending.handed_within hrest e he
      exact ⟨UInt64.lt_of_le_of_lt htiles.le hafter,
        Or.inr ⟨hstop, head, List.mem_cons_self, hlast⟩⟩

/-- The failure of every pass says truly where the pass was broken off. -/
lemma Passed.truthful {chain : FixedChain κ ε} {start stop : UInt64} {t : SyncTrace κ ε}
    {r : Except SyncError Sync.Outcome} (h : Passed label kinds config start t r stop)
    (hchain : chain.Explains t) : Truthful chain label ⟨start, t, r, stop⟩ := by
  cases h with
  | headless =>
    refine ⟨?_, by simp, by simp⟩
    rintro cause ⟨⟩
    exact ⟨rfl, rfl⟩
  | idle => exact ⟨by simp, by simp, by simp⟩
  | @walked head _ hlt stages htiles hsizes rest _ hending =>
    cases hending with
    | reached => exact ⟨by simp, by simp, by simp⟩
    | exhausted => exact ⟨by simp, by simp, by simp⟩
    | @unfetched next hnext hle batches kind cause =>
      refine ⟨by simp, ?_, by simp⟩
      rintro name first last cause ⟨⟩
      refine ⟨hnext, ⟨kind, rfl, ?_⟩, fun e he => ?_⟩
      · exact ⟨⟨.head, .ok head⟩ :: ⟨.tell (.head head), ()⟩ :: (stages.flatMap Stage.calls ++
          fetches next (windowEnd config.rangeSize next head) batches), by simp⟩
      have hstages : chain.Explains (stages.flatMap Stage.calls) :=
        hchain.subset fun c hc => by simp [hc]
      have hhanded : e ∈ handed (stages.flatMap Stage.calls) := by
        have hsplit : e ∈ handed (stages.flatMap Stage.calls ++ _) := he
        rw [handed_append, handed_append, handed_fetches] at hsplit
        simpa [handed, handedBy] using hsplit
      have hstop := UInt64.le_iff_toNat_le.mp (handed_stages htiles hstages e hhanded).2
      rw [UInt64.lt_iff_toNat_lt, hnext]
      omega
    | @unhandled next hnext hle batches hfetched answers event cause hhanded =>
      refine ⟨by simp, by simp, ?_⟩
      rintro first last cause ⟨⟩
      refine ⟨hnext, event, ?_, ?_⟩
      · exact ⟨⟨.head, .ok head⟩ :: ⟨.tell (.head head), ()⟩ :: (stages.flatMap Stage.calls ++
          (fetches next (windowEnd config.rangeSize next head) batches ++ handovers answers)),
          by simp⟩
      have hsub : fetches next (windowEnd config.rangeSize next head) batches ⊆
          ⟨.head, .ok head⟩ :: ⟨.tell (.head head), ()⟩ :: (stages.flatMap Stage.calls ++
            (fetches next (windowEnd config.rangeSize next head) batches ++
              (handovers answers ++ [⟨.handle event, .error (.retry cause)⟩]))) := by
        intro c hc
        simp [hc]
      exact hchain.block_mem hsub event (hhanded.subset (by simp))

/-! ### A run -/

/-- No pass of a run leaves a cursor past that of the run, nor starts before it. -/
lemma Run.le_and_le {start stop : UInt64} {passes : List (Pass κ ε)}
    (h : Run label kinds config start passes stop) :
    ∀ p ∈ passes, start ≤ p.start ∧ p.start ≤ p.stop ∧ p.stop ≤ stop := by
  have hpassed := h.passed
  induction h with
  | nil => simp
  | @cons p passes stop _ hrest ih =>
    rw [List.forall_mem_cons] at hpassed
    have hle := hpassed.1.le
    refine List.forall_mem_cons.mpr ⟨⟨UInt64.le_refl _, hle, hrest.le⟩, fun q hq => ?_⟩
    obtain ⟨hstart, hq⟩ := ih hpassed.2 q hq
    exact ⟨UInt64.le_trans hle hstart, hq⟩

/-- Every block that a run has passed has been passed by one of its passes. -/
lemma Run.exists_pass {start stop block : UInt64} {passes : List (Pass κ ε)}
    (h : Run label kinds config start passes stop) (hlt : start < block) (hle : block ≤ stop) :
    ∃ p ∈ passes, p.start < block ∧ block ≤ p.stop := by
  induction h with
  | nil => exact absurd hle (UInt64.not_le.mpr hlt)
  | @cons p passes stop _ _ ih =>
    by_cases hin : block ≤ p.stop
    · exact ⟨p, List.mem_cons_self, hlt, hin⟩
    · obtain ⟨q, hq, hblock⟩ := ih (UInt64.not_le.mp hin) hle
      exact ⟨q, List.mem_cons_of_mem p hq, hblock⟩

/-- In a window over a fixed chain every event of the chain has been settled. -/
lemma Window.exists_answer {chain : FixedChain κ ε} (w : Window kinds ε)
    (hchain : chain.Explains w.work) {kind : κ} (hkind : kind ∈ kinds) {event : ε}
    (hevent : event ∈ chain.slice kind w.first w.last) :
    ∃ answer, (event, answer) ∈ w.answers ∧ isSettled answer = true := by
  have hbatch : (kind, chain.slice kind w.first w.last) ∈ w.batches := by
    rw [w.batches_eq hchain]
    exact List.mem_map_of_mem hkind
  have hhanded : event ∈ w.answers.map (·.1) := by
    rw [w.handed]
    exact List.mem_flatMap.mpr ⟨_, hbatch, hevent⟩
  obtain ⟨⟨_, answer⟩, hanswer, rfl⟩ := List.mem_map.mp hhanded
  exact ⟨answer, hanswer, w.settled _ hanswer⟩

/-- Whatever fails and however often events ask for another try: every event up to the cursor has
been settled in a window that a pass has completed; what is handed out past the cursor lies in the
window after it; failures say truly where a pass was broken off; and the cursor only moves forward,
along windows that have been completed. -/
theorem handed_out_until_settled {chain : FixedChain κ ε} {start stop : UInt64}
    {passes : List (Pass κ ε)} (hrun : Run label kinds config start passes stop)
    (hrange : 0 < config.rangeSize) (hchain : ∀ p ∈ passes, chain.Explains p.trace) :
    (∀ kind ∈ kinds, ∀ event ∈ chain.after kind start stop,
      ∃ p ∈ passes, ∃ w : Window kinds ε, w.work <:+: p.trace ∧
        (w.first ≤ chain.block event ∧ chain.block event ≤ w.last) ∧
        ∀ k ∈ kinds, ∀ e ∈ chain.slice k w.first w.last,
          ∃ answer, (e, answer) ∈ w.answers ∧ isSettled answer = true) ∧
    (∀ p ∈ passes, ∀ event ∈ handed p.trace, stop < chain.block event →
      (chain.block event).toNat ≤ stop.toNat + config.rangeSize.toNat ∧
      ∃ head, (⟨.head, .ok head⟩ : Event _) ∈ p.trace ∧
        chain.block event ≤ windowEnd config.rangeSize (stop + 1) head) ∧
    (∀ p ∈ passes, Truthful chain label p) ∧
    start ≤ stop ∧ ∀ p ∈ passes, (start ≤ p.start ∧ p.start ≤ p.stop ∧ p.stop ≤ stop) ∧
      ∃ ws, Advance kinds config p ws := by
  have hpassed := hrun.passed
  refine ⟨?_, ?_, ?_, hrun.le, fun p hp => ⟨hrun.le_and_le p hp, (hpassed p hp).advance⟩⟩
  · intro kind hkind event hevent
    obtain ⟨hafter, hbefore⟩ := of_decide_eq_true (List.mem_filter.mp hevent).2
    obtain ⟨p, hp, hlt, hle⟩ := hrun.exists_pass hafter hbefore
    obtain ⟨ws, hadvance⟩ := (hpassed p hp).advance
    obtain ⟨w, hw, hin⟩ := hadvance.tiles.exists_mem hlt hle
    have hwork := hadvance.completed w hw
    have hexplains : chain.Explains w.work := (hchain p hp).subset hwork.subset
    exact ⟨p, hp, w, hwork, hin, fun k hk e he => w.exists_answer hexplains hk he⟩
  · intro p hp event hevent hpast
    have hstop := (hrun.le_and_le p hp).2.2
    rcases ((hpassed p hp).handed_within (hchain p hp) event hevent).2 with hbefore | hwindow
    · exact absurd (UInt64.le_trans hbefore hstop) (UInt64.not_le.mpr hpast)
    · obtain ⟨hnext, head, hhead, hlast⟩ := hwindow
      have hsucc := toNat_add_one (ne_greatest hpast)
      have hfirst : p.stop + 1 ≤ stop + 1 := by
        rw [UInt64.le_iff_toNat_le] at hstop ⊢
        omega
      have hmoved := UInt64.le_trans hlast (windowEnd_mono config.rangeSize head hfirst)
      have hreach := toNat_windowEnd_le hrange head hsucc
      exact ⟨Nat.le_trans (UInt64.le_iff_toNat_le.mp hmoved) hreach, head, hhead, hmoved⟩
  · exact fun p hp => (hpassed p hp).truthful (hchain p hp)

/-- A pass whose event asks for another try, and one that then settles it. -/
def passesAfterRetry : List (Pass Unit UInt64) :=
  [⟨10, [⟨.head, .ok 11⟩, ⟨.tell (.head 11), ()⟩, ⟨.fetch () 11 11, .ok [11]⟩,
      ⟨.handle 11, .error (.retry default)⟩], .error (.handler 11 11 default), 10⟩,
    ⟨10, [⟨.head, .ok 11⟩, ⟨.tell (.head 11), ()⟩, ⟨.fetch () 11 11, .ok [11]⟩,
      ⟨.handle 11, .ok ()⟩, ⟨.store (.saveCursor "svc" 11), .ok ()⟩,
      ⟨.tell (.progress (some 11)), ()⟩], .ok (.advanced 11 11 1 0), 11⟩]

/-- The event that asked for another try has been settled in a completed window. -/
theorem handed_out_until_settled_after_retry :
    Run (fun _ => "Created") [()] ⟨"svc", 1, 100, none⟩ 10 passesAfterRetry 11 ∧
    (0 : UInt64) < 100 ∧ (∀ p ∈ passesAfterRetry, (FixedChain.single 11).Explains p.trace) ∧
    ∃ p ∈ passesAfterRetry, ∃ w : Window [()] UInt64, w.work <:+: p.trace ∧
      ∃ answer, ((11 : UInt64), answer) ∈ w.answers ∧ isSettled answer = true := by
  have hrun : Run (fun _ => "Created") [()] ⟨"svc", 1, 100, none⟩ 10 passesAfterRetry 11 := by
    refine .cons (p := ⟨10, _, _, _⟩) ?_ (.cons (p := ⟨10, _, _, _⟩) ?_ (.nil 11))
    · exact runs_poll_block_retried rfl default
    · exact runs_poll_block rfl (by decide) rfl
  have hchain : ∀ p ∈ passesAfterRetry, (FixedChain.single 11).Explains p.trace := by
    rintro p hp ⟨⟩ first last events hmem
    obtain ⟨⟨rfl, rfl⟩, rfl⟩ : (first = 11 ∧ last = 11) ∧ events = [11] := by
      rcases List.mem_pair.mp hp with rfl | rfl <;> simpa using hmem
    decide
  have hmem : (11 : UInt64) ∈ (FixedChain.single 11).after () 10 11 := by decide
  obtain ⟨p, hp, w, hwork, hin, hall⟩ :=
    (handed_out_until_settled hrun (by decide) hchain).1 () (List.mem_singleton.mpr rfl) 11 hmem
  refine ⟨hrun, by decide, hchain, p, hp, w, hwork, ?_⟩
  refine hall () (List.mem_singleton.mpr rfl) 11 ?_
  exact List.mem_filter.mpr ⟨List.mem_singleton.mpr rfl, decide_eq_true hin⟩

end Synchronizer

end ComputeExchange
