import ComputeExchange.Proofs.Sync.Run

/-!
# Delivery without retries

When no handler asks for another try, a synchronizer hands out the events of a fixed chain exactly
once and in order, whatever fails: `handed_out_once` says that the events of a kind handed out by a
run are those of the blocks between the two cursors.

A handler is given an event and not its kind.  `delivered` finds the kind again: the events that a
pass has fetched wait, each with the kind it was fetched as, and are handed out from the front.
-/

namespace ComputeExchange

namespace Synchronizer

open Program

variable {κ ε : Type} {label : κ → String} {kinds : List κ} {config : Sync.Config}

/-- The events that a pass hands out, each with the kind it was fetched as.  Those `waiting` have
been fetched and not yet handed out. -/
def delivered (waiting : List (κ × ε)) : SyncTrace κ ε → List (κ × ε)
  | [] => []
  | ⟨.fetch kind _ _, .ok events⟩ :: t => delivered (waiting ++ events.map fun e => (kind, e)) t
  | ⟨.handle event, _⟩ :: t =>
    match waiting with
    | [] => delivered [] t
    | w :: rest => (w.1, event) :: delivered rest t
  | _ :: t => delivered waiting t

/-- The events delivered as events of a kind. -/
def ofKind [DecidableEq κ] (kind : κ) (deliveries : List (κ × ε)) : List ε :=
  (deliveries.filter fun d => decide (d.1 = kind)).map (·.2)

/-- No event has asked for another try. -/
def NeverRetried (t : SyncTrace κ ε) : Prop :=
  ∀ event cause, (⟨.handle event, .error (.retry cause)⟩ : Event _) ∉ t

/-! ### The deliveries of a pass -/

/-- The events of some batches, each with its kind. -/
def labelled (batches : List (κ × List ε)) : List (κ × ε) :=
  batches.flatMap fun batch => batch.2.map fun e => (batch.1, e)

/-- The events of some batches are those that are labelled. -/
lemma map_snd_labelled (batches : List (κ × List ε)) :
    (labelled batches).map (·.2) = batches.flatMap (·.2) := by
  simp [labelled, List.map_flatMap, Function.comp_def]

/-- All that is fetched waits. -/
lemma delivered_fetches (waiting : List (κ × ε)) (first last : UInt64)
    (batches : List (κ × List ε)) (t : SyncTrace κ ε) :
    delivered waiting (fetches first last batches ++ t) =
      delivered (waiting ++ labelled batches) t := by
  induction batches generalizing waiting with
  | nil => simp [fetches, labelled]
  | cons batch rest ih =>
    calc delivered waiting (fetches first last (batch :: rest) ++ t)
        = delivered (waiting ++ batch.2.map fun e => (batch.1, e))
            (fetches first last rest ++ t) := rfl
      _ = delivered (waiting ++ labelled (batch :: rest)) t := by
          rw [ih, List.append_assoc]
          rfl

/-- What waits at the front is handed out first. -/
lemma delivered_handovers (events : List (κ × ε)) (waiting : List (κ × ε))
    (answers : List (ε × Except HandleError Unit)) (t : SyncTrace κ ε)
    (h : answers.map (·.1) = events.map (·.2)) :
    delivered (events ++ waiting) (handovers answers ++ t) = events ++ delivered waiting t := by
  induction answers generalizing events with
  | nil =>
    obtain rfl := List.map_eq_nil_iff.mp h.symm
    rfl
  | cons answer rest ih =>
    obtain ⟨event, events, rfl, hevent, hevents⟩ := List.map_eq_cons_iff.mp h.symm
    have hsame : answer.1 = event.2 := hevent.symm
    calc delivered (event :: events ++ waiting) (handovers (answer :: rest) ++ t)
        = (event.1, answer.1) :: delivered (events ++ waiting) (handovers rest ++ t) := rfl
      _ = event :: (events ++ delivered waiting t) := by
          rw [ih events hevents.symm, hsame]

/-- Saving the cursor hands out nothing. -/
lemma delivered_saving {service : String} {block : UInt64} {saving : SyncTrace κ ε}
    (h : ∀ e ∈ saving, IsSaving service block e) (waiting : List (κ × ε)) (t : SyncTrace κ ε) :
    delivered waiting (saving ++ t) = delivered waiting t := by
  induction saving with
  | nil => rfl
  | cons e rest ih =>
    rw [List.forall_mem_cons] at h
    obtain ⟨q, answer⟩ := e
    rcases h.1 with hq | ⟨span, hq⟩ <;>
    · change q = _ at hq
      subst hq
      exact ih h.2

/-- A stage delivers what it has fetched. -/
lemma delivered_calls (s : Stage kinds config.service ε) (t : SyncTrace κ ε) :
    delivered [] (s.calls ++ t) = labelled s.batches ++ delivered [] t := by
  have hhanded : s.answers.map (·.1) = (labelled s.batches).map (·.2) := by
    rw [map_snd_labelled, s.handed]
  have hcalls : s.calls ++ t = fetches s.first s.last s.batches ++
      (handovers s.answers ++ (s.saving ++ (⟨.tell (.progress (some s.last)), ()⟩ :: t))) := by
    simp [Stage.calls, Window.work]
  rw [hcalls, delivered_fetches, List.nil_append]
  calc delivered (labelled s.batches) _
      = delivered (labelled s.batches ++ []) _ := by rw [List.append_nil]
    _ = labelled s.batches ++
          delivered [] (s.saving ++ (⟨.tell (.progress (some s.last)), ()⟩ :: t)) :=
        delivered_handovers _ [] _ _ hhanded
    _ = labelled s.batches ++ delivered [] t := by
        rw [delivered_saving s.saved]
        rfl

/-- Stages deliver what they have fetched, one after another. -/
lemma delivered_stages (stages : List (Stage kinds config.service ε)) (t : SyncTrace κ ε) :
    delivered [] (stages.flatMap Stage.calls ++ t) =
      stages.flatMap (fun s => labelled s.batches) ++ delivered [] t := by
  induction stages with
  | nil => rfl
  | cons s rest ih =>
    rw [List.flatMap_cons, List.append_assoc, delivered_calls, ih, List.flatMap_cons,
      List.append_assoc]

/-- Without retries nothing is handed out after the last stage. -/
lemma Ending.hands_out_nothing {first head cursor : UInt64} {tally : Tally} {t : SyncTrace κ ε}
    {r : Except SyncError Sync.Outcome}
    (h : Ending label kinds config first head cursor tally t r) (hnever : NeverRetried t) :
    delivered [] t = [] ∧ handed t = [] := by
  cases h with
  | reached => exact ⟨rfl, rfl⟩
  | exhausted => exact ⟨rfl, rfl⟩
  | unfetched _ _ batches =>
    refine ⟨by rw [delivered_fetches]; rfl, ?_⟩
    rw [handed_append, handed_fetches]
    rfl
  | unhandled _ _ _ _ _ event cause => exact absurd (by simp) (hnever event cause)

/-- Without retries no event makes a pass fail. -/
lemma Passed.ne_handler {start stop : UInt64} {t : SyncTrace κ ε}
    {r : Except SyncError Sync.Outcome} (h : Passed label kinds config start t r stop)
    (hnever : NeverRetried t) (first last : UInt64) (cause : Cause) :
    r ≠ .error (.handler first last cause) := by
  rintro rfl
  cases h with
  | walked hlt stages htiles hsizes hending =>
    cases hending with
    | unhandled _ _ _ _ _ event cause => exact absurd (by simp) (hnever event cause)

/-- Without retries a pass delivers what has been fetched in its windows. -/
lemma Passed.delivered_eq {start stop : UInt64} {t : SyncTrace κ ε}
    {r : Except SyncError Sync.Outcome} (h : Passed label kinds config start t r stop)
    (hnever : NeverRetried t) :
    (delivered [] t).map (·.2) = handed t ∧
    ∃ ws : List (Window kinds ε), Tiles start ws stop ∧ (∀ w ∈ ws, w.work ⊆ t) ∧
      delivered [] t = ws.flatMap fun w => labelled w.batches := by
  cases h with
  | headless => exact ⟨rfl, [], rfl, by simp, rfl⟩
  | idle => exact ⟨rfl, [], rfl, by simp, rfl⟩
  | @walked head _ hlt stages htiles hsizes rest _ hending =>
    have hrest : NeverRetried rest := fun event cause hmem =>
      hnever event cause (by simp [hmem])
    obtain ⟨hdelivered, hhanded⟩ := hending.hands_out_nothing hrest
    have heq : delivered [] (⟨.head, .ok head⟩ :: ⟨.tell (.head head), ()⟩ ::
        (stages.flatMap Stage.calls ++ rest)) = stages.flatMap fun s => labelled s.batches := by
      refine (delivered_stages stages rest).trans ?_
      rw [hdelivered, List.append_nil]
    rw [heq]
    refine ⟨?_, stages.map (·.toWindow), htiles, ?_, by rw [List.flatMap_map]⟩
    · calc (stages.flatMap fun s => labelled s.batches).map (·.2)
          = stages.flatMap fun s => handed s.calls := by
            rw [List.map_flatMap]
            exact List.flatMap_congr fun s _ =>
              (map_snd_labelled s.batches).trans (handed_calls s).symm
        _ = handed (stages.flatMap Stage.calls) ++ handed rest := by
            rw [hhanded, List.append_nil]
            exact List.filterMap_flatMap.symm
        _ = _ := (handed_append ..).symm
    · intro w hw e he
      obtain ⟨s, hs, rfl⟩ := List.mem_map.mp hw
      have hcalls : e ∈ s.calls := List.mem_append_left _ he
      have hstages : e ∈ stages.flatMap Stage.calls := List.mem_flatMap.mpr ⟨s, hs, hcalls⟩
      simp [hstages]

/-- Without retries a pass for one kind hands out the events of the chain between its cursors. -/
lemma Passed.handed_eq_after {chain : FixedChain κ ε} {kind : κ} {start stop : UInt64}
    {t : SyncTrace κ ε} {r : Except SyncError Sync.Outcome}
    (h : Passed label [kind] config start t r stop) (hnever : NeverRetried t)
    (hchain : chain.Explains t) : handed t = chain.after kind start stop := by
  obtain ⟨hhanded, ws, htiles, hwork, heq⟩ := h.delivered_eq hnever
  have hwindow : ∀ w ∈ ws, (labelled w.batches).map (·.2) = chain.slice kind w.first w.last := by
    intro w hw
    rw [w.batches_eq (hchain.subset (hwork w hw)), map_snd_labelled]
    simp
  calc handed t = ws.flatMap fun w => (labelled w.batches).map (·.2) := by
        rw [← hhanded, heq, List.map_flatMap]
    _ = ws.flatMap fun w => chain.slice kind w.first w.last := List.flatMap_congr hwindow
    _ = chain.after kind start stop := htiles.flatMap_slice chain kind

/-! ### The deliveries of a run -/

/-- Of the batches of distinct kinds only that of a kind has events of the kind. -/
lemma ofKind_labelled [DecidableEq κ] (kind : κ) {wanted : List κ} (hnodup : wanted.Nodup)
    (events : κ → List ε) :
    ofKind kind (labelled (wanted.map fun k => (k, events k))) =
      if kind ∈ wanted then events kind else [] := by
  induction wanted with
  | nil => rfl
  | cons k rest ih =>
    rw [List.nodup_cons] at hnodup
    have hsplit : ofKind kind (labelled ((k :: rest).map fun k => (k, events k))) =
        ofKind kind ((events k).map fun e => (k, e)) ++
          ofKind kind (labelled (rest.map fun k => (k, events k))) := by
      simp [ofKind, labelled]
    rw [hsplit, ih hnodup.2]
    by_cases hk : k = kind
    · subst hk
      simp [ofKind, hnodup.1, List.filter_map, Function.comp_def]
    · simp [ofKind, List.filter_map, Function.comp_def, hk, Ne.symm hk]

/-- The events of a kind that a pass delivers are those of the chain between its cursors. -/
lemma Passed.ofKind_delivered [DecidableEq κ] {chain : FixedChain κ ε} {start stop : UInt64}
    {t : SyncTrace κ ε} {r : Except SyncError Sync.Outcome}
    (h : Passed label kinds config start t r stop) (hnever : NeverRetried t)
    (hnodup : kinds.Nodup) (hchain : chain.Explains t) (kind : κ) :
    ofKind kind (delivered [] t) = if kind ∈ kinds then chain.after kind start stop else [] := by
  obtain ⟨-, ws, htiles, hwork, heq⟩ := h.delivered_eq hnever
  have hwindow : ∀ w ∈ ws, ofKind kind (labelled w.batches) =
      if kind ∈ kinds then chain.slice kind w.first w.last else [] := by
    intro w hw
    rw [w.batches_eq (hchain.subset (hwork w hw))]
    exact ofKind_labelled kind hnodup fun k => chain.slice k w.first w.last
  calc ofKind kind (delivered [] t)
      = ws.flatMap fun w => ofKind kind (labelled w.batches) := by
        rw [heq]
        simp [ofKind, List.filter_flatMap, List.map_flatMap]
    _ = ws.flatMap fun w => if kind ∈ kinds then chain.slice kind w.first w.last else [] :=
        List.flatMap_congr hwindow
    _ = if kind ∈ kinds then chain.after kind start stop else [] := by
        split
        · exact htiles.flatMap_slice chain kind
        · simp

/-- The events that passes hand out, each with the kind it was fetched as. -/
def deliveries (passes : List (Pass κ ε)) : List (κ × ε) :=
  passes.flatMap fun p => delivered [] p.trace

/-- Without retries, what a run hands out of each kind are the events of the chain after the cursor
at its start and up to the cursor at its end, in order and each once, whatever calls have failed. -/
theorem handed_out_once [DecidableEq κ] {chain : FixedChain κ ε} {start stop : UInt64}
    {passes : List (Pass κ ε)} (hrun : Run label kinds config start passes stop)
    (hnodup : kinds.Nodup) (hchain : ∀ p ∈ passes, chain.Explains p.trace)
    (hnever : ∀ p ∈ passes, NeverRetried p.trace) :
    (deliveries passes).map (·.2) = passes.flatMap (fun p => handed p.trace) ∧
    ∀ kind, ofKind kind (deliveries passes) =
      if kind ∈ kinds then chain.after kind start stop else [] := by
  have hpassed := hrun.passed
  induction hrun with
  | nil =>
    refine ⟨rfl, fun kind => ?_⟩
    rw [chain.after_self, ite_self]
    rfl
  | @cons p passes stop _ hrest ih =>
    rw [List.forall_mem_cons] at hpassed hchain hnever
    obtain ⟨hhanded, hkinds⟩ := ih hchain.2 hnever.2 hpassed.2
    refine ⟨?_, fun kind => ?_⟩
    · have hpass := (hpassed.1.delivered_eq hnever.1).1
      calc (deliveries (p :: passes)).map (·.2)
          = (delivered [] p.trace).map (·.2) ++ (deliveries passes).map (·.2) :=
            List.map_append
        _ = _ := by
            rw [hpass, hhanded]
            rfl
    · have hpass := hpassed.1.ofKind_delivered hnever.1 hnodup hchain.1 kind
      calc ofKind kind (deliveries (p :: passes))
          = ofKind kind (delivered [] p.trace) ++ ofKind kind (deliveries passes) := by
            simp [ofKind, deliveries]
        _ = _ := by
            rw [hpass, hkinds kind]
            split
            · exact chain.after_append_after kind hpassed.1.le hrest.le
            · rfl

/-- A pass that cannot read the head, and one that then finds a new block. -/
def passesAfterOutage : List (Pass Unit UInt64) :=
  [⟨10, [⟨.head, .error default⟩], .error (.head default), 10⟩,
    ⟨10, [⟨.head, .ok 11⟩, ⟨.tell (.head 11), ()⟩, ⟨.fetch () 11 11, .ok [11]⟩,
      ⟨.handle 11, .ok ()⟩, ⟨.store (.saveCursor "svc" 11), .ok ()⟩,
      ⟨.tell (.progress (some 11)), ()⟩], .ok (.advanced 11 11 1 0), 11⟩]

/-- The event of the new block is handed out once although the head could not be read before. -/
theorem handed_out_once_after_outage :
    Run (fun _ => "Created") [()] ⟨"svc", 1, 100, none⟩ 10 passesAfterOutage 11 ∧
    (∀ p ∈ passesAfterOutage, (FixedChain.single 11).Explains p.trace) ∧
    (∀ p ∈ passesAfterOutage, NeverRetried p.trace) ∧
    ofKind () (deliveries passesAfterOutage) = [11] := by
  have hrun : Run (fun _ => "Created") [()] ⟨"svc", 1, 100, none⟩ 10 passesAfterOutage 11 := by
    refine .cons (p := ⟨10, _, _, _⟩) ?_ (.cons (p := ⟨10, _, _, _⟩) ?_ (.nil 11))
    · exact runs_bind.mpr ⟨[], .ok 10, _, rfl, .here _, .call _ (.here _)⟩
    · exact runs_poll_block rfl (by decide) rfl
  have hchain : ∀ p ∈ passesAfterOutage, (FixedChain.single 11).Explains p.trace := by
    rintro p hp ⟨⟩ first last events hmem
    rcases List.mem_pair.mp hp with rfl | rfl
    · simp at hmem
    · obtain ⟨⟨rfl, rfl⟩, rfl⟩ : (first = 11 ∧ last = 11) ∧ events = [11] := by simpa using hmem
      decide
  have hnever : ∀ p ∈ passesAfterOutage, NeverRetried p.trace := by
    simp [passesAfterOutage, NeverRetried]
  refine ⟨hrun, hchain, hnever, ?_⟩
  rw [(handed_out_once hrun (List.nodup_singleton ()) hchain hnever).2 ()]
  decide

end Synchronizer

end ComputeExchange
