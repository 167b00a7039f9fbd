import ComputeExchange.Proofs.Sync.Pass

/-!
# When a cursor is saved

A pass saves the cursor only after the windows that lead to it: `Passed.saved` says that before a
block is saved, windows that lead there from the cursor at the start of the pass have been
completed. Since it speaks of the calls before the save alone, it also holds of a pass that is
broken off.  It is read off `Passed.place`, which says of any call of a pass which windows have been
completed before it.
-/

namespace ComputeExchange

/-- An element of two lists, one after the other, stands in the first or in the second. -/
lemma append_eq_append_cons {α : Type} {l l' pre post : List α} {a : α}
    (h : l ++ l' = pre ++ a :: post) :
    (∃ pre', pre = l ++ pre' ∧ l' = pre' ++ a :: post) ∨ ∃ post', l = pre ++ a :: post' := by
  rcases List.append_eq_append_iff.mp h with hright | ⟨mid, hl, hmid⟩
  · exact Or.inl hright
  · cases mid with
    | nil => exact Or.inl ⟨[], by simpa using hl.symm, by simpa using hmid.symm⟩
    | cons b mid =>
      obtain ⟨rfl, -⟩ := List.cons_eq_cons.mp hmid
      exact Or.inr ⟨mid, hl⟩

namespace Synchronizer

open Program

variable {κ ε : Type} {label : κ → String} {kinds : List κ} {config : Sync.Config}

/-! ### Calls that save nothing -/

/-- Nothing is saved by some calls. -/
def SavesNothing (t : SyncTrace κ ε) : Prop := ∀ e ∈ t, ∀ c, e.1 ≠ .store c

/-- Fetching saves nothing. -/
lemma savesNothing_fetches (first last : UInt64) (batches : List (κ × List ε)) :
    SavesNothing (fetches first last batches) := by
  intro e he c hc
  obtain ⟨batch, -, rfl⟩ := List.mem_map.mp he
  cases hc

/-- Handing out saves nothing. -/
lemma savesNothing_handovers (answers : List (ε × Except HandleError Unit)) :
    SavesNothing (handovers (κ := κ) answers) := by
  intro e he c hc
  obtain ⟨answer, -, rfl⟩ := List.mem_map.mp he
  cases hc

/-- A window saves nothing. -/
lemma Window.savesNothing (w : Window kinds ε) : SavesNothing w.work :=
  List.forall_mem_append.mpr ⟨savesNothing_fetches _ _ _, savesNothing_handovers _⟩

/-- After its last stage a walk saves nothing. -/
lemma Ending.savesNothing {first head cursor : UInt64} {tally : Tally} {t : SyncTrace κ ε}
    {r : Except SyncError Sync.Outcome}
    (h : Ending label kinds config first head cursor tally t r) : SavesNothing t := by
  cases h with
  | reached => simp [SavesNothing]
  | exhausted => simp [SavesNothing]
  | unfetched => exact List.forall_mem_append.mpr ⟨savesNothing_fetches _ _ _, by simp⟩
  | unhandled =>
    refine List.forall_mem_append.mpr ⟨savesNothing_fetches _ _ _, ?_⟩
    exact List.forall_mem_append.mpr ⟨savesNothing_handovers _, by simp⟩

/-! ### What comes before a call of a pass -/

/-- Where a call of a pass from a cursor stands, and which windows have been completed before it:
those that lead to the window of the stage that it belongs to, or, if it comes after the last stage,
all that the pass completes. -/
inductive Place (label : κ → String) (kinds : List κ) (config : Sync.Config) (start : UInt64)
    (e : Event (SyncCall.Answer κ ε)) : SyncTrace κ ε → Prop where
  | within (s : Stage kinds config.service ε) {block : UInt64} (ws : List (Window kinds ε))
      {before begun left : SyncTrace κ ε} (htiles : Tiles start ws block)
      (hfirst : s.first.toNat = block.toNat + 1) (hdone : ∀ w ∈ ws, w.work <:+: before)
      (hcalls : s.calls = begun ++ e :: left) :
      Place label kinds config start e (before ++ begun)
  | beyond {stop : UInt64} (ws : List (Window kinds ε)) {before : SyncTrace κ ε}
      (htiles : Tiles start ws stop) (hdone : ∀ w ∈ ws, w.work <:+: before)
      {first head : UInt64} {tally : Tally} {rest : SyncTrace κ ε}
      {r : Except SyncError Sync.Outcome}
      (hending : Ending label kinds config first head stop tally rest r) (hmem : e ∈ rest) :
      Place label kinds config start e before

/-- A place that is seen from windows before. -/
lemma Place.of_tiles {start mid : UInt64} {e : Event (SyncCall.Answer κ ε)}
    {calls before : SyncTrace κ ε} (h : Place label kinds config mid e before)
    (vs : List (Window kinds ε)) (htiles : Tiles start vs mid)
    (hwork : ∀ v ∈ vs, v.work <:+: calls) :
    Place label kinds config start e (calls ++ before) := by
  have hdone : ∀ {ws : List (Window kinds ε)} {before : SyncTrace κ ε},
      (∀ w ∈ ws, w.work <:+: before) → ∀ w ∈ vs ++ ws, w.work <:+: calls ++ before :=
    fun hws => List.forall_mem_append.mpr
      ⟨fun v hv => (hwork v hv).trans (List.prefix_append _ _).isInfix,
        fun w hw => (hws w hw).trans (List.suffix_append _ _).isInfix⟩
  cases h with
  | within s ws hws hfirst hbefore hcalls =>
    rw [← List.append_assoc]
    exact .within s (vs ++ ws) (htiles.append hws) hfirst (hdone hbefore) hcalls
  | beyond ws hws hbefore hending hmem =>
    exact .beyond (vs ++ ws) (htiles.append hws) (hdone hbefore) hending hmem

/-- Every call of the stages of a walk, or after them, has its place. -/
lemma place_of_stages {start stop : UInt64} {stages : List (Stage kinds config.service ε)}
    (htiles : Tiles start (stages.map (·.toWindow)) stop) {first head : UInt64} {tally : Tally}
    {rest pre post : SyncTrace κ ε} {r : Except SyncError Sync.Outcome}
    (hending : Ending label kinds config first head stop tally rest r)
    {e : Event (SyncCall.Answer κ ε)}
    (h : stages.flatMap Stage.calls ++ rest = pre ++ e :: post) :
    Place label kinds config start e pre := by
  induction stages generalizing start pre with
  | nil =>
    obtain rfl := htiles
    rw [List.flatMap_nil, List.nil_append] at h
    exact .beyond [] rfl (by simp) hending (by simp [h])
  | cons s stages ih =>
    obtain ⟨hfirst, htiles⟩ := htiles
    rw [List.flatMap_cons, List.append_assoc] at h
    rcases append_eq_append_cons h with ⟨pre', rfl, hpre'⟩ | ⟨post', hcalls⟩
    · refine (ih htiles hpre').of_tiles [s.toWindow] ⟨hfirst, rfl⟩ ?_
      rw [List.forall_mem_singleton]
      exact (List.prefix_append _ _).isInfix
    · have hdone : ∀ w ∈ ([] : List (Window kinds ε)), w.work <:+: ([] : SyncTrace κ ε) := by simp
      exact .within s [] rfl hfirst hdone hcalls

/-- Every call of a pass has its place, apart from the head that is read and told at its start. -/
lemma Passed.place {start stop : UInt64} {t : SyncTrace κ ε} {r : Except SyncError Sync.Outcome}
    (h : Passed label kinds config start t r stop) {e : Event (SyncCall.Answer κ ε)}
    (hhead : e.1 ≠ .head) (htell : ∀ event, e.1 ≠ .tell event) {pre post : SyncTrace κ ε}
    (ht : t = pre ++ e :: post) : Place label kinds config start e pre := by
  have hstart : ∀ answer head (before after : SyncTrace κ ε),
      [⟨.head, answer⟩, ⟨.tell (.head head), ()⟩] ≠ before ++ e :: after := by
    intro answer head before after heq
    have hmem : e ∈ ([⟨.head, answer⟩, ⟨.tell (.head head), ()⟩] : SyncTrace κ ε) := by simp [heq]
    rcases List.mem_pair.mp hmem with rfl | rfl
    · exact hhead rfl
    · exact htell _ rfl
  cases h with
  | headless cause =>
    rcases List.singleton_eq_append_iff.mp ht with ⟨-, he⟩ | ⟨-, he⟩
    · cases he
      exact absurd rfl hhead
    · cases he
  | idle => exact absurd ht (hstart _ _ _ _)
  | @walked head _ hlt stages htiles hsizes rest _ hending =>
    have hsplit : [⟨.head, .ok head⟩, ⟨.tell (.head head), ()⟩] ++
        (stages.flatMap Stage.calls ++ rest) = pre ++ e :: post := ht
    rcases append_eq_append_cons hsplit with ⟨pre', rfl, hpre'⟩ | ⟨post', hearly⟩
    · exact (place_of_stages htiles hending hpre').of_tiles [] rfl (by simp)
    · exact absurd hearly (hstart _ _ _ _)

/-! ### The saves of a pass -/

/-- A stage saves its last block, after the work on its window. -/
lemma Stage.of_save_mem {stage : Stage kinds config.service ε} {service : String} {block : UInt64}
    {answer : Except StoreError Unit} {begun left : SyncTrace κ ε}
    (h : stage.calls = begun ++ ⟨.store (.saveCursor service block), answer⟩ :: left) :
    service = config.service ∧ block = stage.last ∧ stage.work <:+: begun := by
  rcases append_eq_append_cons h with ⟨begun', rfl, hbegun'⟩ | ⟨left', hwork⟩
  · have hmem : (⟨.store (.saveCursor service block), answer⟩ : Event _) ∈ stage.saving := by
      have : (⟨.store (.saveCursor service block), answer⟩ : Event _) ∈
          stage.saving ++ [⟨.tell (.progress (some stage.last)), ()⟩] := by
        simp [hbegun']
      simpa using this
    have hsave : service = config.service ∧ block = stage.last := by
      rcases stage.saved _ hmem with hsave | ⟨span, hpause⟩
      · simpa using hsave
      · cases hpause
    exact ⟨hsave.1, hsave.2, (List.prefix_append _ _).isInfix⟩
  · have hmem : (⟨.store (.saveCursor service block), answer⟩ : Event _) ∈ stage.work := by
      simp [hwork]
    exact absurd rfl (stage.savesNothing _ hmem _)

/-- A pass asks nothing of the store but to save its cursor. -/
lemma Passed.saves_cursor {start stop : UInt64} {t : SyncTrace κ ε}
    {r : Except SyncError Sync.Outcome} (h : Passed label kinds config start t r stop) :
    ∀ e ∈ t, ∀ c, e.1 = .store c → ∃ block, c = .saveCursor config.service block := by
  cases h with
  | headless => simp
  | idle => simp
  | @walked head _ hlt stages htiles hsizes rest _ hending =>
    have hstages : ∀ e ∈ stages.flatMap Stage.calls, ∀ c, e.1 = .store c →
        ∃ block, c = .saveCursor config.service block := by
      intro e he c hc
      obtain ⟨s, -, he⟩ := List.mem_flatMap.mp he
      rcases List.mem_append.mp he with he | he
      · exact absurd hc (s.savesNothing e he c)
      rcases List.mem_append.mp he with he | he
      · rcases s.saved e he with hsave | ⟨span, hpause⟩
        · exact ⟨s.last, SyncCall.store.inj (hc.symm.trans hsave)⟩
        · cases hc.symm.trans hpause
      · obtain rfl := List.mem_singleton.mp he
        cases hc
    refine List.forall_mem_cons.mpr ⟨by simp, List.forall_mem_cons.mpr ⟨by simp, ?_⟩⟩
    refine List.forall_mem_append.mpr ⟨hstages, fun e he c hc => ?_⟩
    exact absurd hc (hending.savesNothing e he c)

/-- A pass saves only the ends of windows, each after all that lies before it has been completed. -/
theorem Passed.saved {start stop : UInt64} {t : SyncTrace κ ε} {r : Except SyncError Sync.Outcome}
    (h : Passed label kinds config start t r stop) {service : String} {block : UInt64}
    {answer : Except StoreError Unit} {pre post : SyncTrace κ ε}
    (ht : t = pre ++ ⟨.store (.saveCursor service block), answer⟩ :: post) :
    service = config.service ∧
      ∃ ws : List (Window kinds ε), Tiles start ws block ∧ ∀ w ∈ ws, w.work <:+: pre := by
  cases h.place (by simp) (by simp) ht with
  | @within stage mid ws before begun left htiles hfirst hdone hcalls =>
    obtain ⟨hservice, rfl, hwork⟩ := Stage.of_save_mem hcalls
    have hlast : Tiles mid [stage.toWindow] stage.last := ⟨hfirst, rfl⟩
    refine ⟨hservice, ws ++ [stage.toWindow], htiles.append hlast, ?_⟩
    refine List.forall_mem_append.mpr ⟨fun w hw => ?_, List.forall_mem_singleton.mpr ?_⟩
    · exact (hdone w hw).trans (List.prefix_append _ _).isInfix
    · exact hwork.trans (List.suffix_append _ _).isInfix
  | beyond _ _ _ hending hmem => exact absurd rfl (hending.savesNothing _ hmem _)

end Synchronizer

end ComputeExchange
