import ComputeExchange.Proofs.Sync.Calls

/-!
# The shape of a pass

A pass completes windows one after another and then ends: it has reached the head of the chain, or a
kind cannot be fetched, or an event asks for another try.  `Window` is a completed window, `Stage` a
window together with the saving of the cursor that follows it, `Tiles` says that windows follow one
another without a gap, and `Ending` is what comes after the last of them.  `passed_of_runs_poll`
says that every pass has this shape; what is said about passes elsewhere is read off it.
-/

namespace ComputeExchange

namespace Synchronizer

open Program

variable {κ ε : Type}

/-! ### Windows -/

/-- A completed window: every kind has been fetched in it, every event fetched has been handed out,
and none has asked for another try. -/
structure Window (kinds : List κ) (ε : Type) where
  first : UInt64
  last : UInt64
  first_le : first ≤ last
  /-- What has been fetched of each kind. -/
  batches : List (κ × List ε)
  fetched : batches.map (·.1) = kinds
  /-- What each event has been answered with. -/
  answers : List (ε × Except HandleError Unit)
  handed : answers.map (·.1) = batches.flatMap (·.2)
  settled : ∀ a ∈ answers, isSettled a.2 = true

/-- The calls of a completed window: all fetches come before the first event is handed out. -/
def Window.work {kinds : List κ} (w : Window kinds ε) : SyncTrace κ ε :=
  fetches w.first w.last w.batches ++ handovers w.answers

/-- A window only fetches and hands out. -/
lemma Window.fetch_or_handle {kinds : List κ} (w : Window kinds ε) : ∀ e ∈ w.work,
    (∃ kind, e.1 = .fetch kind w.first w.last) ∨ ∃ event, e.1 = .handle event := by
  intro e he
  rcases List.mem_append.mp he with he | he
  · obtain ⟨batch, -, rfl⟩ := List.mem_map.mp he
    exact Or.inl ⟨batch.1, rfl⟩
  · obtain ⟨answer, -, rfl⟩ := List.mem_map.mp he
    exact Or.inr ⟨answer.1, rfl⟩

/-- A window calls something, unless there are no kinds. -/
lemma Window.work_ne_nil {kinds : List κ} (w : Window kinds ε) (hkinds : kinds ≠ []) :
    w.work ≠ [] := by
  intro hnil
  have hbatches : w.batches = [] := List.map_eq_nil_iff.mp (List.append_eq_nil_iff.mp hnil).1
  have hfetched := w.fetched
  rw [hbatches] at hfetched
  exact hkinds hfetched.symm

/-- A completed window, after which the cursor is saved. -/
structure Stage (kinds : List κ) (service : String) (ε : Type) extends Window kinds ε where
  saving : SyncTrace κ ε
  saved : ∀ e ∈ saving, IsSaving service last e

/-- The calls of a stage. -/
def Stage.calls {kinds : List κ} {service : String} (s : Stage kinds service ε) : SyncTrace κ ε :=
  s.work ++ (s.saving ++ [⟨.tell (.progress (some s.last)), ()⟩])

variable {label : κ → String} {kinds : List κ} {config : Sync.Config}

/-- A stage hands out what it has fetched. -/
lemma handed_calls {service : String} (s : Stage kinds service ε) :
    handed s.calls = s.batches.flatMap (·.2) := by
  have htell : handed (κ := κ) (ε := ε) [⟨.tell (.progress (some s.last)), ()⟩] = [] := rfl
  rw [Stage.calls, Window.work, handed_append, handed_append, handed_append, handed_fetches,
    handed_handovers, handed_saving s.saved, htell, s.handed]
  simp

/-- Windows follow one another from the block after `start` to the block `stop`. -/
def Tiles : UInt64 → List (Window kinds ε) → UInt64 → Prop
  | start, [], stop => stop = start
  | start, w :: ws, stop => w.first.toNat = start.toNat + 1 ∧ Tiles w.last ws stop

/-- Windows never lead back. -/
lemma Tiles.le {start stop : UInt64} {ws : List (Window kinds ε)} (h : Tiles start ws stop) :
    start ≤ stop := by
  induction ws generalizing start with
  | nil =>
    obtain rfl := h
    exact UInt64.le_refl _
  | cons w ws ih =>
    obtain ⟨hfirst, hrest⟩ := h
    have hstart : start.toNat ≤ w.last.toNat := by
      have := UInt64.le_iff_toNat_le.mp w.first_le
      omega
    exact UInt64.le_trans (UInt64.le_iff_toNat_le.mpr hstart) (ih hrest)

/-- Windows that follow windows. -/
lemma Tiles.append {start mid stop : UInt64} {ws vs : List (Window kinds ε)}
    (h : Tiles start ws mid) (h' : Tiles mid vs stop) : Tiles start (ws ++ vs) stop := by
  induction ws generalizing start with
  | nil =>
    obtain rfl := h
    exact h'
  | cons w ws ih => exact ⟨h.1, ih h.2⟩

/-- Every block that windows have passed lies in one of them. -/
lemma Tiles.exists_mem {start stop : UInt64} {ws : List (Window kinds ε)} (h : Tiles start ws stop)
    {block : UInt64} (hlt : start < block) (hle : block ≤ stop) :
    ∃ w ∈ ws, w.first ≤ block ∧ block ≤ w.last := by
  induction ws generalizing start with
  | nil =>
    obtain rfl := h
    exact absurd hle (UInt64.not_le.mpr hlt)
  | cons w ws ih =>
    obtain ⟨hfirst, hrest⟩ := h
    by_cases hin : block ≤ w.last
    · refine ⟨w, List.mem_cons_self, ?_, hin⟩
      rw [UInt64.le_iff_toNat_le, hfirst]
      exact UInt64.lt_iff_toNat_lt.mp hlt
    · obtain ⟨v, hv, hblock⟩ := ih hrest (UInt64.not_le.mp hin)
      exact ⟨v, List.mem_cons_of_mem w hv, hblock⟩

/-- Every window that has been passed ends before the stop. -/
lemma Tiles.last_le {start stop : UInt64} {ws : List (Window kinds ε)} (h : Tiles start ws stop) :
    ∀ w ∈ ws, w.last ≤ stop := by
  induction ws generalizing start with
  | nil => simp
  | cons w ws ih =>
    obtain ⟨-, hrest⟩ := h
    exact List.forall_mem_cons.mpr ⟨hrest.le, ih hrest⟩

/-- Every window that has been passed starts after the start. -/
lemma Tiles.lt_first {start stop : UInt64} {ws : List (Window kinds ε)} (h : Tiles start ws stop) :
    ∀ w ∈ ws, start < w.first := by
  induction ws generalizing start with
  | nil => simp
  | cons w ws ih =>
    obtain ⟨hfirst, hrest⟩ := h
    have hlast := UInt64.le_iff_toNat_le.mp w.first_le
    refine List.forall_mem_cons.mpr ⟨?_, fun v hv => ?_⟩
    · rw [UInt64.lt_iff_toNat_lt]
      omega
    · have hv := UInt64.lt_iff_toNat_lt.mp (ih hrest v hv)
      rw [UInt64.lt_iff_toNat_lt]
      omega

/-! ### A walk along the chain -/

/-- The block after one that is not the greatest. -/
lemma toNat_add_one {block : UInt64} (h : block ≠ Clamp.greatest) :
    (block + 1).toNat = block.toNat + 1 := by
  have hne : block.toNat ≠ UInt64.size - 1 := by
    rw [← Clamp.toNat_greatest]
    exact fun heq => h (UInt64.toNat_inj.mp heq)
  have hlt : block.toNat < UInt64.size := block.toNat_lt
  have hsize : UInt64.size = 18446744073709551616 := rfl
  rw [UInt64.toNat_add, UInt64.toNat_one, Nat.mod_eq_of_lt (by omega)]

/-- A block before another is not the greatest. -/
lemma ne_greatest {block later : UInt64} (h : block < later) : block ≠ Clamp.greatest := by
  rintro rfl
  have hlater : later.toNat < UInt64.size := later.toNat_lt
  rw [UInt64.lt_iff_toNat_lt, Clamp.toNat_greatest] at h
  omega

/-- The block whose number is one greater. -/
lemma eq_add_one {block following : UInt64} (h : following.toNat = block.toNat + 1) :
    following = block + 1 := by
  rw [← UInt64.toNat_inj, UInt64.toNat_add, UInt64.toNat_one, ← h]
  exact (Nat.mod_eq_of_lt following.toNat_lt).symm

/-- How a walk ends once the cursor has come to `cursor`, with `tally` of the events handed out. -/
inductive Ending (label : κ → String) (kinds : List κ) (config : Sync.Config)
    (first head cursor : UInt64) (tally : Tally) :
    SyncTrace κ ε → Except SyncError Sync.Outcome → Prop where
  /-- All blocks up to the head have been dealt with. -/
  | reached (hcursor : cursor = head) :
      Ending label kinds config first head cursor tally []
        (.ok (.advanced first head tally.events tally.failed))
  /-- There is no block after the last one that a word can number. -/
  | exhausted (hcursor : cursor = Clamp.greatest) :
      Ending label kinds config first head cursor tally [] (.error .exhausted)
  /-- A kind cannot be fetched in the next window. -/
  | unfetched {next : UInt64} (hnext : next.toNat = cursor.toNat + 1) (hle : next ≤ head)
      (batches : List (κ × List ε)) (kind : κ) (cause : Cause) :
      Ending label kinds config first head cursor tally
        (fetches next (windowEnd config.rangeSize next head) batches ++
          [⟨.fetch kind next (windowEnd config.rangeSize next head), .error cause⟩])
        (.error (.fetch (label kind) next (windowEnd config.rangeSize next head) cause))
  /-- An event of the next window asks for another try. -/
  | unhandled {next : UInt64} (hnext : next.toNat = cursor.toNat + 1) (hle : next ≤ head)
      (batches : List (κ × List ε)) (hfetched : batches.map (·.1) = kinds)
      (answers : List (ε × Except HandleError Unit)) (event : ε) (cause : Cause)
      (hhanded : answers.map (·.1) ++ [event] <+: batches.flatMap (·.2))
      (hsettled : ∀ a ∈ answers, isSettled a.2 = true) :
      Ending label kinds config first head cursor tally
        (fetches next (windowEnd config.rangeSize next head) batches ++
          (handovers answers ++ [⟨.handle event, .error (.retry cause)⟩]))
        (.error (.handler next (windowEnd config.rangeSize next head) cause))

/-- A walk that goes on makes a stage of its next window, or ends where it stands. -/
lemma runs_walk {first head next cursor stop : UInt64} {tally : Tally} {t : SyncTrace κ ε}
    {r : Except SyncError Sync.Outcome} (hnext : next.toNat = cursor.toNat + 1) (hle : next ≤ head)
    (h : Runs ((asking label kinds config).walk first head next cursor tally) t (r, stop)) :
    (Ending label kinds config first head cursor tally t r ∧ stop = cursor) ∨
    ∃ (stage : Stage kinds config.service ε) (rest : SyncTrace κ ε),
      t = stage.calls ++ rest ∧ stage.first = next ∧
      stage.last = windowEnd config.rangeSize next head ∧
      Runs ((asking label kinds config).persist stage.last) stage.saving () ∧
      Runs (if stage.last = Clamp.greatest then pure (.error .exhausted, stage.last)
        else (asking label kinds config).walk first head (stage.last + 1) stage.last
          (tally.after stage.answers)) rest (r, stop) := by
  obtain ⟨last, hlast⟩ : ∃ last, windowEnd config.rangeSize next head = last := ⟨_, rfl⟩
  rw [walk, dif_pos hle] at h
  simp only [asking_kinds, asking_config, hlast] at h
  obtain ⟨t₁, fetched, t₂, rfl, h₁, h₂⟩ := runs_bind.mp h
  rcases runs_fetchAll h₁ with ⟨batches, hbatches, rfl, rfl⟩ | ⟨batches, kind, cause, rfl, rfl⟩
  · obtain ⟨t₃, handled, t₄, rfl, h₃, h₄⟩ := runs_bind.mp h₂
    rcases runs_handleAll h₃ with
      ⟨answers, hhanded, hsettled, rfl, rfl⟩ | ⟨answers, event, cause, hhanded, hsettled, rfl, rfl⟩
    · obtain ⟨t₅, _, t₆, rfl, h₅, h₆⟩ := runs_bind.mp h₄
      obtain ⟨t₇, _, t₈, rfl, h₇, h₈⟩ := runs_bind.mp h₆
      obtain rfl := runs_ask.mp h₇
      refine Or.inr ⟨⟨⟨next, last, hlast ▸ le_windowEnd config.rangeSize hle, batches, hbatches,
        answers, hhanded, hsettled⟩, t₅, calls_of_runs_persist h₅⟩, t₈, ?_, rfl, hlast.symm, h₅,
        ?_⟩
      · simp [Stage.calls, Window.work]
      · simpa only [dite_eq_ite] using h₈
    · obtain ⟨rfl, rfl, rfl⟩ := runs_pure_mk.mp h₄
      subst hlast
      rw [List.append_nil]
      exact Or.inl ⟨.unhandled hnext hle batches hbatches answers event cause hhanded hsettled, rfl⟩
  · obtain ⟨rfl, rfl, rfl⟩ := runs_pure_mk.mp h₂
    subst hlast
    rw [List.append_nil]
    exact Or.inl ⟨.unfetched hnext hle batches kind cause, rfl⟩

/-- A tally may be kept in parts. -/
lemma Tally.after_append (tally : Tally) (xs ys : List (ε × Except HandleError Unit)) :
    tally.after (xs ++ ys) = (tally.after xs).after ys := by
  induction xs generalizing tally with
  | nil => rfl
  | cons x xs ih => exact ih _

/-- A walk completes windows that follow one another from its cursor on, and then ends. -/
theorem ending_of_runs_walk {first head next cursor stop : UInt64} {tally : Tally}
    {t : SyncTrace κ ε} {r : Except SyncError Sync.Outcome}
    (hnext : next.toNat = cursor.toNat + 1) (hcursor : cursor ≤ head)
    (h : Runs ((asking label kinds config).walk first head next cursor tally) t (r, stop)) :
    ∃ (stages : List (Stage kinds config.service ε)) (rest : SyncTrace κ ε),
      t = stages.flatMap Stage.calls ++ rest ∧
      Tiles cursor (stages.map (·.toWindow)) stop ∧
      (∀ s ∈ stages, s.last = windowEnd config.rangeSize s.first head) ∧
      Ending label kinds config first head stop (tally.after (stages.flatMap (·.answers)))
        rest r := by
  -- The induction is on the distance to the head, which every stage makes smaller.
  induction hn : head.toNat - cursor.toNat using Nat.strong_induction_on
    generalizing next cursor tally t with
  | _ n ih =>
  rw [UInt64.le_iff_toNat_le] at hcursor
  by_cases hle : next ≤ head
  · rcases runs_walk hnext hle h with
      ⟨hending, rfl⟩ | ⟨stage, rest, rfl, rfl, hlast, -, hrest⟩
    · exact ⟨[], t, rfl, rfl, by simp, hending⟩
    · by_cases hmax : stage.last = Clamp.greatest
      · rw [if_pos hmax] at hrest
        obtain ⟨rfl, rfl, rfl⟩ := runs_pure_mk.mp hrest
        exact ⟨[stage], [], by simp, ⟨hnext, rfl⟩, by simpa using hlast, .exhausted hmax⟩
      · rw [if_neg hmax] at hrest
        have hhead : stage.last ≤ head := hlast ▸ windowEnd_le config.rangeSize stage.first head
        have hcloser : head.toNat - stage.last.toNat < n := by
          have := UInt64.le_iff_toNat_le.mp stage.first_le
          rw [UInt64.le_iff_toNat_le] at hle
          omega
        obtain ⟨stages, rest, rfl, htiles, hsizes, hending⟩ :=
          ih _ hcloser (toNat_add_one hmax) hhead hrest rfl
        refine ⟨stage :: stages, rest, by simp, ⟨hnext, htiles⟩,
          List.forall_mem_cons.mpr ⟨hlast, hsizes⟩, ?_⟩
        rw [List.flatMap_cons, Tally.after_append]
        exact hending
  · rw [walk, dif_neg hle] at h
    obtain ⟨rfl, rfl, rfl⟩ := runs_pure_mk.mp h
    refine ⟨[], [], rfl, rfl, by simp, .reached ?_⟩
    rw [UInt64.le_iff_toNat_le] at hle
    exact UInt64.toNat_inj.mp (by omega)

/-! ### A pass -/

/-- What a pass may do from a cursor: its calls, its result and the cursor it leaves. -/
inductive Passed (label : κ → String) (kinds : List κ) (config : Sync.Config) (start : UInt64) :
    SyncTrace κ ε → Except SyncError Sync.Outcome → UInt64 → Prop where
  /-- The head cannot be read. -/
  | headless (cause : Cause) :
      Passed label kinds config start [⟨.head, .error cause⟩] (.error (.head cause)) start
  /-- There is nothing after the cursor. -/
  | idle {head : UInt64} (hle : head ≤ start) :
      Passed label kinds config start [⟨.head, .ok head⟩, ⟨.tell (.head head), ()⟩]
        (.ok .upToDate) start
  /-- The pass walks from the cursor toward the head. -/
  | walked {head stop : UInt64} (hlt : start < head)
      (stages : List (Stage kinds config.service ε))
      (htiles : Tiles start (stages.map (·.toWindow)) stop)
      (hsizes : ∀ s ∈ stages, s.last = windowEnd config.rangeSize s.first head)
      {rest : SyncTrace κ ε} {r : Except SyncError Sync.Outcome}
      (hending : Ending label kinds config (start + 1) head stop
        (Tally.after ⟨0, 0⟩ (stages.flatMap (·.answers))) rest r) :
      Passed label kinds config start
        (⟨.head, .ok head⟩ :: ⟨.tell (.head head), ()⟩ ::
          (stages.flatMap Stage.calls ++ rest)) r stop

/-- A pass moves its cursor along windows that it has completed. -/
lemma Passed.windows {start stop : UInt64} {t : SyncTrace κ ε} {r : Except SyncError Sync.Outcome}
    (h : Passed label kinds config start t r stop) :
    ∃ ws : List (Window kinds ε), Tiles start ws stop ∧ ∀ w ∈ ws, w.work <:+: t ∧
      ∃ head, (⟨.head, .ok head⟩ : Event _) ∈ t ∧ w.last ≤ head := by
  cases h with
  | headless => exact ⟨[], rfl, by simp⟩
  | idle => exact ⟨[], rfl, by simp⟩
  | @walked head _ hlt stages htiles hsizes rest _ hending =>
    refine ⟨stages.map (·.toWindow), htiles, fun w hw => ?_⟩
    obtain ⟨s, hs, rfl⟩ := List.mem_map.mp hw
    have hwork : s.work <:+: s.calls := (List.prefix_append _ _).isInfix
    have hcalls : s.calls <:+: stages.flatMap Stage.calls :=
      List.infix_of_mem_flatten (List.mem_map_of_mem hs)
    have htrace : stages.flatMap Stage.calls <:+: _ :=
      ⟨[⟨.head, .ok head⟩, ⟨.tell (.head head), ()⟩], rest, rfl⟩
    refine ⟨(hwork.trans hcalls).trans htrace, head, List.mem_cons_self, ?_⟩
    rw [hsizes s hs]
    exact windowEnd_le config.rangeSize s.first head

/-- Every pass from a cursor has the shape that `Passed` tells. -/
theorem passed_of_runs_poll {start : UInt64} {stop : Option UInt64} {t : SyncTrace κ ε}
    {r : Except SyncError Sync.Outcome}
    (h : Runs ((asking label kinds config).poll (some start)) t (r, stop)) :
    ∃ cursor, stop = some cursor ∧ Passed label kinds config start t r cursor := by
  rw [poll, runs_bind] at h
  obtain ⟨t₀, _, t₁, rfl, h₀, h₁⟩ := h
  obtain ⟨rfl, rfl⟩ := runs_pure.mp h₀
  obtain ⟨t₂, found, t₃, rfl, h₂, h₃⟩ := runs_bind.mp h₁
  obtain rfl := runs_ask.mp h₂
  cases found with
  | error cause =>
    obtain ⟨rfl, rfl, rfl⟩ := runs_pure_mk.mp h₃
    exact ⟨start, rfl, .headless cause⟩
  | ok head =>
    obtain ⟨t₄, _, t₅, rfl, h₄, h₅⟩ := runs_bind.mp h₃
    obtain rfl := runs_ask.mp h₄
    by_cases hle : head ≤ start
    · rw [if_pos hle] at h₅
      obtain ⟨rfl, rfl, rfl⟩ := runs_pure_mk.mp h₅
      exact ⟨start, rfl, .idle hle⟩
    · rw [if_neg hle] at h₅
      obtain ⟨t₆, ⟨result, cursor⟩, t₇, rfl, h₆, h₇⟩ := runs_bind.mp h₅
      obtain ⟨rfl, rfl, rfl⟩ := runs_pure_mk.mp h₇
      have hlt : start < head := UInt64.not_le.mp hle
      obtain ⟨stages, rest, rfl, htiles, hsizes, hending⟩ :=
        ending_of_runs_walk (toNat_add_one (ne_greatest hlt)) (UInt64.le_of_lt hlt) h₆
      refine ⟨cursor, rfl, ?_⟩
      rw [List.append_nil]
      exact .walked hlt stages htiles hsizes hending

/-- A pass that finds a new head walks toward it. -/
lemma runs_poll_of_runs_walk {block head stop : UInt64} (hlt : block < head) {t : SyncTrace κ ε}
    {r : Except SyncError Sync.Outcome}
    (h : Runs ((asking label kinds config).walk (block + 1) head (block + 1) block ⟨0, 0⟩) t
      (r, stop)) :
    Runs ((asking label kinds config).poll (some block))
      (⟨.head, .ok head⟩ :: ⟨.tell (.head head), ()⟩ :: t) (r, some stop) := by
  rw [poll]
  refine runs_bind.mpr ⟨[], .ok block, _, rfl, .here _, .call _ (.call _ ?_)⟩
  change Runs (if head ≤ block then _ else _) _ _
  rw [if_neg (UInt64.not_le.mpr hlt)]
  exact runs_bind.mpr ⟨t, (r, stop), [], (List.append_nil t).symm, h, .here _⟩

/-- The last block before the head is a window of its own. -/
lemma windowEnd_head (range head : UInt64) : windowEnd range head head = head :=
  UInt64.le_antisymm (windowEnd_le _ _ _) (le_windowEnd _ (UInt64.le_refl head))

/-- Fetching may be answered with any events. -/
lemma runs_fetchAll_fetches {wanted : List κ} {batches : List (κ × List ε)}
    (hfetched : batches.map (·.1) = wanted) (first last : UInt64) :
    Runs ((asking label kinds config).fetchAll first last wanted)
      (fetches first last batches) (.ok (batches.flatMap (·.2))) := by
  subst hfetched
  induction batches with
  | nil => exact .here _
  | cons batch rest ih =>
    rw [List.map_cons, fetchAll]
    refine runs_bind.mpr ⟨[_], .ok batch.2, fetches first last rest, rfl, runs_ask.mpr rfl, ?_⟩
    exact runs_bind.mpr ⟨_, _, [], (List.append_nil _).symm, ih, .here _⟩

/-- Handing out goes on as long as events are settled. -/
lemma runs_handleAll_handovers {answers : List (ε × Except HandleError Unit)}
    (hsettled : ∀ a ∈ answers, isSettled a.2 = true) {rest : List ε} {tally : Tally}
    {t : SyncTrace κ ε} {r : Except Cause Tally}
    (h : Runs ((asking label kinds config).handleAll rest (tally.after answers)) t r) :
    Runs ((asking label kinds config).handleAll (answers.map (·.1) ++ rest) tally)
      (handovers answers ++ t) r := by
  induction answers generalizing tally with
  | nil => exact h
  | cons a answers ih =>
    obtain ⟨event, answer⟩ := a
    rw [List.forall_mem_cons] at hsettled
    rw [List.map_cons, List.cons_append, handleAll]
    refine runs_bind.mpr ⟨[_], answer, handovers answers ++ t, rfl, runs_ask.mpr rfl, ?_⟩
    cases answer with
    | ok => exact ih hsettled.2 h
    | error e =>
      cases e with
      | skip => exact ih hsettled.2 h
      | retry => cases hsettled.1

/-- A pass over new blocks that lie in one window and whose events are settled completes the
window, whatever comes of the save. -/
lemma runs_poll_stage (w : Window kinds ε) {saving : SyncTrace κ ε}
    (hsaving : Runs ((asking label kinds config).persist w.last) saving ()) {block : UInt64}
    (hfirst : w.first.toNat = block.toNat + 1)
    (hend : windowEnd config.rangeSize w.first w.last = w.last) (hlast : w.last ≠ Clamp.greatest) :
    Runs ((asking label kinds config).poll (some block))
      (⟨.head, .ok w.last⟩ :: ⟨.tell (.head w.last), ()⟩ ::
        (w.work ++ (saving ++ [⟨.tell (.progress (some w.last)), ()⟩])))
      (.ok (.advanced w.first w.last (Tally.after ⟨0, 0⟩ w.answers).events
        (Tally.after ⟨0, 0⟩ w.answers).failed), some w.last) := by
  have hle := UInt64.le_iff_toNat_le.mp w.first_le
  have hdone : ∀ tally : Tally, Runs ((asking (ε := ε) label kinds config).walk w.first w.last
      (w.last + 1) w.last tally) []
      (.ok (.advanced w.first w.last tally.events tally.failed), w.last) := by
    intro tally
    rw [walk, dif_neg]
    · exact .here _
    · rw [UInt64.le_iff_toNat_le, toNat_add_one hlast]
      omega
  have hfetch : Runs ((asking label kinds config).fetchAll w.first w.last kinds)
      (fetches w.first w.last w.batches) (.ok (w.batches.flatMap (·.2))) :=
    runs_fetchAll_fetches w.fetched w.first w.last
  have hhandle : Runs ((asking label kinds config).handleAll (w.batches.flatMap (·.2)) ⟨0, 0⟩)
      (handovers w.answers) (.ok (Tally.after ⟨0, 0⟩ w.answers)) := by
    rw [← w.handed, ← List.append_nil (w.answers.map (·.1)),
      ← List.append_nil (handovers w.answers)]
    exact runs_handleAll_handovers w.settled (.here _)
  refine runs_poll_of_runs_walk (UInt64.lt_iff_toNat_lt.mpr (by omega)) ?_
  rw [← eq_add_one hfirst, walk, dif_pos w.first_le]
  simp only [asking_config, hend, dif_neg hlast]
  rw [Window.work, List.append_assoc]
  refine runs_bind.mpr ⟨_, _, _, rfl, hfetch, runs_bind.mpr ⟨_, _, _, rfl, hhandle, ?_⟩⟩
  exact runs_bind.mpr ⟨saving, (), _, rfl, hsaving, .call _ (hdone _)⟩

/-- A pass over new blocks that lie in one window and whose events are settled completes the window,
and saves the cursor at the first try. -/
lemma runs_poll_window (w : Window kinds ε) {block : UInt64}
    (hfirst : w.first.toNat = block.toNat + 1)
    (hend : windowEnd config.rangeSize w.first w.last = w.last) (hlast : w.last ≠ Clamp.greatest) :
    Runs ((asking label kinds config).poll (some block))
      (⟨.head, .ok w.last⟩ :: ⟨.tell (.head w.last), ()⟩ :: (w.work ++
        [⟨.store (.saveCursor config.service w.last), .ok ()⟩,
          ⟨.tell (.progress (some w.last)), ()⟩]))
      (.ok (.advanced w.first w.last (Tally.after ⟨0, 0⟩ w.answers).events
        (Tally.after ⟨0, 0⟩ w.answers).failed), some w.last) := by
  have hsaving : Runs ((asking (κ := κ) (ε := ε) label kinds config).persist w.last)
      [⟨.store (.saveCursor config.service w.last), .ok ()⟩] () := .call _ (.here _)
  exact runs_poll_stage w hsaving hfirst hend hlast

/-- A pass whose next window is broken off leaves the cursor where it was. -/
lemma runs_poll_retried {block next head : UInt64} (hnext : next.toNat = block.toNat + 1)
    (hle : next ≤ head) {batches : List (κ × List ε)} (hfetched : batches.map (·.1) = kinds)
    {answers : List (ε × Except HandleError Unit)}
    (hsettled : ∀ a ∈ answers, isSettled a.2 = true) {event : ε} {rest : List ε}
    (hhanded : answers.map (·.1) ++ event :: rest = batches.flatMap (·.2)) (cause : Cause) :
    Runs ((asking label kinds config).poll (some block))
      (⟨.head, .ok head⟩ :: ⟨.tell (.head head), ()⟩ ::
        (fetches next (windowEnd config.rangeSize next head) batches ++
          (handovers answers ++ [⟨.handle event, .error (.retry cause)⟩])))
      (.error (.handler next (windowEnd config.rangeSize next head) cause), some block) := by
  obtain ⟨last, hlast⟩ : ∃ last, windowEnd config.rangeSize next head = last := ⟨_, rfl⟩
  have hfetch : Runs ((asking label kinds config).fetchAll next last kinds)
      (fetches next last batches) (.ok (batches.flatMap (·.2))) :=
    runs_fetchAll_fetches hfetched next last
  have hhandle : Runs ((asking label kinds config).handleAll (batches.flatMap (·.2)) ⟨0, 0⟩)
      (handovers answers ++ [⟨.handle event, .error (.retry cause)⟩]) (.error cause) := by
    rw [← hhanded]
    exact runs_handleAll_handovers hsettled (.call _ (.here _))
  rw [UInt64.le_iff_toNat_le] at hle
  refine runs_poll_of_runs_walk (UInt64.lt_iff_toNat_lt.mpr (by omega)) ?_
  rw [← eq_add_one hnext, walk, dif_pos (UInt64.le_iff_toNat_le.mpr hle)]
  simp only [asking_config, hlast]
  refine runs_bind.mpr ⟨_, _, _, rfl, hfetch, ?_⟩
  exact runs_bind.mpr ⟨_, _, [], (List.append_nil _).symm, hhandle, .here _⟩

/-- A pass over one new block whose event is settled completes its only window. -/
lemma runs_poll_block {kind : κ} {event : ε} {answer : Except HandleError Unit}
    {block head : UInt64} (hhead : head.toNat = block.toNat + 1) (hlast : head ≠ Clamp.greatest)
    (hsettled : isSettled answer = true) :
    Runs ((asking label [kind] config).poll (some block))
      [⟨.head, .ok head⟩, ⟨.tell (.head head), ()⟩, ⟨.fetch kind head head, .ok [event]⟩,
        ⟨.handle event, answer⟩, ⟨.store (.saveCursor config.service head), .ok ()⟩,
        ⟨.tell (.progress (some head)), ()⟩]
      (.ok (.advanced head head 1 (if answer.isOk then 0 else 1)), some head) := by
  let w : Window [kind] ε := ⟨head, head, UInt64.le_refl head, [(kind, [event])], rfl,
    [(event, answer)], rfl, by simpa using hsettled⟩
  exact runs_poll_window w hhead (windowEnd_head _ head) hlast

/-- A pass over one new block whose event asks for another try leaves the cursor where it was. -/
lemma runs_poll_block_retried {kind : κ} {event : ε} {block head : UInt64}
    (hhead : head.toNat = block.toNat + 1) (cause : Cause) :
    Runs ((asking label [kind] config).poll (some block))
      [⟨.head, .ok head⟩, ⟨.tell (.head head), ()⟩, ⟨.fetch kind head head, .ok [event]⟩,
        ⟨.handle event, .error (.retry cause)⟩]
      (.error (.handler head head cause), some block) := by
  have hnone : ∀ a ∈ ([] : List (ε × Except HandleError Unit)), isSettled a.2 = true := by simp
  have hfetched : [(kind, [event])].map (·.1) = [kind] := rfl
  have hhanded : ([] : List (ε × Except HandleError Unit)).map (·.1) ++ event :: [] =
      [(kind, [event])].flatMap (·.2) := rfl
  have hrun : Runs ((asking label [kind] config).poll (some block))
      (⟨.head, .ok head⟩ :: ⟨.tell (.head head), ()⟩ ::
        (fetches head (windowEnd config.rangeSize head head) [(kind, [event])] ++
          (handovers [] ++ [⟨.handle event, .error (.retry cause)⟩])))
      (.error (.handler head (windowEnd config.rangeSize head head) cause), some block) :=
    runs_poll_retried hhead (UInt64.le_refl head) hfetched hnone hhanded cause
  rwa [windowEnd_head] at hrun

end Synchronizer

end ComputeExchange
