import ComputeExchange.Proofs.Sync.Run

/-!
# Events that are applied again

A window that has been broken off is handed out again from its first event on, and maybe cut in
another way, so an event may be applied more than once.  `Replays` says what can come of this for
the events of one kind: they are applied in the order of the chain, but for stretches that are
applied ahead of time and then again with all that follows.  `Run.replays` says that a run over a
fixed chain does nothing worse, whatever its windows are and wherever its passes are broken off.

What a replay leaves the same is then a matter of lists: which events are applied, which of them is
the last (`Replays.mem_iff`, `Replays.getLast?_filterMap`), and all that does not change when the
same events are gone through once more (`Replays.foldl_eq`).
-/

namespace ComputeExchange

/-! ### Replays of a list -/

/-- Whether the elements of a list are gone through in order, but for stretches that are gone
through ahead of time and then again with all that follows. -/
inductive Replays {α : Type} : List α → List α → Prop where
  | nil : Replays [] []
  /-- What comes next is gone through for good. -/
  | step (done : List α) {l es : List α} (h : Replays l es) : Replays (done ++ l) (done ++ es)
  /-- What comes next is gone through ahead of time. -/
  | ahead {extra l es : List α} (hextra : extra <+: l) (h : Replays l es) :
      Replays l (extra ++ es)

namespace Replays

variable {α β : Type} {l es : List α}

/-- Nothing is left out and nothing is made up. -/
lemma mem_iff (h : Replays l es) {a : α} : a ∈ es ↔ a ∈ l := by
  induction h with
  | nil => exact Iff.rfl
  | step done _ ih => rw [List.mem_append, List.mem_append, ih]
  | @ahead extra l es hextra _ ih =>
    rw [List.mem_append, ih]
    exact or_iff_right_of_imp fun hmem => hextra.subset hmem

/-- The last of what is looked for stays the last. -/
lemma getLast?_filterMap (h : Replays l es) (g : α → Option β) :
    (es.filterMap g).getLast? = (l.filterMap g).getLast? := by
  induction h with
  | nil => rfl
  | step done _ ih =>
    rw [List.filterMap_append, List.filterMap_append, List.getLast?_append, List.getLast?_append,
      ih]
  | @ahead extra l es hextra _ ih =>
    obtain ⟨rest, rfl⟩ := hextra
    rw [List.filterMap_append, List.getLast?_append, ih, List.filterMap_append,
      List.getLast?_append, Option.or_assoc, Option.or_self]

/-- What does not change when the same elements are gone through once more comes to the same as
without any replay. -/
lemma foldl_eq {f : β → α → β} (hf : ∀ b (xs : List α), xs.foldl f (xs.foldl f b) = xs.foldl f b)
    (h : Replays l es) (b : β) : es.foldl f b = l.foldl f b := by
  induction h generalizing b with
  | nil => rfl
  | step done _ ih => rw [List.foldl_append, List.foldl_append, ih]
  | @ahead extra l es hextra _ ih =>
    obtain ⟨rest, rfl⟩ := hextra
    rw [List.foldl_append, ih, List.foldl_append, List.foldl_append, hf]

end Replays

/-- Going through some elements once more changes nothing if what has been done stays done and is
not done twice. -/
lemma foldl_foldl_self {α β : Type} {f : β → α → β} (hagain : ∀ b a, f (f b a) a = f b a)
    (hstays : ∀ b a a', f b a = b → f (f b a') a = f b a') (b : β) (xs : List α) :
    xs.foldl f (xs.foldl f b) = xs.foldl f b := by
  have hkept : ∀ (xs : List α) (b : β) (a : α), f b a = b → f (xs.foldl f b) a = xs.foldl f b := by
    intro xs
    induction xs with
    | nil => exact fun b a h => h
    | cons x xs ih => exact fun b a h => ih (f b x) a (hstays b a x h)
  have hdone : ∀ (xs : List α) (b : β), ∀ a ∈ xs, f (xs.foldl f b) a = xs.foldl f b := by
    intro xs
    induction xs with
    | nil => simp
    | cons x xs ih =>
      exact fun b => List.forall_mem_cons.mpr ⟨hkept xs (f b x) x (hagain b x), ih (f b x)⟩
  have hsame : ∀ (ys : List α) (b : β), (∀ a ∈ ys, f b a = b) → ys.foldl f b = b := by
    intro ys
    induction ys with
    | nil => exact fun b _ => rfl
    | cons y ys ih =>
      intro b hall
      rw [List.forall_mem_cons] at hall
      rw [List.foldl_cons, hall.1]
      exact ih b hall.2
  exact hsame xs _ (hdone xs b)

/-- The parts of a list that are of different kinds can be told apart. -/
lemma filter_flatMap_kind {κ α : Type} [DecidableEq κ] {kindOf : α → κ} {f : κ → List α}
    (hf : ∀ k, ∀ a ∈ f k, kindOf a = k) {kinds : List κ} (hnodup : kinds.Nodup) {kind : κ}
    (hkind : kind ∈ kinds) : (kinds.flatMap f).filter (kindOf · = kind) = f kind := by
  have hothers : ∀ k, k ≠ kind → (f k).filter (kindOf · = kind) = [] := by
    intro k hne
    refine List.filter_eq_nil_iff.mpr fun a ha heq => ?_
    exact hne ((hf k a ha).symm.trans (of_decide_eq_true heq))
  induction kinds with
  | nil => cases hkind
  | cons k ks ih =>
    obtain ⟨hk, hks⟩ := List.nodup_cons.mp hnodup
    rw [List.flatMap_cons, List.filter_append]
    by_cases heq : k = kind
    · subst heq
      have hself : (f k).filter (kindOf · = k) = f k :=
        List.filter_eq_self.mpr fun a ha => decide_eq_true (hf k a ha)
      have hrest : (ks.flatMap f).filter (kindOf · = k) = [] := by
        rw [List.filter_flatMap]
        exact List.flatMap_eq_nil_iff.mpr fun k' hk' =>
          hothers k' fun hsame => hk (hsame ▸ hk')
      rw [hself, hrest, List.append_nil]
    · rw [hothers k heq, List.nil_append]
      exact ih hks (List.mem_of_ne_of_mem (Ne.symm heq) hkind)

/-! ### What is applied -/

/-- The event that a call has applied. -/
def appliedBy {κ ε : Type} : Program.Event (SyncCall.Answer κ ε) → Option ε
  | ⟨.handle event, .ok ()⟩ => some event
  | _ => none

/-- The events that have been applied, in order. -/
def applied {κ ε : Type} (t : SyncTrace κ ε) : List ε := t.filterMap appliedBy

namespace Synchronizer

open Program

variable {κ ε : Type}

lemma applied_append (t u : SyncTrace κ ε) : applied (t ++ u) = applied t ++ applied u :=
  List.filterMap_append

/-- Where every event that is handed out is applied, these are the same events. -/
lemma applied_eq_handed {t : SyncTrace κ ε}
    (h : ∀ event answer, ⟨.handle event, answer⟩ ∈ t → answer = .ok ()) : applied t = handed t := by
  refine List.filterMap_congr fun e he => ?_
  obtain ⟨q, answer⟩ := e
  cases q with
  | handle event =>
    obtain rfl := h event answer he
    rfl
  | _ => rfl

/-- Where nothing is handed out, nothing is applied. -/
lemma applied_eq_nil {t : SyncTrace κ ε} (h : handed t = []) : applied t = [] := by
  refine List.filterMap_eq_nil_iff.mpr fun e he => ?_
  have hnone := List.filterMap_eq_nil_iff.mp h e he
  obtain ⟨q, answer⟩ := e
  cases q with
  | handle event => cases hnone
  | _ => rfl

/-- Whether no event is given up: what is not applied is asked for again. -/
def GivesUpNone (t : SyncTrace κ ε) : Prop :=
  ∀ event answer, ⟨.handle event, answer⟩ ∈ t → isSettled answer = true → answer = .ok ()

lemma GivesUpNone.subset {t u : SyncTrace κ ε} (h : GivesUpNone t) (hsub : u ⊆ t) :
    GivesUpNone u := fun event answer hmem => h event answer (hsub hmem)

/-- Events that are settled and not given up are applied. -/
lemma applied_handovers {answers : List (ε × Except HandleError Unit)}
    (hsettled : ∀ a ∈ answers, isSettled a.2 = true)
    (hnone : GivesUpNone (handovers (κ := κ) answers)) :
    applied (handovers (κ := κ) answers) = answers.map (·.1) := by
  rw [applied_eq_handed, handed_handovers]
  intro event answer hmem
  refine hnone event answer hmem ?_
  obtain ⟨a, ha, heq⟩ := List.mem_map.mp hmem
  cases heq
  exact hsettled a ha

variable {label : κ → String} {kinds : List κ} {config : Sync.Config}

/-- A stage that gives up none applies all that it has fetched. -/
lemma applied_calls {service : String} (s : Stage kinds service ε) (hnone : GivesUpNone s.calls) :
    applied s.calls = s.batches.flatMap (·.2) := by
  have hrest : handed (s.saving ++ [⟨.tell (.progress (some s.last)), ()⟩]) = [] := by
    rw [handed_append, handed_saving s.saved]
    rfl
  have hwork : GivesUpNone (handovers (κ := κ) s.answers) := by
    refine hnone.subset fun e he => List.mem_append_left _ (List.mem_append_right _ he)
  rw [Stage.calls, Window.work, applied_append, applied_append, applied_eq_nil hrest,
    applied_eq_nil (handed_fetches _ _ _), applied_handovers s.settled hwork, s.handed]
  simp

variable [DecidableEq κ] {kindOf : ε → κ} {chain : FixedChain κ ε}

/-- What is fetched of all kinds in a window can be told apart. -/
lemma filter_flatMap_slice (hkinds : ∀ k, ∀ e ∈ chain.events k, kindOf e = k)
    (hnodup : kinds.Nodup) {kind : κ} (hkind : kind ∈ kinds) (first last : UInt64) :
    (kinds.flatMap fun k => chain.slice k first last).filter (kindOf · = kind) =
      chain.slice kind first last := by
  have hslice : ∀ k, ∀ e ∈ chain.slice k first last, kindOf e = k :=
    fun k e he => hkinds k e (List.mem_filter.mp he).1
  exact filter_flatMap_kind hslice hnodup hkind

/-- Of each kind, stages apply the events of the blocks that they pass. -/
lemma filter_applied_stages (hkinds : ∀ k, ∀ e ∈ chain.events k, kindOf e = k)
    (hnodup : kinds.Nodup) {kind : κ} (hkind : kind ∈ kinds) {start stop : UInt64}
    {stages : List (Stage kinds config.service ε)}
    (htiles : Tiles start (stages.map (·.toWindow)) stop)
    (hchain : chain.Explains (stages.flatMap Stage.calls))
    (hnone : GivesUpNone (stages.flatMap Stage.calls)) :
    (applied (stages.flatMap Stage.calls)).filter (kindOf · = kind) =
      chain.after kind start stop := by
  have hstage : ∀ s ∈ stages, (applied s.calls).filter (kindOf · = kind) =
      chain.slice kind s.first s.last := by
    intro s hs
    have hsub : s.calls ⊆ stages.flatMap Stage.calls :=
      fun e he => List.mem_flatMap.mpr ⟨s, hs, he⟩
    rw [applied_calls s (hnone.subset hsub),
      s.batches_eq (hchain.subset fun e he => hsub (List.mem_append_left _ he)), List.flatMap_map]
    exact filter_flatMap_slice hkinds hnodup hkind s.first s.last
  have hparts : applied (stages.flatMap Stage.calls) = stages.flatMap fun s => applied s.calls :=
    List.filterMap_flatMap ..
  rw [hparts, List.filter_flatMap, ← htiles.flatMap_slice chain kind, List.flatMap_map]
  exact List.flatMap_congr hstage

/-- Of each kind, what is applied after the last stage comes first after the cursor. -/
lemma Ending.filter_applied (hkinds : ∀ k, ∀ e ∈ chain.events k, kindOf e = k)
    (hnodup : kinds.Nodup) {kind : κ} (hkind : kind ∈ kinds) {first head cursor last : UInt64}
    {tally : Tally} {t : SyncTrace κ ε} {r : Except SyncError Sync.Outcome}
    (h : Ending label kinds config first head cursor tally t r) (hchain : chain.Explains t)
    (hnone : GivesUpNone t) (hhead : head ≤ last) :
    (applied t).filter (kindOf · = kind) <+: chain.after kind cursor last := by
  cases h with
  | reached => exact List.nil_prefix
  | exhausted => exact List.nil_prefix
  | unfetched _ _ batches failed cause =>
    rw [applied_append, applied_eq_nil (handed_fetches _ _ _)]
    exact List.nil_prefix
  | @unhandled next hnext hle batches hfetched answers event cause hhanded hsettled =>
    have hevents : applied (fetches next (windowEnd config.rangeSize next head) batches ++
        (handovers answers ++ [⟨.handle event, .error (.retry cause)⟩])) = answers.map (·.1) := by
      have hretried : applied (κ := κ) (ε := ε) [⟨.handle event, .error (.retry cause)⟩] = [] := rfl
      rw [applied_append, applied_eq_nil (handed_fetches _ _ _), List.nil_append, applied_append,
        applied_handovers hsettled (hnone.subset fun e he => by simp [he]), hretried,
        List.append_nil]
    have hpre : answers.map (·.1) <+: kinds.flatMap fun k =>
        chain.slice k next (windowEnd config.rangeSize next head) := by
      rw [batches_eq_slices (hchain.subset (List.subset_append_left _ _)) hfetched,
        List.flatMap_map] at hhanded
      exact (List.prefix_append _ _).trans hhanded
    have hcursor : cursor ≤ windowEnd config.rangeSize next head := by
      have hbelow := UInt64.le_iff_toNat_le.mp (le_windowEnd config.rangeSize hle)
      rw [UInt64.le_iff_toNat_le]
      omega
    have hlast := UInt64.le_trans (windowEnd_le config.rangeSize next head) hhead
    have hkept := hpre.filter (kindOf · = kind)
    rw [filter_flatMap_slice hkinds hnodup hkind, chain.slice_eq_after kind hnext] at hkept
    rw [hevents, ← chain.after_append_after kind hcursor hlast]
    exact hkept.trans (List.prefix_append _ _)

/-- Of each kind, a pass applies the events of the blocks up to the cursor that it leaves, and then
maybe some that come next. -/
lemma Passed.filter_applied (hkinds : ∀ k, ∀ e ∈ chain.events k, kindOf e = k)
    (hnodup : kinds.Nodup) {kind : κ} (hkind : kind ∈ kinds) {start stop last : UInt64}
    {t : SyncTrace κ ε} {r : Except SyncError Sync.Outcome}
    (h : Passed label kinds config start t r stop) (hchain : chain.Explains t)
    (hnone : GivesUpNone t) (hheads : ∀ head, (⟨.head, .ok head⟩ : Event _) ∈ t → head ≤ last) :
    ∃ extra, extra <+: chain.after kind stop last ∧
      (applied t).filter (kindOf · = kind) = chain.after kind start stop ++ extra := by
  cases h with
  | headless =>
    refine ⟨[], List.nil_prefix, ?_⟩
    rw [chain.after_self]
    rfl
  | idle =>
    refine ⟨[], List.nil_prefix, ?_⟩
    rw [chain.after_self]
    rfl
  | @walked head _ hlt stages htiles hsizes rest _ hending =>
    have hstages : stages.flatMap Stage.calls ⊆ ⟨.head, .ok head⟩ :: ⟨.tell (.head head), ()⟩ ::
        (stages.flatMap Stage.calls ++ rest) := fun e he => by simp [he]
    have hrest : rest ⊆ ⟨.head, .ok head⟩ :: ⟨.tell (.head head), ()⟩ ::
        (stages.flatMap Stage.calls ++ rest) := fun e he => by simp [he]
    have hparts : applied (⟨.head, .ok head⟩ :: ⟨.tell (.head head), ()⟩ ::
        (stages.flatMap Stage.calls ++ rest)) =
          applied (stages.flatMap Stage.calls) ++ applied rest := applied_append _ _
    refine ⟨_, hending.filter_applied hkinds hnodup hkind (hchain.subset hrest)
      (hnone.subset hrest) (hheads head List.mem_cons_self), ?_⟩
    rw [hparts, List.filter_append, filter_applied_stages hkinds hnodup hkind htiles
      (hchain.subset hstages) (hnone.subset hstages)]

/-- Of each kind, a run over a fixed chain applies the events between its cursors in their order,
but for replays: however it cuts the chain into windows, whatever it cannot fetch and wherever its
windows are broken off, if no event is given up and no head lies past the cursor at the end. -/
theorem Run.replays (hkinds : ∀ k, ∀ e ∈ chain.events k, kindOf e = k) (hnodup : kinds.Nodup)
    {kind : κ} (hkind : kind ∈ kinds) {start stop : UInt64} {passes : List (Pass κ ε)}
    (h : Run label kinds config start passes stop) (hchain : ∀ p ∈ passes, chain.Explains p.trace)
    (hnone : ∀ p ∈ passes, GivesUpNone p.trace)
    (hheads : ∀ p ∈ passes, ∀ head, (⟨.head, .ok head⟩ : Event _) ∈ p.trace → head ≤ stop) :
    Replays (chain.after kind start stop)
      ((applied (passes.flatMap (·.trace))).filter (kindOf · = kind)) := by
  have hpassed := h.passed
  induction h with
  | nil cursor =>
    rw [chain.after_self]
    exact .nil
  | @cons p passes stop _ hrest ih =>
    rw [List.forall_mem_cons] at hchain hnone hheads hpassed
    obtain ⟨extra, hextra, hevents⟩ := hpassed.1.filter_applied hkinds hnodup hkind hchain.1
      hnone.1 hheads.1
    rw [List.flatMap_cons, applied_append, List.filter_append, hevents, List.append_assoc,
      ← chain.after_append_after kind hpassed.1.le hrest.le]
    exact .step _ (.ahead hextra (ih hchain.2 hnone.2 hheads.2 hpassed.2))

end Synchronizer

end ComputeExchange
