import ComputeExchange.Proofs.Sync.Stored

/-!
# Restarts

A service is started again and again, and each of its processes may be broken off at any call; what
remains is the saved cursor.  `History` is all that the processes of a service may do.

No block is skipped as long as every later process finds a saved cursor.  But a cursor that cannot
be saved is only given up, so that a later process may find nothing saved and take the head of the
chain for its start; `no_block_skipped_iff` says that blocks are skipped exactly if a process goes
on from such a head and not all blocks up to it have been completed by then.
-/

namespace ComputeExchange

namespace Synchronizer

open Program

variable {κ ε : Type} {label : κ → String} {kinds : List κ} {config : Sync.Config}

/-! ### Histories -/

/-- What a process of a service has done. -/
inductive Entry (κ ε : Type) : Type where
  | started
  /-- It has looked for its cursor. -/
  | resolved (t : SyncTrace κ ε) (r : Except SyncError UInt64)
  | polled (t : SyncTrace κ ε) (r : Except SyncError Sync.Outcome)
  /-- It has been broken off after some calls. -/
  | crashed (t : SyncTrace κ ε)

/-- The calls of an entry. -/
def Entry.trace : Entry κ ε → SyncTrace κ ε
  | .started => []
  | .resolved t _ => t
  | .polled t _ => t
  | .crashed t => t

/-- A service: the cursor it has saved, and its process if one is running, with its cursor if that
has been found. -/
structure Service where
  saved : Option UInt64
  process : Option (Option UInt64)

/-- What the processes of a service may have done, from a first start with no cursor saved on.  A
pass without a cursor stands as two entries, one for finding the cursor and one for the pass from
there, which is what it is made of (`runs_poll_none_iff`). -/
inductive History (label : κ → String) (kinds : List κ) (config : Sync.Config) :
    List (Entry κ ε) → Service → Prop where
  | nil : History label kinds config [] ⟨none, none⟩
  | start {es : List (Entry κ ε)} {s : Service} (h : History label kinds config es s) :
      History label kinds config (es ++ [.started]) ⟨s.saved, some none⟩
  | resolve {es : List (Entry κ ε)} {saved saved' cursor : Option UInt64} {t : SyncTrace κ ε}
      {r : Except SyncError UInt64} (h : History label kinds config es ⟨saved, some cursor⟩)
      (hrun : Runs (asking label kinds config).resolve t r)
      (hstored : Stored config.service saved t saved') :
      History label kinds config (es ++ [.resolved t r])
        ⟨saved', some (match r with | .ok block => some block | .error _ => cursor)⟩
  | poll {es : List (Entry κ ε)} {saved saved' stop : Option UInt64} {cursor : UInt64}
      {t : SyncTrace κ ε} {r : Except SyncError Sync.Outcome}
      (h : History label kinds config es ⟨saved, some (some cursor)⟩)
      (hrun : Runs ((asking label kinds config).poll (some cursor)) t (r, stop))
      (hstored : Stored config.service saved t saved') :
      History label kinds config (es ++ [.polled t r]) ⟨saved', some stop⟩
  | crashResolving {es : List (Entry κ ε)} {saved saved' cursor : Option UInt64}
      {t : SyncTrace κ ε} {rest : Program (SyncCall.Answer κ ε) (Except SyncError UInt64)}
      (h : History label kinds config es ⟨saved, some cursor⟩)
      (hrun : Reaches (asking label kinds config).resolve t rest)
      (hstored : Stored config.service saved t saved') :
      History label kinds config (es ++ [.crashed t]) ⟨saved', none⟩
  | crashPolling {es : List (Entry κ ε)} {saved saved' : Option UInt64} {cursor : UInt64}
      {t : SyncTrace κ ε}
      {rest : Program (SyncCall.Answer κ ε) (Except SyncError Sync.Outcome × Option UInt64)}
      (h : History label kinds config es ⟨saved, some (some cursor)⟩)
      (hrun : Reaches ((asking label kinds config).poll (some cursor)) t rest)
      (hstored : Stored config.service saved t saved') :
      History label kinds config (es ++ [.crashed t]) ⟨saved', none⟩

/-- The cursor that was found when one was found for the first time. -/
def origin (es : List (Entry κ ε)) : Option UInt64 :=
  es.findSome? fun
    | .resolved _ (.ok block) => some block
    | _ => none

/-- Whether a block lies in a window that a process has completed. -/
def Completed (kinds : List κ) (es : List (Entry κ ε)) (block : UInt64) : Prop :=
  ∃ e ∈ es, ∃ w : Window kinds ε, w.work <:+: e.trace ∧ w.first ≤ block ∧ block ≤ w.last

/-- Whether all blocks up to one have been completed, from the cursor that was found first on. -/
def Covered (kinds : List κ) (es : List (Entry κ ε)) (block : UInt64) : Prop :=
  ∀ first, origin es = some first → ∀ b, first < b → b ≤ block → Completed kinds es b

/-- Whether a process has found nothing saved and read a block as the head of the chain, after a
cursor had been found before. -/
def HeadTaken (service : String) (es : List (Entry κ ε)) (block : UInt64) : Prop :=
  ∃ before e after, es = before ++ e :: after ∧ (origin before).isSome ∧
    Blind service block e.trace

/-! ### What an entry adds -/

/-- The cursor found first stays so. -/
lemma origin_append {es : List (Entry κ ε)} {first : UInt64} (h : origin es = some first)
    (es' : List (Entry κ ε)) : origin (es ++ es') = some first := by
  rw [origin, List.findSome?_append] at *
  rw [h]
  rfl

/-- What has been completed stays so. -/
lemma Completed.append {es : List (Entry κ ε)} {block : UInt64} (h : Completed kinds es block)
    (es' : List (Entry κ ε)) : Completed kinds (es ++ es') block := by
  obtain ⟨e, he, hw⟩ := h
  exact ⟨e, List.mem_append_left _ he, hw⟩

/-- A head that has been taken stays so. -/
lemma HeadTaken.append {service : String} {es : List (Entry κ ε)} {block : UInt64}
    (h : HeadTaken service es block) (es' : List (Entry κ ε)) :
    HeadTaken service (es ++ es') block := by
  obtain ⟨before, e, after, rfl, hrest⟩ := h
  exact ⟨before, e, after ++ es', by simp, hrest⟩

/-- All blocks are covered up to the cursor found first. -/
lemma covered_origin {es : List (Entry κ ε)} {block : UInt64}
    (h : ∀ first, origin es = some first → block ≤ first) : Covered kinds es block :=
  fun first hfirst _ hlt hle =>
    absurd (UInt64.le_trans hle (h first hfirst)) (UInt64.not_le.mpr hlt)

/-- What is covered stays so, unless a cursor is found for the first time. -/
lemma Covered.append {es : List (Entry κ ε)} {block : UInt64} (h : Covered kinds es block)
    {es' : List (Entry κ ε)} (horigin : origin (es ++ es') = origin es) :
    Covered kinds (es ++ es') block :=
  fun first hfirst b hlt hle => (h first (horigin ▸ hfirst) b hlt hle).append es'

/-- Windows that an entry has completed cover the blocks up to their end. -/
lemma Covered.extend {es : List (Entry κ ε)} {start stop : UInt64} (h : Covered kinds es start)
    {e : Entry κ ε} (horigin : origin (es ++ [e]) = origin es) {ws : List (Window kinds ε)}
    (htiles : Tiles start ws stop) (hwork : ∀ w ∈ ws, w.work <:+: e.trace) :
    Covered kinds (es ++ [e]) stop := by
  intro first hfirst b hlt hle
  by_cases hin : b ≤ start
  · exact h.append horigin first hfirst b hlt hin
  · obtain ⟨w, hw, hblock⟩ := htiles.exists_mem (UInt64.not_le.mp hin) hle
    exact ⟨e, by simp, w, hwork w hw, hblock⟩

/-! ### The invariant -/

/-- Whether every process that goes on from a head that was taken has found all blocks up to it
completed. -/
def Sound (kinds : List κ) (service : String) (es : List (Entry κ ε)) : Prop :=
  ∀ before t block after, es = before ++ .resolved t (.ok block) :: after →
    HeadTaken service (before ++ [.resolved t (.ok block)]) block → Covered kinds before block

/-- What holds at every moment of a history: the cursor of the process is covered, and so is the
saved one, unless it is a head that was taken. -/
structure Tracked (kinds : List κ) (service : String) (es : List (Entry κ ε)) (s : Service) :
    Prop where
  found : ∀ cursor, s.process = some (some cursor) → (origin es).isSome
  running : ∀ cursor, s.process = some (some cursor) → Covered kinds es cursor
  saved : ∀ block, s.saved = some block → Covered kinds es block ∨ HeadTaken service es block

/-- A history is sound if it is so with more entries. -/
lemma Sound.of_append {service : String} {es es' : List (Entry κ ε)}
    (h : Sound kinds service (es ++ es')) : Sound kinds service es := by
  rintro before t block after rfl htaken
  exact h before t block (after ++ es') (by simp) htaken

namespace Tracked

variable {es : List (Entry κ ε)} {s : Service} {service : String} {e : Entry κ ε}

/-- The saved cursor is still covered or taken after any entry that finds no cursor for the first
time. -/
lemma saved_append (h : Tracked kinds service es s) (horigin : origin (es ++ [e]) = origin es)
    {block : UInt64} (hsaved : s.saved = some block) :
    Covered kinds (es ++ [e]) block ∨ HeadTaken service (es ++ [e]) block := by
  rcases h.saved block hsaved with hcovered | htaken
  · exact Or.inl (hcovered.append horigin)
  · exact Or.inr (htaken.append [e])

/-- The saved cursor is covered or taken after a process has looked for its cursor. -/
lemma saved_resolving (h : Tracked kinds service es s) (horigin : origin (es ++ [e]) = origin es)
    {saved' : Option UInt64}
    (hstored : saved' = s.saved ∨ ∃ block, saved' = some block ∧ Blind service block e.trace) :
    ∀ block, saved' = some block →
      Covered kinds (es ++ [e]) block ∨ HeadTaken service (es ++ [e]) block := by
  rintro block rfl
  rcases hstored with hsaved | ⟨head, hhead, hblind⟩
  · exact h.saved_append horigin hsaved.symm
  · obtain rfl := Option.some.inj hhead
    cases hfirst : origin es with
    | none =>
      refine Or.inl (covered_origin fun first hsome => ?_)
      rw [horigin, hfirst] at hsome
      cases hsome
    | some first => exact Or.inr ⟨es, e, [], rfl, by rw [hfirst]; rfl, hblind⟩

/-- The saved cursor is covered or taken after a pass. -/
lemma saved_polling (h : Tracked kinds service es s) (horigin : origin (es ++ [e]) = origin es)
    {saved' : Option UInt64} {cursor : UInt64} (hcursor : s.process = some (some cursor))
    (hstored : saved' = s.saved ∨ ∃ (block : UInt64) (ws : List (Window kinds ε)),
      saved' = some block ∧ Tiles cursor ws block ∧ ∀ w ∈ ws, w.work <:+: e.trace) :
    ∀ block, saved' = some block →
      Covered kinds (es ++ [e]) block ∨ HeadTaken service (es ++ [e]) block := by
  rintro block rfl
  rcases hstored with hsaved | ⟨stop, ws, hstop, htiles, hwork⟩
  · exact h.saved_append horigin hsaved.symm
  · obtain rfl := Option.some.inj hstop
    exact Or.inl ((h.running cursor hcursor).extend horigin htiles hwork)

/-- What holds at a moment holds after a cursor has been found, if a head that was taken is
covered. -/
lemma resolved (h : Tracked kinds service es s) {t : SyncTrace κ ε} {block : UInt64}
    {saved' : Option UInt64} (hsound : Sound kinds service (es ++ [.resolved t (.ok block)]))
    (hfound : s.saved = some block ∨ Blind service block t)
    (hsaved : ∀ b, saved' = some b → b = block) :
    Tracked kinds service (es ++ [.resolved t (.ok block)]) ⟨saved', some (some block)⟩ := by
  have hall : (origin (es ++ [.resolved t (.ok block)])).isSome ∧
      Covered kinds (es ++ [.resolved t (.ok block)]) block := by
    cases hfirst : origin es with
    | none =>
      -- The cursor is found for the first time, so nothing is to be covered yet.
      have horigin : origin (es ++ [.resolved t (.ok block)]) = some block := by
        rw [origin] at *
        rw [List.findSome?_append, hfirst]
        rfl
      refine ⟨by rw [horigin]; rfl, covered_origin fun first hsome => ?_⟩
      rw [horigin] at hsome
      obtain rfl := Option.some.inj hsome
      exact UInt64.le_refl _
    | some first =>
      have horigin := origin_append hfirst [.resolved t (.ok block)]
      have hcovered : Covered kinds es block := by
        rcases hfound with hload | hblind
        · rcases h.saved block hload with hcovered | htaken
          · exact hcovered
          · exact hsound es t block [] rfl (htaken.append _)
        · exact hsound es t block [] rfl ⟨es, _, [], rfl, by rw [hfirst]; rfl, hblind⟩
      exact ⟨by rw [horigin]; rfl, hcovered.append (horigin.trans hfirst.symm)⟩
  refine ⟨?_, ?_, ?_⟩
  · exact fun _ _ => hall.1
  · rintro cursor ⟨⟩
    exact hall.2
  · rintro b hb
    obtain rfl := hsaved b hb
    exact Or.inl hall.2

end Tracked

/-- Only an entry that tells of a found cursor can be the first to do so. -/
lemma origin_concat (es : List (Entry κ ε)) {e : Entry κ ε}
    (h : ∀ t block, e ≠ .resolved t (.ok block)) : origin (es ++ [e]) = origin es := by
  rw [origin, List.findSome?_append]
  cases e with
  | resolved t r =>
    cases r with
    | ok block => exact absurd rfl (h t block)
    | error => exact Option.or_none
  | _ => exact Option.or_none

/-- Every moment of a sound history is tracked. -/
theorem History.tracked (hnone : config.startBlock = none) {es : List (Entry κ ε)} {s : Service}
    (h : History label kinds config es s) (hsound : Sound kinds config.service es) :
    Tracked kinds config.service es s := by
  induction h with
  | nil => exact ⟨by simp, by simp, by simp⟩
  | @start es s _ ih =>
    have htracked := ih hsound.of_append
    have horigin := origin_concat es (e := .started) (by simp)
    exact ⟨by simp, by simp, fun block => htracked.saved_append horigin⟩
  | @resolve es saved saved' cursor t r _ hrun hstored ih =>
    have htracked := ih hsound.of_append
    cases r with
    | ok block =>
      obtain ⟨hfound, hsaved⟩ := hstored.of_runs_resolve_ok hnone hrun
      exact htracked.resolved hsound hfound hsaved
    | error cause =>
      have horigin := origin_concat es (e := .resolved t (.error cause)) (by simp)
      rw [← List.append_nil t] at hrun
      have hsaved := hstored.of_runs_resolve hnone hrun
      refine ⟨fun c hc => ?_, fun c hc => (htracked.running c hc).append horigin,
        htracked.saved_resolving horigin hsaved⟩
      rw [horigin]
      exact htracked.found c hc
  | @poll es saved saved' stop cursor t r _ hrun hstored ih =>
    have htracked := ih hsound.of_append
    have horigin := origin_concat es (e := .polled t r) (by simp)
    obtain ⟨c, rfl, hpassed⟩ := passed_of_runs_poll hrun
    rw [← List.append_nil t] at hrun
    have hsaved := hstored.of_runs_poll hrun
    refine ⟨fun _ _ => ?_, ?_, htracked.saved_polling horigin rfl hsaved⟩
    · rw [horigin]
      exact htracked.found cursor rfl
    · rintro _ ⟨⟩
      obtain ⟨ws, hadvance⟩ := hpassed.windows
      exact (htracked.running cursor rfl).extend horigin hadvance.1 fun w hw => (hadvance.2 w hw).1
  | @crashResolving es saved saved' cursor t rest _ hrun hstored ih =>
    have htracked := ih hsound.of_append
    have horigin := origin_concat es (e := .crashed t) (by simp)
    obtain ⟨t', r, hrun⟩ := hrun.exists_runs
    exact ⟨by simp, by simp,
      htracked.saved_resolving horigin (hstored.of_runs_resolve hnone hrun)⟩
  | @crashPolling es saved saved' cursor t rest _ hrun hstored ih =>
    have htracked := ih hsound.of_append
    have horigin := origin_concat es (e := .crashed t) (by simp)
    obtain ⟨t', r, hrun⟩ := hrun.exists_runs
    exact ⟨by simp, by simp,
      htracked.saved_polling horigin rfl (hstored.of_runs_poll hrun)⟩

/-! ### Skipped blocks -/

/-- A history without its last entry is a history. -/
lemma History.of_concat {es : List (Entry κ ε)} {e : Entry κ ε} {s : Service}
    (h : History label kinds config (es ++ [e]) s) : ∃ s', History label kinds config es s' := by
  generalize hall : es ++ [e] = all at h
  cases h with
  | nil => simp at hall
  | _ =>
    obtain ⟨rfl, -⟩ := List.append_inj' hall rfl
    exact ⟨_, ‹_›⟩

/-- The beginning of a history is a history. -/
lemma History.of_append {es es' : List (Entry κ ε)} {s : Service}
    (h : History label kinds config (es ++ es') s) : ∃ s', History label kinds config es s' := by
  induction es' using List.reverseRecOn generalizing s with
  | nil => exact ⟨s, by rwa [List.append_nil] at h⟩
  | append_singleton es' e ih =>
    rw [← List.append_assoc] at h
    obtain ⟨s', h'⟩ := h.of_concat
    exact ih h'

/-- A process that has found its cursor goes on with it. -/
lemma History.resolved {es : List (Entry κ ε)} {t : SyncTrace κ ε} {block : UInt64} {s : Service}
    (h : History label kinds config (es ++ [.resolved t (.ok block)]) s) :
    s.process = some (some block) ∧ Runs (asking label kinds config).resolve t (.ok block) := by
  generalize hall : es ++ [.resolved t (.ok block)] = all at h
  cases h with
  | nil => simp at hall
  | resolve h hrun hstored =>
    obtain ⟨-, heq⟩ := List.append_inj' hall rfl
    obtain ⟨rfl, rfl⟩ : _ ∧ _ := by simpa using heq
    exact ⟨rfl, hrun⟩
  | _ =>
    obtain ⟨-, heq⟩ := List.append_inj' hall rfl
    simp at heq

/-- Looking for the cursor completes no window, other than one without kinds. -/
lemma work_eq_nil (hnone : config.startBlock = none) {t : SyncTrace κ ε}
    {r : Except SyncError UInt64} (hrun : Runs (asking label kinds config).resolve t r)
    {w : Window kinds ε} (hwork : w.work <:+: t) : w.work = [] := by
  obtain ⟨finding, saving, rfl, hfinding, hsaving⟩ := calls_of_runs_resolve hnone hrun
  refine List.eq_nil_iff_forall_not_mem.mpr fun e he => ?_
  have hcall : IsFinding config.service e ∨ ∃ block, IsSaving config.service block e := by
    rcases List.mem_append.mp (hwork.subset he) with he | he
    · exact Or.inl (hfinding e he)
    · rcases hsaving with ⟨-, rfl⟩ | ⟨block, -, hsaving, -⟩
      · cases he
      · exact Or.inr ⟨block, hsaving e he⟩
  obtain ⟨q, answer⟩ := e
  rcases w.fetch_or_handle _ he with ⟨kind, rfl⟩ | ⟨event, rfl⟩ <;>
    simp [IsFinding, IsSaving] at hcall

/-- What a process has completed by finding its cursor had been completed before. -/
lemma Completed.of_resolved (hnone : config.startBlock = none) {es : List (Entry κ ε)}
    (hes : es ≠ []) {t : SyncTrace κ ε} {r : Except SyncError UInt64}
    (hrun : Runs (asking label kinds config).resolve t r) {block : UInt64}
    (h : Completed kinds (es ++ [.resolved t r]) block) : Completed kinds es block := by
  obtain ⟨e, he, w, hwork, hblock⟩ := h
  rcases List.mem_append.mp he with he | he
  · exact ⟨e, he, w, hwork, hblock⟩
  · obtain rfl := List.mem_singleton.mp he
    obtain ⟨e, he⟩ := List.exists_mem_of_ne_nil es hes
    exact ⟨e, he, w, by simp [work_eq_nil hnone hrun hwork], hblock⟩

/-- No block is skipped at any moment of a history exactly if, whenever a process goes on from a
head that was taken because nothing was saved, all blocks up to it have been completed before. -/
theorem no_block_skipped_iff (hnone : config.startBlock = none) {es : List (Entry κ ε)}
    {s : Service} (h : History label kinds config es s) :
    (∀ es' s', es' <+: es → History label kinds config es' s' →
      ∀ cursor, s'.process = some (some cursor) → Covered kinds es' cursor) ↔
    Sound kinds config.service es := by
  constructor
  · rintro hcovered before t block after rfl -
    rw [← List.singleton_append, ← List.append_assoc] at h hcovered
    obtain ⟨s', h'⟩ := h.of_append
    obtain ⟨hprocess, hrun⟩ := h'.resolved
    have hblock := hcovered _ s' (List.prefix_append _ _) h' block hprocess
    intro first hfirst b hlt hle
    have hne : before ≠ [] := by
      rintro rfl
      cases hfirst
    exact (hblock first (origin_append hfirst _) b hlt hle).of_resolved hnone hne hrun
  · rintro hsound es' s' ⟨rest, rfl⟩ h' cursor hcursor
    exact (h'.tracked hnone hsound.of_append).running cursor hcursor

/-- The calls of a process that finds nothing saved, takes the head and cannot save it. -/
def unsavedStart : SyncTrace Unit UInt64 :=
  [⟨.store (.loadCursor "svc"), .ok none⟩, ⟨.head, .ok 10⟩,
    ⟨.store (.saveCursor "svc" 10), .error .unavailable⟩, ⟨.pause 500000000, ()⟩,
    ⟨.store (.saveCursor "svc" 10), .error .unavailable⟩, ⟨.pause 10000000000, ()⟩,
    ⟨.store (.saveCursor "svc" 10), .error .unavailable⟩, ⟨.pause 10000000000, ()⟩,
    ⟨.store (.saveCursor "svc" 10), .error .unavailable⟩]

/-- The calls of a later process, which finds nothing saved either. -/
def secondStart : SyncTrace Unit UInt64 :=
  [⟨.store (.loadCursor "svc"), .ok none⟩, ⟨.head, .ok 20⟩,
    ⟨.store (.saveCursor "svc" 20), .ok ()⟩]

/-- The two processes of a service, one after the other. -/
def twoStarts : List (Entry Unit UInt64) :=
  [.started, .resolved unsavedStart (.ok 10), .started, .resolved secondStart (.ok 20)]

/-- A service whose first process cannot save its cursor skips all blocks up to the head that its
second process takes. -/
theorem blocks_skipped_after_unsaved_start :
    ∃ (es : List (Entry Unit UInt64)) (s : Service),
      History (fun _ => "Created") [()] ⟨"svc", 1, 100, none⟩ es s ∧ origin es = some 10 ∧
      s.process = some (some 20) ∧ ¬ Completed [()] es 15 ∧ ¬ Sound [()] "svc" es := by
  have hrun₁ : Runs (asking (fun _ => "Created") [()] ⟨"svc", 1, 100, none⟩).resolve unsavedStart
      (.ok 10) :=
    .call _ (.call _ (.call _ (.call _ (.call _ (.call _ (.call _ (.call _ (.call _
      (.here _)))))))))
  have hrun₂ : Runs (asking (fun _ => "Created") [()] ⟨"svc", 1, 100, none⟩).resolve secondStart
      (.ok 20) :=
    .call _ (.call _ (.call _ (.here _)))
  have hstored₁ : Stored "svc" none unsavedStart none :=
    .loaded (.other (by simp) (.unsaved _ (.other (by simp) (.unsaved _ (.other (by simp)
      (.unsaved _ (.other (by simp) (.unsaved _ (.nil none)))))))))
  have hstored₂ : Stored "svc" none secondStart (some 20) :=
    .loaded (.other (by simp) (.saved _ (.nil (some 20))))
  have hhistory : History (fun _ => "Created") [()] ⟨"svc", 1, 100, none⟩ twoStarts
      ⟨some 20, some (some 20)⟩ :=
    ((History.nil.start.resolve hrun₁ hstored₁).start).resolve hrun₂ hstored₂
  have hskipped : ¬ Completed [()] twoStarts 15 := by
    rintro ⟨e, he, w, hwork, -⟩
    have hnil : w.work = [] := by
      have he : e = .started ∨ e = .resolved unsavedStart (.ok 10) ∨ e = .started ∨
          e = .resolved secondStart (.ok 20) := by
        simpa [twoStarts] using he
      rcases he with rfl | rfl | rfl | rfl
      · exact List.infix_nil.mp hwork
      · exact work_eq_nil rfl hrun₁ hwork
      · exact List.infix_nil.mp hwork
      · exact work_eq_nil rfl hrun₂ hwork
    exact w.work_ne_nil (by simp) hnil
  refine ⟨twoStarts, _, hhistory, rfl, rfl, hskipped, fun hsound => hskipped ?_⟩
  exact (no_block_skipped_iff rfl hhistory).mpr hsound _ _ (List.prefix_refl _) hhistory 20 rfl
    10 rfl 15 (by decide) (by decide)

end Synchronizer

end ComputeExchange
