import ComputeExchange.Proofs.Sync.Replay
import ComputeExchange.Proofs.Sync.Resolving
import Mathlib.Algebra.Order.Floor.Div

/-!
# How far a pass goes

A pass whose chain and handler answer every call completes window after window up to the head of the
chain (`stages_of_runs_walk`).  Which windows these are is told by `spans` in numbers that cannot
wrap around: from the starting cursor on they follow one another, of one size each but for the last.
`windows_up_to_head` says that a pass completes exactly these.  Only the block after the last one
that a word can number does not exist: a pass that comes to it has completed all its windows, and
fails nevertheless.
-/

namespace ComputeExchange

namespace Synchronizer

open Program

variable {κ ε : Type} {label : κ → String} {kinds : List κ} {config : Sync.Config}

/-- Whether a call to the chain succeeds, or an event is settled; the store may answer anything. -/
def IsAnswered : Event (SyncCall.Answer κ ε) → Prop
  | ⟨.head, answer⟩ => answer.isOk = true
  | ⟨.fetch .., answer⟩ => answer.isOk = true
  | ⟨.handle _, answer⟩ => isSettled answer = true
  | _ => True

/-! ### Up to the head -/

/-- A walk whose calls are answered does not end before the head. -/
lemma Ending.not_answered {first head next cursor : UInt64} {tally : Tally} {t : SyncTrace κ ε}
    {r : Except SyncError Sync.Outcome} (hnext : next.toNat = cursor.toNat + 1) (hle : next ≤ head)
    (h : Ending label kinds config first head cursor tally t r) : ¬ ∀ e ∈ t, IsAnswered e := by
  intro hanswered
  cases h with
  | reached hcursor =>
    rw [UInt64.le_iff_toNat_le, ← hcursor] at hle
    omega
  | exhausted hcursor =>
    have hlt : next.toNat < UInt64.size := next.toNat_lt
    rw [hcursor, Clamp.toNat_greatest] at hnext
    omega
  | unfetched _ _ batches kind cause =>
    cases hanswered _ (List.mem_append_right _ List.mem_cons_self)
  | unhandled _ _ batches _ answers event cause =>
    cases hanswered _ (List.mem_append_right _ (List.mem_append_right _ List.mem_cons_self))

/-- A walk whose calls are answered completes windows up to the head, saving the cursor after each.
It fails only if there is no block after the head that a word can number. -/
lemma stages_of_runs_walk {first head next cursor stop : UInt64} {tally : Tally}
    {t : SyncTrace κ ε} {r : Except SyncError Sync.Outcome}
    (hnext : next.toNat = cursor.toNat + 1) (hle : next ≤ head)
    (hanswered : ∀ e ∈ t, IsAnswered e)
    (h : Runs ((asking label kinds config).walk first head next cursor tally) t (r, stop)) :
    ∃ stages : List (Stage kinds config.service ε),
      t = stages.flatMap Stage.calls ∧ Tiles cursor (stages.map (·.toWindow)) head ∧
      (∀ s ∈ stages, s.last = windowEnd config.rangeSize s.first head ∧
        Runs ((asking label kinds config).persist s.last) s.saving ()) ∧
      stop = head ∧
      (head = Clamp.greatest → r = .error .exhausted) ∧
      (head ≠ Clamp.greatest → r = .ok (.advanced first head
        (tally.after (stages.flatMap (·.answers))).events
        (tally.after (stages.flatMap (·.answers))).failed)) := by
  -- The induction is on the distance to the head, which every stage makes smaller.
  induction hn : head.toNat - cursor.toNat using Nat.strong_induction_on
    generalizing next cursor tally t with
  | _ n ih =>
  rcases runs_walk hnext hle h with
    ⟨hending, rfl⟩ | ⟨stage, rest, rfl, rfl, hlast, hsaving, hrest⟩
  · exact absurd hanswered (hending.not_answered hnext hle)
  have hhead : stage.last ≤ head := hlast ▸ windowEnd_le config.rangeSize stage.first head
  have hcalls : ∀ e ∈ rest, IsAnswered e := fun e he => hanswered e (List.mem_append_right _ he)
  rw [UInt64.le_iff_toNat_le] at hhead
  by_cases hmax : stage.last = Clamp.greatest
  · have hgreatest : head = Clamp.greatest := by
      rw [hmax, Clamp.toNat_greatest] at hhead
      refine UInt64.toNat_inj.mp ?_
      rw [Clamp.toNat_greatest]
      exact Nat.le_antisymm (Nat.le_sub_one_of_lt head.toNat_lt) hhead
    rw [if_pos hmax] at hrest
    obtain ⟨rfl, rfl, rfl⟩ := runs_pure_mk.mp hrest
    refine ⟨[stage], by simp, ⟨hnext, ?_⟩, ?_, ?_, fun _ => rfl, fun hne => absurd hgreatest hne⟩
    · exact hgreatest.trans hmax.symm
    · exact List.forall_mem_singleton.mpr ⟨hlast, hsaving⟩
    · exact hmax.trans hgreatest.symm
  rw [if_neg hmax] at hrest
  have hafter := toNat_add_one hmax
  by_cases hmore : stage.last + 1 ≤ head
  · have hcloser : head.toNat - stage.last.toNat < n := by
      have hfirst := UInt64.le_iff_toNat_le.mp stage.first_le
      rw [UInt64.le_iff_toNat_le] at hmore
      omega
    obtain ⟨stages, rfl, htiles, hsizes, hstop, hexhausted, hadvanced⟩ :=
      ih _ hcloser hafter hmore hcalls hrest rfl
    refine ⟨stage :: stages, rfl, ⟨hnext, htiles⟩,
      List.forall_mem_cons.mpr ⟨⟨hlast, hsaving⟩, hsizes⟩, hstop, hexhausted, ?_⟩
    rw [List.flatMap_cons, Tally.after_append]
    exact hadvanced
  · have hend : stage.last = head := by
      rw [UInt64.le_iff_toNat_le] at hmore
      exact UInt64.toNat_inj.mp (by omega)
    rw [walk, dif_neg hmore] at hrest
    obtain ⟨rfl, rfl, rfl⟩ := runs_pure_mk.mp hrest
    refine ⟨[stage], by simp, ⟨hnext, hend.symm⟩,
      List.forall_mem_singleton.mpr ⟨hlast, hsaving⟩, hend, ?_, ?_⟩
    · intro hgreatest
      exact absurd (hend.trans hgreatest) hmax
    · intro _
      rw [List.flatMap_singleton]

/-- What comes of a pass from a cursor whose calls are answered: the head is read and told, and if
it is a new one, windows are completed up to it. -/
lemma stages_of_runs_poll {start : UInt64} {stop : Option UInt64} {t : SyncTrace κ ε}
    {r : Except SyncError Sync.Outcome} (hanswered : ∀ e ∈ t, IsAnswered e)
    (h : Runs ((asking label kinds config).poll (some start)) t (r, stop)) :
    ∃ (head : UInt64) (stages : List (Stage kinds config.service ε)),
      t = ⟨.head, .ok head⟩ :: ⟨.tell (.head head), ()⟩ :: stages.flatMap Stage.calls ∧
      (head ≤ start → stages = [] ∧ r = .ok .upToDate ∧ stop = some start) ∧
      (start < head → Tiles start (stages.map (·.toWindow)) head ∧
        (∀ s ∈ stages, s.last = windowEnd config.rangeSize s.first head ∧
          Runs ((asking label kinds config).persist s.last) s.saving ()) ∧
        stop = some head ∧
        (head = Clamp.greatest → r = .error .exhausted) ∧
        (head ≠ Clamp.greatest → r = .ok (.advanced (start + 1) head
          (Tally.after ⟨0, 0⟩ (stages.flatMap (·.answers))).events
          (Tally.after ⟨0, 0⟩ (stages.flatMap (·.answers))).failed))) := by
  rw [poll, runs_bind] at h
  obtain ⟨t₀, _, t₁, rfl, h₀, h₁⟩ := h
  obtain ⟨rfl, rfl⟩ := runs_pure.mp h₀
  obtain ⟨t₂, found, t₃, rfl, h₂, h₃⟩ := runs_bind.mp h₁
  obtain rfl := runs_ask.mp h₂
  cases found with
  | error cause => cases hanswered _ List.mem_cons_self
  | ok head =>
    obtain ⟨t₄, _, t₅, rfl, h₄, h₅⟩ := runs_bind.mp h₃
    obtain rfl := runs_ask.mp h₄
    by_cases hle : head ≤ start
    · rw [if_pos hle] at h₅
      obtain ⟨rfl, rfl, rfl⟩ := runs_pure_mk.mp h₅
      exact ⟨head, [], rfl, fun _ => ⟨rfl, rfl, rfl⟩,
        fun hlt => absurd hle (UInt64.not_le.mpr hlt)⟩
    · rw [if_neg hle] at h₅
      obtain ⟨t₆, ⟨result, cursor⟩, t₇, rfl, h₆, h₇⟩ := runs_bind.mp h₅
      obtain ⟨rfl, rfl, rfl⟩ := runs_pure_mk.mp h₇
      have hlt : start < head := UInt64.not_le.mp hle
      have hfirst := toNat_add_one (ne_greatest hlt)
      have hfirst_le : start + 1 ≤ head := by
        rw [UInt64.lt_iff_toNat_lt] at hlt
        rw [UInt64.le_iff_toNat_le]
        omega
      obtain ⟨stages, rfl, htiles, hsizes, rfl, hresult⟩ :=
        stages_of_runs_walk hfirst hfirst_le (fun e he => hanswered e (by simp [he])) h₆
      refine ⟨cursor, stages, by simp, fun hle' => absurd hle' hle, fun _ => ?_⟩
      exact ⟨htiles, hsizes, rfl, hresult⟩

/-! ### The windows in numbers -/

/-- The first and the last block of each window from the block after `start` to the block `stop`:
each has `range` blocks, but for the last, which ends at `stop`. -/
def spans (range start stop : ℕ) : List (ℕ × ℕ) :=
  (List.range ((stop - start) ⌈/⌉ range)).map fun i =>
    (start + i * range + 1, min (start + (i + 1) * range) stop)

lemma spans_of_le {range start stop : ℕ} (h : stop ≤ start) : spans range start stop = [] := by
  rw [spans, Nat.sub_eq_zero_of_le h, zero_ceilDiv, List.range_zero, List.map_nil]

/-- After the first window come the windows from its end on. -/
lemma spans_of_lt {range start stop : ℕ} (hrange : 0 < range) (h : start < stop) :
    spans range start stop =
      (start + 1, min (start + range) stop) :: spans range (min (start + range) stop) stop := by
  by_cases hone : stop ≤ start + range
  · have hcount : (stop - start) ⌈/⌉ range = 1 := by
      rw [Nat.ceilDiv_eq_add_pred_div]
      exact Nat.div_eq_of_lt_le (by omega) (by omega)
    rw [spans_of_le (le_min hone le_rfl), spans, hcount, List.range_one]
    simp
  · have hcount : (stop - start) ⌈/⌉ range = (stop - (start + range)) ⌈/⌉ range + 1 := by
      rw [Nat.ceilDiv_eq_add_pred_div, Nat.ceilDiv_eq_add_pred_div, ← Nat.add_div_right _ hrange]
      congr 1
      omega
    rw [min_eq_left (by omega), spans, hcount, List.range_succ_eq_map, List.map_cons, List.map_map,
      spans]
    have hfirst : (start + 0 * range + 1, min (start + (0 + 1) * range) stop) =
        (start + 1, start + range) := by
      rw [zero_mul, zero_add, one_mul, add_zero, min_eq_left (by omega)]
    rw [hfirst]
    refine congrArg _ (List.map_congr_left fun i _ => ?_)
    change (start + (i + 1) * range + 1, min (start + (i + 1 + 1) * range) stop) = _
    rw [show start + (i + 1) * range = start + range + i * range by ring,
      show start + (i + 1 + 1) * range = start + range + (i + 1) * range by ring]

/-- The last block of a window, in numbers that do not wrap around. -/
lemma toNat_windowEnd_of_ne_zero {range : UInt64} (hrange : range ≠ 0) (first head : UInt64) :
    (windowEnd range first head).toNat = min (first.toNat + range.toNat - 1) head.toNat := by
  have hpos : 0 < range.toNat := by
    refine Nat.pos_of_ne_zero fun hzero => hrange ?_
    exact UInt64.toNat_inj.mp hzero
  have hone : (1 : UInt64) ≤ range := by
    rw [UInt64.le_iff_toNat_le]
    exact hpos
  have hhead : head.toNat < UInt64.size := head.toNat_lt
  rw [toNat_windowEnd, UInt64.toNat_sub_of_le _ _ hone, UInt64.toNat_one]
  omega

/-- Windows that are made one after another up to a block are the spans up to it. -/
lemma map_eq_spans {range start stop : UInt64} (hrange : range ≠ 0) {ws : List (Window kinds ε)}
    (htiles : Tiles start ws stop) (hsizes : ∀ w ∈ ws, w.last = windowEnd range w.first stop) :
    ws.map (fun w => (w.first.toNat, w.last.toNat)) =
      spans range.toNat start.toNat stop.toNat := by
  have hpos : 0 < range.toNat :=
    Nat.pos_of_ne_zero fun hzero => hrange (UInt64.toNat_inj.mp hzero)
  induction ws generalizing start with
  | nil =>
    obtain rfl := htiles
    exact (spans_of_le le_rfl).symm
  | cons w ws ih =>
    obtain ⟨hfirst, hrest⟩ := htiles
    obtain ⟨hsize, hsizes⟩ := List.forall_mem_cons.mp hsizes
    have hlast : w.last.toNat = min (start.toNat + range.toNat) stop.toNat := by
      rw [hsize, toNat_windowEnd_of_ne_zero hrange, hfirst]
      congr 1
      omega
    have hlt : start.toNat < stop.toNat := by
      have hw := UInt64.le_iff_toNat_le.mp w.first_le
      omega
    rw [List.map_cons, ih hrest hsizes, spans_of_lt hpos hlt, ← hlast, hfirst]

/-! ### The starting cursor in numbers -/

/-- From which cursor a pass starts, and what it has called to find it: the cursor it already has;
or the saved one, unless the configured first block lies further on; or if none is saved, the block
before the configured first block, or else the head of the chain. -/
inductive StartsFrom (config : Sync.Config) (start : UInt64) :
    Option UInt64 → SyncTrace κ ε → Prop
  | kept : StartsFrom config start (some start) []
  | saved {finding : SyncTrace κ ε} {block : UInt64}
      (hload : ⟨.store (.loadCursor config.service), .ok (some block)⟩ ∈ finding)
      (hstart : start.toNat = max block.toNat (config.startBlock.elim 0 fun b => b.toNat - 1)) :
      StartsFrom config start none finding
  | configured {finding : SyncTrace κ ε} {first : UInt64}
      (hload : ⟨.store (.loadCursor config.service), .ok none⟩ ∈ finding)
      (hfirst : config.startBlock = some first) (hstart : start.toNat = first.toNat - 1) :
      StartsFrom config start none finding
  | current {finding : SyncTrace κ ε}
      (hload : ⟨.store (.loadCursor config.service), .ok none⟩ ∈ finding)
      (hfirst : config.startBlock = none) (hhead : ⟨.head, .ok start⟩ ∈ finding) :
      StartsFrom config start none finding

/-- A saved cursor is moved on to the block before the configured first block. -/
lemma toNat_startingCursor_some (config : Sync.Config) (block : UInt64) :
    (startingCursor config (some block) block).toNat =
      max block.toNat (config.startBlock.elim 0 fun b => b.toNat - 1) := by
  unfold startingCursor
  cases config.startBlock with
  | none => exact (Nat.max_eq_left (Nat.zero_le _)).symm
  | some first =>
    have hsub : (requested first).toNat = first.toNat - 1 := Clamp.toNat_sub first 1
    by_cases hle : requested first ≤ block
    · simp only [if_pos hle, Option.elim_some]
      rw [UInt64.le_iff_toNat_le] at hle
      omega
    · simp only [if_neg hle, Option.elim_some]
      rw [UInt64.le_iff_toNat_le] at hle
      omega

/-- A starting cursor is found only if windows have blocks. -/
lemma ne_zero_of_runs_resolve {t : SyncTrace κ ε} {start : UInt64}
    (h : Runs (asking label kinds config).resolve t (.ok start)) : config.rangeSize ≠ 0 := by
  intro hzero
  rw [resolve, if_pos (show (asking (ε := ε) label kinds config).config.rangeSize = 0 from hzero)]
    at h
  cases (runs_pure.mp h).2

/-- A starting cursor that is found is the one that `StartsFrom` tells. -/
lemma startsFrom_of_runs_resolve {t : SyncTrace κ ε} {start : UInt64}
    (h : Runs (asking label kinds config).resolve t (.ok start)) :
    StartsFrom config start none t ∧
      ∀ e ∈ t, IsFinding config.service e ∨ IsSaving config.service start e := by
  obtain ⟨finding, saving, rfl, hfinding, ⟨⟨e, herror, -⟩, -⟩ | hfound⟩ :=
    calls_of_runs_resolve_any h
  · cases herror
  obtain ⟨saved, block, hresult, hsaving, hfound⟩ := hfound
  obtain rfl := Except.ok.inj hresult
  refine ⟨?_, List.forall_mem_append.mpr
    ⟨fun e he => Or.inl (hfinding e he), fun e he => Or.inr (hsaving e he)⟩⟩
  rcases hfound with ⟨rfl, hload⟩ | ⟨rfl, hload, hhead⟩
  · exact .saved (List.mem_append_left _ hload) (toNat_startingCursor_some config block)
  · cases hfirst : config.startBlock with
    | none =>
      have hstart : startingCursor config none block = block := by
        rw [startingCursor, hfirst]
      rw [hstart]
      exact .current (List.mem_append_left _ hload) hfirst (List.mem_append_left _ hhead)
    | some first =>
      have hstart : startingCursor config none block = requested first := by
        rw [startingCursor, hfirst]
      rw [hstart]
      exact .configured (List.mem_append_left _ hload) hfirst (Clamp.toNat_sub first 1)

/-! ### Every pass -/

/-- What comes of a pass from a cursor that reads a head and goes up to it: it completes the windows
between, as many as their size makes necessary, and ends with what it has done, unless the head is
new and the last block that a word can number. -/
structure ReachesHead (kinds : List κ) (config : Sync.Config) (start head : UInt64)
    (t : SyncTrace κ ε) (r : Except SyncError Sync.Outcome) (stop : Option UInt64) : Prop where
  windows : ∃ stages : List (Stage kinds config.service ε),
    t = ⟨.head, .ok head⟩ :: ⟨.tell (.head head), ()⟩ :: stages.flatMap Stage.calls ∧
    stages.map (fun s => (s.first.toNat, s.last.toNat)) =
      spans config.rangeSize.toNat start.toNat head.toNat
  upToDate : head ≤ start → r = .ok .upToDate ∧ stop = some start
  advanced : start < head → head ≠ Clamp.greatest → stop = some head ∧
    ∃ events failed, r = .ok (.advanced (start + 1) head events failed)
  exhausted : start < head → head = Clamp.greatest → stop = some head ∧ r = .error .exhausted

/-- A pass from a cursor goes up to the head that it reads. -/
lemma reachesHead_of_runs_poll {start : UInt64} {t : SyncTrace κ ε}
    {r : Except SyncError Sync.Outcome} {stop : Option UInt64} (hrange : config.rangeSize ≠ 0)
    (hanswered : ∀ e ∈ t, IsAnswered e)
    (h : Runs ((asking label kinds config).poll (some start)) t (r, stop)) :
    ∃ head, ReachesHead kinds config start head t r stop := by
  obtain ⟨head, stages, rfl, hidle, hwalked⟩ := stages_of_runs_poll hanswered h
  refine ⟨head, ⟨⟨stages, rfl, ?_⟩, ?_, ?_, ?_⟩⟩
  · by_cases hle : head ≤ start
    · obtain ⟨rfl, -, -⟩ := hidle hle
      exact (spans_of_le (UInt64.le_iff_toNat_le.mp hle)).symm
    · obtain ⟨htiles, hsizes, -⟩ := hwalked (UInt64.not_le.mp hle)
      rw [← map_eq_spans hrange htiles, List.map_map]
      · rfl
      · intro w hw
        obtain ⟨s, hs, rfl⟩ := List.mem_map.mp hw
        exact (hsizes s hs).1
  · intro hle
    obtain ⟨-, hresult, hstop⟩ := hidle hle
    exact ⟨hresult, hstop⟩
  · intro hlt hne
    obtain ⟨-, -, hstop, -, hadvanced⟩ := hwalked hlt
    exact ⟨hstop, _, _, hadvanced hne⟩
  · intro hlt hgreatest
    obtain ⟨-, -, hstop, hexhausted, -⟩ := hwalked hlt
    exact ⟨hstop, hexhausted hgreatest⟩

/-- However its calls are answered, a pass comes to an end.  If the chain and the handler answer all
of theirs, it goes from its starting cursor up to the head of the chain, unless windows would have
no blocks or the saved cursor cannot be loaded.  No number on the way wraps around, for the starting
cursor and the windows are what they are in numbers without a bound. -/
theorem windows_up_to_head {cursor : Option UInt64}
    (hrange : cursor = none ∨ config.rangeSize ≠ 0) :
    (∀ answer, ∃ t result,
      Runs ((asking (ε := ε) label kinds config).poll cursor) t result ∧ AnsweredBy answer t) ∧
    ∀ {t : SyncTrace κ ε} {r : Except SyncError Sync.Outcome} {stop : Option UInt64},
      Runs ((asking label kinds config).poll cursor) t (r, stop) → (∀ e ∈ t, IsAnswered e) →
      (config.rangeSize = 0 ∧ t = [] ∧ r = .error .zeroRange ∧ stop = none) ∨
      (∃ failure, r = .error (.cursor (Explained.cause failure)) ∧ stop = none ∧
        ⟨.store (.loadCursor config.service), .error failure⟩ ∈ t ∧
        ∀ e ∈ t, IsFinding config.service e) ∨
      ∃ start head finding rest, t = finding ++ rest ∧ StartsFrom config start cursor finding ∧
        (∀ e ∈ finding, IsFinding config.service e ∨ IsSaving config.service start e) ∧
        ReachesHead kinds config start head rest r stop := by
  refine ⟨exists_runs_answeredBy _, ?_⟩
  intro t r stop h hanswered
  cases cursor with
  | some start =>
    have hne : config.rangeSize ≠ 0 := hrange.resolve_left (Option.some_ne_none start)
    obtain ⟨head, hhead⟩ := reachesHead_of_runs_poll hne hanswered h
    exact Or.inr (Or.inr ⟨start, head, [], t, rfl, .kept, by simp, hhead⟩)
  | none =>
    rcases runs_poll_none_iff.mp h with ⟨e, hrun, rfl, rfl⟩ | ⟨t₁, start, t₂, rfl, hrun, hpoll⟩
    · rcases failure_of_runs_resolve hrun with
        ⟨hzero, rfl, rfl⟩ | ⟨failure, rfl, hload⟩ | ⟨cause, rfl, hhead⟩
      · exact Or.inl ⟨hzero, rfl, rfl, rfl⟩
      · obtain ⟨finding, saving, rfl, hfinding, ⟨-, rfl⟩ | ⟨saved, block, hfound, -⟩⟩ :=
          calls_of_runs_resolve_any hrun
        · rw [List.append_nil] at hload ⊢
          exact Or.inr (Or.inl ⟨failure, rfl, rfl, hload, hfinding⟩)
        · cases hfound
      · cases hanswered _ hhead
    · have hne : config.rangeSize ≠ 0 := ne_zero_of_runs_resolve hrun
      obtain ⟨hstart, hcalls⟩ := startsFrom_of_runs_resolve hrun
      obtain ⟨head, hhead⟩ :=
        reachesHead_of_runs_poll hne (fun e he => hanswered e (List.mem_append_right _ he)) hpoll
      exact Or.inr (Or.inr ⟨start, head, t₁, t₂, rfl, hstart, hcalls, hhead⟩)

/-- The calls of a first pass from a saved cursor to the last block that a word can number. -/
def lastBlocks : SyncTrace Unit UInt64 :=
  [⟨.store (.loadCursor "svc"), .ok (some 18446744073709551610)⟩,
    ⟨.store (.saveCursor "svc" 18446744073709551610), .ok ()⟩,
    ⟨.head, .ok Clamp.greatest⟩, ⟨.tell (.head Clamp.greatest), ()⟩,
    ⟨.fetch () 18446744073709551611 Clamp.greatest, .ok []⟩,
    ⟨.store (.saveCursor "svc" Clamp.greatest), .ok ()⟩,
    ⟨.tell (.progress (some Clamp.greatest)), ()⟩]

/-- A pass completes its window up to the last block that a word can number, and fails then. -/
theorem windows_up_to_last_block :
    Runs ((asking (fun _ => "Created") [()] ⟨"svc", 1, 100, none⟩).poll none) lastBlocks
      (.error .exhausted, some Clamp.greatest) ∧
    (∀ e ∈ lastBlocks, IsAnswered e) ∧
    ∃ start head finding rest, lastBlocks = finding ++ rest ∧
      StartsFrom ⟨"svc", 1, 100, none⟩ start none finding ∧
      (∀ e ∈ finding, IsFinding "svc" e ∨ IsSaving "svc" start e) ∧
      ReachesHead [()] ⟨"svc", 1, 100, none⟩ start head rest (.error .exhausted)
        (some Clamp.greatest) := by
  have hresolve :
      Runs (asking (ε := UInt64) (fun _ => "Created") [()] ⟨"svc", 1, 100, none⟩).resolve
      [⟨.store (.loadCursor "svc"), .ok (some 18446744073709551610)⟩,
        ⟨.store (.saveCursor "svc" 18446744073709551610), .ok ()⟩]
      (.ok 18446744073709551610) :=
    .call _ (.call _ (.here _))
  have hpoll : Runs ((asking (ε := UInt64) (fun _ => "Created") [()] ⟨"svc", 1, 100, none⟩).poll
      (some 18446744073709551610))
      [⟨.head, .ok Clamp.greatest⟩, ⟨.tell (.head Clamp.greatest), ()⟩,
        ⟨.fetch () 18446744073709551611 Clamp.greatest, .ok []⟩,
        ⟨.store (.saveCursor "svc" Clamp.greatest), .ok ()⟩,
        ⟨.tell (.progress (some Clamp.greatest)), ()⟩]
      (.error .exhausted, some Clamp.greatest) := by
    refine runs_poll_of_runs_walk (by decide) ?_
    rw [walk, dif_pos (by decide)]
    exact .call _ (.call _ (.call _ (.here _)))
  have hrun := runs_poll_none_iff.mpr (Or.inr ⟨_, _, _, rfl, hresolve, hpoll⟩)
  have hanswered : ∀ e ∈ lastBlocks, IsAnswered e := by
    simp [lastBlocks, IsAnswered, Except.isOk, Except.toBool]
  refine ⟨hrun, hanswered, ?_⟩
  rcases (windows_up_to_head (Or.inl rfl)).2 hrun hanswered with
    ⟨hzero, -⟩ | ⟨failure, hresult, -⟩ | hreaches
  · cases hzero
  · cases hresult
  · exact hreaches

end Synchronizer

end ComputeExchange
