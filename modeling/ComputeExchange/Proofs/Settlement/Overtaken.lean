import ComputeExchange.Proofs.Chain.Address
import ComputeExchange.Proofs.Settlement.Mirror
import ComputeExchange.Proofs.Settlement.Serial
import Mathlib.Data.List.DropRight

/-!
# Counts that are overtaken

The lock of settlement covers the submission of a credit, and not the copying of the count into the
row of the provider.  So others may credit the same provider, and copy their own counts, between the
moment in which a settlement is told a count and the moment in which it writes it.

`Books` are the ledger and the store that settlements share.  The ledger is honest: whatever count
it tells of a provider is the number of its credits at that moment.  A settlement writes at its end,
with the count that it has been told last (`recorded_of_runs`), and so two things are kept by every
call of anyone: who has been told a count is behind the ledger by the credits since then (`Behind`),
and the row shows the count of the last one to write (`Shown`).  `row_of_last_recorder` is made up
of both, and `row_behind_of_two` says that the row may end behind the ledger.
-/

namespace ComputeExchange

namespace Settler

open Program

/-! ### What a settlement learns and writes -/

/-- What a call tells of the count of a provider. -/
def told? : Event SettlementCall.Answer → Option (Address × UInt64)
  | ⟨.receipt provider, .ok receipt⟩ =>
    if receipt.isSuccess then receipt.newCount.map (provider, ·) else none
  | ⟨.count provider, .ok count⟩ => some (provider, count)
  | _ => none

/-- The count that a settlement has been told last, with its provider. -/
def learned (t : SettlementTrace) : Option (Address × UInt64) := (t.filterMap told?).getLast?

lemma learned_concat (t : SettlementTrace) (e : Event SettlementCall.Answer) :
    learned (t ++ [e]) = (told? e).or (learned t) := by
  unfold learned
  rw [List.filterMap_append, List.getLast?_append]
  cases htold : told? e <;> simp [htold]

/-- A submission tells what its receipt does. -/
lemma learned_submission (job : Word) (found : Except Cause Address) (provider : Address)
    (outcome : Except Cause SettlementReceipt) :
    learned (⟨.provider job, found⟩ :: submission provider outcome) =
      told? ⟨.receipt provider, outcome⟩ := by
  have hlist : ⟨.provider job, found⟩ :: submission provider outcome =
      [⟨.provider job, found⟩, ⟨.acquire, ()⟩, ⟨.submit provider, ()⟩] ++
        [⟨.receipt provider, outcome⟩] ++ [⟨.release, ()⟩] := rfl
  rw [hlist, learned_concat, learned_concat]
  exact Option.or_none

/-- The wallet into whose row a call writes. -/
def recordedFor? : Event SettlementCall.Answer → Option String
  | ⟨.store (.recordSettlement wallet _ _), _⟩ => some wallet
  | _ => none

/-- Whether a call goes to the store. -/
def isStoring : SettlementCall → Bool
  | .store _ => true
  | _ => false

/-- Only the store is written into. -/
lemma recordedFor?_eq_none {e : Event SettlementCall.Answer} (h : isStoring e.1 = false) :
    recordedFor? e = none := by
  obtain ⟨q, answer⟩ := e
  cases q with
  | store => cases h
  | _ => rfl

/-- Where a settlement writes: it calls the store at its end, with the count that it has been told
last, if it ends well and the count could be read; and else never. -/
inductive Recorded : SettlementTrace → Except SettlementError Settlement → Prop where
  | nothing {t : SettlementTrace} {r : Except SettlementError Settlement}
      (hstore : ∀ e ∈ t, isStoring e.1 = false)
      (hwhy : r.toOption = none ∨ ∃ provider cause, ⟨.count provider, .error cause⟩ ∈ t) :
      Recorded t r
  | count {t : SettlementTrace} {s : Settlement} {count : UInt64}
      (hstore : ∀ e ∈ t, isStoring e.1 = false) (hlearned : learned t = some (s.provider, count))
      (now : Timestamp) (written : Except StoreError Bool) :
      Recorded (t ++ [⟨.store (.recordSettlement s.provider.checksummed
        (Clamp.signedOfWord count) now), written⟩]) (.ok s)

/-- A settlement that ends by copying a count writes at its end. -/
lemma recorded_of_copy {t u : SettlementTrace} {s : Settlement} {count : UInt64}
    (hstore : ∀ e ∈ t, isStoring e.1 = false) (hlearned : learned t = some (s.provider, count))
    (h : Runs (asking.copy s.provider count) u ()) : Recorded (t ++ u) (.ok s) := by
  cases h with
  | call now h =>
    cases h with
    | call written h =>
      cases h
      have hasked : ∀ e ∈ t ++ [⟨.clock, now⟩], isStoring e.1 = false := by
        rw [List.forall_mem_append, List.forall_mem_singleton]
        exact ⟨hstore, rfl⟩
      rw [List.append_cons]
      exact .count hasked ((learned_concat ..).trans hlearned) now written

/-- A settlement writes at its end, or never. -/
theorem recorded_of_runs {job : Word} {t : SettlementTrace}
    {r : Except SettlementError Settlement} (h : Runs (asking.settle job) t r) : Recorded t r := by
  rcases runs_settle_cases h with
    ⟨cause, rfl, rfl⟩ | ⟨rfl, rfl⟩ | ⟨provider, outcome, rest, -, rfl, hafter⟩
  · exact .nothing (by simp [isStoring]) (Or.inl rfl)
  · exact .nothing (by simp [isStoring]) (Or.inl rfl)
  have hsubmitted : ∀ e ∈ ⟨.provider job, .ok provider⟩ :: submission provider outcome,
      isStoring e.1 = false := by
    simp [submission, isStoring]
  unfold concluding at hafter
  cases outcome with
  | error cause =>
    obtain ⟨rfl, rfl⟩ := runs_pure.mp hafter
    exact .nothing (by rwa [List.append_nil]) (Or.inl rfl)
  | ok receipt =>
    by_cases hsuccess : receipt.isSuccess = true
    · simp only [if_pos hsuccess] at hafter
      obtain ⟨copying, _, _, rfl, hreflect, hend⟩ := runs_bind.mp hafter
      obtain ⟨rfl, rfl⟩ := runs_pure.mp hend
      rw [List.append_nil]
      cases hreported : receipt.newCount with
      | some count =>
        rw [hreported] at hreflect
        have htold : told? ⟨.receipt provider, .ok receipt⟩ = some (provider, count) := by
          simp [told?, hsuccess, hreported]
        exact recorded_of_copy hsubmitted ((learned_submission ..).trans htold) hreflect
      | none =>
        rw [hreported] at hreflect
        obtain ⟨_, answer, _, rfl, hread, hcopy⟩ := runs_bind.mp hreflect
        obtain rfl := runs_ask.mp hread
        have hasked : ∀ e ∈ ⟨.provider job, .ok provider⟩ :: submission provider (.ok receipt) ++
            [⟨.count provider, answer⟩], isStoring e.1 = false := by
          rw [List.forall_mem_append, List.forall_mem_singleton]
          exact ⟨hsubmitted, rfl⟩
        rw [← List.append_assoc]
        cases answer with
        | error cause =>
          obtain ⟨rfl, -⟩ := runs_pure.mp hcopy
          exact .nothing (by rwa [List.append_nil]) (Or.inr ⟨provider, cause, by simp⟩)
        | ok count => exact recorded_of_copy hasked (learned_concat ..) hcopy
    · simp only [if_neg hsuccess] at hafter
      obtain ⟨rfl, rfl⟩ := runs_pure.mp hafter
      exact .nothing (by rwa [List.append_nil]) (Or.inl rfl)

/-- A list that goes on somewhere ends there, or before its last element. -/
lemma append_cons_eq_concat {α : Type} {l l' l'' : List α} {a b : α}
    (h : l ++ a :: l' = l'' ++ [b]) : l = l'' ∧ a = b ∨ a ∈ l'' ∧ l ⊆ l'' := by
  rcases List.eq_nil_or_concat l' with rfl | ⟨l₁, c, rfl⟩
  · obtain ⟨rfl, hlast⟩ := List.append_inj' h rfl
    exact Or.inl ⟨rfl, List.singleton_inj.mp hlast⟩
  · rw [List.concat_eq_append, ← List.cons_append, ← List.append_assoc] at h
    obtain ⟨rfl, -⟩ := List.append_inj' h rfl
    exact Or.inr ⟨by simp, List.subset_append_left ..⟩

/-- Nothing is called after the store, and the store with the count that has been told last. -/
lemma recorded_of_calls {job : Word} {t : SettlementTrace} {q : SettlementCall}
    (h : (asking.settle job).Calls t q) :
    (∀ e ∈ t, isStoring e.1 = false) ∧ ∀ c, q = .store c → ∃ provider count now,
      learned t = some (provider, count) ∧
        c = .recordSettlement provider.checksummed (Clamp.signedOfWord count) now := by
  obtain ⟨answer⟩ := q.nonempty_answer
  obtain ⟨rest, hreaches⟩ := h.reaches answer
  obtain ⟨t', r, hruns⟩ := hreaches.exists_runs
  have hrecorded := recorded_of_runs hruns
  rw [← List.append_cons] at hrecorded
  generalize hall : t ++ ⟨q, answer⟩ :: t' = all at hrecorded
  cases hrecorded with
  | nothing hstore =>
    rw [← hall, List.forall_mem_append, List.forall_mem_cons] at hstore
    obtain ⟨hbefore, hcall, -⟩ := hstore
    refine ⟨hbefore, ?_⟩
    rintro c rfl
    cases hcall
  | @count t₁ s count hstore hlearned now written =>
    rcases append_cons_eq_concat hall with ⟨rfl, hlast⟩ | ⟨hmem, hsub⟩
    · refine ⟨hstore, ?_⟩
      rintro c rfl
      cases hlast
      exact ⟨s.provider, count, now, hlearned, rfl⟩
    · refine ⟨fun e he => hstore e (hsub he), ?_⟩
      rintro c rfl
      cases hstore _ hmem

/-! ### Ledger and store -/

/-- The ledger and the store that settlements share. -/
structure Books where
  ledger : World
  store : MemoryStore

/-- How a call may be answered, and what it leaves behind.  The store performs what it is asked for.
The ledger can always be read, and every count that it tells is the number of credits then. -/
inductive Books.Serves : Books → (q : SettlementCall) → q.Answer → Books → Prop where
  | stored (b : Books) (c : StoreCall) :
      Serves b (.store c) (b.store.perform c).1 { b with store := (b.store.perform c).2 }
  | elsewhere {b : Books} {q : SettlementCall} {answer : q.Answer} {w : World}
      (hserves : World.Serves b.ledger q answer w) (hq : isStoring q = false)
      (htold : ∀ provider count, told? ⟨q, answer⟩ = some (provider, count) →
        count = Clamp.word (w.credits provider))
      (hread : ∀ provider cause,
        (⟨q, answer⟩ : Event SettlementCall.Answer) ≠ ⟨.count provider, .error cause⟩) :
      Serves b q answer { b with ledger := w }

/-- A call by which no count is told may be answered as the ledger answers it. -/
lemma Books.Serves.silent {b : Books} {q : SettlementCall} {answer : q.Answer} {w : World}
    (hserves : World.Serves b.ledger q answer w) (hq : isStoring q = false)
    (htold : told? ⟨q, answer⟩ = none) (hcount : ∀ provider, q ≠ .count provider) :
    Books.Serves b q answer { b with ledger := w } := by
  refine .elsewhere hserves hq (fun provider count hsome => ?_) fun provider cause heq => ?_
  · rw [htold] at hsome
    cases hsome
  · exact hcount provider (congrArg Sigma.fst heq)

/-- A credit may be answered with the number of credits, or without. -/
lemma Books.Serves.credited {b : Books} {provider : Address} {receipt : SettlementReceipt}
    (hsuccess : receipt.isSuccess = true)
    (hcount : ∀ count, receipt.newCount = some count →
      count = Clamp.word (b.ledger.credits provider + 1)) :
    Books.Serves b (.receipt provider) (.ok receipt) { b with ledger := { b.ledger with
      credits := Function.update b.ledger.credits provider (b.ledger.credits provider + 1) } } := by
  refine .elsewhere (.credited _ _ _ hsuccess) rfl (fun credited count htold => ?_) nofun
  obtain ⟨_, hreported, heq⟩ := Option.map_eq_some_iff.mp ((if_pos hsuccess).symm.trans htold)
  cases heq
  have hmore : Function.update b.ledger.credits provider (b.ledger.credits provider + 1) provider =
      b.ledger.credits provider + 1 := Function.update_self ..
  exact (hcount count hreported).trans (congrArg Clamp.word hmore.symm)

/-- The ledger is the one that settlements share whatever the store does. -/
lemma Books.Serves.ledger {b b' : Books} {q : SettlementCall} {answer : q.Answer}
    (h : Books.Serves b q answer b') : World.Serves b.ledger q answer b'.ledger := by
  cases h with
  | stored c => exact .stored _ c _
  | elsewhere hserves => exact hserves

variable {ι : Type} {jobs : ι → Word} {first b : Books}
  {log : Interleaving SettlementCall.Answer ι} {i j : ι} {e : Event SettlementCall.Answer}
  {provider : Address}

/-- Who has written into the row of a provider, in order. -/
def recorders (provider : Address) (log : Interleaving SettlementCall.Answer ι) : List ι :=
  (log.filter fun c => recordedFor? c.2 = some provider.checksummed).map (·.1)

lemma recorders_concat_self (h : recordedFor? e = some provider.checksummed) :
    recorders provider (log ++ [(i, e)]) = recorders provider log ++ [i] := by
  simp [recorders, h]

lemma recorders_concat_of_ne (h : recordedFor? e ≠ some provider.checksummed) :
    recorders provider (log ++ [(i, e)]) = recorders provider log := by
  simp [recorders, h]

variable [DecidableEq ι]

/-- The calls of settlements that go on at the same time, with the books that they lead to. -/
abbrev Books.Settles (jobs : ι → Word) (first : Books) :
    Interleaving SettlementCall.Answer ι → Books → Prop :=
  Interleaves Books.Serves (fun _ _ => False) (fun i => asking.settle (jobs i)) first

/-- The count can always be read. -/
lemma Books.Settles.not_unread (h : Books.Settles jobs first log b) {provider : Address}
    {cause : Cause} : ⟨.count provider, .error cause⟩ ∉ callsOf i log := by
  rw [mem_callsOf]
  induction h with
  | begins => exact List.not_mem_nil
  | serve _ _ hserves ih =>
    rw [List.mem_append, List.mem_singleton]
    rintro (hmem | heq)
    · exact ih hmem
    · obtain ⟨-, hevent⟩ := Prod.mk.inj heq
      cases hserves with
      | stored => cases hevent
      | elsewhere _ _ _ hread => exact hread _ _ hevent.symm
  | drift _ hdrifts => exact hdrifts.elim

/-! ### Who has written, and who has been overtaken -/

/-- How often a provider has been credited since a settlement was last told a count. -/
def overtakings (provider : Address) (i : ι) (log : Interleaving SettlementCall.Answer ι) : ℕ :=
  (log.rtakeWhile fun c => ¬ (c.1 = i ∧ (told? c.2).isSome)).countP
    fun c => creditedBy c.2 = some provider

/-- Who has written has called the store. -/
lemma exists_isStoring_of_mem_recorders (h : i ∈ recorders provider log) :
    ∃ e ∈ callsOf i log, recordedFor? e = some provider.checksummed ∧ isStoring e.1 = true := by
  obtain ⟨⟨j, e⟩, hmem, rfl⟩ := List.mem_map.mp h
  obtain ⟨hmem, hrecorded⟩ := List.mem_filter.mp hmem
  refine ⟨e, mem_callsOf.mpr hmem, of_decide_eq_true hrecorded, ?_⟩
  by_contra hstoring
  have hnone := recordedFor?_eq_none (Bool.eq_false_iff.mpr hstoring)
  rw [of_decide_eq_true hrecorded] at hnone
  cases hnone

/-- Who has written makes no more calls. -/
lemma callsOf_recorder {q : SettlementCall} {answer : q.Answer} (h : j ∈ recorders provider log)
    (hcalls : (asking.settle (jobs i)).Calls (callsOf i log) q) :
    callsOf j (log ++ [(i, ⟨q, answer⟩)]) = callsOf j log := by
  have hne : i ≠ j := by
    rintro rfl
    obtain ⟨e, he, -, hstoring⟩ := exists_isStoring_of_mem_recorders h
    exact absurd ((recorded_of_calls hcalls).1 e he) (by simp [hstoring])
  rw [callsOf_append, callsOf_singleton_of_ne hne, List.append_nil]

/-- Nobody is ahead of a settlement when it is told a count. -/
lemma overtakings_concat_told (h : (told? e).isSome) :
    overtakings provider i (log ++ [(i, e)]) = 0 := by
  rw [overtakings, List.rtakeWhile_concat, if_neg (by simp [h])]
  rfl

/-- A settlement that is told nothing is overtaken by every credit. -/
lemma overtakings_concat (h : ¬ (i = j ∧ (told? e).isSome)) :
    overtakings provider j (log ++ [(i, e)]) =
      overtakings provider j log + if creditedBy e = some provider then 1 else 0 := by
  rw [overtakings, List.rtakeWhile_concat, if_pos (decide_eq_true h), List.countP_append]
  simp [overtakings, List.countP_cons]

/-- Every count that has been told of a provider is behind the ledger by the credits since then. -/
def Behind (provider : Address) (log : Interleaving SettlementCall.Answer ι) (credits : ℕ) : Prop :=
  ∀ i count, learned (callsOf i log) = some (provider, count) →
    ∃ m, count = Clamp.word m ∧ m + overtakings provider i log = credits

/-- An honest ledger leaves everyone behind by the credits since then. -/
lemma Behind.concat {credits credits' : ℕ} (h : Behind provider log credits)
    (hcredits : credits' = credits + if creditedBy e = some provider then 1 else 0)
    (htold : ∀ count, told? e = some (provider, count) → count = Clamp.word credits') :
    Behind provider (log ++ [(i, e)]) credits' := by
  intro j count hlearned
  by_cases hnow : i = j ∧ (told? e).isSome
  · obtain ⟨rfl, hsome⟩ := hnow
    rw [callsOf_append, callsOf_singleton_self, learned_concat, Option.or_of_isSome hsome]
      at hlearned
    refine ⟨credits', htold count hlearned, ?_⟩
    rw [overtakings_concat_told hsome, Nat.add_zero]
  · have hbefore : learned (callsOf j (log ++ [(i, e)])) = learned (callsOf j log) := by
      by_cases hij : i = j
      · subst hij
        have hnone : told? e = none := by simpa using hnow
        rw [callsOf_append, callsOf_singleton_self, learned_concat, hnone, Option.none_or]
      · rw [callsOf_append, callsOf_singleton_of_ne hij, List.append_nil]
    obtain ⟨m, hcount, hm⟩ := h j count (hbefore ▸ hlearned)
    refine ⟨m, hcount, ?_⟩
    rw [overtakings_concat hnow, hcredits, ← hm, Nat.add_assoc]

/-! ### The row of a provider -/

/-- A settlement is recorded in the row of its wallet. -/
lemma perform_recordSettlement {s : MemoryStore} {wallet : String} {row : Provider}
    (hup : s.isUnavailable = false) (hrow : s.providers.get? wallet = some row) (count : Int64)
    (now : Timestamp) : s.perform (.recordSettlement wallet count now) =
      (.ok true, { s with providers := s.providers.put wallet (row.settle count now) }) := by
  unfold MemoryStore.perform
  rw [if_neg (by simp [hup])]
  simp only [hrow]

/-- A settlement may be recorded if its wallet has a row. -/
lemma Books.Serves.recorded {b : Books} {wallet : String} {row : Provider}
    (hup : b.store.isUnavailable = false) (hrow : b.store.providers.get? wallet = some row)
    (count : Int64) (now : Timestamp) :
    Books.Serves b (.store (.recordSettlement wallet count now)) (.ok true)
      { b with store := { b.store with
        providers := b.store.providers.put wallet (row.settle count now) } } := by
  have hstored := Books.Serves.stored b (.recordSettlement wallet count now)
  rwa [perform_recordSettlement hup hrow] at hstored

/-- Recording a settlement changes the row of its wallet, and no other. -/
lemma get?_recordSettlement {s : MemoryStore} (hup : s.isUnavailable = false) (wallet : String)
    (count : Int64) (now : Timestamp) :
    (s.perform (.recordSettlement wallet count now)).2.isUnavailable = false ∧ ∀ other,
      (s.perform (.recordSettlement wallet count now)).2.providers.get? other =
        if wallet = other then (s.providers.get? other).map (·.settle count now)
        else s.providers.get? other := by
  cases hrow : s.providers.get? wallet with
  | none =>
    unfold MemoryStore.perform
    rw [if_neg (by simp [hup])]
    simp only [hrow]
    exact ⟨hup, Table.get?_of_none hrow _⟩
  | some row =>
    rw [perform_recordSettlement hup hrow]
    exact ⟨hup, Table.get?_put_map hrow (·.settle count now)⟩

/-- The row of a provider shows how many have written into it, and the count that the last of them
has learned. -/
structure Shown (provider : Address) (row : Provider)
    (log : Interleaving SettlementCall.Answer ι) (row' : Provider) : Prop where
  jobs_eq : row'.jobsCompleted = row.jobsCompleted + Int64.ofNat (recorders provider log).length
  unwritten : recorders provider log = [] → row'.reputation = row.reputation
  written : ∀ i, (recorders provider log).getLast? = some i → ∃ count,
    learned (callsOf i log) = some (provider, count) ∧
      row'.reputation = Clamp.signedOfWord count

/-- A call that does not write into a row leaves what it shows. -/
lemma Shown.concat_of_ne {row row' : Provider} {q : SettlementCall} {answer : q.Answer}
    (h : Shown provider row log row')
    (hcalls : (asking.settle (jobs i)).Calls (callsOf i log) q)
    (hne : recordedFor? ⟨q, answer⟩ ≠ some provider.checksummed) :
    Shown provider row (log ++ [(i, ⟨q, answer⟩)]) row' := by
  have hsame : recorders provider (log ++ [(i, ⟨q, answer⟩)]) = recorders provider log :=
    recorders_concat_of_ne hne
  refine ⟨hsame ▸ h.jobs_eq, hsame ▸ h.unwritten, fun j hj => ?_⟩
  rw [hsame] at hj
  rw [callsOf_recorder (List.mem_of_getLast? hj) hcalls]
  exact h.written j hj

/-- A call that writes a count into a row shows this count. -/
lemma Shown.concat_record {row row' : Provider} {count : UInt64} {now : Timestamp}
    {written : Except StoreError Bool} (h : Shown provider row log row')
    (hlearned : learned (callsOf i log) = some (provider, count)) :
    Shown provider row
      (log ++ [(i, ⟨.store (.recordSettlement provider.checksummed
        (Clamp.signedOfWord count) now), written⟩)])
      (row'.settle (Clamp.signedOfWord count) now) := by
  have hrecorders : recorders provider (log ++ [(i, ⟨.store (.recordSettlement
      provider.checksummed (Clamp.signedOfWord count) now), written⟩)]) =
      recorders provider log ++ [i] := recorders_concat_self rfl
  refine ⟨?_, fun hnone => ?_, fun j hj => ⟨count, ?_, rfl⟩⟩
  · rw [hrecorders, List.length_append, List.length_singleton, Int64.ofNat_add, ← Int64.add_assoc,
      ← h.jobs_eq]
    rfl
  · rw [hrecorders] at hnone
    exact absurd hnone (by simp)
  · rw [hrecorders, List.getLast?_concat] at hj
    obtain rfl := Option.some.inj hj
    rw [callsOf_append, callsOf_singleton_self, learned_concat]
    exact hlearned

/-- What holds of the books and of the row of a provider after some calls of settlements. -/
structure Kept (provider : Address) (row : Provider)
    (log : Interleaving SettlementCall.Answer ι) (b : Books) : Prop where
  isUp : b.store.isUnavailable = false
  behind : Behind provider log (b.ledger.credits provider)
  shown : ∃ row', b.store.providers.get? provider.checksummed = some row' ∧
    Shown provider row log row'

/-- The next call of a settlement keeps what holds. -/
lemma Kept.serve {row : Provider} {b' : Books} {q : SettlementCall} {answer : q.Answer}
    (h : Kept provider row log b) (hcalls : (asking.settle (jobs i)).Calls (callsOf i log) q)
    (hserves : Books.Serves b q answer b') :
    Kept provider row (log ++ [(i, ⟨q, answer⟩)]) b' := by
  obtain ⟨row', hrow', hshown⟩ := h.shown
  cases hserves with
  | stored c =>
    obtain ⟨-, hrecords⟩ := recorded_of_calls hcalls
    obtain ⟨credited, count, now, hlearned, rfl⟩ := hrecords c rfl
    obtain ⟨hup, hget⟩ := get?_recordSettlement h.isUp credited.checksummed
      (Clamp.signedOfWord count) now
    refine ⟨hup, h.behind.concat rfl nofun, ?_⟩
    rw [hget provider.checksummed, hrow']
    by_cases hsame : credited = provider
    · subst hsame
      exact ⟨_, if_pos rfl, hshown.concat_record hlearned⟩
    · have hwallet : credited.checksummed ≠ provider.checksummed :=
        fun heq => hsame (Address.checksummed_inj.mp heq)
      exact ⟨_, if_neg hwallet, hshown.concat_of_ne hcalls fun heq =>
        hwallet (Option.some.inj heq)⟩
  | elsewhere hserves hq htold =>
    refine ⟨h.isUp, h.behind.concat (hserves.credits_eq provider) (htold provider), row', hrow',
      hshown.concat_of_ne hcalls ?_⟩
    rw [recordedFor?_eq_none hq]
    exact nofun

/-- What holds of settlements that have gone on at the same time. -/
lemma Kept.of_settles {row : Provider} (h : Books.Settles jobs first log b)
    (hup : first.store.isUnavailable = false)
    (hrow : first.store.providers.get? provider.checksummed = some row) :
    Kept provider row log b := by
  induction h with
  | begins =>
    refine ⟨hup, nofun, row, hrow, ?_, fun _ => rfl, nofun⟩
    exact (Int64.add_zero _).symm
  | serve _ hcalls hserves ih => exact ih.serve hcalls hserves
  | drift _ hdrifts => exact hdrifts.elim

/-- How many of some settlements have ended well for a provider. -/
def settledFor [Fintype ι] (results : ι → Except SettlementError Settlement)
    (provider : Address) : ℕ :=
  (Finset.univ.filter fun i => (results i).toOption.map (·.provider) = some provider).card

/-- What each settlement does once if it has ended well for a provider, and else never, is done as
often as settlements have ended well for it. -/
lemma countP_eq_settledFor [Fintype ι] {results : ι → Except SettlementError Settlement}
    {p : Event SettlementCall.Answer → Bool}
    (h : ∀ i, (callsOf i log).countP p =
      if (results i).toOption.map (·.provider) = some provider then 1 else 0) :
    (log.map (·.2)).countP p = settledFor results provider := by
  rw [countP_eq_sum_callsOf, Finset.sum_congr rfl fun i _ => h i, Finset.sum_boole, Nat.cast_id]
  rfl

/-- A settlement writes into the row of its provider once if it ends well, and never else, if the
count can be read. -/
lemma Recorded.countP_recorded {t : SettlementTrace} {r : Except SettlementError Settlement}
    (h : Recorded t r) (hread : ∀ provider cause, ⟨.count provider, .error cause⟩ ∉ t)
    (provider : Address) :
    t.countP (recordedFor? · = some provider.checksummed) =
      if r.toOption.map (·.provider) = some provider then 1 else 0 := by
  have hzero : ∀ t : SettlementTrace, (∀ e ∈ t, isStoring e.1 = false) →
      t.countP (recordedFor? · = some provider.checksummed) = 0 := by
    intro t hstore
    refine List.countP_eq_zero.mpr fun e he => ?_
    simp [recordedFor?_eq_none (hstore e he)]
  cases h with
  | nothing hstore hwhy =>
    rcases hwhy with hnone | ⟨asked, cause, hmem⟩
    · rw [hzero _ hstore, hnone]
      rfl
    · exact absurd hmem (hread asked cause)
  | count hstore =>
    rw [List.countP_append, hzero _ hstore]
    simp [recordedFor?, List.countP_cons, Address.checksummed_inj, Except.toOption]

/-- When settlements that have gone on at the same time have all ended, with a store that does not
fail and a ledger that can be read and tells the truth, the count of a provider on the ledger and
the jobs in its row have both grown by the settlements that have ended well for it.  If there are
any, one of them was the last to write into the row, and the row shows the count on the ledger less
the credits that there have been since this one was told its count.  So the row is never ahead of
the ledger, and it is not behind if there have been none. -/
theorem row_of_last_recorder [Fintype ι] {row : Provider} (h : Books.Settles jobs first log b)
    (hup : first.store.isUnavailable = false)
    (hrow : first.store.providers.get? provider.checksummed = some row)
    {results : ι → Except SettlementError Settlement}
    (hruns : ∀ i, Runs (asking.settle (jobs i)) (callsOf i log) (results i)) :
    b.ledger.credits provider = first.ledger.credits provider + settledFor results provider ∧
    ∃ row', b.store.providers.get? provider.checksummed = some row' ∧
      row'.jobsCompleted = row.jobsCompleted + Int64.ofNat (settledFor results provider) ∧
      (settledFor results provider = 0 → row'.reputation = row.reputation) ∧
      (0 < settledFor results provider → ∃ i,
        (recorders provider log).getLast? = some i ∧
        (results i).toOption.map (·.provider) = some provider ∧
        ∃ m, m + overtakings provider i log = b.ledger.credits provider ∧
          row'.reputation.toInt = min (m : Int) (2 ^ 63 - 1)) := by
  have hledger : Settles jobs first.ledger log b.ledger :=
    h.map Books.ledger (fun _ _ _ _ hserves => hserves.ledger) fun _ _ => id
  have hcredited : (log.map (·.2)).countP (creditedBy · = some provider) =
      settledFor results provider :=
    countP_eq_settledFor fun i => (settled_of_runs (hruns i)).countP_credited provider
  have hrecorded : ∀ i, (callsOf i log).countP (recordedFor? · = some provider.checksummed) =
      if (results i).toOption.map (·.provider) = some provider then 1 else 0 :=
    fun i => (recorded_of_runs (hruns i)).countP_recorded (fun _ _ => h.not_unread) provider
  have hrecorders : (recorders provider log).length = settledFor results provider := by
    rw [recorders, List.length_map, ← List.countP_eq_length_filter,
      ← countP_eq_settledFor hrecorded, List.countP_map]
    rfl
  obtain ⟨-, hbehind, row', hrow', hshown⟩ := Kept.of_settles h hup hrow
  refine ⟨hcredited ▸ credits_of_settles hledger provider, row', hrow',
    hrecorders ▸ hshown.jobs_eq, fun hnone => ?_, fun hsome => ?_⟩
  · exact hshown.unwritten (List.eq_nil_of_length_eq_zero (hrecorders.trans hnone))
  · have hne : recorders provider log ≠ [] := List.ne_nil_of_length_pos (hrecorders ▸ hsome)
    have hlast := List.getLast?_eq_getLast_of_ne_nil hne
    obtain ⟨count, hlearned, hreputation⟩ := hshown.written _ hlast
    obtain ⟨m, rfl, hm⟩ := hbehind _ count hlearned
    refine ⟨_, hlast, ?_, m, hm, ?_⟩
    · obtain ⟨e, he, hfor, -⟩ := exists_isStoring_of_mem_recorders (List.getLast_mem hne)
      have hpos : 0 < (callsOf ((recorders provider log).getLast hne) log).countP
          (recordedFor? · = some provider.checksummed) :=
        List.countP_pos_iff.mpr ⟨e, he, decide_eq_true hfor⟩
      rw [hrecorded] at hpos
      by_contra hother
      exact absurd hpos (by simp [hother])
    · rw [hreputation, toInt_signedOfWord_word]

/-- A receipt of a credit that tells the count. -/
def countReceipt (count : UInt64) : SettlementReceipt := ⟨"0x1", some 100, true, some count⟩

/-- Two settlements credit the same provider one after the other, and then the second writes its
count into the row before the first does. -/
def overtakenSettlement : Interleaving SettlementCall.Answer Bool :=
  [(false, ⟨.provider default, .ok someProvider⟩), (true, ⟨.provider default, .ok someProvider⟩),
    (false, ⟨.acquire, ()⟩), (false, ⟨.submit someProvider, ()⟩),
    (false, ⟨.receipt someProvider, .ok (countReceipt 1)⟩), (false, ⟨.release, ()⟩),
    (true, ⟨.acquire, ()⟩), (true, ⟨.submit someProvider, ()⟩),
    (true, ⟨.receipt someProvider, .ok (countReceipt 2)⟩), (true, ⟨.release, ()⟩),
    (true, ⟨.clock, default⟩),
    (true, ⟨.store (.recordSettlement someProvider.checksummed 2 default), .ok true⟩),
    (false, ⟨.clock, default⟩),
    (false, ⟨.store (.recordSettlement someProvider.checksummed 1 default), .ok true⟩)]

/-- The row may be left behind the ledger: of two settlements that have credited a provider the
first has written last, and the row shows one credit where the ledger has two. -/
theorem row_behind_of_two :
    ∃ b, Books.Settles (fun _ => default) ⟨⟨false, fun _ => 0⟩, oneProvider⟩ overtakenSettlement b ∧
      (∀ i, Runs (asking.settle default) (callsOf i overtakenSettlement)
        (.ok ⟨Bytes.hex (default : Word), someProvider, countReceipt (if i then 2 else 1)⟩)) ∧
      b.ledger.credits someProvider = 2 ∧
      ∃ row', b.store.providers.get? someProvider.checksummed = some row' ∧
        row'.jobsCompleted = 2 ∧ row'.reputation = 1 := by
  have hruns : ∀ i, Runs (asking.settle default) (callsOf i overtakenSettlement)
      (.ok ⟨Bytes.hex (default : Word), someProvider, countReceipt (if i then 2 else 1)⟩)
    | false => .call _ (.call _ (.call _ (.call _ (.call _ (.call _ (.call _ (.here _)))))))
    | true => .call _ (.call _ (.call _ (.call _ (.call _ (.call _ (.call _ (.here _)))))))
  have hrow : ∀ (providers : Table Provider) (row : Provider),
      (providers.put someProvider.checksummed row).get? someProvider.checksummed = some row :=
    fun _ _ => (Table.get?_put ..).trans (if_pos rfl)
  have hserved : Protocol.Served Books.Serves ⟨⟨false, fun _ => 0⟩, oneProvider⟩
      (overtakenSettlement.map (·.2)) _ :=
    .cons (.silent (.resolved _ _ _) rfl rfl nofun)
      (.cons (.silent (.resolved _ _ _) rfl rfl nofun)
        (.cons (.silent (.acquired _ rfl) rfl rfl nofun)
          (.cons (.silent (.submitted _ _) rfl rfl nofun)
            (.cons (.credited rfl (by rintro _ ⟨⟩; decide))
              (.cons (.silent (.released _) rfl rfl nofun)
                (.cons (.silent (.acquired _ rfl) rfl rfl nofun)
                  (.cons (.silent (.submitted _ _) rfl rfl nofun)
                    (.cons (.credited rfl (by rintro _ ⟨⟩; decide))
                      (.cons (.silent (.released _) rfl rfl nofun)
                        (.cons (.silent (.told _ _) rfl rfl nofun)
                          (.cons (.recorded rfl (hrow _ _) 2 default)
                            (.cons (.silent (.told _ _) rfl rfl nofun)
                              (.cons (.recorded rfl (hrow _ _) 1 default) (.nil _))))))))))))))
  refine ⟨_, .of_served hserved fun i => ⟨_, hruns i⟩, hruns, ?_, _, hrow _ _, ?_, rfl⟩
  · simp
  · decide

end Settler

end ComputeExchange
