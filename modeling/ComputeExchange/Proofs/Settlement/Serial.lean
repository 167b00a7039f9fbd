import ComputeExchange.Proofs.Interleaving
import ComputeExchange.Proofs.Settlement.Calls
import Mathlib.Data.List.Infix

/-!
# One submission at a time

Any number of settlements may go on at the same time.  They share a lock and a ledger, which
`World` keeps; all their other calls are answered in any way.

A settlement in flight, whose transaction is out and not yet answered, holds the lock
(`InFlight.holds`), and `Excluded` says that at most one holds it, and none while it is free; so at
most one is in flight.  What a settlement comes to is told by its own receipt (`Settled.account`),
and so the ledger grows by the settlements that end well.
-/

namespace ComputeExchange

namespace Settler

open Program

/-! ### The steps around the lock -/

/-- What a settlement does around the lock. -/
inductive LockStep where
  | acquire
  | submit
  | receipt
  | release
  deriving DecidableEq

/-- The step around the lock that a call is. -/
def lockStep? : Event SettlementCall.Answer → Option LockStep
  | ⟨.acquire, _⟩ => some .acquire
  | ⟨.submit _, _⟩ => some .submit
  | ⟨.receipt _, _⟩ => some .receipt
  | ⟨.release, _⟩ => some .release
  | _ => none

/-- The steps around the lock, in order. -/
def lockSteps (t : SettlementTrace) : List LockStep := t.filterMap lockStep?

/-- How many transactions a settlement has sent out. -/
def submissions (t : SettlementTrace) : ℕ := (lockSteps t).count .submit

/-- A transaction is out and has not been answered. -/
def InFlight (t : SettlementTrace) : Prop := (lockSteps t).count .receipt < submissions t

/-- The lock has been taken and not been released. -/
def Holds (t : SettlementTrace) : Prop :=
  (lockSteps t).count .release < (lockSteps t).count .acquire

lemma lockSteps_append (t t' : SettlementTrace) :
    lockSteps (t ++ t') = lockSteps t ++ lockSteps t' := List.filterMap_append

/-- Nothing is done around the lock while a count is copied. -/
lemma lockSteps_copying {t : SettlementTrace} (h : ∀ e ∈ t, isCopying e.1 = true) :
    lockSteps t = [] := by
  refine List.filterMap_eq_nil_iff.mpr fun e he => ?_
  obtain ⟨q, answer⟩ := e
  have hq := h _ he
  cases q <;> first | rfl | cases hq

/-- All that is done around the lock, in order. -/
def turn : List LockStep := [.acquire, .submit, .receipt, .release]

/-- A settlement does nothing around the lock, or takes its turn once. -/
lemma Settled.lockSteps_eq {job : Word} {t : SettlementTrace}
    {r : Except SettlementError Settlement} (h : Settled job t r) :
    lockSteps t = [] ∨ lockSteps t = turn := by
  cases h with
  | unresolved => exact Or.inl rfl
  | unknown => exact Or.inl rfl
  | submitted _ outcome hcopying =>
    rw [lockSteps_append, lockSteps_copying hcopying]
    exact Or.inr rfl

/-- At every moment a settlement has come some way of its turn. -/
lemma lockSteps_within_turn {job : Word} {t : SettlementTrace}
    {rest : Program SettlementCall.Answer (Except SettlementError Settlement)}
    (h : Reaches (asking.settle job) t rest) : lockSteps t <+: turn := by
  obtain ⟨t', r, hruns⟩ := h.exists_runs
  have hsteps := (settled_of_runs hruns).lockSteps_eq
  rw [lockSteps_append] at hsteps
  rcases hsteps with hnone | hturn
  · rw [(List.append_eq_nil_iff.mp hnone).1]
    exact List.nil_prefix
  · exact ⟨lockSteps t', hturn⟩

/-- How often each step has been made when a settlement has come some way of its turn. -/
lemma count_within_turn {l : List LockStep} (h : l <+: turn) :
    l.count .release ≤ l.count .acquire ∧ l.count .acquire ≤ 1 ∧ l.count .submit ≤ 1 ∧
      (l.count .receipt < l.count .submit → l.count .release < l.count .acquire) := by
  rw [← List.mem_inits] at h
  revert l
  decide

section Moment

variable {job : Word} {t : SettlementTrace}
  {rest : Program SettlementCall.Answer (Except SettlementError Settlement)}

/-- A settlement in flight holds the lock. -/
lemma InFlight.holds (h : InFlight t) (hreaches : Reaches (asking.settle job) t rest) : Holds t :=
  (count_within_turn (lockSteps_within_turn hreaches)).2.2.2 h

/-- A settlement submits at most once. -/
lemma submissions_le_one (h : Reaches (asking.settle job) t rest) : submissions t ≤ 1 :=
  (count_within_turn (lockSteps_within_turn h)).2.2.1

/-- Only who holds the lock releases it, and does not hold it any more. -/
lemma holds_of_release (h : (asking.settle job).Calls t .release) :
    Holds t ∧ ¬ Holds (t ++ [⟨.release, ()⟩]) := by
  obtain ⟨rest, hafter⟩ := h.reaches ()
  obtain ⟨hreleased, hacquired, -⟩ := count_within_turn (lockSteps_within_turn hafter)
  have hsteps : lockSteps (t ++ [⟨.release, ()⟩]) = lockSteps t ++ [.release] :=
    lockSteps_append t _
  unfold Holds
  rw [hsteps] at hreleased hacquired ⊢
  simp only [List.count_append, List.count_singleton] at hreleased hacquired ⊢
  have hne : (LockStep.release == .acquire) = false := rfl
  simp only [hne, beq_self_eq_true, if_true, Bool.false_eq_true, if_false] at hreleased hacquired ⊢
  omega

/-- Who neither takes the lock nor releases it holds it as before. -/
lemma holds_concat {e : Event SettlementCall.Answer} (hacquire : lockStep? e ≠ some .acquire)
    (hrelease : lockStep? e ≠ some .release) : Holds (t ++ [e]) ↔ Holds t := by
  have hcount : ∀ step, lockStep? e ≠ some step →
      (lockSteps (t ++ [e])).count step = (lockSteps t).count step := by
    intro step hstep
    rw [lockSteps_append, List.count_append, Nat.add_eq_left, List.count_eq_zero]
    simpa [lockSteps] using hstep
  unfold Holds
  rw [hcount _ hacquire, hcount _ hrelease]

end Moment

/-! ### What a settlement comes to -/

/-- What a settlement with these calls and this result has come to. -/
structure Account (job : Word) (t : SettlementTrace) (r : Except SettlementError Settlement) :
    Prop where
  /-- It ends well exactly if its own receipt tells of a success. -/
  settled : ∀ s : Settlement, r = .ok s ↔ s.job = job.hex ∧
    ⟨.receipt s.provider, .ok s.receipt⟩ ∈ t ∧ s.receipt.isSuccess = true
  /-- It ends as reverted exactly if its own receipt tells so. -/
  reverted : ∀ transaction, r = .error (.reverted job.hex transaction) ↔
    ∃ provider receipt, ⟨.receipt provider, .ok receipt⟩ ∈ t ∧ receipt.isSuccess = false ∧
      receipt.transaction = transaction
  /-- Nothing is submitted if the provider cannot be found out. -/
  unresolved : ∀ cause, ⟨.provider job, .error cause⟩ ∈ t →
    submissions t = 0 ∧ r = .error (.resolve job.hex cause)
  /-- Nothing is submitted for a job that is not known. -/
  unknown : ⟨.provider job, .ok (Bytes.zero 20)⟩ ∈ t →
    submissions t = 0 ∧ r = .error (.unknownJob job.hex)

/-- The provider that a call credits. -/
def creditedBy : Event SettlementCall.Answer → Option Address
  | ⟨.receipt provider, .ok receipt⟩ => if receipt.isSuccess then some provider else none
  | _ => none

/-- Nobody is credited while a count is copied. -/
lemma creditedBy_copying {e : Event SettlementCall.Answer} (h : isCopying e.1 = true) :
    creditedBy e = none := by
  obtain ⟨q, answer⟩ := e
  cases q with
  | count | clock | store => rfl
  | _ => cases h

/-- A submission that ends well has a receipt that tells of a success. -/
lemma conclusion_eq_ok_iff {job : Word} {provider : Address}
    {outcome : Except Cause SettlementReceipt} {s : Settlement} :
    conclusion job provider outcome = .ok s ↔ s.job = job.hex ∧ s.provider = provider ∧
      outcome = .ok s.receipt ∧ s.receipt.isSuccess = true := by
  cases outcome with
  | error cause => simp [conclusion]
  | ok receipt =>
    obtain ⟨settled, credited, told⟩ := s
    by_cases hsuccess : receipt.isSuccess = true
    · simp only [conclusion, if_pos hsuccess, Except.ok.injEq, Settlement.mk.injEq]
      constructor
      · rintro ⟨rfl, rfl, rfl⟩
        exact ⟨rfl, rfl, rfl, hsuccess⟩
      · rintro ⟨rfl, rfl, rfl, -⟩
        exact ⟨rfl, rfl, rfl⟩
    · simp only [conclusion, if_neg hsuccess, Except.ok.injEq]
      constructor
      · rintro ⟨⟩
      · rintro ⟨-, -, rfl, htold⟩
        exact absurd htold hsuccess

/-- A submission that ends as reverted has a receipt that tells so. -/
lemma conclusion_eq_reverted_iff {job : Word} {provider : Address}
    {outcome : Except Cause SettlementReceipt} {transaction : String} :
    conclusion job provider outcome = .error (.reverted job.hex transaction) ↔
      ∃ receipt, outcome = .ok receipt ∧ receipt.isSuccess = false ∧
        receipt.transaction = transaction := by
  cases outcome with
  | error cause => simp [conclusion]
  | ok receipt => by_cases hsuccess : receipt.isSuccess = true <;> simp [conclusion, hsuccess]

/-- While a count is copied there is no talk of providers and receipts. -/
lemma not_mem_copying {t : SettlementTrace} (h : ∀ e ∈ t, isCopying e.1 = true)
    {e : Event SettlementCall.Answer} (he : isCopying e.1 = false) : e ∉ t := by
  intro hmem
  rw [h e hmem] at he
  cases he

section Submitted

variable {job : Word} {provider : Address} {outcome : Except Cause SettlementReceipt}
  {copying : SettlementTrace} (hcopying : ∀ e ∈ copying, isCopying e.1 = true)

include hcopying

/-- The one receipt of a settlement that has submitted. -/
lemma receipt_mem_iff {provider' : Address} {receipt : SettlementReceipt} :
    ⟨.receipt provider', .ok receipt⟩ ∈
        ⟨.provider job, .ok provider⟩ :: submission provider outcome ++ copying ↔
      provider' = provider ∧ outcome = .ok receipt := by
  have hnot : ⟨.receipt provider', .ok receipt⟩ ∉ copying := not_mem_copying hcopying rfl
  simp [submission, hnot, eq_comm]

/-- The one provider that a settlement has found out. -/
lemma provider_mem_iff {found : Except Cause Address} :
    ⟨.provider job, found⟩ ∈
        ⟨.provider job, .ok provider⟩ :: submission provider outcome ++ copying ↔
      found = .ok provider := by
  have hnot : ⟨.provider job, found⟩ ∉ copying := not_mem_copying hcopying rfl
  simp [submission, hnot]

end Submitted

/-- The account of a settlement. -/
lemma Settled.account {job : Word} {t : SettlementTrace} {r : Except SettlementError Settlement}
    (h : Settled job t r) : Account job t r := by
  cases h with
  | unresolved cause =>
    refine ⟨by simp, by simp, fun cause' hmem => ?_, by simp⟩
    obtain rfl : cause' = cause := by simpa using hmem
    exact ⟨rfl, rfl⟩
  | unknown =>
    refine ⟨by simp, by simp, by simp, fun _ => ?_⟩
    exact ⟨rfl, rfl⟩
  | @submitted provider hknown outcome copying hcopying =>
    refine ⟨fun s => ?_, fun transaction => ?_, fun cause hmem => ?_, fun hmem => ?_⟩
    · rw [receipt_mem_iff hcopying, conclusion_eq_ok_iff]
      tauto
    · simp only [receipt_mem_iff hcopying, conclusion_eq_reverted_iff]
      constructor
      · rintro ⟨receipt, houtcome, hfailed, htransaction⟩
        exact ⟨provider, receipt, ⟨rfl, houtcome⟩, hfailed, htransaction⟩
      · rintro ⟨_, receipt, ⟨-, houtcome⟩, hfailed, htransaction⟩
        exact ⟨receipt, houtcome, hfailed, htransaction⟩
    · cases (provider_mem_iff hcopying).mp hmem
    · have hzero := (provider_mem_iff hcopying).mp hmem
      exact absurd (Except.ok.inj hzero).symm hknown

/-- A settlement credits its provider once if it ends well, and nobody otherwise. -/
lemma Settled.countP_credited {job : Word} {t : SettlementTrace}
    {r : Except SettlementError Settlement} (h : Settled job t r) (provider : Address) :
    t.countP (creditedBy · = some provider) =
      if r.toOption.map (·.provider) = some provider then 1 else 0 := by
  cases h with
  | unresolved => rfl
  | unknown => rfl
  | @submitted credited _ outcome copying hcopying =>
    have hcopied : copying.countP (creditedBy · = some provider) = 0 := by
      refine List.countP_eq_zero.mpr fun e he => ?_
      simp [creditedBy_copying (hcopying e he)]
    rw [List.countP_append, hcopied]
    cases outcome with
    | error cause => rfl
    | ok receipt =>
      by_cases hsuccess : receipt.isSuccess = true
      · simp [submission, creditedBy, conclusion, hsuccess, List.countP_cons, Except.toOption]
      · simp [submission, creditedBy, conclusion, hsuccess, Except.toOption]

/-! ### The shared world -/

/-- What all settlements share. -/
structure World where
  /-- Whether somebody holds the lock. -/
  isLocked : Bool
  /-- How many credits each provider has on the ledger. -/
  credits : Address → ℕ

namespace World

/-- How a call may be answered, and what it leaves behind.  The lock is given to one at a time, and
the ledger counts the credits whose receipts tell of a success. -/
inductive Serves : World → (q : SettlementCall) → q.Answer → World → Prop where
  | resolved (w : World) (job : Word) (found : Except Cause Address) :
      Serves w (.provider job) found w
  | acquired (w : World) (h : w.isLocked = false) : Serves w .acquire () { w with isLocked := true }
  | submitted (w : World) (provider : Address) : Serves w (.submit provider) () w
  | credited (w : World) (provider : Address) (receipt : SettlementReceipt)
      (h : receipt.isSuccess = true) :
      Serves w (.receipt provider) (.ok receipt)
        { w with credits := Function.update w.credits provider (w.credits provider + 1) }
  | uncredited (w : World) (provider : Address) (outcome : Except Cause SettlementReceipt)
      (h : ∀ receipt, outcome = .ok receipt → receipt.isSuccess = false) :
      Serves w (.receipt provider) outcome w
  | released (w : World) : Serves w .release () { w with isLocked := false }
  | counted (w : World) (provider : Address) (count : Except Cause UInt64) :
      Serves w (.count provider) count w
  | told (w : World) (now : Timestamp) : Serves w .clock now w
  | stored (w : World) (c : StoreCall) (answer : Except StoreError c.Answer) :
      Serves w (.store c) answer w

/-- The ledger counts who is credited. -/
lemma Serves.credits_eq {w w' : World} {q : SettlementCall} {answer : q.Answer}
    (h : Serves w q answer w') (provider : Address) :
    w'.credits provider = w.credits provider +
      if creditedBy ⟨q, answer⟩ = some provider then 1 else 0 := by
  cases h with
  | credited credited receipt hsuccess =>
    by_cases hsame : credited = provider
    · simp [creditedBy, hsuccess, hsame]
    · simp [creditedBy, hsuccess, hsame, Function.update_of_ne (Ne.symm hsame)]
  | uncredited credited outcome hfailed =>
    cases outcome with
    | error cause => rfl
    | ok receipt => simp [creditedBy, hfailed receipt rfl]
  | _ => rfl

end World

/-! ### Settlements side by side -/

variable {ι : Type} [DecidableEq ι] {jobs : ι → Word} {first w w' : World}
  {log : Interleaving SettlementCall.Answer ι} {i j : ι}

/-- The calls of settlements that go on at the same time, with the world that they lead to. -/
abbrev Settles (jobs : ι → Word) (first : World) :
    Interleaving SettlementCall.Answer ι → World → Prop :=
  Interleaves World.Serves (fun _ _ => False) (fun i => asking.settle (jobs i)) first

/-- At most one settlement holds the lock, and none while it is free. -/
structure Excluded (log : Interleaving SettlementCall.Answer ι) (w : World) : Prop where
  free : w.isLocked = false → ∀ i, ¬ Holds (callsOf i log)
  alone : ∀ i j, Holds (callsOf i log) → Holds (callsOf j log) → i = j

/-- Nobody but the caller takes or releases the lock. -/
lemma holds_of_ne {e : Event SettlementCall.Answer} (h : i ≠ j) :
    Holds (callsOf j (log ++ [(i, e)])) ↔ Holds (callsOf j log) := by
  rw [callsOf_append, callsOf_singleton_of_ne h, List.append_nil]

/-- A call that does not touch the lock leaves everything as it is. -/
lemma Excluded.of_same {e : Event SettlementCall.Answer} (h : Excluded log w)
    (hlock : w'.isLocked = w.isLocked) (hacquire : lockStep? e ≠ some .acquire)
    (hrelease : lockStep? e ≠ some .release) : Excluded (log ++ [(i, e)]) w' := by
  have hholds : ∀ j, Holds (callsOf j (log ++ [(i, e)])) ↔ Holds (callsOf j log) := by
    intro j
    by_cases hij : i = j
    · subst hij
      rw [callsOf_append, callsOf_singleton_self]
      exact holds_concat hacquire hrelease
    · exact holds_of_ne hij
  refine ⟨fun hfree j => ?_, fun j k hj hk => ?_⟩
  · rw [hholds j]
    exact h.free (hlock ▸ hfree) j
  · exact h.alone j k ((hholds j).mp hj) ((hholds k).mp hk)

/-- The next call of a settlement leaves the lock with one at most. -/
lemma Excluded.serve {q : SettlementCall} {answer : q.Answer} (h : Excluded log w)
    (hcalls : (asking.settle (jobs i)).Calls (callsOf i log) q)
    (hserves : World.Serves w q answer w') : Excluded (log ++ [(i, ⟨q, answer⟩)]) w' := by
  cases hserves with
  | acquired hopen =>
    -- Nobody held the lock before, so only the caller can hold it now.
    have honly : ∀ j, Holds (callsOf j (log ++ [(i, ⟨.acquire, ()⟩)])) → j = i := by
      intro j hj
      by_contra hne
      exact h.free hopen j ((holds_of_ne (Ne.symm hne)).mp hj)
    refine ⟨nofun, fun j k hj hk => ?_⟩
    exact (honly j hj).trans (honly k hk).symm
  | released =>
    -- The caller held the lock, so nobody else did.
    obtain ⟨hheld, hreleased⟩ := holds_of_release hcalls
    have hnone : ∀ j, ¬ Holds (callsOf j (log ++ [(i, ⟨.release, ()⟩)])) := by
      intro j hj
      by_cases hij : i = j
      · subst hij
        rw [callsOf_append, callsOf_singleton_self] at hj
        exact hreleased hj
      · exact hij (h.alone i j hheld ((holds_of_ne hij).mp hj))
    exact ⟨fun _ => hnone, fun j k hj _ => absurd hj (hnone j)⟩
  | _ => exact h.of_same rfl (by simp [lockStep?]) (by simp [lockStep?])

/-- What holds of settlements that have gone on at the same time. -/
lemma Excluded.of_settles (h : Settles jobs first log w) : Excluded log w := by
  induction h with
  | begins => exact ⟨fun _ _ => lt_irrefl 0, fun i _ hi => absurd hi (lt_irrefl 0)⟩
  | serve _ hcalls hserves ih => exact ih.serve hcalls hserves
  | drift _ hdrifts => exact hdrifts.elim

/-- The ledger has grown by the calls that credit. -/
lemma credits_of_settles (h : Settles jobs first log w) (provider : Address) :
    w.credits provider =
      first.credits provider + (log.map (·.2)).countP (creditedBy · = some provider) := by
  induction h with
  | begins => rfl
  | serve _ _ hserves ih =>
    rw [hserves.credits_eq, ih, List.map_append, List.countP_append, Nat.add_assoc]
    simp [List.countP_cons]
  | drift _ hdrifts => exact hdrifts.elim

/-- Of any settlements that go on at the same time at most one is in flight at every moment.  Each
submits once at most, and comes to what its own receipt tells; and when all have ended, the credits
of every provider have grown by as many as ended well for it. -/
theorem settled_one_at_a_time [Fintype ι] (h : Settles jobs first log w) :
    (∀ i j, InFlight (callsOf i log) → InFlight (callsOf j log) → i = j) ∧
    (∀ i, submissions (callsOf i log) ≤ 1) ∧
    (∀ i r, Runs (asking.settle (jobs i)) (callsOf i log) r →
      Account (jobs i) (callsOf i log) r) ∧
    ∀ results : ι → Except SettlementError Settlement,
      (∀ i, Runs (asking.settle (jobs i)) (callsOf i log) (results i)) → ∀ provider,
      w.credits provider = first.credits provider +
        (Finset.univ.filter fun i =>
          (results i).toOption.map (·.provider) = some provider).card := by
  have hexcluded := Excluded.of_settles h
  refine ⟨fun i j hi hj => ?_, fun i => ?_, fun i r hruns => ?_, fun results hruns provider => ?_⟩
  · obtain ⟨_, hreaches⟩ := h.reaches i
    obtain ⟨_, hreaches'⟩ := h.reaches j
    exact hexcluded.alone i j (hi.holds hreaches) (hj.holds hreaches')
  · obtain ⟨_, hreaches⟩ := h.reaches i
    exact submissions_le_one hreaches
  · exact (settled_of_runs hruns).account
  · calc w.credits provider
        = first.credits provider + (log.map (·.2)).countP (creditedBy · = some provider) :=
          credits_of_settles h provider
      _ = first.credits provider +
            ∑ i, (callsOf i log).countP (creditedBy · = some provider) := by
          rw [countP_eq_sum_callsOf]
      _ = first.credits provider +
            ∑ i, if (results i).toOption.map (·.provider) = some provider then 1 else 0 := by
          congr 1
          exact Finset.sum_congr rfl fun i _ =>
            (settled_of_runs (hruns i)).countP_credited provider
      _ = _ := by rw [Finset.sum_boole, Nat.cast_id]

/-- A transaction that has been reverted. -/
def revertReceipt : SettlementReceipt := ⟨"0x2", some 101, false, none⟩

/-- Two settlements find out the provider at once and take their turns. -/
def twoSettlements : Interleaving SettlementCall.Answer Bool :=
  [(false, ⟨.provider default, .ok someProvider⟩), (true, ⟨.provider default, .ok someProvider⟩),
    (false, ⟨.acquire, ()⟩), (false, ⟨.submit someProvider, ()⟩),
    (false, ⟨.receipt someProvider, .ok creditReceipt⟩), (false, ⟨.release, ()⟩),
    (true, ⟨.acquire, ()⟩), (true, ⟨.submit someProvider, ()⟩),
    (false, ⟨.count someProvider, .error default⟩),
    (true, ⟨.receipt someProvider, .ok revertReceipt⟩), (true, ⟨.release, ()⟩)]

/-- What the two settlements come to. -/
def twoResults : Bool → Except SettlementError Settlement
  | false => .ok ⟨Bytes.hex (default : Word), someProvider, creditReceipt⟩
  | true => .error (.reverted (Bytes.hex (default : Word)) "0x2")

/-- Of two settlements that go on at the same time one credits the provider, and the other is
reverted and does not. -/
theorem settled_one_at_a_time_of_two :
    ∃ w, Settles (fun _ => default) ⟨false, fun _ => 0⟩ twoSettlements w ∧
      (∀ i, Runs (asking.settle default) (callsOf i twoSettlements) (twoResults i)) ∧
      w.credits someProvider = 1 := by
  have hserved : Protocol.Served World.Serves ⟨false, fun _ => 0⟩ (twoSettlements.map (·.2)) _ :=
    .cons (.resolved _ _ _) (.cons (.resolved _ _ _) (.cons (.acquired _ rfl)
      (.cons (.submitted _ _) (.cons (.credited _ _ _ rfl) (.cons (.released _)
        (.cons (.acquired _ rfl) (.cons (.submitted _ _) (.cons (.counted _ _ _)
          (.cons (.uncredited _ _ _ (by simp [revertReceipt]))
            (.cons (.released _) (.nil _)))))))))))
  have hruns : ∀ i, Runs (asking.settle default) (callsOf i twoSettlements) (twoResults i)
    | false => .call _ (.call _ (.call _ (.call _ (.call _ (.call _ (.here _))))))
    | true => .call _ (.call _ (.call _ (.call _ (.call _ (.here _)))))
  have hsettles : Settles (fun _ => default) ⟨false, fun _ => 0⟩ twoSettlements _ :=
    .of_served hserved fun i => ⟨_, hruns i⟩
  obtain ⟨-, -, -, hcredits⟩ := settled_one_at_a_time hsettles
  exact ⟨_, hsettles, hruns, hcredits twoResults hruns someProvider⟩

end Settler

end ComputeExchange
