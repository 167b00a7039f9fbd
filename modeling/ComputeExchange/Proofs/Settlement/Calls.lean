import ComputeExchange.Proofs.Program
import ComputeExchange.Settlement.Engine

/-!
# The calls of settlement

`Settler.asking` is the settler over programs: its ledgers, its store, its clock and its lock are
calls, and nothing is known of their answers.  A credit is two calls, `submit`, with which the
transaction goes out, and `receipt`, which waits for what comes of it.

`Settled` tells the shape of the traces of a settlement, with their results, and `settled_of_runs`
says that there are no others.
-/

namespace ComputeExchange

/-- What settlement asks of its surroundings. -/
inductive SettlementCall : Type where
  | provider (job : Word)
  | acquire
  | submit (provider : Address)
  | receipt (provider : Address)
  | release
  | count (provider : Address)
  | clock
  | store (c : StoreCall)

/-- What each call is answered with. -/
abbrev SettlementCall.Answer : SettlementCall → Type
  | .provider _ => Except Cause Address
  | .acquire => Unit
  | .submit _ => Unit
  | .receipt _ => Except Cause SettlementReceipt
  | .release => Unit
  | .count _ => Except Cause UInt64
  | .clock => Timestamp
  | .store c => Except StoreError c.Answer

instance SettlementCall.nonempty_answer (q : SettlementCall) : Nonempty q.Answer := by
  cases q with
  | provider => exact ⟨.error default⟩
  | acquire => exact ⟨()⟩
  | submit => exact ⟨()⟩
  | receipt => exact ⟨.error default⟩
  | release => exact ⟨()⟩
  | count => exact ⟨.error default⟩
  | clock => exact ⟨default⟩
  | store => exact ⟨.error .unavailable⟩

/-- What settlement has called, with the answers. -/
abbrev SettlementTrace : Type := Program.Trace SettlementCall.Answer

namespace Settler

open Program

/-- The settler whose surroundings are calls. -/
def asking : Settler (Program SettlementCall.Answer) where
  jobs := ⟨fun job => ask (A := SettlementCall.Answer) (.provider job)⟩
  reputation :=
    { increment := fun provider => do
        ask (A := SettlementCall.Answer) (.submit provider)
        ask (A := SettlementCall.Answer) (.receipt provider)
      jobsCompleted := fun provider => ask (A := SettlementCall.Answer) (.count provider) }
  store := ⟨fun c => ask (A := SettlementCall.Answer) (.store c)⟩
  clock := ask (A := SettlementCall.Answer) .clock
  lock :=
    { acquire := ask (A := SettlementCall.Answer) .acquire
      release := ask (A := SettlementCall.Answer) .release }

/-- The calls of a submission, with what has come of it. -/
def submission (provider : Address) (outcome : Except Cause SettlementReceipt) : SettlementTrace :=
  [⟨.acquire, ()⟩, ⟨.submit provider, ()⟩, ⟨.receipt provider, outcome⟩, ⟨.release, ()⟩]

/-- Whether a call belongs to the copying of a count. -/
def isCopying : SettlementCall → Bool
  | .count _ => true
  | .clock => true
  | .store _ => true
  | _ => false

/-- What a settlement ends with, by what has come of its submission. -/
def conclusion (job : Word) (provider : Address) :
    Except Cause SettlementReceipt → Except SettlementError Settlement
  | .error cause => .error (.submit job.hex provider cause)
  | .ok receipt =>
    if receipt.isSuccess then .ok ⟨job.hex, provider, receipt⟩
    else .error (.reverted job.hex receipt.transaction)

/-- The traces of the settlement of a job, with their results: there is no provider to credit, or it
is credited once, and then a count is copied, or nothing is. -/
inductive Settled (job : Word) : SettlementTrace → Except SettlementError Settlement → Prop where
  | unresolved (cause : Cause) :
      Settled job [⟨.provider job, .error cause⟩] (.error (.resolve job.hex cause))
  | unknown : Settled job [⟨.provider job, .ok (Bytes.zero 20)⟩] (.error (.unknownJob job.hex))
  | submitted {provider : Address} (hknown : provider ≠ Bytes.zero 20)
      (outcome : Except Cause SettlementReceipt) {copying : SettlementTrace}
      (hcopying : ∀ e ∈ copying, isCopying e.1 = true) :
      Settled job (⟨.provider job, .ok provider⟩ :: submission provider outcome ++ copying)
        (conclusion job provider outcome)

/-! ### The parts -/

/-- Submitting makes the calls of a submission. -/
lemma runs_submit {provider : Address} {t : SettlementTrace}
    {outcome : Except Cause SettlementReceipt} :
    Runs (asking.submit provider) t outcome ↔ t = submission provider outcome := by
  constructor
  · intro h
    cases h with
    | call _ h =>
      cases h with
      | call _ h =>
        cases h with
        | call answer h =>
          cases h with
          | call _ h =>
            cases h
            rfl
  · rintro rfl
    exact .call _ (.call _ (.call _ (.call _ (.here _))))

/-- Copying a count makes no other calls than those of the copying. -/
lemma isCopying_of_copy {provider : Address} {count : UInt64} {t : SettlementTrace}
    (h : Runs (asking.copy provider count) t ()) : ∀ e ∈ t, isCopying e.1 = true := by
  cases h with
  | call now h =>
    cases h with
    | call answer h =>
      cases h
      simp [isCopying]

/-- Copying the count of the chain makes no other calls than those of the copying. -/
lemma isCopying_of_reflect {provider : Address} {reported : Option UInt64} {t : SettlementTrace}
    (h : Runs (asking.reflect provider reported) t ()) : ∀ e ∈ t, isCopying e.1 = true := by
  cases reported with
  | some count => exact isCopying_of_copy h
  | none =>
    obtain ⟨t₁, answer, t₂, rfl, hread, hrest⟩ := runs_bind.mp h
    obtain rfl := runs_ask.mp hread
    cases answer with
    | error cause =>
      obtain ⟨rfl, -⟩ := runs_pure.mp hrest
      simp [isCopying]
    | ok count =>
      rw [List.singleton_append, List.forall_mem_cons]
      exact ⟨rfl, isCopying_of_copy hrest⟩

/-- What is left of a settlement once its transaction has been answered. -/
def concluding (job : Word) (provider : Address) : Except Cause SettlementReceipt →
    Program SettlementCall.Answer (Except SettlementError Settlement)
  | .error cause => pure (.error (.submit job.hex provider cause))
  | .ok receipt =>
    if receipt.isSuccess then do
      asking.reflect provider receipt.newCount
      return .ok ⟨job.hex, provider, receipt⟩
    else pure (.error (.reverted job.hex receipt.transaction))

/-- A settlement finds no provider, or submits and goes on with what has come of it. -/
lemma runs_settle_cases {job : Word} {t : SettlementTrace}
    {r : Except SettlementError Settlement} (h : Runs (asking.settle job) t r) :
    (∃ cause, t = [⟨.provider job, .error cause⟩] ∧ r = .error (.resolve job.hex cause)) ∨
    (t = [⟨.provider job, .ok (Bytes.zero 20)⟩] ∧ r = .error (.unknownJob job.hex)) ∨
    ∃ provider outcome rest, provider ≠ Bytes.zero 20 ∧
      t = ⟨.provider job, .ok provider⟩ :: submission provider outcome ++ rest ∧
      Runs (concluding job provider outcome) rest r := by
  obtain ⟨t₁, resolved, t₂, rfl, hresolve, hrest⟩ := runs_bind.mp h
  obtain rfl := runs_ask.mp hresolve
  cases resolved with
  | error cause =>
    obtain ⟨rfl, rfl⟩ := runs_pure.mp hrest
    exact Or.inl ⟨cause, rfl, rfl⟩
  | ok provider =>
    change Runs (if provider = Bytes.zero 20 then pure (.error (.unknownJob job.hex))
      else asking.submit provider >>= concluding job provider) t₂ r at hrest
    by_cases hzero : provider = Bytes.zero 20
    · rw [if_pos hzero] at hrest
      obtain ⟨rfl, rfl⟩ := runs_pure.mp hrest
      rw [hzero]
      exact Or.inr (Or.inl ⟨rfl, rfl⟩)
    · rw [if_neg hzero] at hrest
      obtain ⟨t₃, outcome, rest, rfl, hsubmit, hafter⟩ := runs_bind.mp hrest
      obtain rfl := runs_submit.mp hsubmit
      exact Or.inr (Or.inr ⟨provider, outcome, rest, hzero, rfl, hafter⟩)

/-- A settlement has one of its traces. -/
theorem settled_of_runs {job : Word} {t : SettlementTrace}
    {r : Except SettlementError Settlement} (h : Runs (asking.settle job) t r) :
    Settled job t r := by
  rcases runs_settle_cases h with
    ⟨cause, rfl, rfl⟩ | ⟨rfl, rfl⟩ | ⟨provider, outcome, copying, hknown, rfl, hafter⟩
  · exact .unresolved cause
  · exact .unknown
  obtain ⟨hcopying, rfl⟩ : (∀ e ∈ copying, isCopying e.1 = true) ∧
      r = conclusion job provider outcome := by
    unfold concluding at hafter
    unfold conclusion
    cases outcome with
    | error cause =>
      obtain ⟨rfl, rfl⟩ := runs_pure.mp hafter
      exact ⟨by simp, rfl⟩
    | ok receipt =>
      by_cases hsuccess : receipt.isSuccess = true
      · simp only [if_pos hsuccess] at hafter ⊢
        obtain ⟨copying, _, t₄, rfl, hreflect, hend⟩ := runs_bind.mp hafter
        obtain ⟨rfl, rfl⟩ := runs_pure.mp hend
        rw [List.append_nil]
        exact ⟨isCopying_of_reflect hreflect, rfl⟩
      · simp only [if_neg hsuccess] at hafter ⊢
        obtain ⟨rfl, rfl⟩ := runs_pure.mp hafter
        exact ⟨by simp, rfl⟩
  exact .submitted hknown outcome hcopying

/-! ### Examples -/

/-- The provider of a job. -/
def someProvider : Address := Bytes.fill 20 0x11

/-- The receipt of a transaction that has credited a provider, and does not tell the count. -/
def creditReceipt : SettlementReceipt := ⟨"0x1", some 100, true, none⟩

end Settler

end ComputeExchange
