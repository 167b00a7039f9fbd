import ComputeExchange.Proofs.Health.Outcomes
import ComputeExchange.Proofs.Health.Position

/-!
# Better and worse reports

The report on a service goes by a chain of checks, and the first that is met decides.  Its status is
as grave as the gravest check that is met (`Tracker.severity_assess`), and so it rises with what is
checked (`Tracker.IsNoWorse.severity_le`).  A failure makes what is checked no better and a pass
that ends well makes it no worse, whatever has been told before (`Tracker.report_monotone`).
-/

namespace ComputeExchange.Health

/-- How grave a status is. -/
def Status.severity : Status → Nat
  | .healthy => 0
  | .degraded => 1
  | .unhealthy => 2

/-- A rate is exceeded by the parts that are greater, as fractions. -/
lemma Rate.isExceeded_iff {rate : Rate} (h : 0 < rate.denominator) (failures total : Nat) :
    rate.isExceeded failures total = true ↔
      (rate.numerator : ℚ) / rate.denominator < (failures : ℚ) / total := by
  have hdenominator : (0 : ℚ) < rate.denominator := by exact_mod_cast h
  unfold isExceeded
  rcases Nat.eq_zero_or_pos total with rfl | htotal
  · rw [if_pos rfl, Nat.cast_zero, div_zero, div_lt_iff₀ hdenominator, zero_mul,
      decide_eq_true_iff]
    exact_mod_cast Iff.rfl
  · have hpos : (0 : ℚ) < total := by exact_mod_cast htotal
    rw [if_neg htotal.ne', div_lt_div_iff₀ hdenominator hpos, decide_eq_true_iff]
    exact_mod_cast Iff.rfl

namespace Tracker

variable {t t' : Tracker} {now : Timestamp}

/-! ### The checks -/

/-- Passes fail if too many failed in a row, or if the part of failures among the latest exceeds the
rate. -/
lemma isFailing_iff {inRow : Nat} {rate : Rate} (h : 0 < rate.denominator) :
    t.isFailing inRow rate = true ↔
      inRow ≤ t.outcomes.trailingFailures ∨
        (rate.numerator : ℚ) / rate.denominator < t.outcomes.failureRate := by
  rw [isFailing, Bool.or_eq_true, decide_eq_true_iff, Rate.isExceeded_iff h]
  rfl

/-- Where failures weigh more, passes fail all the more. -/
lemma isFailing_mono {inRow : Nat} {rate : Rate} (h : 0 < rate.denominator)
    (houtcomes : t.outcomes.IsNoWorse t'.outcomes) (hfailing : t.isFailing inRow rate = true) :
    t'.isFailing inRow rate = true := by
  rw [isFailing_iff h] at hfailing ⊢
  exact hfailing.imp (fun hrow => hrow.trans houtcomes.inRow) fun hrate =>
    hrate.trans_le houtcomes.rate

/-- Whether a service is beyond hope: a task has stopped, or it is too far behind its chain. -/
def isLost (t : Tracker) : Bool := !t.failedTasks.isEmpty || t.config.unhealthyLag < t.lag

/-- Whether a service does so badly that it is unhealthy unless it has just been started. -/
def isBroken (t : Tracker) (now : Timestamp) : Bool :=
  t.isFailing t.config.unhealthyConsecutiveErrors t.config.unhealthyErrorRate ||
    t.isIdleFor now t.config.unhealthyStale

/-- Whether a service does not do as well as it should. -/
def isStrained (t : Tracker) (now : Timestamp) : Bool :=
  t.config.degradedLag < t.lag ||
    (t.isFailing t.config.degradedConsecutiveErrors t.config.degradedErrorRate ||
      t.isIdleFor now t.config.degradedStale)

/-- The status of a report is as grave as the gravest check that is met. -/
lemma severity_assess (t : Tracker) (now : Timestamp) :
    (t.assess now).1.severity =
      if t.isLost then 2
      else if t.isBroken now then if t.uptime now < t.config.startupGrace then 1 else 2
      else if t.isStrained now then 1
      else 0 := by
  unfold assess
  by_cases htasks : t.failedTasks.isEmpty = true
  · by_cases hlag : t.config.unhealthyLag < t.lag
    · simp [isLost, htasks, hlag, Status.severity]
    · have hlost : t.isLost = false := by simp [isLost, htasks, hlag]
      simp only [htasks, hlag, hlost, Bool.not_true, Bool.false_eq_true, if_false]
      change (if t.isBroken now then _ else _ : Status × Option Reason).1.severity = _
      by_cases hbroken : t.isBroken now = true
      · rw [if_pos hbroken, if_pos hbroken]
        split_ifs <;> rfl
      · rw [if_neg hbroken, if_neg hbroken]
        by_cases hbehind : t.config.degradedLag < t.lag
        · simp [isStrained, hbehind, Status.severity]
        · simp only [isStrained, hbehind, if_false, decide_false, Bool.false_or]
          split_ifs <;> simp_all [Status.severity]
  · simp [isLost, htasks, Status.severity]

/-- Whether one service does no worse than another that has been running for as long, by every
check. -/
structure IsNoWorse (t t' : Tracker) (now : Timestamp) : Prop where
  started : t.started = t'.started
  config : t.config = t'.config
  failedTasks : t.failedTasks = t'.failedTasks
  lag : t.lag = t'.lag
  outcomes : t.outcomes.IsNoWorse t'.outcomes
  idle : ∀ limit, t.isIdleFor now limit = true → t'.isIdleFor now limit = true

/-- Whether the rates of a configuration are fractions. -/
structure HasRates (t : Tracker) : Prop where
  unhealthy : 0 < t.config.unhealthyErrorRate.denominator
  degraded : 0 < t.config.degradedErrorRate.denominator

lemma IsNoWorse.isBroken (h : t.IsNoWorse t' now) (hrate : t.HasRates)
    (hbroken : t.isBroken now = true) : t'.isBroken now = true := by
  unfold Tracker.isBroken at hbroken ⊢
  rw [Bool.or_eq_true] at hbroken ⊢
  rw [← h.config]
  exact hbroken.imp (isFailing_mono hrate.unhealthy h.outcomes) (h.idle _)

lemma IsNoWorse.isStrained (h : t.IsNoWorse t' now) (hrate : t.HasRates)
    (hstrained : t.isStrained now = true) : t'.isStrained now = true := by
  unfold Tracker.isStrained at hstrained ⊢
  rw [Bool.or_eq_true, Bool.or_eq_true] at hstrained ⊢
  rw [← h.config, ← h.lag]
  exact hstrained.imp id (.imp (isFailing_mono hrate.degraded h.outcomes) (h.idle _))

/-- A service that does no worse has no graver report. -/
theorem IsNoWorse.severity_le (h : t.IsNoWorse t' now) (hrate : t.HasRates) :
    (t.report now).status.severity ≤ (t'.report now).status.severity := by
  change (t.assess now).1.severity ≤ (t'.assess now).1.severity
  have hlost : t'.isLost = t.isLost := by
    unfold Tracker.isLost
    rw [h.failedTasks, h.config, h.lag]
  have huptime : t'.uptime now = t.uptime now := by
    unfold Tracker.uptime
    rw [h.started]
  have hbroken := h.isBroken hrate
  have hstrained := h.isStrained hrate
  rw [severity_assess, severity_assess, hlost, huptime, ← h.config]
  split_ifs <;> simp_all

/-! ### What is told -/

/-- A tracker that is told some things, one after another, each at some time. -/
def recordAll (t : Tracker) (told : List (Timestamp × Event)) : Tracker :=
  told.foldl (fun t e => t.record e.1 e.2) t

variable {told : List (Timestamp × Event)}

/-- The limits stay. -/
lemma config_recordAll : (t.recordAll told).config = t.config := by
  induction told generalizing t with
  | nil => rfl
  | cons e told ih => exact ih.trans (config_record t e.1 e.2)

/-- The task that has stopped, if this is what is told. -/
def stopped? : Event → Option String
  | .taskFailure task _ => some task
  | _ => none

/-- What is told once adds the task that has stopped to those before. -/
lemma failedTasks_record (t : Tracker) (now : Timestamp) (e : Event) :
    (t.record now e).failedTasks = t.failedTasks ++ (stopped? e).toList := by
  cases e <;> simp [record, stopped?]

/-- The outcomes that are kept stay counted. -/
lemma isCounted_record (h : t.outcomes.IsCounted) (now : Timestamp) (e : Event) :
    (t.record now e).outcomes.IsCounted := by
  cases e with
  | progress block => exact h.push true
  | error text => exact h.push false
  | _ => exact h

lemma isCounted_recordAll (h : t.outcomes.IsCounted) : (t.recordAll told).outcomes.IsCounted := by
  induction told generalizing t with
  | nil => exact h
  | cons e told ih => exact ih (isCounted_record h e.1 e.2)

/-- A failed pass makes a service do no better. -/
lemma isNoWorse_error (h : t.outcomes.IsCounted) (now : Timestamp) (text : String) :
    t.IsNoWorse (t.record now (.error text)) now where
  started := rfl
  config := rfl
  failedTasks := rfl
  lag := rfl
  outcomes := h.le_push_false
  idle _ hidle := hidle

/-- Right after progress there is no lack of it. -/
lemma isIdleFor_progress (t : Tracker) (now : Timestamp) (block : Option UInt64) (limit : Nat) :
    (t.record now (.progress block)).isIdleFor now limit = false := by
  simp [isIdleFor, record]

/-- A pass that ends well makes a service do no worse. -/
lemma progress_isNoWorse (h : t.outcomes.IsCounted) (now : Timestamp) :
    (t.record now (.progress none)).IsNoWorse t now where
  started := rfl
  config := rfl
  failedTasks := rfl
  lag := rfl
  outcomes := h.push_true_le
  idle limit hidle := by
    rw [isIdleFor_progress] at hidle
    cases hidle

/-- Once a task has stopped, the report says so for good. -/
lemma assess_of_failedTasks (h : t.failedTasks ≠ []) (now : Timestamp) :
    t.assess now = (.unhealthy, some .taskStopped) := by
  unfold assess
  rw [if_pos (by simpa using h)]

/-- A stopped task is not forgotten. -/
lemma failedTasks_recordAll_ne_nil (h : t.failedTasks ≠ []) :
    (t.recordAll told).failedTasks ≠ [] := by
  induction told generalizing t with
  | nil => exact h
  | cons e told ih =>
    refine ih (t := t.record e.1 e.2) ?_
    rw [failedTasks_record]
    exact List.append_ne_nil_of_left_ne_nil h _

/-- Whatever has been told of a service, another failed pass never makes the report at that time
better, and another pass that ends well, without a block, never makes it worse; and once a task has
stopped, every later report says that the service is unhealthy for this reason.  Failures are
compared with two fifths and one fifth as fractions. -/
theorem report_monotone (service : String) (range : UInt64) (began : Timestamp)
    (told : List (Timestamp × Event)) :
    let t := (start service (.forRange range) began).recordAll told
    (∀ now text, (t.report now).status.severity ≤
      ((t.record now (.error text)).report now).status.severity) ∧
    (∀ now, ((t.record now (.progress none)).report now).status.severity ≤
      (t.report now).status.severity) ∧
    (∀ stopped task text later now,
      let t' := (t.record stopped (.taskFailure task text)).recordAll later
      (t'.report now).status = .unhealthy ∧ (t'.report now).reason = some .taskStopped) ∧
    (t.isFailing t.config.unhealthyConsecutiveErrors t.config.unhealthyErrorRate = true ↔
      5 ≤ t.outcomes.trailingFailures ∨
        (2 / 5 : ℚ) < t.outcomes.failures / t.outcomes.window.length) ∧
    (t.isFailing t.config.degradedConsecutiveErrors t.config.degradedErrorRate = true ↔
      3 ≤ t.outcomes.trailingFailures ∨
        (1 / 5 : ℚ) < t.outcomes.failures / t.outcomes.window.length) := by
  intro t
  have hconfig : t.config = .forRange range := config_recordAll
  have hcounted : t.outcomes.IsCounted := isCounted_recordAll Outcomes.isCounted_empty
  have hrates : t.HasRates := by
    constructor
    · rw [hconfig]
      exact Nat.succ_pos 4
    · rw [hconfig]
      exact Nat.succ_pos 4
  have hrates' : ∀ now, (t.record now (.progress none)).HasRates := fun now => ⟨hrates.1, hrates.2⟩
  refine ⟨fun now text => (isNoWorse_error hcounted now text).severity_le hrates,
    fun now => (progress_isNoWorse hcounted now).severity_le (hrates' now), ?_, ?_, ?_⟩
  · intro stopped task text later now t'
    have hstopped : t'.failedTasks ≠ [] := failedTasks_recordAll_ne_nil (by simp [record])
    have hassess := assess_of_failedTasks hstopped now
    exact ⟨congrArg Prod.fst hassess, congrArg Prod.snd hassess⟩
  · rw [isFailing_iff hrates.unhealthy, hconfig]
    norm_num [Config.forRange]
    rfl
  · rw [isFailing_iff hrates.degraded, hconfig]
    norm_num [Config.forRange]
    rfl

end Tracker

end ComputeExchange.Health
