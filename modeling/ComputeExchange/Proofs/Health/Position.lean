import ComputeExchange.Health.Tracker
import Mathlib.Tactic

/-!
# The position that a tracker knows

A tracker keeps two numbers of the chain it is told of: the head, and the block up to which the
service has got.  Each is the last one that it was told, and nothing else changes them
(`Tracker.Hears.chainHead_eq`, `Tracker.Hears.lastProcessedBlock_eq`).  The report on a service
whose tasks all run says that it lags behind its chain exactly if the one exceeds the other by more
than the limit (`Tracker.report_lags_iff`).
-/

namespace ComputeExchange

namespace Clamp

/-- A word as a signed word is the lesser of it and the greatest one. -/
lemma toInt_signedOfWord (w : UInt64) :
    (signedOfWord w).toInt = min (w.toNat : Int) Int64.maxValue.toInt := by
  have hmin := Int64.toInt_minValue
  have hmax := Int64.toInt_maxValue
  rw [signedOfWord, toInt_signed]
  omega

end Clamp

namespace Health

/-- The block up to which a service has got, if this is what is told. -/
def Event.block? : Event → Option UInt64
  | .progress block => block
  | _ => none

/-- The head of the chain, if this is what is told. -/
def Event.head? : Event → Option UInt64
  | .head block => some block
  | _ => none

/-- Whether something that is told is not about the position on the chain. -/
def Event.IsAside (e : Event) : Prop := e.block? = none ∧ e.head? = none

namespace Tracker

/-- A tracker is told some things one after another, each at some time, and between them others tell
it what is not about the position on the chain. -/
inductive Hears : Tracker → List Event → Tracker → Prop where
  | nil (t : Tracker) : Hears t [] t
  | told {t t' : Tracker} {e : Event} {es : List Event} (now : Timestamp)
      (rest : Hears (t.record now e) es t') : Hears t (e :: es) t'
  | aside {t t' : Tracker} {e : Event} {es : List Event} (now : Timestamp) (haside : e.IsAside)
      (rest : Hears (t.record now e) es t') : Hears t es t'

variable {t t' : Tracker} {es : List Event}

/-- What is told once changes the head only if it is one. -/
lemma chainHead_record (t : Tracker) (now : Timestamp) (e : Event) :
    (t.record now e).chainHead = (e.head?.map Clamp.signedOfWord).or t.chainHead := by
  cases e <;> rfl

/-- What is told once changes the block only if it is one. -/
lemma lastProcessedBlock_record (t : Tracker) (now : Timestamp) (e : Event) :
    (t.record now e).lastProcessedBlock =
      (e.block?.map Clamp.signedOfWord).or t.lastProcessedBlock := by
  cases e <;> rfl

/-- The limits do not change. -/
lemma config_record (t : Tracker) (now : Timestamp) (e : Event) :
    (t.record now e).config = t.config := by
  cases e <;> rfl

/-- The last of some values, of which the first may be missing. -/
lemma getLast?_or_eq {α β : Type} (f : α → β) (first : Option α) (rest : List α)
    (fallback : Option β) :
    (rest.getLast?.map f).or ((first.map f).or fallback) =
      ((first.toList ++ rest).getLast?.map f).or fallback := by
  rw [List.getLast?_append]
  cases rest.getLast? <;> cases first <;> rfl

/-- What is told first stands before the rest. -/
lemma filterMap_cons_toList {α β : Type} (f : α → Option β) (a : α) (l : List α) :
    (a :: l).filterMap f = (f a).toList ++ l.filterMap f := by
  cases h : f a <;> simp [h]

/-- The head is the last one that was told. -/
theorem Hears.chainHead_eq (h : t.Hears es t') :
    t'.chainHead = ((es.filterMap Event.head?).getLast?.map Clamp.signedOfWord).or t.chainHead := by
  induction h with
  | nil => rfl
  | told now _ ih => rw [ih, chainHead_record, filterMap_cons_toList, getLast?_or_eq]
  | aside now haside _ ih =>
    rw [ih, chainHead_record, haside.2]
    rfl

/-- The block is the last one that was told. -/
theorem Hears.lastProcessedBlock_eq (h : t.Hears es t') :
    t'.lastProcessedBlock =
      ((es.filterMap Event.block?).getLast?.map Clamp.signedOfWord).or t.lastProcessedBlock := by
  induction h with
  | nil => rfl
  | told now _ ih => rw [ih, lastProcessedBlock_record, filterMap_cons_toList, getLast?_or_eq]
  | aside now haside _ ih =>
    rw [ih, lastProcessedBlock_record, haside.1]
    rfl

/-- The limits stay, whatever is told. -/
lemma Hears.config_eq (h : t.Hears es t') : t'.config = t.config := by
  induction h with
  | nil => rfl
  | told now _ ih => rw [ih, config_record]
  | aside now _ _ ih => rw [ih, config_record]

/-! ### The report -/

/-- The report says that a service lags behind its chain exactly if none of its tasks has stopped
and the lag exceeds the limit. -/
theorem report_lags_iff (t : Tracker) (now : Timestamp) :
    ((t.report now).status = .unhealthy ∧ (t.report now).reason = some .chainLag) ↔
      t.failedTasks = [] ∧ t.config.unhealthyLag < t.lag := by
  unfold report assess
  by_cases htasks : t.failedTasks = []
  · by_cases hlag : t.config.unhealthyLag < t.lag
    · simp [htasks, hlag]
    · -- None of the later checks gives this reason.
      simp only [htasks, hlag, List.isEmpty_nil, Bool.not_true, Bool.false_eq_true, if_false]
      split_ifs <;> simp
  · have hsome : t.failedTasks.isEmpty = false := by simpa using htasks
    simp [htasks, hsome]

/-- The limit of a service that covers some blocks in one pass is no negative number. -/
lemma unhealthyLag_forRange_nonneg (range : UInt64) :
    0 ≤ (Config.forRange range).unhealthyLag.toInt := by
  have hmin := Int64.toInt_minValue
  have hmax := Int64.toInt_maxValue
  have hrange := Clamp.toInt_signedOfWord range
  change 0 ≤ (Clamp.signed ((Clamp.signedOfWord range).toInt * 3)).toInt
  rw [Clamp.toInt_signed]
  omega

/-- A head that fits a signed word is ahead of a block by more than a limit exactly if the lag that
is reckoned from the clamped numbers exceeds the limit. -/
lemma lt_lag_iff {head block : UInt64} {limit : Int64} (hlimit : 0 ≤ limit.toInt)
    (hhead : (head.toNat : Int) ≤ Int64.maxValue.toInt)
    (hknown : t.chainHead = some (Clamp.signedOfWord head))
    (hreached : t.lastProcessedBlock = some (Clamp.signedOfWord block)) :
    limit < t.lag ↔ limit.toInt < (head.toNat : Int) - block.toNat := by
  have hmin := Int64.toInt_minValue
  have hmax := Int64.toInt_maxValue
  rw [Int64.lt_iff_toInt_lt, lag, hknown, hreached]
  simp only [Clamp.toInt_signed, Clamp.toInt_signedOfWord]
  omega

/-- A tracker that has not been told of any block knows of no lag. -/
lemma not_lt_lag {limit : Int64} (hlimit : 0 ≤ limit.toInt) (hnone : t.lastProcessedBlock = none) :
    ¬ limit < t.lag := by
  have hlag : t.lag = 0 := by
    rw [lag, hnone]
    cases t.chainHead <;> rfl
  rw [hlag, Int64.lt_iff_toInt_lt, Int64.toInt_zero]
  omega

end Tracker

end Health

end ComputeExchange
