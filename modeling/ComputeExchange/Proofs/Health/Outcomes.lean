import ComputeExchange.Health.Outcomes
import Mathlib.Tactic

/-!
# Recent outcomes, recounted

One more outcome stands behind the others, and pushes the oldest out once as many are there as are
remembered (`Outcomes.Pushes`).  So the number of failures that is kept beside the outcomes stays
the one that a recount gives (`Outcomes.IsCounted.push`).  Another failure weighs on the outcomes
and another success relieves them, by the failures in a row as well as by the part of failures among
all, although either may push out what it likes (`Outcomes.IsCounted.le_push_false`,
`Outcomes.IsCounted.push_true_le`).
-/

namespace ComputeExchange.Health

namespace Outcomes

variable {o : Outcomes}

/-! ### One more outcome -/

/-- What one more outcome does to those before. -/
inductive Pushes (o : Outcomes) (ok : Bool) : Prop where
  | joins (hroom : o.window.length < outcomeLimit)
      (hpush : o.push ok = ⟨o.window ++ [ok], o.failures + if ok then 0 else 1⟩)
  | displaces {oldest : Bool} {rest : List Bool} (hbefore : o.window = oldest :: rest)
      (hfull : rest.length + 1 = outcomeLimit)
      (hpush : o.push ok =
        ⟨rest ++ [ok], (o.failures - if oldest then 0 else 1) + if ok then 0 else 1⟩)

/-- An outcome joins those before or displaces the oldest of them. -/
theorem pushes (h : o.window.length ≤ outcomeLimit) (ok : Bool) : o.Pushes ok := by
  rcases h.lt_or_eq with hroom | hfull
  · refine .joins hroom ?_
    unfold push evict
    rw [if_neg hroom.ne]
    cases ok <;> rfl
  · cases hbefore : o.window with
    | nil =>
      rw [hbefore] at hfull
      cases hfull
    | cons oldest rest =>
      refine .displaces hbefore (by rw [← hfull, hbefore, List.length_cons]) ?_
      unfold push evict
      rw [if_pos hfull, hbefore]
      cases oldest <;> cases ok <;> rfl

/-- Whether the failures are those among the outcomes, and these are no more than are remembered. -/
structure IsCounted (o : Outcomes) : Prop where
  failures_eq : o.failures = o.window.count false
  length_le : o.window.length ≤ outcomeLimit

lemma isCounted_empty : empty.IsCounted := ⟨rfl, Nat.zero_le _⟩

/-- However many outcomes come, a recount gives the number of failures that is kept. -/
theorem IsCounted.push (h : o.IsCounted) (ok : Bool) : (o.push ok).IsCounted := by
  have hcount := h.failures_eq
  cases pushes h.length_le ok with
  | joins hroom hpush =>
    rw [hpush]
    refine ⟨?_, ?_⟩
    · rw [List.count_append, hcount]
      cases ok <;> rfl
    · rw [List.length_append]
      exact hroom
  | @displaces oldest rest hbefore hfull hpush =>
    rw [hbefore] at hcount
    rw [hpush]
    refine ⟨?_, ?_⟩
    · rw [List.count_append, hcount]
      cases oldest <;> cases ok <;> simp
    · rw [List.length_append]
      exact hfull.le

/-! ### How failures weigh -/

/-- The part of failures among the outcomes, zero as long as there are none. -/
def failureRate (o : Outcomes) : ℚ := o.failures / o.window.length

/-- Whether the failures among some outcomes weigh no more than those among others. -/
structure IsNoWorse (o o' : Outcomes) : Prop where
  inRow : o.trailingFailures ≤ o'.trailingFailures
  rate : o.failureRate ≤ o'.failureRate

/-- One more at the end is at most one more that is taken. -/
lemma length_takeWhile_concat_le {α : Type} (p : α → Bool) (l : List α) (a : α) :
    ((l ++ [a]).takeWhile p).length ≤ (l.takeWhile p).length + 1 := by
  induction l with
  | nil => cases h : p a <;> simp [h]
  | cons b l ih =>
    cases h : p b with
    | false => simp [h]
    | true => simpa [h] using ih

/-- A failure goes on with the failures in a row. -/
lemma IsCounted.trailingFailures_le_push_false (h : o.IsCounted) :
    o.trailingFailures ≤ (o.push false).trailingFailures := by
  cases pushes h.length_le false with
  | joins _ hpush => simp [hpush, trailingFailures]
  | displaces hbefore _ hpush =>
    simpa [hpush, trailingFailures, hbefore] using length_takeWhile_concat_le _ _ _

/-- A success ends the failures in a row. -/
lemma IsCounted.trailingFailures_push_true (h : o.IsCounted) :
    (o.push true).trailingFailures = 0 := by
  cases pushes h.length_le true with
  | joins _ hpush => simp [hpush, trailingFailures]
  | displaces _ _ hpush => simp [hpush, trailingFailures]

/-- A failure does not lower the part of failures. -/
lemma IsCounted.failureRate_le_push_false (h : o.IsCounted) :
    o.failureRate ≤ (o.push false).failureRate := by
  unfold failureRate
  cases pushes h.length_le false with
  | joins _ hpush =>
    have hle : (o.failures : ℚ) ≤ o.window.length := by
      rw [h.failures_eq]
      exact_mod_cast List.count_le_length
    have hlength : ((o.window ++ [false]).length : ℚ) = o.window.length + 1 := by simp
    simp only [hpush, hlength, Nat.cast_add]
    rcases (Nat.cast_nonneg o.window.length : (0 : ℚ) ≤ _).eq_or_lt with hnone | hsome
    · rw [← hnone, div_zero]
      positivity
    · rw [div_le_div_iff₀ hsome (by positivity)]
      push_cast
      linear_combination hle
  | @displaces oldest rest hbefore _ hpush =>
    have hfailures : o.failures ≤ (o.failures - if oldest then 0 else 1) + 1 := by
      cases oldest <;> simp
      omega
    have hlength : (rest ++ [false]).length = o.window.length := by simp [hbefore]
    simp only [hpush, hlength]
    gcongr
    exact hfailures

/-- A success does not raise the part of failures. -/
lemma IsCounted.failureRate_push_true_le (h : o.IsCounted) :
    (o.push true).failureRate ≤ o.failureRate := by
  unfold failureRate
  cases pushes h.length_le true with
  | joins _ hpush =>
    have hlength : ((o.window ++ [true]).length : ℚ) = o.window.length + 1 := by simp
    simp only [hpush, hlength, if_true, Nat.add_zero]
    rcases (Nat.cast_nonneg o.window.length : (0 : ℚ) ≤ _).eq_or_lt with hnone | hsome
    · -- Of no outcomes none are failures.
      have hempty : o.window = [] := List.length_eq_zero_iff.mp (by exact_mod_cast hnone.symm)
      simp [h.failures_eq, hempty]
    · exact div_le_div_of_nonneg_left (by positivity) hsome (by linarith)
  | @displaces oldest rest hbefore _ hpush =>
    have hlength : (rest ++ [true]).length = o.window.length := by simp [hbefore]
    simp only [hpush, hlength, if_true, Nat.add_zero]
    gcongr
    exact Nat.sub_le _ _

/-- One more failure weighs no less. -/
theorem IsCounted.le_push_false (h : o.IsCounted) : o.IsNoWorse (o.push false) :=
  ⟨h.trailingFailures_le_push_false, h.failureRate_le_push_false⟩

/-- After one more success failures weigh no more. -/
theorem IsCounted.push_true_le (h : o.IsCounted) : (o.push true).IsNoWorse o :=
  ⟨h.trailingFailures_push_true ▸ Nat.zero_le _, h.failureRate_push_true_le⟩

end Outcomes

end ComputeExchange.Health
