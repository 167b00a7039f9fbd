import ComputeExchange.Proofs.Health.Outcomes
import Mathlib.Data.List.DropRight

/-!
# Outcomes that came one after another

What is remembered of a history of outcomes is its end: the last hundred of them, in order
(`Outcomes.window_ofHistory`).  One more outcome is put behind those that are remembered, and the
last hundred of these are the last hundred of all (`rtake_rtake_concat`).  The failures at the end
of the history are therefore told as far as a hundred outcomes reach
(`Outcomes.trailingFailures_ofHistory`).
-/

namespace ComputeExchange.Health

/-! ### The end of a list -/

section End

variable {α : Type} (l : List α) (n : ℕ)

/-- One more element at the end of a list is all that its end has to be told. -/
lemma rtake_rtake_concat (a : α) : (l.rtake n ++ [a]).rtake n = (l ++ [a]).rtake n := by
  simp only [List.rtake_eq_reverse_take_reverse, List.reverse_concat, List.reverse_reverse]
  cases n with
  | zero => rfl
  | succ n =>
    -- The new element takes one place, so that one fewer of the others is needed.
    have hfewer : (l.reverse.take (n + 1)).take n = l.reverse.take n := by
      rw [List.take_take, Nat.min_eq_left n.le_succ]
    rw [List.take_succ_cons, List.take_succ_cons, hfewer]

/-- Of a list that is cut off, no more is taken than is left. -/
lemma length_takeWhile_take (p : α → Bool) :
    ((l.take n).takeWhile p).length = min n (l.takeWhile p).length := by
  induction l generalizing n with
  | nil => simp
  | cons a l ih =>
    cases n with
    | zero => simp
    | succ n =>
      rw [List.take_succ_cons]
      cases h : p a with
      | false => simp [h]
      | true => simp [h, ih, Nat.succ_min_succ]

end End

namespace Outcomes

variable {o : Outcomes}

/-- What is remembered of outcomes that come one after another. -/
def ofHistory (history : List Bool) : Outcomes := history.foldl push empty

@[simp] lemma ofHistory_nil : ofHistory [] = empty := rfl

lemma ofHistory_concat (history : List Bool) (ok : Bool) :
    ofHistory (history ++ [ok]) = (ofHistory history).push ok :=
  List.foldl_concat ..

/-- One more outcome is put behind the others, and of all these the last ones are remembered. -/
lemma window_push (h : o.window.length ≤ outcomeLimit) (ok : Bool) :
    (o.push ok).window = (o.window ++ [ok]).rtake outcomeLimit := by
  cases pushes h ok with
  | joins hroom hpush =>
    have hall : (o.window ++ [ok]).length - outcomeLimit = 0 := by
      rw [List.length_append, List.length_singleton]
      omega
    rw [hpush, List.rtake, hall, List.drop_zero]
  | @displaces oldest rest hbefore hfull hpush =>
    have hrest : (oldest :: rest).rtake rest.length = rest := by
      rw [List.rtake, List.length_cons, Nat.add_sub_cancel_left, List.drop_one, List.tail_cons]
    rw [hpush, hbefore, ← hfull, List.rtake_concat_succ, hrest]

/-- After any history a recount gives the number of failures that is kept. -/
lemma isCounted_ofHistory (history : List Bool) : (ofHistory history).IsCounted := by
  induction history using List.reverseRecOn with
  | nil => exact isCounted_empty
  | append_singleton history ok ih =>
    rw [ofHistory_concat]
    exact ih.push ok

/-- The last outcomes of a history are remembered. -/
theorem window_ofHistory (history : List Bool) :
    (ofHistory history).window = history.rtake outcomeLimit := by
  induction history using List.reverseRecOn with
  | nil => rfl
  | append_singleton history ok ih =>
    rw [ofHistory_concat, window_push (isCounted_ofHistory history).length_le, ih,
      rtake_rtake_concat]

/-- The failures at the end of a history are told as far as is remembered. -/
theorem trailingFailures_ofHistory (history : List Bool) :
    (ofHistory history).trailingFailures =
      min outcomeLimit (history.rtakeWhile (!·)).length := by
  rw [trailingFailures, window_ofHistory, List.rtake_eq_reverse_take_reverse, List.reverse_reverse,
    length_takeWhile_take, List.rtakeWhile, List.length_reverse]

/-- If the failures are those among the outcomes, their part lies between none and all. -/
lemma IsCounted.failureRate_mem (h : o.IsCounted) : 0 ≤ o.failureRate ∧ o.failureRate ≤ 1 := by
  have hle : (o.failures : ℚ) ≤ o.window.length := by
    rw [h.failures_eq]
    exact_mod_cast List.count_le_length
  unfold failureRate
  exact ⟨by positivity, div_le_one_of_le₀ hle (by positivity)⟩

/-- Of any history the last hundred outcomes are remembered, in order.  The number of failures is
the number of those among them, so that there is one to take off whenever a failure is the oldest of
them, and the part of failures lies between none and all; the failures in a row are those at the end
of the history, up to a hundred. -/
theorem remembers_last_hundred (history : List Bool) :
    (ofHistory history).window = history.rtake 100 ∧
    (ofHistory history).window.length = min history.length 100 ∧
    (ofHistory history).failures = (ofHistory history).window.count false ∧
    ((ofHistory history).window.head? = some false → 1 ≤ (ofHistory history).failures) ∧
    (0 ≤ (ofHistory history).failureRate ∧ (ofHistory history).failureRate ≤ 1) ∧
    (ofHistory history).trailingFailures = min 100 (history.rtakeWhile (!·)).length := by
  have hwindow := window_ofHistory history
  have hcounted := isCounted_ofHistory history
  refine ⟨hwindow, ?_, hcounted.failures_eq, ?_, hcounted.failureRate_mem,
    trailingFailures_ofHistory history⟩
  · rw [hwindow, List.rtake, List.length_drop, outcomeLimit]
    omega
  · intro holdest
    rw [hcounted.failures_eq]
    exact List.count_pos_iff.mpr (List.mem_of_mem_head? holdest)

/-- Failures that lie further back than a hundred outcomes are forgotten. -/
example : (ofHistory (List.replicate 10 false ++ List.replicate 100 true)).failures = 0 := by
  decide +kernel

end Outcomes

end ComputeExchange.Health
