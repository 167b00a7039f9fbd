import ComputeExchange.Time.Timestamp
import Mathlib.Tactic

/-!
# The order of time

Instants are ordered by `Timestamp.before`; one instant is at most another if the other is not
before it.  Outside leap seconds the order is that of nanoseconds, and every number of nanoseconds
between the earliest and the latest instant belongs to one (`Timestamp.exists_ofNanos?`).
-/

namespace ComputeExchange.Timestamp

instance : LE Timestamp := ⟨fun a b => b.before a = false⟩

/-- What it means for an instant to be at most another. -/
lemma le_iff {a b : Timestamp} :
    a ≤ b ↔ a.seconds < b.seconds ∨ a.seconds = b.seconds ∧ a.nanos ≤ b.nanos := by
  change (b.before a = false) ↔ _
  rw [before, Bool.or_eq_false_iff, Bool.and_eq_false_iff, decide_eq_false_iff_not,
    decide_eq_false_iff_not, beq_eq_false_iff_ne]
  omega

instance : Preorder Timestamp where
  le_refl a := le_iff.mpr (Or.inr ⟨rfl, le_refl a.nanos⟩)
  le_trans a b c hab hbc := by
    rw [le_iff] at hab hbc ⊢
    omega

/-! ### Nanoseconds -/

/-- An instant outside leap seconds. -/
def IsRegular (t : Timestamp) : Prop := t.nanos < nanosPerSecond

variable {a b t : Timestamp} {n : Int}

lemma sinceEpoch_eq (t : Timestamp) : t.sinceEpoch = t.seconds * 1000000000 + t.nanos := rfl

lemma sinceEpoch_earliest : earliest.sinceEpoch = -8334601228800 * 1000000000 := rfl

lemma sinceEpoch_latest : latest.sinceEpoch = 8210266876799 * 1000000000 + 999999999 := rfl

lemma IsRegular.nanos_lt_second (h : t.IsRegular) : t.nanos < 1000000000 := h

lemma before_iff (ha : a.IsRegular) (hb : b.IsRegular) :
    a.before b = true ↔ a.sinceEpoch < b.sinceEpoch := by
  have hfirst := ha.nanos_lt_second
  have hsecond := hb.nanos_lt_second
  rw [before, Bool.or_eq_true, Bool.and_eq_true, decide_eq_true_iff, decide_eq_true_iff, beq_iff_eq,
    sinceEpoch_eq, sinceEpoch_eq]
  omega

lemma le_iff_sinceEpoch_le (ha : a.IsRegular) (hb : b.IsRegular) :
    a ≤ b ↔ a.sinceEpoch ≤ b.sinceEpoch := by
  rw [← Int.not_lt, ← before_iff hb ha, Bool.not_eq_true]
  exact Iff.rfl

lemma earliest_le (t : Timestamp) : earliest.sinceEpoch ≤ t.sinceEpoch := by
  have hfirst := t.first_le
  rw [sinceEpoch_earliest, sinceEpoch_eq]
  omega

lemma IsRegular.le_latest (h : t.IsRegular) : t.sinceEpoch ≤ latest.sinceEpoch := by
  have hlast := t.le_last
  have hnanos := h.nanos_lt_second
  rw [sinceEpoch_latest, sinceEpoch_eq]
  omega

/-- Between the earliest and the latest instant, every number of nanoseconds belongs to one. -/
lemma exists_ofNanos? (hfirst : earliest.sinceEpoch ≤ n) (hlast : n ≤ latest.sinceEpoch) :
    ∃ t, ofNanos? n = some t ∧ t.IsRegular ∧ t.sinceEpoch = n := by
  rw [sinceEpoch_earliest] at hfirst
  rw [sinceEpoch_latest] at hlast
  have hnanos : (n % 1000000000).toNat < 1000000000 := by omega
  have hrange : (-8334601228800 ≤ n / 1000000000 ∧ n / 1000000000 ≤ 8210266876799) ∧
      (n % 1000000000).toNat < 2 * 1000000000 ∧
      (1000000000 ≤ (n % 1000000000).toNat → n / 1000000000 % 60 = 59) := by
    omega
  refine ⟨_, dif_pos hrange, hnanos, ?_⟩
  rw [sinceEpoch_eq]
  change n / 1000000000 * 1000000000 + ((n % 1000000000).toNat : Int) = n
  omega

/-- Nothing before the earliest instant can be represented. -/
lemma ofNanos?_eq_none (h : n < earliest.sinceEpoch) : ofNanos? n = none := by
  rw [sinceEpoch_earliest] at h
  refine dif_neg fun hrange => ?_
  have hfirst : -8334601228800 ≤ n / 1000000000 := hrange.1.1
  omega

end ComputeExchange.Timestamp
