import ComputeExchange.Proofs.Protocol
import Mathlib.Algebra.BigOperators.Group.Finset.Basic

/-!
# Interleavings

Programs that share a world make their calls in any order.  An `Interleaving` keeps who called what
and how it was answered, and `Interleaves` says which ones there are and to which worlds they lead.

The part of one program is a trace of that program (`Interleaves.reaches`), so what is known of the
traces of a program alone is known of its part in every interleaving.
-/

namespace ComputeExchange

open Program

variable {Q W ι : Type} {A : Q → Type} {R : ι → Type}

/-- Calls with their answers, in order, each with the one who called. -/
abbrev Interleaving (A : Q → Type) (ι : Type) : Type := List (ι × Event A)

/-- The calls of one among those of all. -/
def callsOf [DecidableEq ι] (i : ι) (log : Interleaving A ι) : Trace A :=
  (log.filter (·.1 = i)).map (·.2)

section CallsOf

variable [DecidableEq ι] {i j : ι} {e : Event A} {log log' : Interleaving A ι}

@[simp] lemma callsOf_nil : callsOf i ([] : Interleaving A ι) = [] := rfl

@[simp] lemma callsOf_append : callsOf i (log ++ log') = callsOf i log ++ callsOf i log' := by
  simp [callsOf]

@[simp] lemma callsOf_singleton_self : callsOf i ([(i, e)] : Interleaving A ι) = [e] := by
  simp [callsOf]

lemma callsOf_singleton_of_ne (h : j ≠ i) : callsOf i ([(j, e)] : Interleaving A ι) = [] := by
  simp [callsOf, h]

lemma callsOf_subset : callsOf i log ⊆ log.map (·.2) :=
  List.map_subset _ List.filter_sublist.subset

lemma callsOf_cons_self : callsOf i ((i, e) :: log) = e :: callsOf i log := by
  simp [callsOf]

lemma callsOf_cons_of_ne (h : j ≠ i) : callsOf i ((j, e) :: log) = callsOf i log := by
  simp [callsOf, h]

lemma mem_callsOf : e ∈ callsOf i log ↔ (i, e) ∈ log := by
  simp [callsOf]

/-- A call of one is made somewhere, after its calls before it and before those after it. -/
lemma exists_split_of_callsOf {t t' : Trace A} (h : callsOf i log = t ++ e :: t') :
    ∃ before after, log = before ++ (i, e) :: after ∧ callsOf i before = t ∧
      callsOf i after = t' := by
  induction log generalizing t with
  | nil => simp at h
  | cons c log ih =>
    obtain ⟨j, e'⟩ := c
    by_cases hij : j = i
    · subst hij
      rw [callsOf_cons_self] at h
      cases t with
      | nil =>
        obtain ⟨rfl, rfl⟩ := List.cons.inj h
        exact ⟨[], log, rfl, rfl, rfl⟩
      | cons e'' t =>
        obtain ⟨rfl, hlog⟩ := List.cons.inj h
        obtain ⟨before, after, rfl, hbefore, hafter⟩ := ih hlog
        exact ⟨(j, e') :: before, after, rfl, by rw [callsOf_cons_self, hbefore], hafter⟩
    · rw [callsOf_cons_of_ne hij] at h
      obtain ⟨before, after, rfl, hbefore, hafter⟩ := ih h
      exact ⟨(j, e') :: before, after, rfl, (callsOf_cons_of_ne hij).trans hbefore, hafter⟩

/-- What only the calls of one give is counted among its calls. -/
lemma count_filterMap_callsOf {β : Type} [DecidableEq β] {f : Event A → Option β} {b : β}
    (h : ∀ c ∈ log, f c.2 = some b → c.1 = i) :
    ((log.map (·.2)).filterMap f).count b = ((callsOf i log).filterMap f).count b := by
  induction log with
  | nil => rfl
  | cons c log ih =>
    obtain ⟨j, e⟩ := c
    rw [List.forall_mem_cons] at h
    have hlog := ih h.2
    by_cases hij : j = i
    · subst hij
      rw [callsOf_cons_self, List.map_cons]
      cases he : f e with
      | none => rw [List.filterMap_cons_none he, List.filterMap_cons_none he, hlog]
      | some b' =>
        rw [List.filterMap_cons_some he, List.filterMap_cons_some he, List.count_cons,
          List.count_cons, hlog]
    · rw [callsOf_cons_of_ne hij, List.map_cons, ← hlog]
      cases he : f e with
      | none => rw [List.filterMap_cons_none he]
      | some b' =>
        have hne : b' ≠ b := fun heq => hij (h.1 (he.trans (congrArg some heq)))
        rw [List.filterMap_cons_some he, List.count_cons_of_ne hne]

/-- What all have called is counted by counting for each what it has called. -/
lemma countP_eq_sum_callsOf [Fintype ι] (p : Event A → Bool) (log : Interleaving A ι) :
    (log.map (·.2)).countP p = ∑ i, (callsOf i log).countP p := by
  induction log with
  | nil => simp
  | cons c log ih =>
    obtain ⟨j, e⟩ := c
    have hcons : ∀ i, (callsOf i ((j, e) :: log)).countP p =
        (if j = i then if p e then 1 else 0 else 0) + (callsOf i log).countP p := by
      intro i
      by_cases hij : j = i
      · simp [callsOf, hij, List.countP_cons, Nat.add_comm]
      · simp [callsOf, hij]
    simp only [hcons, Finset.sum_add_distrib, Finset.sum_ite_eq, Finset.mem_univ, if_true]
    rw [List.map_cons, List.countP_cons, ih, Nat.add_comm]

end CallsOf

/-- The calls that programs make from a world on, with the world they lead to: any of the programs
may make its next call, and the world may change by itself. -/
inductive Interleaves [DecidableEq ι] (serves : W → (q : Q) → A q → W → Prop)
    (drifts : W → W → Prop) (body : (i : ι) → Program A (R i)) (first : W) :
    Interleaving A ι → W → Prop where
  | begins : Interleaves serves drifts body first [] first
  | serve {log : Interleaving A ι} {w w' : W} {i : ι} {q : Q} {answer : A q}
      (h : Interleaves serves drifts body first log w)
      (hcalls : (body i).Calls (callsOf i log) q) (hserves : serves w q answer w') :
      Interleaves serves drifts body first (log ++ [(i, ⟨q, answer⟩)]) w'
  | drift {log : Interleaving A ι} {w w' : W} (h : Interleaves serves drifts body first log w)
      (hdrifts : drifts w w') : Interleaves serves drifts body first log w'

namespace Interleaves

variable [DecidableEq ι] {serves : W → (q : Q) → A q → W → Prop} {drifts : W → W → Prop}
  {body : (i : ι) → Program A (R i)} {first : W} {log : Interleaving A ι} {w : W}

/-- The calls of each program are a trace of the program. -/
theorem reaches (h : Interleaves serves drifts body first log w) (i : ι) :
    ∃ rest, Reaches (body i) (callsOf i log) rest := by
  induction h with
  | begins => exact ⟨_, .here _⟩
  | @serve log w w' j q answer _ hcalls _ ih =>
    by_cases hij : j = i
    · subst hij
      rw [callsOf_append, callsOf_singleton_self]
      exact hcalls.reaches answer
    · rw [callsOf_append, callsOf_singleton_of_ne hij, List.append_nil]
      exact ih
  | drift _ _ ih => exact ih

/-- A world that does not change by itself answers the calls one after another. -/
theorem served (h : Interleaves serves drifts body first log w) (hstill : ∀ w w', ¬ drifts w w') :
    Protocol.Served serves first (log.map (·.2)) w := by
  induction h with
  | begins => exact .nil _
  | serve _ _ hserves ih =>
    rw [List.map_append]
    exact ih.append (.cons hserves (.nil _))
  | drift _ hdrifts _ => exact absurd hdrifts (hstill _ _)

/-- Calls that the world answers one after another go on with an interleaving of programs if the
calls of each are still a trace of it. -/
theorem append_of_served {log' : Interleaving A ι} {w' : W}
    (h : Interleaves serves drifts body first log w)
    (hserved : Protocol.Served serves w (log'.map (·.2)) w')
    (hreaches : ∀ i, ∃ rest, Reaches (body i) (callsOf i (log ++ log')) rest) :
    Interleaves serves drifts body first (log ++ log') w' := by
  induction log' using List.reverseRecOn generalizing w' with
  | nil =>
    cases hserved
    rwa [List.append_nil]
  | append_singleton log' c ih =>
    obtain ⟨i, q, answer⟩ := c
    rw [List.map_append] at hserved
    obtain ⟨w₁, hbefore, hlast⟩ := hserved.of_concat
    rw [← List.append_assoc] at hreaches ⊢
    have hcalls : (body i).Calls (callsOf i (log ++ log')) q := by
      obtain ⟨rest, h⟩ := hreaches i
      rw [callsOf_append, callsOf_singleton_self] at h
      exact .of_reaches h
    refine (ih hbefore fun j => ?_).serve hcalls hlast
    obtain ⟨rest, h⟩ := hreaches j
    rw [callsOf_append] at h
    obtain ⟨rest', h', -⟩ := h.of_append
    exact ⟨rest', h'⟩

/-- Calls that the world answers one after another are an interleaving of programs if the calls of
each are a trace of it. -/
theorem of_served (hserved : Protocol.Served serves first (log.map (·.2)) w)
    (hreaches : ∀ i, ∃ rest, Reaches (body i) (callsOf i log) rest) :
    Interleaves serves drifts body first log w :=
  (Interleaves.begins.append_of_served hserved hreaches : Interleaves _ _ _ _ ([] ++ log) w)

/-- What is seen of a world is a world for the same programs, if it shows how the calls are answered
and how the world changes by itself. -/
theorem map {W' : Type} {serves' : W' → (q : Q) → A q → W' → Prop} {drifts' : W' → W' → Prop}
    (view : W → W')
    (hserves : ∀ w q answer w', serves w q answer w' → serves' (view w) q answer (view w'))
    (hdrifts : ∀ w w', drifts w w' → drifts' (view w) (view w'))
    (h : Interleaves serves drifts body first log w) :
    Interleaves serves' drifts' body (view first) log (view w) := by
  induction h with
  | begins => exact .begins
  | serve _ hcalls hserved ih => exact ih.serve hcalls (hserves _ _ _ _ hserved)
  | drift _ hdrifted ih => exact ih.drift (hdrifts _ _ hdrifted)

end Interleaves

end ComputeExchange
