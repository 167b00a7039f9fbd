import ComputeExchange.Proofs.Interleaving

/-!
# Chronicles

An interleaving tells who has called what and how it was answered.  A chronicle tells more: with
each call the worlds before and after it, and what the caller has ended with if it was its last
call.  So what has become of the world can be set beside what the callers have been told.

`Chronicles.nodup_endings` says that nobody ends twice.
-/

namespace ComputeExchange

open Program

namespace Program

variable {Q : Type} {A : Q → Type} {α : Type}

/-- What a program has ended with. -/
def result? : Program A α → Option α
  | done a => some a
  | call _ _ => none

/-- A program that has ended with something is at its end. -/
lemma eq_done_of_result? {p : Program A α} {a : α} (h : p.result? = some a) : p = done a := by
  cases p with
  | done b => exact congrArg done (Option.some.inj h)
  | call q next => cases h

/-- A trace leads a program to one program only. -/
theorem Reaches.unique {p p' p'' : Program A α} {t : Trace A} (h : Reaches p t p')
    (h' : Reaches p t p'') : p' = p'' := by
  induction h with
  | here =>
    cases h'
    rfl
  | call answer _ ih =>
    cases h' with
    | call _ rest => exact ih rest

end Program

variable {Q W ι α : Type} {A : Q → Type}

/-- A call that one of several programs has made, and what has come of it. -/
structure Occurrence (A : Q → Type) (ι α W : Type) where
  caller : ι
  event : Event A
  /-- What the caller has ended with, if this was its last call. -/
  result : Option α
  before : W
  after : W

/-- Who has called what, without the worlds. -/
def interleaving (c : List (Occurrence A ι α W)) : Interleaving A ι :=
  c.map fun o => (o.caller, o.event)

/-- Who has ended with what, in order. -/
def endings (c : List (Occurrence A ι α W)) : List (ι × α) :=
  c.filterMap fun o => o.result.map fun a => (o.caller, a)

@[simp] lemma interleaving_append (c c' : List (Occurrence A ι α W)) :
    interleaving (c ++ c') = interleaving c ++ interleaving c' := List.map_append

@[simp] lemma endings_append (c c' : List (Occurrence A ι α W)) :
    endings (c ++ c') = endings c ++ endings c' := List.filterMap_append

lemma mem_endings_singleton {o : Occurrence A ι α W} {i : ι} {a : α} :
    (i, a) ∈ endings [o] ↔ o.caller = i ∧ o.result = some a := by
  cases hresult : o.result with
  | none => simp [endings, hresult]
  | some b => simp [endings, hresult, eq_comm]

section CallsOf

variable [DecidableEq ι] {i : ι} {o : Occurrence A ι α W} {c : List (Occurrence A ι α W)}

lemma callsOf_concat_self (h : o.caller = i) :
    callsOf i (interleaving (c ++ [o])) = callsOf i (interleaving c) ++ [o.event] := by
  subst h
  rw [interleaving_append, callsOf_append]
  exact congrArg _ callsOf_singleton_self

lemma callsOf_concat_of_ne (h : o.caller ≠ i) :
    callsOf i (interleaving (c ++ [o])) = callsOf i (interleaving c) := by
  rw [interleaving_append, callsOf_append]
  exact (congrArg _ (callsOf_singleton_of_ne h)).trans (List.append_nil _)

end CallsOf

/-- The chronicles of programs that share a world, with the worlds that they lead to: any of the
programs may make its next call, and the world may change by itself. -/
inductive Chronicles [DecidableEq ι] (serves : W → (q : Q) → A q → W → Prop)
    (drifts : W → W → Prop) (body : ι → Program A α) (first : W) :
    List (Occurrence A ι α W) → W → Prop where
  | begins : Chronicles serves drifts body first [] first
  | serve {c : List (Occurrence A ι α W)} {w w' : W} {i : ι} {q : Q} {next : A q → Program A α}
      {answer : A q} (h : Chronicles serves drifts body first c w)
      (hreaches : Reaches (body i) (callsOf i (interleaving c)) (.call q next))
      (hserves : serves w q answer w') :
      Chronicles serves drifts body first
        (c ++ [⟨i, ⟨q, answer⟩, (next answer).result?, w, w'⟩]) w'
  | drift {c : List (Occurrence A ι α W)} {w w' : W}
      (h : Chronicles serves drifts body first c w) (hdrifts : drifts w w') :
      Chronicles serves drifts body first c w'

namespace Chronicles

variable [DecidableEq ι] {serves : W → (q : Q) → A q → W → Prop} {drifts : W → W → Prop}
  {body : ι → Program A α} {first w : W} {c : List (Occurrence A ι α W)}

/-- Who has ended stays so. -/
theorem reaches_ending (h : Chronicles serves drifts body first c w) {i : ι} {a : α}
    (hend : (i, a) ∈ endings c) : Runs (body i) (callsOf i (interleaving c)) a := by
  induction h with
  | begins => cases hend
  | @serve c w w' j q next answer _ hreaches _ ih =>
    rw [endings_append, List.mem_append] at hend
    by_cases hij : j = i
    · subst hij
      rcases hend with hbefore | hnow
      · -- Who has ended makes no more calls.
        cases (ih hbefore).unique hreaches
      · obtain ⟨-, hresult⟩ := mem_endings_singleton.mp hnow
        rw [callsOf_concat_self (rfl : j = j)]
        refine hreaches.trans (.call answer ?_)
        rw [eq_done_of_result? hresult]
        exact .here _
    · rw [callsOf_concat_of_ne hij]
      rcases hend with hbefore | hnow
      · exact ih hbefore
      · exact absurd (mem_endings_singleton.mp hnow).1 hij
  | drift _ _ ih => exact ih hend

/-- Nobody ends twice. -/
theorem nodup_endings (h : Chronicles serves drifts body first c w) :
    ((endings c).map (·.1)).Nodup := by
  induction h with
  | begins => exact List.nodup_nil
  | @serve c w w' i q next answer hbefore hreaches _ ih =>
    rw [endings_append, List.map_append, List.nodup_append]
    refine ⟨ih, ?_, ?_⟩
    · cases hresult : next answer with
      | done a => exact List.nodup_singleton i
      | call q' next' => exact List.nodup_nil
    · rintro j hj k hk rfl
      obtain ⟨⟨j, b⟩, hend, rfl⟩ := List.mem_map.mp hj
      obtain ⟨⟨k, a⟩, hnow, rfl⟩ := List.mem_map.mp hk
      obtain ⟨rfl, -⟩ := mem_endings_singleton.mp hnow
      cases (hbefore.reaches_ending hend).unique hreaches
  | drift _ _ ih => exact ih

end Chronicles

end ComputeExchange
