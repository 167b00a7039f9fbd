import ComputeExchange.Proofs.Program

/-!
# Interpretation of programs

A program is interpreted where its calls are performed, by whatever performs them
(`Program.interpret`).  Where they are programs again, over other calls, the program is expanded:
each of its calls becomes all that is called to answer it, and `runs_interpret` says that the runs
of the expanded program are the runs of the program with each call so replaced.
-/

namespace ComputeExchange

namespace Program

variable {Q : Type} {A : Q → Type} {α β : Type}

/-- Nothing is changed by ending with the result that a program has. -/
lemma map_id_program (p : Program A α) : id <$> p = p := by
  induction p with
  | done a => rfl
  | call q next ih => exact congrArg (call q) (funext ih)

/-- It does not matter how programs that follow one another are bracketed. -/
lemma bind_bind_program {γ : Type} (p : Program A α) (f : α → Program A β) (g : β → Program A γ) :
    p >>= f >>= g = p >>= fun a => f a >>= g := by
  induction p with
  | done a => rfl
  | call q next ih => exact congrArg (call q) (funext ih)

instance : LawfulMonad (Program A) :=
  LawfulMonad.mk' (Program A) map_id_program (fun _ _ => rfl) bind_bind_program

variable {m : Type → Type} [Monad m]

/-- Performs a program, call by call. -/
def interpret (σ : (q : Q) → m (A q)) : Program A α → m α
  | .done a => pure a
  | .call q next => σ q >>= fun answer => (next answer).interpret σ

variable (σ : (q : Q) → m (A q))

@[simp] theorem interpret_pure (a : α) : (pure a : Program A α).interpret σ = pure a := rfl

@[simp] theorem interpret_bind [LawfulMonad m] (p : Program A α) (f : α → Program A β) :
    (p >>= f).interpret σ = p.interpret σ >>= fun a => (f a).interpret σ := by
  induction p with
  | done a => exact (pure_bind a fun a => (f a).interpret σ).symm
  | call q next ih =>
    calc (call q next >>= f).interpret σ
        = σ q >>= fun answer => (next answer >>= f).interpret σ := rfl
      _ = σ q >>= fun answer => (next answer).interpret σ >>= fun a => (f a).interpret σ :=
          bind_congr ih
      _ = (call q next).interpret σ >>= fun a => (f a).interpret σ := (bind_assoc _ _ _).symm

@[simp] theorem interpret_ask [LawfulMonad m] (q : Q) :
    (ask q : Program A (A q)).interpret σ = σ q := bind_pure (σ q)

/-! ### Expansion -/

variable {R : Type} {B : R → Type} {σ : (q : Q) → Program B (A q)}

/-- Calls with the calls that have been made to answer them. -/
inductive Expands (σ : (q : Q) → Program B (A q)) : Trace A → Trace B → Prop where
  | nil : Expands σ [] []
  | cons {q : Q} {answer : A q} {t : Trace A} {u u' : Trace B} (h : Runs (σ q) u answer)
      (rest : Expands σ t u') : Expands σ (⟨q, answer⟩ :: t) (u ++ u')

/-- The runs of an expanded program are those of the program, each call replaced by the calls that
answer it. -/
theorem runs_interpret {p : Program A α} {u : Trace B} {a : α} :
    Runs (p.interpret σ) u a ↔ ∃ t, Runs p t a ∧ Expands σ t u := by
  constructor
  · intro h
    induction p generalizing u with
    | done b =>
      obtain ⟨rfl, rfl⟩ := runs_pure.mp h
      exact ⟨[], .here _, .nil⟩
    | call q next ih =>
      obtain ⟨u₁, answer, u₂, rfl, h₁, h₂⟩ := runs_bind.mp h
      obtain ⟨t, hrest, hexpands⟩ := ih answer h₂
      exact ⟨⟨q, answer⟩ :: t, .call answer hrest, .cons h₁ hexpands⟩
  · rintro ⟨t, h, hexpands⟩
    induction hexpands generalizing p with
    | nil =>
      cases h
      exact .here _
    | cons hcall _ ih =>
      cases h with
      | call _ hrest => exact runs_bind.mpr ⟨_, _, _, rfl, hcall, ih hrest⟩

/-- Calls that follow one another are answered one after the other. -/
lemma Expands.append {t t' : Trace A} {u u' : Trace B} (h : Expands σ t u)
    (h' : Expands σ t' u') : Expands σ (t ++ t') (u ++ u') := by
  induction h with
  | nil => exact h'
  | cons hcall _ ih =>
    rw [List.append_assoc]
    exact .cons hcall ih

/-- A call that is answered is answered by a part of what has been called. -/
lemma Expands.exists_part {t : Trace A} {u : Trace B} (h : Expands σ t u) {q : Q} {answer : A q}
    (hmem : ⟨q, answer⟩ ∈ t) : ∃ part, part ⊆ u ∧ Runs (σ q) part answer := by
  induction h with
  | nil => cases hmem
  | @cons q' answer' t u u' hcall _ ih =>
    rcases List.mem_cons.mp hmem with hhead | htail
    · cases hhead
      exact ⟨u, List.subset_append_left u u', hcall⟩
    · obtain ⟨part, hpart, hruns⟩ := ih htail
      exact ⟨part, fun e he => List.mem_append_right u (hpart he), hruns⟩

/-- What holds of the calls that answer each call holds of all that an expanded program calls, if it
holds of nothing and of two traces together that it holds of. -/
theorem forall_of_reaches_interpret {P : Trace B → Prop} (hnil : P [])
    (happend : ∀ u v, P u → P v → P (u ++ v)) (hcall : ∀ q v rest, Reaches (σ q) v rest → P v)
    {p : Program A α} {u : Trace B} {rest : Program B α} (h : Reaches (p.interpret σ) u rest) :
    P u := by
  induction p generalizing u with
  | done a =>
    cases h
    exact hnil
  | call q next ih =>
    rcases reaches_bind h with ⟨rest', hbroken⟩ | ⟨v, answer, u', rfl, hanswered, hrest⟩
    · exact hcall q u rest' hbroken
    · exact happend v u' (hcall q v _ hanswered) (ih answer hrest)

end Program

end ComputeExchange
