import Mathlib.Tactic

/-!
# Programs over calls

A program makes calls and goes on with their answers, whatever these are.  The engines are written
over any monad in which their collaborators act; over `Program` they are laid open as the calls they
make, so that a statement about all answers is a statement about all behaviours of the
collaborators, failures included.

A run is told by its trace, the calls with their answers in order.  `Program.Reaches` follows a
program for a while, so that it may also be broken off; `Program.Runs` follows it to its end.  The
laws `Program.runs_bind` and `Program.Reaches.exists_runs` take traces apart at a bind and continue
a trace that was broken off.
-/

namespace ComputeExchange

/-- A program that makes calls `q`, each answered in `A q`, and ends with a result. -/
inductive Program {Q : Type} (A : Q → Type) (α : Type) : Type where
  | done (a : α)
  | call (q : Q) (next : A q → Program A α)

namespace Program

variable {Q : Type} {A : Q → Type} {α β : Type}

/-- A call with its answer. -/
abbrev Event (A : Q → Type) : Type := (q : Q) × A q

/-- Calls with their answers, in order. -/
abbrev Trace (A : Q → Type) : Type := List (Event A)

/-- Goes on with the result of a program. -/
def bind : Program A α → (α → Program A β) → Program A β
  | done a, f => f a
  | call q next, f => call q fun answer => (next answer).bind f

instance : Monad (Program A) where
  pure := done
  bind := bind

/-- The program that makes one call and ends with its answer. -/
def ask (q : Q) : Program A (A q) := call q done

/-! ### Traces -/

/-- What a program becomes when its calls are answered as a trace tells. -/
inductive Reaches : Program A α → Trace A → Program A α → Prop where
  | here (p : Program A α) : Reaches p [] p
  | call {q : Q} {next : A q → Program A α} (answer : A q) {t : Trace A} {p : Program A α}
      (rest : Reaches (next answer) t p) : Reaches (.call q next) (⟨q, answer⟩ :: t) p

/-- A trace leads a program to its end, with a result. -/
def Runs (p : Program A α) (t : Trace A) (a : α) : Prop := Reaches p t (done a)

/-- Nothing is called at the end of a program. -/
@[simp] theorem runs_pure {a b : α} {t : Trace A} :
    Runs (pure a : Program A α) t b ↔ t = [] ∧ b = a := by
  constructor
  · intro h
    cases h
    exact ⟨rfl, rfl⟩
  · rintro ⟨rfl, rfl⟩
    exact .here _

/-- A program that ends at once with two values makes no calls. -/
theorem runs_pure_mk {a a' : α} {b b' : β} {t : Trace A} :
    Runs (pure (a, b)) t (a', b') ↔ t = [] ∧ a' = a ∧ b' = b := by
  rw [runs_pure, Prod.mk.injEq]

/-- The trace of a program that calls first starts with that call. -/
theorem runs_call {q : Q} {next : A q → Program A α} {t : Trace A} {b : α} :
    Runs (call q next) t b ↔ ∃ answer t', t = ⟨q, answer⟩ :: t' ∧ Runs (next answer) t' b := by
  constructor
  · intro h
    cases h with
    | call answer rest => exact ⟨answer, _, rfl, rest⟩
  · rintro ⟨answer, t', rfl, h⟩
    exact .call answer h

/-- The trace of one call. -/
@[simp] theorem runs_ask {q : Q} {t : Trace A} {b : A q} :
    Runs (ask q) t b ↔ t = [⟨q, b⟩] := by
  rw [ask, runs_call]
  constructor
  · rintro ⟨answer, t', rfl, h⟩
    obtain ⟨rfl, rfl⟩ := runs_pure.mp h
    rfl
  · rintro rfl
    exact ⟨b, [], rfl, runs_pure.mpr ⟨rfl, rfl⟩⟩

/-- A run of a program followed by another is a run of the one followed by a run of the other. -/
theorem runs_bind {p : Program A α} {f : α → Program A β} {t : Trace A} {b : β} :
    Runs (p >>= f) t b ↔ ∃ t₁ a t₂, t = t₁ ++ t₂ ∧ Runs p t₁ a ∧ Runs (f a) t₂ b := by
  constructor
  · intro h
    induction p generalizing t with
    | done a => exact ⟨[], a, t, rfl, .here _, h⟩
    | call q next ih =>
      obtain ⟨answer, t', rfl, rest⟩ := runs_call.mp h
      obtain ⟨t₁, a, t₂, rfl, h₁, h₂⟩ := ih answer rest
      exact ⟨⟨q, answer⟩ :: t₁, a, t₂, rfl, .call answer h₁, h₂⟩
  · rintro ⟨t₁, a, t₂, rfl, h₁, h₂⟩
    induction p generalizing t₁ with
    | done a' =>
      obtain ⟨rfl, rfl⟩ := runs_pure.mp h₁
      exact h₂
    | call q next ih =>
      obtain ⟨answer, t', rfl, rest⟩ := runs_call.mp h₁
      exact .call answer (ih answer t' rest)

/-- A trace of a program is one of the program followed by another. -/
theorem Reaches.bind {p rest : Program A α} {t : Trace A} (h : Reaches p t rest)
    (f : α → Program A β) : Reaches (p >>= f) t (rest >>= f) := by
  induction h with
  | here => exact .here _
  | call answer _ ih => exact .call answer ih

/-- A program followed by another is broken off in the one, or in the other after a run of the
one. -/
theorem reaches_bind {p : Program A α} {f : α → Program A β} {t : Trace A} {rest : Program A β}
    (h : Reaches (p >>= f) t rest) :
    (∃ rest', Reaches p t rest') ∨
      ∃ t₁ a t₂, t = t₁ ++ t₂ ∧ Runs p t₁ a ∧ Reaches (f a) t₂ rest := by
  induction p generalizing t with
  | done a => exact Or.inr ⟨[], a, t, rfl, .here _, h⟩
  | call q next ih =>
    cases h with
    | here => exact Or.inl ⟨_, .here _⟩
    | call answer hrest =>
      rcases ih answer hrest with ⟨rest', h'⟩ | ⟨t₁, a, t₂, rfl, h₁, h₂⟩
      · exact Or.inl ⟨rest', .call answer h'⟩
      · exact Or.inr ⟨⟨q, answer⟩ :: t₁, a, t₂, rfl, .call answer h₁, h₂⟩

/-- Every program comes to an end, since every call can be answered: a trace that was broken off
goes on to some end. -/
theorem Reaches.exists_runs [∀ q, Nonempty (A q)] {p rest : Program A α} {t : Trace A}
    (h : Reaches p t rest) : ∃ t' a, Runs p (t ++ t') a := by
  induction h with
  | here p =>
    induction p with
    | done a => exact ⟨[], a, .here _⟩
    | call q next ih =>
      obtain ⟨answer⟩ := ‹∀ q, Nonempty (A q)› q
      obtain ⟨t', a, h⟩ := ih answer
      exact ⟨⟨q, answer⟩ :: t', a, .call answer h⟩
  | call answer _ ih =>
    obtain ⟨t', a, h⟩ := ih
    exact ⟨t', a, .call answer h⟩

/-- Whether each call of a trace has the answer that it is given after the calls before it. -/
def AnsweredBy (answer : Trace A → (q : Q) → A q) (t : Trace A) : Prop :=
  ∀ before q x after, t = before ++ ⟨q, x⟩ :: after → x = answer before q

/-- A program comes to an end however its calls are answered. -/
theorem exists_runs_answeredBy (p : Program A α) (answer : Trace A → (q : Q) → A q) :
    ∃ t a, Runs p t a ∧ AnsweredBy answer t := by
  induction p generalizing answer with
  | done a => exact ⟨[], a, .here _, by simp [AnsweredBy]⟩
  | call q next ih =>
    obtain ⟨t, a, hrun, hanswers⟩ :=
      ih (answer [] q) fun before => answer (⟨q, answer [] q⟩ :: before)
    refine ⟨⟨q, answer [] q⟩ :: t, a, .call _ hrun, ?_⟩
    intro before q' x after heq
    rcases List.cons_eq_append_iff.mp heq with ⟨rfl, hfirst⟩ | ⟨before', rfl, rfl⟩
    · obtain ⟨heq, -⟩ := List.cons.inj hfirst
      cases heq
      rfl
    · exact hanswers before' q' x after rfl

/-- A trace that goes on where another ended. -/
theorem Reaches.trans {p p' p'' : Program A α} {t t' : Trace A} (h : Reaches p t p')
    (h' : Reaches p' t' p'') : Reaches p (t ++ t') p'' := by
  induction h with
  | here => exact h'
  | call answer _ ih => exact .call answer (ih h')

/-- A trace that is cut in two leads to a program in between. -/
theorem Reaches.of_append {p p'' : Program A α} {t t' : Trace A} (h : Reaches p (t ++ t') p'') :
    ∃ p', Reaches p t p' ∧ Reaches p' t' p'' := by
  induction t generalizing p with
  | nil => exact ⟨p, .here p, h⟩
  | cons e t ih =>
    cases h with
    | call answer rest =>
      obtain ⟨p', h₁, h₂⟩ := ih rest
      exact ⟨p', .call answer h₁, h₂⟩

/-! ### The next call -/

/-- A program makes a call after a trace. -/
def Calls (p : Program A α) (t : Trace A) (q : Q) : Prop := ∃ next, Reaches p t (call q next)

/-- A call that is made can be answered in any way. -/
theorem Calls.reaches {p : Program A α} {t : Trace A} {q : Q} (h : p.Calls t q) (answer : A q) :
    ∃ rest, Reaches p (t ++ [⟨q, answer⟩]) rest := by
  obtain ⟨next, hnext⟩ := h
  exact ⟨next answer, hnext.trans (.call answer (.here _))⟩

/-- The last call of a trace is made after the others. -/
theorem Calls.of_reaches {p rest : Program A α} {t : Trace A} {q : Q} {answer : A q}
    (h : Reaches p (t ++ [⟨q, answer⟩]) rest) : p.Calls t q := by
  obtain ⟨p', hbefore, hlast⟩ := h.of_append
  cases hlast with
  | call _ _ => exact ⟨_, hbefore⟩

/-- Each call of a trace is made after those before it. -/
theorem Reaches.calls {p rest : Program A α} {t t' : Trace A} {q : Q} {answer : A q}
    (h : Reaches p (t ++ ⟨q, answer⟩ :: t') rest) : p.Calls t q := by
  obtain ⟨p', hbefore, hafter⟩ := h.of_append
  cases hafter with
  | call _ _ => exact ⟨_, hbefore⟩

/-- Nothing is called by a program that has ended. -/
theorem not_calls_pure {a : α} {t : Trace A} {q : Q} :
    ¬ (pure a : Program A α).Calls t q := by
  rintro ⟨next, h⟩
  cases h

/-- A program that calls first makes that call, or, once it has been answered, those of the rest. -/
theorem calls_call {q q' : Q} {next : A q → Program A α} {t : Trace A} :
    (call q next).Calls t q' ↔
      t = [] ∧ q' = q ∨ ∃ answer t', t = ⟨q, answer⟩ :: t' ∧ (next answer).Calls t' q' := by
  constructor
  · rintro ⟨next', h⟩
    cases h with
    | here => exact Or.inl ⟨rfl, rfl⟩
    | call answer hrest => exact Or.inr ⟨answer, _, rfl, next', hrest⟩
  · rintro (⟨rfl, rfl⟩ | ⟨answer, t', rfl, next', hrest⟩)
    · exact ⟨next, .here _⟩
    · exact ⟨next', .call answer hrest⟩

/-- A call of a program followed by another is a call of the one, or of the other after a run of the
one. -/
theorem calls_bind {p : Program A α} {f : α → Program A β} {t : Trace A} {q : Q} :
    (p >>= f).Calls t q ↔
      p.Calls t q ∨ ∃ t₁ a t₂, t = t₁ ++ t₂ ∧ Runs p t₁ a ∧ (f a).Calls t₂ q := by
  constructor
  · rintro ⟨next, h⟩
    induction p generalizing t with
    | done a => exact Or.inr ⟨[], a, t, rfl, .here _, next, h⟩
    | call q' next' ih =>
      cases h with
      | here => exact Or.inl ⟨_, .here _⟩
      | call answer hrest =>
        rcases ih answer hrest with ⟨next'', h'⟩ | ⟨t₁, a, t₂, rfl, h₁, h₂⟩
        · exact Or.inl ⟨next'', .call answer h'⟩
        · exact Or.inr ⟨⟨q', answer⟩ :: t₁, a, t₂, rfl, .call answer h₁, h₂⟩
  · rintro (⟨next, h⟩ | ⟨t₁, a, t₂, rfl, h₁, next, h₂⟩)
    · exact ⟨_, h.bind f⟩
    · exact ⟨next, (Reaches.bind h₁ f).trans h₂⟩

end Program

end ComputeExchange
