import ComputeExchange.Proofs.Program

/-!
# What a program overlooks

Some of the calls of a program are shown, and the others are hidden.  A program that `Overlooks` the
hidden ones makes the same shown calls and comes to the same result whatever the hidden ones are
answered, as long as the shown ones are answered alike: by one function of the shown calls before.
It may make hidden calls more or fewer times, but what they ask for is the same: this is told by the
marks they leave.

A single call that is shown is such a program, and so is one that hides all its calls and has
nothing to tell in the end; `Program.Overlooks.bind` puts such programs one after another.
`Program.exists_runs_amid` says that what is asked of the shown calls leaves the answers of the
hidden ones free, so that there are such runs whatever these are.
-/

namespace ComputeExchange

namespace Program

variable {Q : Type} {A : Q → Type} {α β : Type}

/-! ### Calls answered by a function -/

/-- No calls are answered by any function. -/
lemma answeredBy_nil (answer : Trace A → (q : Q) → A q) : AnsweredBy answer [] := by
  intro before q x after heq
  exact absurd heq (by simp)

/-- A first call has the answer of the function at the start, and the others are answered with that
call before them. -/
lemma answeredBy_cons {answer : Trace A → (q : Q) → A q} {q : Q} {x : A q} {t : Trace A} :
    AnsweredBy answer (⟨q, x⟩ :: t) ↔
      x = answer [] q ∧ AnsweredBy (fun before => answer (⟨q, x⟩ :: before)) t := by
  constructor
  · intro h
    refine ⟨h [] q x t rfl, ?_⟩
    rintro before q' x' after rfl
    exact h (⟨q, x⟩ :: before) q' x' after rfl
  · rintro ⟨hfirst, hrest⟩ before q' x' after heq
    rcases List.cons_eq_append_iff.mp heq with ⟨rfl, hcons⟩ | ⟨before', rfl, rfl⟩
    · obtain ⟨heq, -⟩ := List.cons.inj hcons
      cases heq
      exact hfirst
    · exact hrest before' q' x' after rfl

/-- The calls of a first part are answered by the function, and the others with that part before
them. -/
lemma answeredBy_append {answer : Trace A → (q : Q) → A q} {t t' : Trace A} :
    AnsweredBy answer (t ++ t') ↔
      AnsweredBy answer t ∧ AnsweredBy (fun before => answer (t ++ before)) t' := by
  induction t generalizing answer with
  | nil => exact ⟨fun h => ⟨answeredBy_nil answer, h⟩, And.right⟩
  | cons e t ih =>
    rw [List.cons_append, answeredBy_cons, answeredBy_cons, ih, and_assoc]
    rfl

/-! ### What is shown -/

/-- The calls of a trace that are shown, with their answers. -/
def shown (shows : Q → Bool) (t : Trace A) : Trace A := t.filter fun e => shows e.1

/-- What is shown of two parts is shown of one after the other. -/
lemma shown_append (shows : Q → Bool) (t t' : Trace A) :
    shown shows (t ++ t') = shown shows t ++ shown shows t' := List.filter_append ..

/-- Answers the shown calls by a function of the shown calls before, and the hidden ones by another
function. -/
def amid (shows : Q → Bool) (answer surroundings : Trace A → (q : Q) → A q) (before : Trace A)
    (q : Q) : A q :=
  if shows q = true then answer (shown shows before) q else surroundings before q

/-- Among hidden calls, what is shown is answered by the function of the shown calls. -/
lemma AnsweredBy.shown {shows : Q → Bool} {answer surroundings : Trace A → (q : Q) → A q}
    {t : Trace A} (h : AnsweredBy (amid shows answer surroundings) t) :
    AnsweredBy answer (shown shows t) := by
  intro before q x after heq
  obtain ⟨t₁, t₂, rfl, hbefore, hrest⟩ := List.filter_eq_append_iff.mp heq
  obtain ⟨t₃, t₄, rfl, hhidden, hshows, -⟩ := List.filter_eq_cons_iff.mp hrest
  have hx := h (t₁ ++ t₃) q x t₄ (by rw [List.append_assoc])
  have hshown : Program.shown shows (t₁ ++ t₃) = before := by
    rw [shown_append, ← hbefore, Program.shown, Program.shown,
      List.filter_eq_nil_iff.mpr hhidden, List.append_nil]
  rwa [amid, if_pos hshows, hshown] at hx

/-- A program comes to an end however its calls are answered, the shown ones by a function of the
shown calls before. -/
theorem exists_runs_amid (shows : Q → Bool) (p : Program A α)
    (answer surroundings : Trace A → (q : Q) → A q) :
    ∃ t a, Runs p t a ∧ AnsweredBy answer (shown shows t) ∧
      ∀ before q x after, t = before ++ ⟨q, x⟩ :: after → shows q = false →
        x = surroundings before q := by
  obtain ⟨t, a, hrun, hanswers⟩ := exists_runs_answeredBy p (amid shows answer surroundings)
  refine ⟨t, a, hrun, hanswers.shown, ?_⟩
  intro before q x after heq hhidden
  have hx := hanswers before q x after heq
  rwa [amid, hhidden, if_neg Bool.false_ne_true] at hx

/-! ### Overlooking -/

variable {V : Type}

/-- The marks that calls leave, whatever they are answered. -/
def marked (mark : Q → Option V) (t : Trace A) : List V := t.filterMap fun e => mark e.1

/-- Whether a program overlooks the calls that are hidden: two runs of it whose shown calls are
answered alike make the same shown calls, leave the same marks and have the same result. -/
def Overlooks (shows : Q → Bool) (mark : Q → Option V) (p : Program A α) : Prop :=
  ∀ ⦃answer : Trace A → (q : Q) → A q⦄ ⦃t t' : Trace A⦄ ⦃a a' : α⦄, Runs p t a → Runs p t' a' →
    AnsweredBy answer (shown shows t) → AnsweredBy answer (shown shows t') →
      shown shows t = shown shows t' ∧ (∀ v, v ∈ marked mark t ↔ v ∈ marked mark t') ∧ a = a'

variable {shows : Q → Bool} {mark : Q → Option V}

lemma marked_append (mark : Q → Option V) (t t' : Trace A) :
    marked mark (t ++ t') = marked mark t ++ marked mark t' := List.filterMap_append ..

/-- What calls nothing overlooks everything. -/
lemma overlooks_pure (a : α) : Overlooks shows mark (pure a : Program A α) := by
  intro answer t t' b b' hrun hrun' _ _
  obtain ⟨rfl, rfl⟩ := runs_pure.mp hrun
  obtain ⟨rfl, rfl⟩ := runs_pure.mp hrun'
  exact ⟨rfl, fun _ => Iff.rfl, rfl⟩

/-- A single call that is shown. -/
lemma overlooks_ask {q : Q} (hshows : shows q = true) :
    Overlooks shows mark (ask q : Program A (A q)) := by
  intro answer t t' b b' hrun hrun' hanswers hanswers'
  obtain rfl := runs_ask.mp hrun
  obtain rfl := runs_ask.mp hrun'
  have hshown : ∀ x : A q, shown shows [⟨q, x⟩] = [⟨q, x⟩] := fun x =>
    List.filter_eq_self.mpr fun e he => by rw [List.mem_singleton.mp he, hshows]
  rw [hshown] at hanswers hanswers'
  obtain rfl := (answeredBy_cons.mp hanswers).1
  obtain rfl := (answeredBy_cons.mp hanswers').1
  exact ⟨rfl, fun _ => Iff.rfl, rfl⟩

/-- A program whose calls are all hidden, that always leaves the same marks, and that has nothing to
tell in the end. -/
lemma overlooks_of_hidden [Subsingleton α] {p : Program A α} (marks : List V)
    (hhidden : ∀ t a, Runs p t a →
      (∀ e ∈ t, shows e.1 = false) ∧ ∀ v, v ∈ marked mark t ↔ v ∈ marks) :
    Overlooks shows mark p := by
  intro answer t t' a a' hrun hrun' _ _
  have hnone : ∀ t a, Runs p t a → shown shows t = [] := fun t a hrun =>
    List.filter_eq_nil_iff.mpr fun e he => by
      rw [(hhidden t a hrun).1 e he]
      exact Bool.false_ne_true
  rw [hnone t a hrun, hnone t' a' hrun']
  refine ⟨rfl, fun v => ?_, Subsingleton.elim a a'⟩
  exact ((hhidden t a hrun).2 v).trans ((hhidden t' a' hrun').2 v).symm

/-- A single call that is hidden, if its answer tells nothing. -/
lemma overlooks_ask_hidden {q : Q} [Subsingleton (A q)] (hhidden : shows q = false) :
    Overlooks shows mark (ask q : Program A (A q)) := by
  refine overlooks_of_hidden (mark q).toList fun t a hrun => ?_
  obtain rfl := runs_ask.mp hrun
  refine ⟨fun e he => ?_, fun v => ?_⟩
  · rw [List.mem_singleton.mp he, hhidden]
  · rw [marked, List.filterMap_cons]
    cases mark q <;> rfl

/-- A program followed by another overlooks what both do. -/
lemma Overlooks.bind {p : Program A α} {f : α → Program A β} (hp : Overlooks shows mark p)
    (hf : ∀ a, Overlooks shows mark (f a)) : Overlooks shows mark (p >>= f) := by
  intro answer t t' b b' hrun hrun' hanswers hanswers'
  obtain ⟨t₁, a, t₂, rfl, hrun₁, hrun₂⟩ := runs_bind.mp hrun
  obtain ⟨t₁', a', t₂', rfl, hrun₁', hrun₂'⟩ := runs_bind.mp hrun'
  rw [shown_append, answeredBy_append] at hanswers hanswers'
  obtain ⟨hshown₁, hmarks₁, rfl⟩ := hp hrun₁ hrun₁' hanswers.1 hanswers'.1
  rw [hshown₁] at hanswers
  obtain ⟨hshown₂, hmarks₂, rfl⟩ := hf a hrun₂ hrun₂' hanswers.2 hanswers'.2
  refine ⟨?_, fun v => ?_, rfl⟩
  · rw [shown_append, shown_append, hshown₁, hshown₂]
  · rw [marked_append, marked_append, List.mem_append, List.mem_append, hmarks₁, hmarks₂]

end Program

end ComputeExchange
