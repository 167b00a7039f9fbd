import ComputeExchange.Proofs.Program

/-!
# Programs side by side

Programs that share a world make their calls in any order, and the world may also change by itself.
What one of them has learned of the world is then only good as far as the others leave it alone.

A `Protocol` says which calls a program may make in which world, and what every call that is made so
does to the world.  `Protocol.Ensures` says of one program that it keeps to the protocol, whatever
the others do between its calls as long as they keep to it as well; `Protocol.run` that a pool of
such programs then only ever does what the protocol says.
-/

namespace ComputeExchange

open Program

/-- A world with calls to it, and what programs that share it may expect of one another. -/
structure Protocol {Q : Type} (A : Q → Type) (W : Type) where
  /-- How a call may be answered in a world, and the world after it. -/
  serves : W → (q : Q) → A q → W → Prop
  /-- How a world may change by itself. -/
  drifts : W → W → Prop
  /-- What holds of the world at every moment. -/
  inv : W → Prop
  /-- Which calls may be made in a world. -/
  allows : W → Q → Prop
  /-- What a step of anyone may do to a world. -/
  moves : W → W → Prop
  serves_moves : ∀ {w w' q a}, inv w → allows w q → serves w q a w' → moves w w' ∧ inv w'
  drifts_moves : ∀ {w w'}, inv w → drifts w w' → moves w w' ∧ inv w'

namespace Protocol

variable {Q W : Type} {A : Q → Type} {α β : Type} (P : Protocol A W)

/-- What any number of steps may do to a world. -/
def Later : W → W → Prop := Relation.ReflTransGen P.moves

/-- Whether a program, started in a world, only makes calls that are allowed and ends in a world
with some property, whatever the others do. -/
def Ensures : Program A α → (α → W → Prop) → W → Prop
  | .done a, post, w => post a w
  | .call q next, post, w =>
    ∀ w', P.Later w w' → P.inv w' → P.allows w' q ∧
      ∀ answer w'', P.serves w' q answer w'' → P.moves w' w'' → P.inv w'' →
        Ensures (next answer) post w''

/-! ### Laws of programs -/

variable {P}

/-- A program followed by another ensures what the other does where the one ends. -/
lemma ensures_bind {p : Program A α} {f : α → Program A β} {post : β → W → Prop} {w : W}
    (h : P.Ensures p (fun a w => P.Ensures (f a) post w) w) : P.Ensures (p >>= f) post w := by
  induction p generalizing w with
  | done a => exact h
  | call q next ih =>
    intro w' hlater hinv
    obtain ⟨hallowed, hnext⟩ := h w' hlater hinv
    exact ⟨hallowed, fun answer w'' hserved hmoves hinv'' =>
      ih answer (hnext answer w'' hserved hmoves hinv'')⟩

/-- What a program ensures may be weakened. -/
lemma Ensures.weaken {p : Program A α} {post post' : α → W → Prop} {w : W}
    (h : P.Ensures p post w) (hpost : ∀ a w, post a w → post' a w) : P.Ensures p post' w := by
  induction p generalizing w with
  | done a => exact hpost a w h
  | call q next ih =>
    intro w' hlater hinv
    obtain ⟨hallowed, hnext⟩ := h w' hlater hinv
    exact ⟨hallowed, fun answer w'' hserved hmoves hinv'' =>
      ih answer (hnext answer w'' hserved hmoves hinv'')⟩

/-- A program that may fail, followed by another: the other goes on only where the one has a
value. -/
lemma ensures_bindExcept {δ : Type} {x : ExceptT δ (Program A) α}
    {f : α → ExceptT δ (Program A) β} {post : Except δ β → W → Prop} {w : W}
    (h : P.Ensures x.run (fun r w => match r with
      | .ok a => P.Ensures (f a).run post w
      | .error e => post (.error e) w) w) : P.Ensures (x >>= f).run post w := by
  refine ensures_bind (h.weaken fun r w' hr => ?_)
  cases r with
  | ok a => exact hr
  | error e => exact hr

/-- Whether a program, started in a world, keeps to the protocol. -/
def Keeps (P : Protocol A W) (p : Program A α) (w : W) : Prop := P.Ensures p (fun _ _ => True) w

/-- A program that keeps to the protocol does so in every later world. -/
lemma Keeps.later {p : Program A α} {w w' : W} (h : P.Keeps p w) (hlater : P.Later w w') :
    P.Keeps p w' := by
  cases p with
  | done a => trivial
  | call q next => exact fun w'' hlater' hinv => h w'' (hlater.trans hlater') hinv

/-! ### Pools -/

/-- A world and the programs that are running in it, each with what it was started for. -/
structure Pool {O : Type} (A : Q → Type) (R : O → Type) (W : Type) where
  world : W
  threads : List ((o : O) × Program A (R o))

variable {O : Type} {R : O → Type}

/-- A step of a pool: a program is started, or the next call of one is served, or the world changes
by itself. -/
inductive Pool.Step (serves : W → (q : Q) → A q → W → Prop) (drifts : W → W → Prop)
    (body : (o : O) → Program A (R o)) : Pool A R W → Pool A R W → Prop where
  | start (w : W) (threads : List ((o : O) × Program A (R o))) (o : O) :
      Step serves drifts body ⟨w, threads⟩ ⟨w, threads ++ [⟨o, body o⟩]⟩
  | serve {w w' : W} {o : O} {q : Q} {next : A q → Program A (R o)} {answer : A q}
      (before after : List ((o : O) × Program A (R o))) (h : serves w q answer w') :
      Step serves drifts body ⟨w, before ++ ⟨o, .call q next⟩ :: after⟩
        ⟨w', before ++ ⟨o, next answer⟩ :: after⟩
  | drift {w w' : W} (threads : List ((o : O) × Program A (R o))) (h : drifts w w') :
      Step serves drifts body ⟨w, threads⟩ ⟨w', threads⟩

/-- How a world answers some calls one after another, and what is left of it. -/
inductive Served (serves : W → (q : Q) → A q → W → Prop) : W → Trace A → W → Prop where
  | nil (w : W) : Served serves w [] w
  | cons {w w' w'' : W} {q : Q} {answer : A q} {t : Trace A} (h : serves w q answer w')
      (rest : Served serves w' t w'') : Served serves w (⟨q, answer⟩ :: t) w''

/-- Calls that are answered after others are answered with them. -/
lemma Served.append {serves : W → (q : Q) → A q → W → Prop} {w w' w'' : W} {t t' : Trace A}
    (h : Served serves w t w') (h' : Served serves w' t' w'') : Served serves w (t ++ t') w'' := by
  induction h with
  | nil => exact h'
  | cons hserves _ ih => exact .cons hserves (ih h')

/-- Calls that are answered one after another are answered in two parts. -/
lemma Served.of_append {serves : W → (q : Q) → A q → W → Prop} {w w' : W} {t t' : Trace A}
    (h : Served serves w (t ++ t') w') : ∃ w₁, Served serves w t w₁ ∧ Served serves w₁ t' w' := by
  induction t generalizing w with
  | nil => exact ⟨w, .nil w, h⟩
  | cons e t ih =>
    cases h with
    | cons hserves hrest =>
      obtain ⟨w₁, ht, ht'⟩ := ih hrest
      exact ⟨w₁, .cons hserves ht, ht'⟩

/-- Calls that are answered one after another end with the last one. -/
lemma Served.of_concat {serves : W → (q : Q) → A q → W → Prop} {w w' : W} {t : Trace A} {q : Q}
    {answer : A q} (h : Served serves w (t ++ [⟨q, answer⟩]) w') :
    ∃ w₁, Served serves w t w₁ ∧ serves w₁ q answer w' := by
  obtain ⟨w₁, ht, hlast⟩ := h.of_append
  cases hlast with
  | cons hlast hnil =>
    cases hnil
    exact ⟨w₁, ht, hlast⟩

/-- A single call is answered as it is by itself. -/
lemma Served.of_singleton {serves : W → (q : Q) → A q → W → Prop} {w w' : W} {q : Q}
    {answer : A q} (h : Served serves w [⟨q, answer⟩] w') : serves w q answer w' := by
  cases h with
  | cons hserves hnil =>
    cases hnil
    exact hserves

/-- Each of some calls that are answered one after another is answered by some world. -/
lemma Served.exists_of_mem {serves : W → (q : Q) → A q → W → Prop} {w w' : W} {t : Trace A} {q : Q}
    {answer : A q} (h : Served serves w t w') (hmem : ⟨q, answer⟩ ∈ t) :
    ∃ w₁ w₂, serves w₁ q answer w₂ := by
  induction h with
  | nil => cases hmem
  | cons hserves _ ih =>
    rcases List.mem_cons.mp hmem with heq | hmem
    · cases heq
      exact ⟨_, _, hserves⟩
    · exact ih hmem

/-- A program that is alone in a pool goes as far as its calls are answered. -/
lemma exists_run_alone {serves : W → (q : Q) → A q → W → Prop} {drifts : W → W → Prop}
    {body : (o : O) → Program A (R o)} {w w' : W} {t : Trace A} (hserved : Served serves w t w')
    {o : O} {p p' : Program A (R o)} (h : Reaches p t p') :
    ∃ pools : List (Pool A R W),
      (⟨w, [⟨o, p⟩]⟩ :: pools).IsChain (Pool.Step serves drifts body) ∧
      (⟨w', [⟨o, p'⟩]⟩ : Pool A R W) ∈ (⟨w, [⟨o, p⟩]⟩ : Pool A R W) :: pools := by
  induction hserved generalizing p with
  | nil w =>
    cases h
    exact ⟨[], .singleton _, List.mem_singleton.mpr rfl⟩
  | cons hserves _ ih =>
    cases h with
    | call answer hrest =>
      obtain ⟨pools, hchain, hmem⟩ := ih hrest
      exact ⟨_ :: pools, .cons_cons (.serve [] [] hserves) hchain, List.mem_cons_of_mem _ hmem⟩

/-- Whether the world of a pool is as it should be, and all programs in it keep to the protocol. -/
structure Pool.Sound (P : Protocol A W) (pool : Pool A R W) : Prop where
  inv : P.inv pool.world
  keeps : ∀ thread ∈ pool.threads, P.Keeps thread.2 pool.world

/-- A step of a pool does nothing or what the protocol says, and keeps the pool sound. -/
lemma Pool.Step.sound {body : (o : O) → Program A (R o)}
    (hbody : ∀ o w, P.inv w → P.Keeps (body o) w) {pool pool' : Pool A R W}
    (h : Pool.Step P.serves P.drifts body pool pool') (hsound : pool.Sound P) :
    (pool'.world = pool.world ∨ P.moves pool.world pool'.world) ∧ pool'.Sound P := by
  obtain ⟨hinv, hkeeps⟩ := hsound
  cases h with
  | start w threads o =>
    refine ⟨Or.inl rfl, hinv, List.forall_mem_append.mpr ⟨hkeeps, ?_⟩⟩
    exact List.forall_mem_singleton.mpr (hbody o w hinv)
  | @serve w w' o q next answer before after hserves =>
    rw [List.forall_mem_append, List.forall_mem_cons] at hkeeps
    obtain ⟨hbefore, hthread, hafter⟩ := hkeeps
    obtain ⟨hallowed, hnext⟩ := hthread w .refl hinv
    obtain ⟨hmoves, hinv'⟩ := P.serves_moves hinv hallowed hserves
    have hlater : P.Later w w' := .single hmoves
    refine ⟨Or.inr hmoves, hinv',
      List.forall_mem_append.mpr ⟨?_, List.forall_mem_cons.mpr ⟨?_, ?_⟩⟩⟩
    · exact fun thread hmem => (hbefore thread hmem).later hlater
    · exact hnext answer w' hserves hmoves hinv'
    · exact fun thread hmem => (hafter thread hmem).later hlater
  | drift threads hdrifts =>
    obtain ⟨hmoves, hinv'⟩ := P.drifts_moves hinv hdrifts
    exact ⟨Or.inr hmoves, hinv', fun thread hmem => (hkeeps thread hmem).later (.single hmoves)⟩

/-- Along a run of a pool whose programs keep to the protocol, every step does nothing to the world
or what the protocol says. -/
theorem run {body : (o : O) → Program A (R o)} (hbody : ∀ o w, P.inv w → P.Keeps (body o) w)
    {pool : Pool A R W} {pools : List (Pool A R W)} (hsound : pool.Sound P)
    (h : (pool :: pools).IsChain (Pool.Step P.serves P.drifts body)) :
    ((pool :: pools).map (·.world)).IsChain fun w w' => w' = w ∨ P.moves w w' := by
  induction pools generalizing pool with
  | nil => exact .singleton _
  | cons pool' pools ih =>
    obtain ⟨hstep, hrest⟩ := List.isChain_cons_cons.mp h
    obtain ⟨hmoves, hsound'⟩ := hstep.sound hbody hsound
    exact .cons_cons hmoves (ih hsound' hrest)

end Protocol

end ComputeExchange
