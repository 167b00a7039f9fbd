import ComputeExchange.Proofs.Protocol
import ComputeExchange.Proofs.Sync.Interpreted
import ComputeExchange.Proofs.Sync.Run

/-!
# Following a chain with a program

`Synchronizer.following` is the synchronizer that hands the events of a chain to a handler which
makes calls itself.  Its calls are those of following and those of the handler, each of the latter
with the event that it is made for.  `Lives` is all that the processes of such a service may do to
the world they live in: they make one pass after another, may be broken off at any call, and are
started again.

What holds of the calls of a handler holds of the calls of a pass, if it may be put together
(`forall_of_reaches_poll`); and a world that serves all the calls of a pass serves its handovers one
after another (`Served.of_expands`).
-/

namespace ComputeExchange

/-- What following a chain with a handler asks of its surroundings. -/
inductive FollowCall (κ ε Q : Type) : Type where
  | sync (c : SyncCall κ ε)
  /-- A call of the handler for an event. -/
  | handling (event : ε) (q : Q)

/-- What each call is answered with. -/
abbrev FollowCall.Answer (κ ε : Type) {Q : Type} (A : Q → Type) : FollowCall κ ε Q → Type
  | .sync c => SyncCall.Answer κ ε c
  | .handling _ q => A q

open Program Protocol

variable {κ ε Q W : Type} {A : Q → Type} {α : Type}

/-! ### The calls of a handler -/

/-- The calls of a handler for an event. -/
def handlingOf (κ : Type) (event : ε) (t : Trace A) : Trace (FollowCall.Answer κ ε A) :=
  t.map fun e => ⟨.handling event e.1, e.2⟩

lemma mem_handlingOf {event event' : ε} {t : Trace A} {q : Q} {answer : A q} :
    (⟨.handling event q, answer⟩ : Event (FollowCall.Answer κ ε A)) ∈ handlingOf κ event' t ↔
      event = event' ∧ ⟨q, answer⟩ ∈ t := by
  constructor
  · intro h
    obtain ⟨⟨q', answer'⟩, hmem, heq⟩ := List.mem_map.mp h
    cases heq
    exact ⟨rfl, hmem⟩
  · rintro ⟨rfl, hmem⟩
    exact List.mem_map.mpr ⟨_, hmem, rfl⟩

/-- The program of a handler for an event, among the calls of a service. -/
def handlingFor (κ : Type) (event : ε) (p : Program A α) : Program (FollowCall.Answer κ ε A) α :=
  p.interpret fun q => ask (A := FollowCall.Answer κ ε A) (.handling event q)

/-- A handler makes its own calls, each for the event. -/
lemma reaches_handlingFor {event : ε} {p : Program A α} {u : Trace (FollowCall.Answer κ ε A)}
    {rest : Program (FollowCall.Answer κ ε A) α} :
    Reaches (handlingFor κ event p) u rest ↔
      ∃ t p', Reaches p t p' ∧ u = handlingOf κ event t ∧ rest = handlingFor κ event p' := by
  constructor
  · intro h
    induction p generalizing u with
    | done a =>
      cases h
      exact ⟨[], _, .here _, rfl, rfl⟩
    | call q next ih =>
      cases h with
      | here => exact ⟨[], _, .here _, rfl, rfl⟩
      | call answer hrest =>
        obtain ⟨t, p', hreaches, rfl, rfl⟩ := ih answer hrest
        exact ⟨⟨q, answer⟩ :: t, p', .call (q := q) answer hreaches, rfl, rfl⟩
  · rintro ⟨t, p', h, rfl, rfl⟩
    induction h with
    | here p => exact .here _
    | @call q next answer t p' _ ih =>
      exact Reaches.call (A := FollowCall.Answer κ ε A) (q := .handling event q) answer ih

/-- A handler ends with what it ends with by itself. -/
lemma runs_handlingFor {event : ε} {p : Program A α} {u : Trace (FollowCall.Answer κ ε A)} {a : α} :
    Runs (handlingFor κ event p) u a ↔ ∃ t, Runs p t a ∧ u = handlingOf κ event t := by
  constructor
  · intro h
    obtain ⟨t, p', hreaches, rfl, hend⟩ := reaches_handlingFor.mp h
    cases p' with
    | done b =>
      cases hend
      exact ⟨t, hreaches, rfl⟩
    | call q next => cases hend
  · rintro ⟨t, h, rfl⟩
    exact reaches_handlingFor.mpr ⟨t, done a, h, rfl, rfl⟩

namespace Synchronizer

/-- The synchronizer that hands the events of a chain to a handler with calls of its own. -/
def following (label : κ → String) (kinds : List κ) (config : Sync.Config)
    (handler : ε → Program A (Except HandleError Unit)) :
    Synchronizer (Program (FollowCall.Answer κ ε A)) κ ε where
  source :=
    { label := label
      head := ask (A := FollowCall.Answer κ ε A) (.sync .head)
      fetch := fun kind first last =>
        ask (A := FollowCall.Answer κ ε A) (.sync (.fetch kind first last)) }
  handle := fun event => handlingFor κ event (handler event)
  cursors := ⟨fun c => ask (A := FollowCall.Answer κ ε A) (.sync (.store c))⟩
  kinds := kinds
  config := config
  pause := fun span => ask (A := FollowCall.Answer κ ε A) (.sync (.pause span))
  tell := fun event => ask (A := FollowCall.Answer κ ε A) (.sync (.tell event))

variable {label : κ → String} {kinds : List κ} {config : Sync.Config}
  {handler : ε → Program A (Except HandleError Unit)}

/-- What holds of every call that is made to follow the chain and of all that the handler calls for
an event holds of all that a pass calls, if it may be put together. -/
theorem forall_of_reaches_poll {P : Trace (FollowCall.Answer κ ε A) → Prop} (hnil : P [])
    (happend : ∀ u v, P u → P v → P (u ++ v)) (hsync : ∀ c answer, P [⟨.sync c, answer⟩])
    (hhandling : ∀ event t rest, Reaches (handler event) t rest → P (handlingOf κ event t))
    {cursor : Option UInt64} {u : Trace (FollowCall.Answer κ ε A)}
    {rest : Program (FollowCall.Answer κ ε A) (Except SyncError Sync.Outcome × Option UInt64)}
    (h : Reaches ((following label kinds config handler).poll cursor) u rest) : P u := by
  rw [← interpret_poll] at h
  refine forall_of_reaches_interpret hnil happend (fun q v rest hcall => ?_) h
  cases q with
  | handle event =>
    obtain ⟨t, rest', hreaches, rfl, -⟩ := reaches_handlingFor.mp hcall
    exact hhandling event t rest' hreaches
  | _ =>
    cases hcall with
    | here => exact hnil
    | call answer hdone =>
      cases hdone
      exact hsync _ answer

/-- What is called to follow the chain is called as it is. -/
lemma mem_of_expands {t : SyncTrace κ ε} {u : Trace (FollowCall.Answer κ ε A)}
    (h : Expands (following label kinds config handler).answers t u) {c : SyncCall κ ε}
    (hc : ∀ event, c ≠ .handle event) {answer : SyncCall.Answer κ ε c} (hmem : ⟨c, answer⟩ ∈ t) :
    (⟨.sync c, answer⟩ : Event (FollowCall.Answer κ ε A)) ∈ u := by
  obtain ⟨part, hpart, hruns⟩ := h.exists_part hmem
  have hsingle : part = [(⟨.sync c, answer⟩ : Event (FollowCall.Answer κ ε A))] := by
    cases c with
    | handle event => exact absurd rfl (hc event)
    | _ => exact runs_ask.mp hruns
  subst hsingle
  exact hpart (List.mem_singleton_self _)

/-- An event that is handed out is answered by what its handler calls. -/
lemma exists_handling_of_expands {t : SyncTrace κ ε} {u : Trace (FollowCall.Answer κ ε A)}
    (h : Expands (following label kinds config handler).answers t u) {event : ε}
    {answer : Except HandleError Unit} (hmem : ⟨.handle event, answer⟩ ∈ t) :
    ∃ v, Runs (handler event) v answer ∧ handlingOf κ event v ⊆ u := by
  obtain ⟨part, hpart, hruns⟩ := h.exists_part hmem
  obtain ⟨v, hhandle, rfl⟩ := runs_handlingFor.mp hruns
  exact ⟨v, hhandle, hpart⟩

/-- The calls that are made to follow the chain. -/
def syncCalls (t : SyncTrace κ ε) : Trace (FollowCall.Answer κ ε A) :=
  t.map fun e => ⟨.sync e.1, e.2⟩

lemma expands_syncCalls {t : SyncTrace κ ε} (h : ∀ e ∈ t, ∀ event, e.1 ≠ .handle event) :
    Expands (following label kinds config handler).answers t (syncCalls t) := by
  induction t with
  | nil => exact .nil
  | cons e t ih =>
    obtain ⟨q, answer⟩ := e
    rw [List.forall_mem_cons] at h
    have hq : Runs ((following label kinds config handler).answers q) [⟨.sync q, answer⟩]
        answer := by
      cases q with
      | handle event => exact absurd rfl (h.1 event)
      | _ => exact runs_ask.mpr rfl
    exact .cons hq (ih h.2)

/-- What is called by a pass whose next window is broken off, with the calls for its events. -/
def brokenCalls (head next last : UInt64) (batches : List (κ × List ε))
    (v : Trace (FollowCall.Answer κ ε A)) : Trace (FollowCall.Answer κ ε A) :=
  syncCalls (⟨.head, .ok head⟩ :: ⟨.tell (.head head), ()⟩ :: fetches next last batches) ++ v

/-- What is called by a pass that completes a window, with the calls for its events. -/
def windowCalls (service : String) (w : Window kinds ε) (v : Trace (FollowCall.Answer κ ε A)) :
    Trace (FollowCall.Answer κ ε A) :=
  brokenCalls w.last w.first w.last w.batches v ++
    syncCalls [⟨.store (.saveCursor service w.last), .ok ()⟩, ⟨.tell (.progress (some w.last)), ()⟩]

lemma expands_fetches (head first last : UInt64) (batches : List (κ × List ε)) :
    Expands (following label kinds config handler).answers
      (⟨.head, .ok head⟩ :: ⟨.tell (.head head), ()⟩ :: fetches first last batches)
      (syncCalls
        (⟨.head, .ok head⟩ :: ⟨.tell (.head head), ()⟩ :: fetches first last batches)) := by
  refine expands_syncCalls ?_
  refine List.forall_mem_cons.mpr ⟨by simp, List.forall_mem_cons.mpr ⟨by simp, ?_⟩⟩
  exact List.forall_mem_map.mpr fun batch _ event => by simp

lemma expands_handover {event : ε} {t : Trace A} {answer : Except HandleError Unit}
    (h : Runs (handler event) t answer) :
    Expands (following label kinds config handler).answers [⟨.handle event, answer⟩]
      (handlingOf κ event t) := by
  rw [← List.append_nil (handlingOf κ event t)]
  exact .cons (runs_handlingFor.mpr ⟨t, h, rfl⟩) .nil

/-- A pass over new blocks that lie in one window and whose events are settled calls what its
handler calls for them. -/
lemma runs_following_window (w : Window kinds ε) {block : UInt64}
    (hfirst : w.first.toNat = block.toNat + 1)
    (hend : windowEnd config.rangeSize w.first w.last = w.last) (hlast : w.last ≠ Clamp.greatest)
    {v : Trace (FollowCall.Answer κ ε A)}
    (hhandled : Expands (following label kinds config handler).answers (handovers w.answers) v) :
    Runs ((following label kinds config handler).poll (some block))
      (windowCalls config.service w v)
      (.ok (.advanced w.first w.last (Tally.after ⟨0, 0⟩ w.answers).events
        (Tally.after ⟨0, 0⟩ w.answers).failed), some w.last) := by
  rw [← interpret_poll]
  refine runs_interpret.mpr ⟨_, runs_poll_window w hfirst hend hlast, ?_⟩
  exact ((expands_fetches w.last w.first w.last w.batches).append hhandled).append
    (expands_syncCalls (by simp))

/-- A pass whose next window is broken off calls what its handler calls up to there. -/
lemma runs_following_retried {block next head last : UInt64}
    (hnext : next.toNat = block.toNat + 1) (hle : next ≤ head)
    (hlast : windowEnd config.rangeSize next head = last) {batches : List (κ × List ε)}
    (hfetched : batches.map (·.1) = kinds) {answers : List (ε × Except HandleError Unit)}
    (hsettled : ∀ a ∈ answers, isSettled a.2 = true) {event : ε} {rest : List ε}
    (hhanded : answers.map (·.1) ++ event :: rest = batches.flatMap (·.2)) {cause : Cause}
    {v : Trace (FollowCall.Answer κ ε A)}
    (hhandled : Expands (following label kinds config handler).answers
      (handovers answers ++ [⟨.handle event, .error (.retry cause)⟩]) v) :
    Runs ((following label kinds config handler).poll (some block))
      (brokenCalls head next last batches v) (.error (.handler next last cause), some block) := by
  subst hlast
  rw [← interpret_poll]
  refine runs_interpret.mpr ⟨_, runs_poll_retried hnext hle hfetched hsettled hhanded cause, ?_⟩
  exact (expands_fetches head next _ batches).append hhandled

/-- A pass over one new block whose event is settled calls what its handler calls. -/
lemma runs_following_block {kind : κ} {event : ε} {t : Trace A} {answer : Except HandleError Unit}
    {block head : UInt64} (hhead : head.toNat = block.toNat + 1) (hlast : head ≠ Clamp.greatest)
    (hhandle : Runs (handler event) t answer) (hsettled : isSettled answer = true) :
    Runs ((following label [kind] config handler).poll (some block))
      (⟨.sync .head, .ok head⟩ :: ⟨.sync (.tell (.head head)), ()⟩ ::
        ⟨.sync (.fetch kind head head), .ok [event]⟩ :: (handlingOf κ event t ++
          [⟨.sync (.store (.saveCursor config.service head)), .ok ()⟩,
            ⟨.sync (.tell (.progress (some head))), ()⟩]))
      (.ok (.advanced head head 1 (if answer.isOk then 0 else 1)), some head) := by
  let w : Window [kind] ε := ⟨head, head, UInt64.le_refl head, [(kind, [event])], rfl,
    [(event, answer)], rfl, by simpa using hsettled⟩
  exact runs_following_window w hhead (windowEnd_head _ head) hlast (expands_handover hhandle)

end Synchronizer

/-! ### Worlds -/

/-- How a world answers the calls of a service: following reads and saves its cursor in a store and
is otherwise answered from outside, and the handler is answered as it is by itself. -/
inductive FollowCall.Serves (stores : W → (c : StoreCall) → Except StoreError c.Answer → W → Prop)
    (serves : W → (q : Q) → A q → W → Prop) :
    W → (q : FollowCall κ ε Q) → FollowCall.Answer κ ε A q → W → Prop where
  | store {w w' : W} {c : StoreCall} {answer : Except StoreError c.Answer}
      (h : stores w c answer w') : Serves stores serves w (.sync (.store c)) answer w'
  | sync (w : W) {c : SyncCall κ ε} (hc : ∀ s, c ≠ .store s) (answer : SyncCall.Answer κ ε c) :
      Serves stores serves w (.sync c) answer w
  | handling {w w' : W} {q : Q} {answer : A q} (event : ε) (h : serves w q answer w') :
      Serves stores serves w (.handling event q) answer w'

/-- The handler is answered as it is by itself. -/
lemma FollowCall.Serves.of_handling
    {stores : W → (c : StoreCall) → Except StoreError c.Answer → W → Prop}
    {serves : W → (q : Q) → A q → W → Prop} {w w' : W} {event : ε} {q : Q} {answer : A q}
    (h : FollowCall.Serves (κ := κ) stores serves w (.handling event q) answer w') :
    serves w q answer w' := by
  cases h with
  | handling _ h => exact h

section

variable {kinds : List κ} {stores : W → (c : StoreCall) → Except StoreError c.Answer → W → Prop}
  {serves : W → (q : Q) → A q → W → Prop} {w w' w'' : W} {v : Trace (FollowCall.Answer κ ε A)}

/-- Calls that follow the chain leave the world as it is, unless they are to the store. -/
lemma served_syncCalls (w : W) {t : SyncTrace κ ε} (h : ∀ e ∈ t, ∀ c, e.1 ≠ .store c) :
    Served (FollowCall.Serves stores serves) w (Synchronizer.syncCalls t) w := by
  induction t with
  | nil => exact .nil w
  | cons e t ih =>
    rw [List.forall_mem_cons] at h
    exact .cons (.sync w h.1 e.2) (ih h.2)

/-- A pass whose window is broken off does to the world what its handler does. -/
lemma served_brokenCalls (head next last : UInt64) (batches : List (κ × List ε))
    (h : Served (FollowCall.Serves stores serves) w v w') :
    Served (FollowCall.Serves stores serves) w
      (Synchronizer.brokenCalls head next last batches v) w' := by
  refine (served_syncCalls w ?_).append h
  refine List.forall_mem_cons.mpr ⟨by simp, List.forall_mem_cons.mpr ⟨by simp, ?_⟩⟩
  exact List.forall_mem_map.mpr fun batch _ c => by simp

/-- A pass that completes a window does to the world what its handler does, and saves its cursor. -/
lemma served_windowCalls {service : String} (window : Synchronizer.Window kinds ε)
    (h : Served (FollowCall.Serves stores serves) w v w')
    (hsave : stores w' (.saveCursor service window.last) (.ok ()) w'') :
    Served (FollowCall.Serves stores serves) w
      (Synchronizer.windowCalls service window v) w'' := by
  refine (served_brokenCalls window.last window.first window.last window.batches h).append ?_
  exact .cons (.store hsave) (.cons (.sync w'' (by simp) _) (.nil w''))

end

/-- What a world serves to answer calls that stand for others, it serves to those one after
another. -/
lemma Served.of_expands {R : Type} {B : R → Type} {σ : (q : Q) → Program B (A q)}
    {serves : W → (r : R) → B r → W → Prop} {w w' : W} {t : Trace A} {u : Trace B}
    (hexpands : Expands σ t u) (h : Served serves w u w') :
    Served (fun w q answer w' => ∃ v, Runs (σ q) v answer ∧ Served serves w v w') w t w' := by
  induction hexpands generalizing w with
  | nil =>
    cases h
    exact .nil _
  | cons hcall _ ih =>
    obtain ⟨w₁, hpart, hrest⟩ := h.of_append
    exact .cons ⟨_, hcall, hpart⟩ (ih hrest)

/-- Passes of a service, each from the cursor and the world that the one before has left. -/
inductive Passes {R : Type} {B : R → Type} (s : Synchronizer (Program B) κ ε)
    (serves : W → (r : R) → B r → W → Prop) :
    UInt64 → W → List (Trace B) → UInt64 → W → Prop where
  | nil (cursor : UInt64) (w : W) : Passes s serves cursor w [] cursor w
  | cons {start next stop : UInt64} {w w' w'' : W} {u : Trace B} {us : List (Trace B)}
      {r : Except SyncError Sync.Outcome} (hrun : Runs (s.poll (some start)) u (r, some next))
      (hserved : Served serves w u w') (hrest : Passes s serves next w' us stop w'') :
      Passes s serves start w (u :: us) stop w''

/-- The passes of a service are those of a run, each call of which is answered by what it stands
for. -/
lemma Passes.exists_run {R : Type} {B : R → Type} {s : Synchronizer (Program B) κ ε}
    {serves : W → (r : R) → B r → W → Prop} {start stop : UInt64} {w w' : W} {us : List (Trace B)}
    (h : Passes s serves start w us stop w') :
    ∃ passes : List (Synchronizer.Pass κ ε),
      Synchronizer.Run s.source.label s.kinds s.config start passes stop ∧
      Expands s.answers (passes.flatMap (·.trace)) us.flatten ∧ Served serves w us.flatten w' := by
  induction h with
  | nil cursor w => exact ⟨[], .nil cursor, .nil, .nil w⟩
  | @cons start next stop w w' w'' u us r hrun hserved _ ih =>
    obtain ⟨passes, hpasses, hexpands, hrest⟩ := ih
    rw [← s.interpret_poll] at hrun
    obtain ⟨t, ht, hu⟩ := runs_interpret.mp hrun
    refine ⟨⟨start, t, r, next⟩ :: passes, .cons (p := ⟨start, t, r, next⟩) ht hpasses, ?_, ?_⟩
    · exact hu.append hexpands
    · exact hserved.append hrest

/-- What the processes of a service may have called, one process after another, each from no cursor
on, the world that this has led to, and the process that is running, if there is one, with its
cursor if that has been found. -/
inductive Lives {R : Type} {B : R → Type} (s : Synchronizer (Program B) κ ε)
    (serves : W → (r : R) → B r → W → Prop) (first : W) :
    List (Trace B) → W → Option (Option UInt64) → Prop where
  | begins : Lives s serves first [] first none
  | start {us : List (Trace B)} {w : W} {process : Option (Option UInt64)}
      (h : Lives s serves first us w process) : Lives s serves first us w (some none)
  | poll {us : List (Trace B)} {w w' : W} {cursor stop : Option UInt64} {u : Trace B}
      {r : Except SyncError Sync.Outcome} (h : Lives s serves first us w (some cursor))
      (hrun : Runs (s.poll cursor) u (r, stop)) (hserved : Served serves w u w') :
      Lives s serves first (us ++ [u]) w' (some stop)
  | crash {us : List (Trace B)} {w w' : W} {cursor : Option UInt64} {u : Trace B}
      {rest : Program B (Except SyncError Sync.Outcome × Option UInt64)}
      (h : Lives s serves first us w (some cursor)) (hreaches : Reaches (s.poll cursor) u rest)
      (hserved : Served serves w u w') : Lives s serves first (us ++ [u]) w' none

namespace Lives

variable {R : Type} {B : R → Type} {s : Synchronizer (Program B) κ ε}
  {serves : W → (r : R) → B r → W → Prop} {first w : W} {us : List (Trace B)}
  {process : Option (Option UInt64)}

/-- The world has served all that has been called. -/
lemma served (h : Lives s serves first us w process) : Served serves first us.flatten w := by
  induction h with
  | begins => exact .nil first
  | start _ ih => exact ih
  | poll _ _ hserved ih | crash _ _ hserved ih =>
    rw [List.flatten_append, List.flatten_singleton]
    exact ih.append hserved

/-- All that has been called are the calls of passes, whole or broken off. -/
lemma reaches (h : Lives s serves first us w process) :
    ∀ u ∈ us, ∃ cursor rest, Reaches (s.poll cursor) u rest := by
  induction h with
  | begins => simp
  | start _ ih => exact ih
  | poll _ hrun _ ih => exact List.forall_mem_append.mpr ⟨ih, by simpa using ⟨_, _, hrun⟩⟩
  | crash _ hreaches _ ih =>
    exact List.forall_mem_append.mpr ⟨ih, by simpa using ⟨_, _, hreaches⟩⟩

end Lives

end ComputeExchange
