import ComputeExchange.Proofs.Interpretation
import ComputeExchange.Proofs.Sync.Calls

/-!
# A synchronizer as an interpreted program

`Synchronizer.asking` has calls for surroundings.  Any synchronizer does what the program of that
one says, each call answered by its own surroundings; `interpret_poll` says so of a pass.  So what
is known of the calls of a pass is known of a pass in any surroundings, among them a handler that
makes calls itself.
-/

namespace ComputeExchange

namespace Synchronizer

open Program

variable {m : Type → Type} [Monad m] {κ ε : Type} (s : Synchronizer m κ ε)

/-- How the surroundings of a synchronizer answer its calls. -/
def answers : (q : SyncCall κ ε) → m (SyncCall.Answer κ ε q)
  | .head => s.source.head
  | .fetch kind first last => s.source.fetch kind first last
  | .handle event => s.handle event
  | .store c => s.cursors.perform c
  | .pause span => s.pause span
  | .tell event => s.tell event

/-- The synchronizer with calls for surroundings. -/
abbrev bare : Synchronizer (Program (SyncCall.Answer κ ε)) κ ε :=
  asking s.source.label s.kinds s.config

variable [LawfulMonad m]

/-- Fetching is interpreted. -/
lemma interpret_fetchAll (first last : UInt64) (wanted : List κ) :
    (s.bare.fetchAll first last wanted).interpret s.answers = s.fetchAll first last wanted := by
  induction wanted with
  | nil => rfl
  | cons kind rest ih =>
    have hfetch : (s.bare.source.fetch kind first last).interpret s.answers =
        s.source.fetch kind first last := interpret_ask s.answers _
    rw [fetchAll, fetchAll, interpret_bind, hfetch]
    refine bind_congr fun fetched => ?_
    cases fetched with
    | error cause => rfl
    | ok events =>
      rw [interpret_bind, ih]
      refine bind_congr fun more => ?_
      cases more <;> rfl

/-- Handing out is interpreted. -/
lemma interpret_handleAll (events : List ε) (tally : Tally) :
    (s.bare.handleAll events tally).interpret s.answers = s.handleAll events tally := by
  induction events generalizing tally with
  | nil => rfl
  | cons event rest ih =>
    have hhandle : (s.bare.handle event).interpret s.answers = s.handle event :=
      interpret_ask s.answers _
    rw [handleAll, handleAll, interpret_bind, hhandle]
    refine bind_congr fun answer => ?_
    cases answer with
    | ok => exact ih _
    | error e =>
      cases e with
      | skip => exact ih _
      | retry => rfl

/-- Trying again is interpreted if what is tried is. -/
lemma interpret_attempt {α δ : Type} (action : Program (SyncCall.Answer κ ε) (Except δ α))
    (waits : List Nat) :
    (Retry.attempt s.bare.pause action waits).interpret s.answers =
      Retry.attempt s.pause (action.interpret s.answers) waits := by
  induction waits with
  | nil => rfl
  | cons wait rest ih =>
    have hpause : (s.bare.pause wait).interpret s.answers = s.pause wait :=
      interpret_ask s.answers _
    rw [Retry.attempt, Retry.attempt, interpret_bind]
    refine bind_congr fun answer => ?_
    cases answer with
    | ok a => rfl
    | error e =>
      rw [interpret_bind, hpause]
      exact bind_congr fun _ => ih

/-- What is asked of the store is answered by the store. -/
lemma interpret_perform (c : StoreCall) :
    (s.bare.cursors.perform c).interpret s.answers = s.cursors.perform c :=
  interpret_ask s.answers _

/-- Saving the cursor is interpreted. -/
lemma interpret_persist (block : UInt64) :
    (s.bare.persist block).interpret s.answers = s.persist block := by
  rw [persist, persist, interpret_bind, interpret_attempt, interpret_perform]
  rfl

/-- Reading the head is interpreted. -/
lemma interpret_head : s.bare.source.head.interpret s.answers = s.source.head :=
  interpret_ask s.answers _

/-- Telling the health report is interpreted. -/
lemma interpret_tell (event : Health.Event) :
    (s.bare.tell event).interpret s.answers = s.tell event := interpret_ask s.answers _

/-- Finding the starting cursor is interpreted. -/
lemma interpret_resolve : s.bare.resolve.interpret s.answers = s.resolve := by
  rw [resolve, resolve, asking_config]
  by_cases hrange : s.config.rangeSize = 0
  · rw [if_pos hrange, if_pos hrange]
    rfl
  rw [if_neg hrange, if_neg hrange, interpret_bind, interpret_attempt, interpret_perform]
  refine bind_congr fun loaded => ?_
  have hsave : ∀ block : UInt64,
      (s.bare.persist block >>= fun _ => pure (.ok block)).interpret s.answers =
        s.persist block >>= fun _ => pure (.ok block : Except SyncError UInt64) := by
    intro block
    rw [interpret_bind, interpret_persist]
    rfl
  cases loaded with
  | error e => rfl
  | ok saved =>
    cases saved with
    | some block =>
      simp only [pure_bind]
      exact hsave _
    | none =>
      simp only [interpret_bind, interpret_head]
      refine bind_congr fun found => ?_
      cases found with
      | error cause => rfl
      | ok block => exact hsave _

/-- A walk along the chain is interpreted. -/
lemma interpret_walk (first head next cursor : UInt64) (tally : Tally) :
    (s.bare.walk first head next cursor tally).interpret s.answers =
      s.walk first head next cursor tally := by
  induction next, cursor, tally using walk.induct s head with
  | case1 next cursor tally hle last ih =>
    rw [walk, walk, dif_pos hle, dif_pos hle]
    simp only [interpret_bind, interpret_fetchAll]
    refine bind_congr fun fetched => ?_
    cases fetched with
    | error e => rfl
    | ok events =>
      simp only [interpret_bind, interpret_handleAll]
      refine bind_congr fun handled => ?_
      cases handled with
      | error cause => rfl
      | ok tally =>
        simp only [interpret_bind, interpret_persist, interpret_tell]
        refine bind_congr fun _ => bind_congr fun _ => ?_
        change Program.interpret s.answers (if _ : last = Clamp.greatest then _ else _) =
          if _ : last = Clamp.greatest then _ else _
        by_cases hmax : last = Clamp.greatest
        · rw [dif_pos hmax, dif_pos hmax]
          rfl
        · rw [dif_neg hmax, dif_neg hmax]
          exact ih tally hmax
  | case2 next cursor tally hlt =>
    rw [walk, walk, dif_neg hlt, dif_neg hlt]
    rfl

/-- A pass from a cursor is interpreted. -/
lemma interpret_poll_some (start : UInt64) :
    (s.bare.poll (some start)).interpret s.answers = s.poll (some start) := by
  unfold poll
  simp only [pure_bind, interpret_bind, interpret_head]
  refine bind_congr fun found => ?_
  cases found with
  | error cause => rfl
  | ok head =>
    simp only [interpret_bind, interpret_tell]
    refine bind_congr fun _ => ?_
    by_cases hle : head ≤ start
    · rw [if_pos hle, if_pos hle]
      rfl
    · rw [if_neg hle, if_neg hle, interpret_bind, interpret_walk]
      rfl

/-- A pass is interpreted. -/
theorem interpret_poll (cursor : Option UInt64) :
    (s.bare.poll cursor).interpret s.answers = s.poll cursor := by
  cases cursor with
  | some start => exact s.interpret_poll_some start
  | none =>
    unfold poll
    rw [interpret_bind, interpret_resolve]
    refine bind_congr fun resolved => ?_
    cases resolved with
    | error e => rfl
    | ok start =>
      have hpass := s.interpret_poll_some start
      unfold poll at hpass
      simpa only [pure_bind] using hpass

end Synchronizer

end ComputeExchange
