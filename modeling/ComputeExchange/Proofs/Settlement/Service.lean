import ComputeExchange.Proofs.Settlement.Calls
import ComputeExchange.Proofs.Sync.Delivery
import ComputeExchange.Proofs.Sync.Interpreted
import ComputeExchange.Proofs.Sync.Resolving

/-!
# Settlement along the chain

`Settler.service` is a synchronizer whose handler is the settler.  A confirmation that has been
submitted twice is credited twice, and that cannot be undone; so the settler never asks for another
try (`isSettled_of_handle`), and the synchronizer never hands a confirmation out again.

`submitted_once` puts both together, whatever fails: over a chain that does not change, the calls
on the ledgers are, confirmation after confirmation of the blocks that have been passed, one look at
the provider, and one submission if there is a provider.
-/

namespace ComputeExchange

/-- What settlement along the chain asks of its surroundings: what following the chain does, and
what settling does. -/
inductive ServiceCall : Type where
  | sync (c : SyncCall Unit JobConfirmation)
  | settle (c : SettlementCall)

/-- What each call is answered with. -/
abbrev ServiceCall.Answer : ServiceCall → Type
  | .sync c => SyncCall.Answer Unit JobConfirmation c
  | .settle c => c.Answer

namespace Settler

open Program Synchronizer

/-- The synchronizer that hands the confirmations of the chain to the settler. -/
def service (label : Unit → String) (config : Sync.Config) :
    Synchronizer (Program ServiceCall.Answer) Unit JobConfirmation where
  source :=
    { label := label
      head := ask (A := ServiceCall.Answer) (.sync .head)
      fetch := fun kind first last =>
        ask (A := ServiceCall.Answer) (.sync (.fetch kind first last)) }
  handle := fun event =>
    (asking.handle event).interpret fun c => ask (A := ServiceCall.Answer) (.settle c)
  cursors := ⟨fun c => ask (A := ServiceCall.Answer) (.sync (.store c))⟩
  kinds := [()]
  config := config
  pause := fun span => ask (A := ServiceCall.Answer) (.sync (.pause span))
  tell := fun event => ask (A := ServiceCall.Answer) (.sync (.tell event))

variable {label : Unit → String} {config : Sync.Config} {t : SyncTrace Unit JobConfirmation}
  {u : Trace ServiceCall.Answer}

/-! ### The part of the settler -/

/-- The call of the settler that a call is. -/
def settlement? : Event ServiceCall.Answer → Option (Event SettlementCall.Answer)
  | ⟨.settle c, answer⟩ => some ⟨c, answer⟩
  | _ => none

/-- What the settler has called. -/
def settlements (u : Trace ServiceCall.Answer) : SettlementTrace := u.filterMap settlement?

lemma settlements_append (u u' : Trace ServiceCall.Answer) :
    settlements (u ++ u') = settlements u ++ settlements u' := List.filterMap_append

/-- A handler never asks for another try. -/
lemma isSettled_of_handle {event : JobConfirmation} {s : SettlementTrace}
    {answer : Except HandleError Unit} (h : Runs (asking.handle event) s answer) :
    isSettled answer = true := by
  obtain ⟨s₁, r, s₂, rfl, -, hend⟩ := runs_bind.mp h
  cases r with
  | error e =>
    obtain ⟨-, rfl⟩ := runs_pure.mp hend
    rfl
  | ok settlement =>
    obtain ⟨-, rfl⟩ := runs_pure.mp hend
    rfl

/-- Handling a confirmation is settling its job. -/
lemma settled_of_handle {event : JobConfirmation} {s : SettlementTrace}
    {answer : Except HandleError Unit} (h : Runs (asking.handle event) s answer) :
    ∃ r, Settled event.jobId s r := by
  obtain ⟨s₁, r, s₂, rfl, hsettle, hend⟩ := runs_bind.mp h
  obtain rfl : s₂ = [] := by
    cases r <;> exact (runs_pure.mp hend).1
  rw [List.append_nil]
  exact ⟨r, settled_of_runs hsettle⟩

/-- What the settler calls among the calls of the service is what it calls by itself. -/
lemma settlements_of_expands {s : SettlementTrace}
    (h : Expands (fun c => ask (A := ServiceCall.Answer) (.settle c)) s u) : settlements u = s := by
  induction h with
  | nil => rfl
  | @cons c answer s u u' hcall _ ih =>
    obtain rfl := runs_ask.mp hcall
    rw [settlements_append, ih]
    rfl

/-- What the settler calls is, event after event of those handed out, a handling of the event. -/
lemma settlements_eq (h : Expands (service label config).answers t u) :
    ∃ parts : List (JobConfirmation × SettlementTrace), parts.map (·.1) = handed t ∧
      settlements u = parts.flatMap (·.2) ∧
      ∀ part ∈ parts, ∃ answer, Runs (asking.handle part.1) part.2 answer := by
  induction h with
  | nil => exact ⟨[], rfl, rfl, by simp⟩
  | @cons q answer t u u' hcall _ ih =>
    obtain ⟨parts, hhanded, hparts, hruns⟩ := ih
    have hother : settlements u = [] → handedBy ⟨q, answer⟩ = none →
        ∃ parts : List (JobConfirmation × SettlementTrace),
          parts.map (·.1) = handed (⟨q, answer⟩ :: t) ∧
          settlements (u ++ u') = parts.flatMap (·.2) ∧
          ∀ part ∈ parts, ∃ answer, Runs (asking.handle part.1) part.2 answer := by
      intro hnone hnot
      refine ⟨parts, ?_, ?_, hruns⟩
      · rw [handed, List.filterMap_cons_none hnot]
        exact hhanded
      · rw [settlements_append, hnone, hparts]
        rfl
    cases q with
    | handle event =>
      obtain ⟨s, hhandle, hexpands⟩ := runs_interpret.mp hcall
      refine ⟨(event, s) :: parts, ?_, ?_, List.forall_mem_cons.mpr ⟨⟨answer, hhandle⟩, hruns⟩⟩
      · rw [List.map_cons, hhanded]
        rfl
      · rw [settlements_append, settlements_of_expands hexpands, hparts]
        rfl
    | _ =>
      obtain rfl := runs_ask.mp hcall
      exact hother rfl rfl

/-! ### The calls on the ledgers -/

/-- A confirmation, and what the payment side has answered when it was asked for the provider. -/
abbrev Lookup : Type := JobConfirmation × Except Cause Address

/-- Whether a call asks for a provider or credits one. -/
def isLedgerCall : SettlementCall → Bool
  | .provider _ => true
  | .submit _ => true
  | _ => false

/-- The calls that ask for providers and credit them. -/
def ledgerCalls (s : SettlementTrace) : SettlementTrace := s.filter (isLedgerCall ·.1)

/-- The submissions for a confirmation: one, if it has a provider. -/
def submissionsFor : Except Cause Address → SettlementTrace
  | .ok provider => if provider = Bytes.zero 20 then [] else [⟨.submit provider, ()⟩]
  | .error _ => []

/-- The calls on the ledgers for a confirmation: its provider is asked for, and credited once if
there is one. -/
def Lookup.calls (l : Lookup) : SettlementTrace :=
  ⟨.provider l.1.jobId, l.2⟩ :: submissionsFor l.2

/-- A settlement makes the calls on the ledgers that it should. -/
lemma Settled.exists_lookup {event : JobConfirmation} {s : SettlementTrace}
    {r : Except SettlementError Settlement} (h : Settled event.jobId s r) :
    ∃ found, ledgerCalls s = Lookup.calls (event, found) := by
  cases h with
  | unresolved cause => exact ⟨.error cause, rfl⟩
  | unknown => exact ⟨.ok (Bytes.zero 20), rfl⟩
  | @submitted provider hknown outcome copying hcopying =>
    have hnone : ledgerCalls copying = [] := by
      refine List.filter_eq_nil_iff.mpr fun e he => ?_
      obtain ⟨q, answer⟩ := e
      have hq := hcopying _ he
      cases q with
      | count | clock | store => simp [isLedgerCall]
      | _ => cases hq
    have hone : submissionsFor (.ok provider) = [⟨.submit provider, ()⟩] := if_neg hknown
    refine ⟨.ok provider, ?_⟩
    rw [ledgerCalls, List.filter_append, ← ledgerCalls, ← ledgerCalls, hnone, Lookup.calls, hone]
    rfl

/-- Handlings one after another make the calls on the ledgers that they should. -/
lemma exists_lookups {parts : List (JobConfirmation × SettlementTrace)}
    (h : ∀ part ∈ parts, ∃ answer, Runs (asking.handle part.1) part.2 answer) :
    ∃ lookups : List Lookup, lookups.map (·.1) = parts.map (·.1) ∧
      ledgerCalls (parts.flatMap (·.2)) = lookups.flatMap Lookup.calls := by
  induction parts with
  | nil => exact ⟨[], rfl, rfl⟩
  | cons part parts ih =>
    rw [List.forall_mem_cons] at h
    obtain ⟨⟨answer, hhandle⟩, hrest⟩ := h
    obtain ⟨lookups, hmap, hcalls⟩ := ih hrest
    obtain ⟨r, hsettled⟩ := settled_of_handle hhandle
    obtain ⟨found, hfound⟩ := hsettled.exists_lookup
    refine ⟨(part.1, found) :: lookups, by simp [hmap], ?_⟩
    rw [List.flatMap_cons, List.flatMap_cons, ledgerCalls, List.filter_append, ← ledgerCalls,
      ← ledgerCalls, hfound, hcalls]

/-- The calls on the ledgers while the cursor moves from one block to another: those for each
confirmation of the blocks in between, in the order of the chain. -/
def AskedOnce (chain : FixedChain Unit JobConfirmation) (start stop : UInt64)
    (calls : SettlementTrace) : Prop :=
  start ≤ stop ∧ ∃ lookups : List Lookup, lookups.map (·.1) = chain.after () start stop ∧
    calls = lookups.flatMap Lookup.calls

variable {chain : FixedChain Unit JobConfirmation}

/-- Nothing is asked while the cursor stands still. -/
lemma askedOnce_nil (block : UInt64) : AskedOnce chain block block [] :=
  ⟨UInt64.le_refl block, [], (chain.after_self () block).symm, rfl⟩

/-- The calls on the ledgers of two moves of the cursor. -/
lemma AskedOnce.append {start middle stop : UInt64} {calls calls' : SettlementTrace}
    (h : AskedOnce chain start middle calls) (h' : AskedOnce chain middle stop calls') :
    AskedOnce chain start stop (calls ++ calls') := by
  obtain ⟨hle, lookups, hmap, rfl⟩ := h
  obtain ⟨hle', lookups', hmap', rfl⟩ := h'
  refine ⟨UInt64.le_trans hle hle', lookups ++ lookups', ?_, by simp⟩
  rw [List.map_append, hmap, hmap', chain.after_append_after () hle hle']

/-! ### A pass -/

/-- Every fetch that succeeds is answered with the confirmations of the chain. -/
def Faithful (chain : FixedChain Unit JobConfirmation) (u : Trace ServiceCall.Answer) : Prop :=
  ∀ first last events, ⟨.sync (.fetch () first last), .ok events⟩ ∈ u →
    events = chain.slice () first last

/-- A pass from a cursor asks once for each confirmation that it passes, and is not stopped by
one. -/
lemma askedOnce_of_poll {start : UInt64} {stop : Option UInt64}
    {r : Except SyncError Sync.Outcome} (hchain : Faithful chain u)
    (h : Runs ((service label config).poll (some start)) u (r, stop)) :
    (∀ first last cause, r ≠ .error (.handler first last cause)) ∧
      ∃ cursor, stop = some cursor ∧
        AskedOnce chain start cursor (ledgerCalls (settlements u)) := by
  rw [← interpret_poll] at h
  obtain ⟨t, hruns, hexpands⟩ := runs_interpret.mp h
  obtain ⟨cursor, hstop, hpassed⟩ := passed_of_runs_poll hruns
  have hnever : NeverRetried t := by
    intro event cause hmem
    obtain ⟨part, -, hpart⟩ := hexpands.exists_part hmem
    obtain ⟨s, hhandle, -⟩ := runs_interpret.mp hpart
    cases isSettled_of_handle hhandle
  have hexplains : chain.Explains t := by
    intro kind first last events hmem
    obtain ⟨part, hsub, hpart⟩ := hexpands.exists_part hmem
    obtain rfl := runs_ask.mp hpart
    exact hchain first last events (hsub List.mem_cons_self)
  obtain ⟨parts, hhanded, hparts, hhandlings⟩ := settlements_eq hexpands
  obtain ⟨lookups, hlookups, hcalls⟩ := exists_lookups hhandlings
  refine ⟨hpassed.ne_handler hnever, cursor, hstop, hpassed.le, lookups, ?_, ?_⟩
  · rw [hlookups, hhanded]
    exact hpassed.handed_eq_after hnever hexplains
  · rw [hparts, hcalls]

/-- Nothing is settled while the starting cursor is found, and no confirmation stops it. -/
lemma settlements_of_resolve {r : Except SyncError UInt64}
    (h : Runs (service label config).resolve u r) :
    settlements u = [] ∧ ∀ first last cause, r ≠ .error (.handler first last cause) := by
  rw [← interpret_resolve] at h
  obtain ⟨t, hruns, hexpands⟩ := runs_interpret.mp h
  obtain ⟨parts, hhanded, hparts, -⟩ := settlements_eq hexpands
  rw [handed_resolving hruns, List.map_eq_nil_iff] at hhanded
  refine ⟨by rw [hparts, hhanded]; rfl, ?_⟩
  obtain ⟨-, -, -, -, ⟨⟨e, rfl, hne⟩, -⟩ | ⟨saved, block, rfl, -⟩⟩ :=
    calls_of_runs_resolve_any hruns
  · exact fun first last cause heq => hne first last cause (Except.error.inj heq)
  · exact fun first last cause heq => nomatch heq

/-! ### One pass after another -/

/-- A pass of the service: its calls and its result, and the cursors at its start and at its end,
`none` as long as none has been found. -/
structure ServicePass where
  start : Option UInt64
  trace : Trace ServiceCall.Answer
  result : Except SyncError Sync.Outcome
  stop : Option UInt64

/-- Passes of the service, each from the cursor that the one before has left. -/
inductive ServiceRun (label : Unit → String) (config : Sync.Config) :
    Option UInt64 → List ServicePass → Option UInt64 → Prop where
  | nil (cursor : Option UInt64) : ServiceRun label config cursor [] cursor
  | cons {p : ServicePass} {passes : List ServicePass} {stop : Option UInt64}
      (hpass : Runs ((service label config).poll p.start) p.trace (p.result, p.stop))
      (hrest : ServiceRun label config p.stop passes stop) :
      ServiceRun label config p.start (p :: passes) stop

/-- The starting cursor of some passes: they start from it, or one of them, which has started
without a cursor, has found it first. -/
def Origin (label : Unit → String) (config : Sync.Config) (start : Option UInt64)
    (passes : List ServicePass) (block : UInt64) : Prop :=
  start = some block ∨ start = none ∧ ∃ p ∈ passes, p.start = none ∧
    ∃ finding, finding <+: p.trace ∧ Runs (service label config).resolve finding (.ok block)

/-- The starting cursor of a pass is that of all the passes from there on. -/
lemma Origin.of_singleton {start : Option UInt64} {p : ServicePass} {block : UInt64}
    (h : Origin label config start [p] block) (passes : List ServicePass) :
    Origin label config start (p :: passes) block := by
  refine h.imp_right fun ⟨hstart, q, hq, hfound⟩ => ⟨hstart, q, ?_, hfound⟩
  rw [List.mem_singleton.mp hq]
  exact List.mem_cons_self

/-- The starting cursor of passes is that of the passes from an earlier one on that has found
none. -/
lemma Origin.cons {p : ServicePass} {passes : List ServicePass} {block : UInt64}
    (h : Origin label config p.stop passes block) (hstart : p.start = none)
    (hstop : p.stop = none) : Origin label config p.start (p :: passes) block := by
  rcases h with hsome | ⟨-, q, hq, hfound⟩
  · rw [hstop] at hsome
    cases hsome
  · exact Or.inr ⟨hstart, q, List.mem_cons_of_mem p hq, hfound⟩

/-- Passes that start from a cursor have no other one. -/
lemma Origin.eq_of_some {passes : List ServicePass} {block start : UInt64}
    (h : Origin label config (some start) passes block) : block = start := by
  rcases h with hsome | ⟨hnone, -⟩
  · exact (Option.some.inj hsome).symm
  · cases hnone

/-- What the passes of a run have called on the ledgers. -/
def runCalls (passes : List ServicePass) : SettlementTrace :=
  ledgerCalls (settlements (passes.flatMap (·.trace)))

lemma runCalls_cons (p : ServicePass) (passes : List ServicePass) :
    runCalls (p :: passes) = ledgerCalls (settlements p.trace) ++ runCalls passes := by
  rw [runCalls, List.flatMap_cons, settlements_append, ledgerCalls, List.filter_append]
  rfl

/-- A pass asks once for each confirmation that it passes, once a cursor has been found. -/
lemma askedOnce_of_pass {p : ServicePass} (hchain : Faithful chain p.trace)
    (h : Runs ((service label config).poll p.start) p.trace (p.result, p.stop)) :
    (∀ first last cause, p.result ≠ .error (.handler first last cause)) ∧
    ((p.start = none ∧ p.stop = none ∧ ledgerCalls (settlements p.trace) = []) ∨
      ∃ start stop, Origin label config p.start [p] start ∧ p.stop = some stop ∧
        AskedOnce chain start stop (ledgerCalls (settlements p.trace))) := by
  obtain ⟨begun, u, r, ended⟩ := p
  cases begun with
  | some start =>
    obtain ⟨hne, stop, hstop, hasked⟩ := askedOnce_of_poll hchain h
    exact ⟨hne, Or.inr ⟨start, stop, Or.inl rfl, hstop, hasked⟩⟩
  | none =>
    rcases runs_poll_none_iff.mp h with ⟨e, hresolve, hr, hstop⟩ | ⟨u₁, start, u₂, hu, hresolve, h⟩
    · obtain ⟨hnone, hne⟩ := settlements_of_resolve hresolve
      refine ⟨fun first last cause heq => ?_, Or.inl ⟨rfl, hstop, by rw [hnone]; rfl⟩⟩
      exact hne first last cause (congrArg _ (Except.error.inj (hr.symm.trans heq)))
    · change u = u₁ ++ u₂ at hu
      subst hu
      obtain ⟨hne, stop, hstop, hasked⟩ := askedOnce_of_poll
        (fun first last events hmem => hchain first last events (List.mem_append_right u₁ hmem)) h
      have hfound : Origin label config none [⟨none, u₁ ++ u₂, r, ended⟩] start :=
        Or.inr ⟨rfl, _, List.mem_singleton.mpr rfl, rfl, u₁, List.prefix_append u₁ u₂, hresolve⟩
      refine ⟨hne, Or.inr ⟨start, stop, hfound, hstop, ?_⟩⟩
      rwa [settlements_append, (settlements_of_resolve hresolve).1, List.nil_append]

/-- Whatever fails, no pass of the service is stopped by a confirmation; and the calls on the
ledgers, if a cursor has been found at all, are those for the confirmations of the blocks after the
starting cursor and up to the cursor at the end, in the order of the chain: the provider of each is
asked for, and credited once if there is one. -/
theorem submitted_once {start stop : Option UInt64} {passes : List ServicePass}
    (hrun : ServiceRun label config start passes stop)
    (hchain : ∀ p ∈ passes, Faithful chain p.trace) :
    (∀ p ∈ passes, ∀ first last cause, p.result ≠ .error (.handler first last cause)) ∧
    ((start = none ∧ stop = none ∧ runCalls passes = []) ∨
      ∃ c₀ c, Origin label config start passes c₀ ∧ stop = some c ∧
        AskedOnce chain c₀ c (runCalls passes)) := by
  induction hrun with
  | nil cursor =>
    refine ⟨by simp, ?_⟩
    cases cursor with
    | none => exact Or.inl ⟨rfl, rfl, rfl⟩
    | some block => exact Or.inr ⟨block, block, Or.inl rfl, rfl, askedOnce_nil block⟩
  | @cons p passes stop hpass _ ih =>
    rw [List.forall_mem_cons] at hchain
    obtain ⟨hne, hfirst⟩ := askedOnce_of_pass hchain.1 hpass
    obtain ⟨hnes, hrest⟩ := ih hchain.2
    refine ⟨List.forall_mem_cons.mpr ⟨hne, hnes⟩, ?_⟩
    rw [runCalls_cons]
    rcases hfirst with ⟨hstart, hnone, hcalls⟩ | ⟨c₀, c, horigin, hc, hasked⟩
    · rw [hcalls, List.nil_append]
      rcases hrest with ⟨-, hstop, hcalls'⟩ | ⟨c₀, c, horigin, hstop, hasked⟩
      · exact Or.inl ⟨hstart, hstop, hcalls'⟩
      · exact Or.inr ⟨c₀, c, horigin.cons hstart hnone, hstop, hasked⟩
    · rw [hc] at hrest
      rcases hrest with ⟨hnone, -⟩ | ⟨c', stop', horigin', hstop, hasked'⟩
      · cases hnone
      · obtain rfl := horigin'.eq_of_some
        exact Or.inr ⟨c₀, stop', horigin.of_singleton passes, hstop, hasked.append hasked'⟩

/-- A chain with one confirmation, in block 11. -/
def confirmedAt11 : FixedChain Unit JobConfirmation where
  block := fun _ => 11
  events := fun _ => [default]
  sorted := fun _ => List.pairwise_singleton _ _

/-- The calls of a settlement that ends well. -/
def creditCalls : Trace ServiceCall.Answer :=
  [⟨.settle (.provider default), .ok someProvider⟩, ⟨.settle .acquire, ()⟩,
    ⟨.settle (.submit someProvider), ()⟩, ⟨.settle (.receipt someProvider), .ok creditReceipt⟩,
    ⟨.settle .release, ()⟩, ⟨.settle (.count someProvider), .error default⟩]

/-- A pass that cannot read the head, and one that then finds the block with the confirmation. -/
def passesAfterSilence : List ServicePass :=
  [⟨some 10, [⟨.sync .head, .error default⟩], .error (.head default), some 10⟩,
    ⟨some 10, [⟨.sync .head, .ok 11⟩, ⟨.sync (.tell (.head 11)), ()⟩,
        ⟨.sync (.fetch () 11 11), .ok [default]⟩] ++ (creditCalls ++
        [⟨.sync (.store (.saveCursor "svc" 11)), .ok ()⟩,
          ⟨.sync (.tell (.progress (some 11))), ()⟩]),
      .ok (.advanced 11 11 1 0), some 11⟩]

/-- The confirmation is submitted once although the head could not be read before. -/
theorem submitted_once_after_silence :
    ServiceRun (fun _ => "JobConfirmed") ⟨"svc", 1, 100, none⟩ (some 10) passesAfterSilence
      (some 11) ∧
    (∀ p ∈ passesAfterSilence, Faithful confirmedAt11 p.trace) ∧
    runCalls passesAfterSilence =
      [⟨.provider default, .ok someProvider⟩, ⟨.submit someProvider, ()⟩] ∧
    AskedOnce confirmedAt11 10 11 (runCalls passesAfterSilence) := by
  have hpoll : Runs
      ((service (fun _ => "JobConfirmed") ⟨"svc", 1, 100, none⟩).bare.poll (some 10))
      [⟨.head, .ok 11⟩, ⟨.tell (.head 11), ()⟩, ⟨.fetch () 11 11, .ok [default]⟩,
        ⟨.handle default, .ok ()⟩, ⟨.store (.saveCursor "svc" 11), .ok ()⟩,
        ⟨.tell (.progress (some 11)), ()⟩] (.ok (.advanced 11 11 1 0), some 11) :=
    runs_poll_block rfl (by decide) rfl
  have hhandle : Runs ((service (fun _ => "JobConfirmed") ⟨"svc", 1, 100, none⟩).handle default)
      creditCalls (.ok ()) :=
    .call _ (.call _ (.call _ (.call _ (.call _ (.call _ (.here _))))))
  have hexpands : Expands (service (fun _ => "JobConfirmed") ⟨"svc", 1, 100, none⟩).answers
      [⟨.head, .ok 11⟩, ⟨.tell (.head 11), ()⟩, ⟨.fetch () 11 11, .ok [default]⟩,
        ⟨.handle default, .ok ()⟩, ⟨.store (.saveCursor "svc" 11), .ok ()⟩,
        ⟨.tell (.progress (some 11)), ()⟩] _ :=
    .cons (runs_ask.mpr rfl) (.cons (runs_ask.mpr rfl) (.cons (runs_ask.mpr rfl) (.cons hhandle
      (.cons (runs_ask.mpr rfl) (.cons (runs_ask.mpr rfl) .nil)))))
  have hrun : ServiceRun (fun _ => "JobConfirmed") ⟨"svc", 1, 100, none⟩ (some 10)
      passesAfterSilence (some 11) := by
    refine .cons (p := ⟨some 10, _, _, _⟩) ?_ (.cons (p := ⟨some 10, _, _, _⟩) ?_ (.nil _))
    · exact runs_bind.mpr ⟨[], .ok 10, _, rfl, .here _, .call _ (.here _)⟩
    · rw [← interpret_poll]
      exact runs_interpret.mpr ⟨_, hpoll, hexpands⟩
  have hchain : ∀ p ∈ passesAfterSilence, Faithful confirmedAt11 p.trace := by
    intro p hp first last events hmem
    rcases List.mem_pair.mp hp with rfl | rfl
    · simp at hmem
    · obtain ⟨⟨rfl, rfl⟩, rfl⟩ : (first = 11 ∧ last = 11) ∧ events = [default] := by
        simpa [creditCalls] using hmem
      decide
  refine ⟨hrun, hchain, rfl, ?_⟩
  obtain ⟨-, ⟨hnone, -⟩ | ⟨c₀, c, horigin, hstop, hasked⟩⟩ := submitted_once hrun hchain
  · cases hnone
  · obtain rfl := horigin.eq_of_some
    obtain rfl := Option.some.inj hstop
    exact hasked

end Settler

end ComputeExchange
