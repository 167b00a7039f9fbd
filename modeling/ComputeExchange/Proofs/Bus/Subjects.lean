import ComputeExchange.Bus.Memory
import Mathlib.Tactic

/-!
# Subjects and inboxes

A pattern without wildcards matches no subject but itself (`Subject.isMatch_iff_eq`).  The inbox
subject of a request is such a pattern, and no two requests have the same
(`MemoryBus.isMatch_inboxOf`, `MemoryBus.inboxOf_inj`).  So is the subject on which a provider is
told of its jobs, if its name is a single token and no wildcard (`Subject.isMatch_dispatch`).
-/

namespace ComputeExchange

namespace Subject

lemma split_ne_nil (cs : List Char) : split cs ≠ [] := by
  cases cs with
  | nil => simp [split]
  | cons c rest =>
    rw [split]
    split_ifs
    · simp
    · split <;> simp

/-- A character that is no dot is added to the first part. -/
lemma split_cons {c : Char} (h : c ≠ '.') (rest : List Char) :
    ∃ first more, split rest = first :: more ∧ split (c :: rest) = (c :: first) :: more := by
  obtain ⟨first, more, heq⟩ := List.exists_cons_of_ne_nil (split_ne_nil rest)
  exact ⟨first, more, heq, by rw [split, if_neg h, heq]⟩

/-- The parts with dots between them are the whole. -/
lemma intercalate_split (cs : List Char) : ['.'].intercalate (split cs) = cs := by
  induction cs with
  | nil => rfl
  | cons c rest ih =>
    by_cases hc : c = '.'
    · obtain ⟨first, more, heq⟩ := List.exists_cons_of_ne_nil (split_ne_nil rest)
      rw [split, if_pos hc, heq, List.intercalate_cons_cons, ← heq, ih, hc]
      rfl
    · obtain ⟨first, more, heq, hsplit⟩ := split_cons hc rest
      rw [heq] at ih
      rw [hsplit, ← ih]
      cases more <;> simp [List.intercalate]

/-- The parts before and after a dot, if it is the first. -/
lemma split_append {a : List Char} (hdot : '.' ∉ a) (b : List Char) :
    split (a ++ '.' :: b) = a :: split b := by
  induction a with
  | nil => rw [List.nil_append, split, if_pos rfl]
  | cons c rest ih =>
    rw [List.mem_cons, not_or] at hdot
    rw [List.cons_append, split, if_neg (Ne.symm hdot.1), ih hdot.2]

/-- Without a dot there is one part. -/
lemma split_of_notMem {a : List Char} (hdot : '.' ∉ a) : split a = [a] := by
  induction a with
  | nil => rfl
  | cons c rest ih =>
    rw [List.mem_cons, not_or] at hdot
    rw [split, if_neg (Ne.symm hdot.1), ih hdot.2]

lemma tokens_inj {s s' : String} : tokens s = tokens s' ↔ s = s' := by
  refine ⟨fun h => ?_, congrArg tokens⟩
  rw [← String.toList_inj, ← intercalate_split s.toList, ← intercalate_split s'.toList]
  exact congrArg _ h

/-- Whether no token of a pattern stands for other tokens. -/
def IsPlain (pattern : String) : Prop := ['>'] ∉ tokens pattern ∧ ['*'] ∉ tokens pattern

lemma tokensMatch_iff_eq {pattern subject : List (List Char)} (hrest : ['>'] ∉ pattern)
    (hany : ['*'] ∉ pattern) : tokensMatch pattern subject = true ↔ subject = pattern := by
  induction pattern generalizing subject with
  | nil => cases subject <;> simp [tokensMatch]
  | cons p pattern ih =>
    rw [List.mem_cons, not_or] at hrest hany
    cases subject with
    | nil => simp [tokensMatch]
    | cons t subject =>
      rw [tokensMatch, if_neg (Ne.symm hrest.1), if_neg (Ne.symm hany.1), List.cons.injEq]
      by_cases htoken : p = t
      · rw [if_pos htoken, ih hrest.2 hany.2, and_iff_right htoken.symm]
      · rw [if_neg htoken]
        exact iff_of_false Bool.false_ne_true fun h => htoken h.1.symm

/-- A pattern without wildcards matches itself alone. -/
theorem isMatch_iff_eq {pattern subject : String} (h : IsPlain pattern) :
    isMatch pattern subject = true ↔ subject = pattern := by
  rw [isMatch, tokensMatch_iff_eq h.1 h.2, tokens_inj]

lemma toList_dispatch (provider : String) :
    (dispatch provider).toList = "jobs".toList ++ '.' :: ("dispatch".toList ++ '.' ::
      provider.toList) := by
  simp [dispatch, toString]

/-- Different providers are told on different subjects. -/
lemma dispatch_inj {provider provider' : String} :
    dispatch provider = dispatch provider' ↔ provider = provider' := by
  refine ⟨fun h => ?_, congrArg dispatch⟩
  rw [← String.toList_inj, toList_dispatch, toList_dispatch] at h
  exact String.toList_inj.mp (by simpa using h)

/-- The subject of a provider whose name is one token has three tokens. -/
lemma tokens_dispatch {provider : String} (hdot : '.' ∉ provider.toList) :
    tokens (dispatch provider) = ["jobs".toList, "dispatch".toList, provider.toList] := by
  rw [tokens, toList_dispatch, split_append (by decide), split_append (by decide),
    split_of_notMem hdot]

/-- The subject of a provider whose name is one token and no wildcard matches itself alone. -/
theorem isMatch_dispatch {provider subject : String} (hdot : '.' ∉ provider.toList)
    (hrest : provider.toList ≠ ['>']) (hany : provider.toList ≠ ['*']) :
    isMatch (dispatch provider) subject = true ↔ subject = dispatch provider := by
  refine isMatch_iff_eq ?_
  rw [IsPlain, tokens_dispatch hdot]
  simp [Ne.symm hrest, Ne.symm hany]

/-- Whether a subject lies below another. -/
def IsBelow (root s : String) : Prop := ∃ rest : String, s = s!"{root}.{rest}"

/-- A subject below another starts with it. -/
lemma IsBelow.isPrefix {root s : String} (h : IsBelow root s) : root.toList <+: s.toList := by
  obtain ⟨rest, rfl⟩ := h
  exact ⟨'.' :: rest.toList, by simp [toString]⟩

end Subject

namespace MemoryBus

lemma isBelow_inboxOf (root : String) (n : Nat) : Subject.IsBelow root (inboxOf root n) :=
  ⟨_, rfl⟩

lemma toList_inboxOf (root : String) (n : Nat) :
    (inboxOf root n).toList = root.toList ++ '.' :: Nat.toDigits 10 n := by
  simp [inboxOf, toString, Nat.repr_eq_ofList_toDigits]

/-- Requests with different numbers have different inboxes. -/
lemma inboxOf_inj {root : String} {n n' : Nat} : inboxOf root n = inboxOf root n' ↔ n = n' := by
  refine ⟨fun h => ?_, congrArg _⟩
  rw [← String.toList_inj, toList_inboxOf, toList_inboxOf, List.append_cancel_left_eq,
    List.cons.injEq] at h
  rw [← Nat.ofDigitChars_ten_toDigits (n := n), h.2, Nat.ofDigitChars_ten_toDigits]

/-- An inbox is a subject of two tokens. -/
lemma tokens_inboxOf (n : Nat) :
    Subject.tokens (inboxOf "_INBOX" n) = ["_INBOX".toList, Nat.toDigits 10 n] := by
  have hdigits : '.' ∉ Nat.toDigits 10 n := fun h =>
    absurd (Nat.isDigit_of_mem_toDigits (by decide) (by decide) h) (by decide)
  rw [Subject.tokens, toList_inboxOf, Subject.split_append (by decide),
    Subject.split_of_notMem hdigits]

/-- An inbox gets exactly what is published to it. -/
theorem isMatch_inboxOf {n : Nat} {subject : String} :
    Subject.isMatch (inboxOf "_INBOX" n) subject = true ↔ subject = inboxOf "_INBOX" n := by
  refine Subject.isMatch_iff_eq ?_
  have hdigits : ∀ c ∈ Nat.toDigits 10 n, c.isDigit = true := fun c hc =>
    Nat.isDigit_of_mem_toDigits (by decide) (by decide) hc
  have hnot : ∀ c : Char, c.isDigit = false → [c] ∉ ["_INBOX".toList, Nat.toDigits 10 n] := by
    intro c hc hmem
    rcases List.mem_pair.mp hmem with heq | heq
    · cases congrArg List.length heq
    · rw [hdigits c (heq ▸ List.mem_singleton.mpr rfl)] at hc
      cases hc
  rw [Subject.IsPlain, tokens_inboxOf]
  exact ⟨hnot '>' (by decide), hnot '*' (by decide)⟩

end MemoryBus

end ComputeExchange
