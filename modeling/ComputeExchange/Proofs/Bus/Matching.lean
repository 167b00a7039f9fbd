import ComputeExchange.Proofs.Bus.Subjects

/-!
# Which subjects a pattern matches

Whether a pattern matches a subject is decided in one scan along the tokens of both.  This file says
what the scan decides.  The tokens of a text are its parts between dots, and no others
(`Subject.arePartsOf_iff`).  A pattern without `>` matches a subject of as many tokens, each of
which it names or leaves open; a pattern with `>` must have it as its last token and nowhere else,
and leaves open all that stands from there on (`Subject.isMatch_iff_tokens`).
-/

namespace ComputeExchange.Subject

/-! ### Tokens -/

/-- Whether a list is that of the parts of a text between its dots. -/
structure ArePartsOf (parts : List (List Char)) (s : String) : Prop where
  ne_nil : parts ≠ []
  undotted : ∀ part ∈ parts, '.' ∉ part
  joined : ['.'].intercalate parts = s.toList

/-- No part between dots has a dot. -/
lemma notMem_of_mem_split {cs part : List Char} (h : part ∈ split cs) : '.' ∉ part := by
  induction cs generalizing part with
  | nil =>
    obtain rfl : part = [] := by simpa [split] using h
    exact List.not_mem_nil
  | cons c rest ih =>
    by_cases hc : c = '.'
    · rw [split, if_pos hc, List.mem_cons] at h
      rcases h with rfl | h
      · exact List.not_mem_nil
      · exact ih h
    · obtain ⟨first, more, heq, hsplit⟩ := split_cons hc rest
      rw [hsplit, List.mem_cons] at h
      rw [heq] at ih
      rcases h with rfl | h
      · have hfirst : '.' ∉ first := ih List.mem_cons_self
        rw [List.mem_cons, not_or]
        exact ⟨Ne.symm hc, hfirst⟩
      · exact ih (List.mem_cons_of_mem first h)

/-- Parts without dots are found again once they have been joined by dots. -/
lemma split_intercalate {parts : List (List Char)} (hne : parts ≠ [])
    (hundotted : ∀ part ∈ parts, '.' ∉ part) : split (['.'].intercalate parts) = parts := by
  induction parts with
  | nil => exact absurd rfl hne
  | cons part rest ih =>
    rw [List.forall_mem_cons] at hundotted
    cases rest with
    | nil =>
      rw [List.intercalate_singleton]
      exact split_of_notMem hundotted.1
    | cons next rest =>
      have hrest := ih (List.cons_ne_nil next rest) hundotted.2
      have happend : part ++ ['.'] ++ ['.'].intercalate (next :: rest) =
          part ++ '.' :: ['.'].intercalate (next :: rest) := by simp
      rw [List.intercalate_cons_cons, happend, split_append hundotted.1, hrest]

/-- The tokens of a text are its parts between dots, and nothing else is. -/
theorem arePartsOf_iff {parts : List (List Char)} {s : String} :
    ArePartsOf parts s ↔ parts = tokens s := by
  unfold tokens
  constructor
  · intro h
    rw [← h.joined, split_intercalate h.ne_nil h.undotted]
  · rintro rfl
    exact ⟨split_ne_nil _, fun part hpart => notMem_of_mem_split hpart, intercalate_split _⟩

/-! ### Places -/

/-- Whether every token of a pattern is `*` or the token of the subject at its place. -/
def StandFor (pattern subject : List (List Char)) : Prop :=
  ∀ (place : ℕ) (token : List Char), pattern[place]? = some token →
    token = ['*'] ∨ subject[place]? = some token

lemma standFor_nil (subject : List (List Char)) : StandFor [] subject := by
  intro place token h
  cases h

/-- Tokens stand for others if the first does for the first and the rest do for the rest. -/
lemma standFor_cons {p t : List Char} {pattern subject : List (List Char)} :
    StandFor (p :: pattern) (t :: subject) ↔
      (p = ['*'] ∨ p = t) ∧ StandFor pattern subject := by
  constructor
  · intro h
    refine ⟨?_, fun place token htoken => h (place + 1) token htoken⟩
    rcases h 0 p rfl with hany | hsame
    · exact Or.inl hany
    · exact Or.inr (Option.some.inj hsame).symm
  · rintro ⟨hfirst, hrest⟩ place token htoken
    cases place with
    | zero =>
      obtain rfl : p = token := Option.some.inj htoken
      rcases hfirst with hany | rfl
      · exact Or.inl hany
      · exact Or.inr rfl
    | succ place => exact hrest place token htoken

/-! ### The scan -/

/-- Whether a pattern ends with its only `>`, and the tokens before it stand for those of a subject
that has one for `>` too. -/
def EndsOpen (pattern subject : List (List Char)) : Prop :=
  ∃ front, pattern = front ++ [['>']] ∧ ['>'] ∉ front ∧ pattern.length ≤ subject.length ∧
    StandFor front subject

/-- A pattern that begins with `>` ends there. -/
lemma endsOpen_rest {pattern subject : List (List Char)} {t : List Char} :
    EndsOpen (['>'] :: pattern) (t :: subject) ↔ pattern = [] := by
  constructor
  · rintro ⟨front, hfront, hnot, -, -⟩
    cases front with
    | nil => exact (List.cons.inj hfront).2
    | cons f front =>
      obtain rfl := (List.cons.inj hfront).1
      exact absurd List.mem_cons_self hnot
  · rintro rfl
    exact ⟨[], rfl, List.not_mem_nil, by simp, standFor_nil _⟩

/-- Another first token is one of those before `>`. -/
lemma endsOpen_cons {p t : List Char} {pattern subject : List (List Char)} (hp : p ≠ ['>']) :
    EndsOpen (p :: pattern) (t :: subject) ↔
      (p = ['*'] ∨ p = t) ∧ EndsOpen pattern subject := by
  constructor
  · rintro ⟨front, hfront, hnot, hlength, hstand⟩
    cases front with
    | nil => exact absurd (List.cons.inj hfront).1 hp
    | cons f front =>
      obtain ⟨rfl, hrest⟩ := List.cons.inj hfront
      rw [List.mem_cons, not_or] at hnot
      obtain ⟨hfirst, hstand⟩ := standFor_cons.mp hstand
      exact ⟨hfirst, front, hrest, hnot.2, Nat.le_of_succ_le_succ hlength, hstand⟩
  · rintro ⟨hfirst, front, rfl, hnot, hlength, hstand⟩
    refine ⟨p :: front, rfl, ?_, Nat.succ_le_succ hlength, standFor_cons.mpr ⟨hfirst, hstand⟩⟩
    rw [List.mem_cons, not_or]
    exact ⟨Ne.symm hp, hnot⟩

/-- What the scan along the tokens decides. -/
lemma tokensMatch_iff {pattern subject : List (List Char)} :
    tokensMatch pattern subject = true ↔
      (['>'] ∉ pattern ∧ pattern.length = subject.length ∧ StandFor pattern subject) ∨
        EndsOpen pattern subject := by
  induction pattern generalizing subject with
  | nil =>
    have hclosed : ¬ EndsOpen [] subject := by
      rintro ⟨front, hfront, -⟩
      simp at hfront
    cases subject with
    | nil => simp [tokensMatch, standFor_nil]
    | cons t subject => simp [tokensMatch, hclosed]
  | cons p pattern ih =>
    cases subject with
    | nil =>
      have hclosed : ¬ EndsOpen (p :: pattern) [] := by
        rintro ⟨front, -, -, hlength, -⟩
        simp at hlength
      simp [tokensMatch, hclosed]
    | cons t subject =>
      by_cases hp : p = ['>']
      · -- What the pattern leaves open begins here.
        subst hp
        rw [tokensMatch, if_pos rfl, List.isEmpty_iff, endsOpen_rest]
        simp
      · have hscan : tokensMatch (p :: pattern) (t :: subject) = true ↔
            (p = ['*'] ∨ p = t) ∧ tokensMatch pattern subject = true := by
          rw [tokensMatch, if_neg hp]
          by_cases hany : p = ['*']
          · simp [hany]
          · by_cases hsame : p = t <;> simp [hany, hsame]
        rw [hscan, ih, endsOpen_cons hp, standFor_cons, List.mem_cons, not_or, List.length_cons,
          List.length_cons, Nat.succ_inj]
        have hfirst : ¬ ['>'] = p := Ne.symm hp
        tauto

/-- A pattern matches a subject exactly if it has no `>`, as many tokens and each is `*` or the
subject's token at its place, or if it has `>` as its last token only, no more tokens than the
subject, and each token before is `*` or the subject's at its place. -/
theorem isMatch_iff_tokens {pattern subject : String} {ps ts : List (List Char)}
    (hpattern : ArePartsOf ps pattern) (hsubject : ArePartsOf ts subject) :
    isMatch pattern subject = true ↔
      (['>'] ∉ ps ∧ ps.length = ts.length ∧
        ∀ (place : ℕ) (token : List Char), ps[place]? = some token →
          token = ['*'] ∨ ts[place]? = some token) ∨
      ∃ front, ps = front ++ [['>']] ∧ ['>'] ∉ front ∧ ps.length ≤ ts.length ∧
        ∀ (place : ℕ) (token : List Char), front[place]? = some token →
          token = ['*'] ∨ ts[place]? = some token := by
  obtain rfl := arePartsOf_iff.mp hpattern
  obtain rfl := arePartsOf_iff.mp hsubject
  rw [isMatch, tokensMatch_iff]
  exact Iff.rfl

/-- A pattern that leaves open one token in the middle and all at the end matches a subject of four
tokens, one of which is empty. -/
theorem isMatch_open_middle_and_end :
    ArePartsOf ["jobs".toList, ['*'], ['>']] "jobs.*.>" ∧
    ArePartsOf ["jobs".toList, "dispatch".toList, [], "0xabc".toList] "jobs.dispatch..0xabc" ∧
    isMatch "jobs.*.>" "jobs.dispatch..0xabc" = true := by
  have hpattern : ArePartsOf ["jobs".toList, ['*'], ['>']] "jobs.*.>" :=
    arePartsOf_iff.mpr rfl
  have hsubject : ArePartsOf ["jobs".toList, "dispatch".toList, [], "0xabc".toList]
      "jobs.dispatch..0xabc" := arePartsOf_iff.mpr rfl
  refine ⟨hpattern, hsubject, (isMatch_iff_tokens hpattern hsubject).mpr (Or.inr ?_)⟩
  refine ⟨["jobs".toList, ['*']], rfl, by decide, by decide, ?_⟩
  intro place token htoken
  rcases place with _ | _ | place
  · exact Or.inr htoken
  · exact Or.inl (Option.some.inj htoken).symm
  · simp at htoken

end ComputeExchange.Subject
