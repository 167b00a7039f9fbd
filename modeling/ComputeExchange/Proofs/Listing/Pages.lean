import ComputeExchange.Proofs.Store.Keys
import ComputeExchange.Proofs.Time.Order
import Mathlib.Data.Prod.Lex
import Mathlib.Data.String.Basic

/-!
# Listings page by page

For each filter a store has one list of rows, and every page is a part of it (`IsListing`).  The
list holds exactly the rows that meet the filter.  Its order is strict because no two rows share
the key that decides between equals (`mergeSort_pairwise`); so the order in which the store keeps
its rows does not matter (`mergeSort_eq_of_perm`), and pages that follow one another are the whole
list (`listed_in_pages`).
-/

namespace ComputeExchange

open OrderDual

/-! ### Sorted rows -/

section Sorting

variable {α β : Type} [LinearOrder β] {place : α → β} {le : α → α → Bool} {rows rows' : List α}

/-- Rows that have different places in a linear order are sorted strictly. -/
lemma mergeSort_pairwise (hle : ∀ a b, le a b = true ↔ place a ≤ place b)
    (hdistinct : rows.Pairwise fun a b => place a ≠ place b) :
    (rows.mergeSort le).Pairwise fun a b => place a < place b := by
  have hsorted : (rows.mergeSort le).Pairwise fun a b => le a b = true := by
    refine List.pairwise_mergeSort ?_ ?_ rows
    · intro a b c hab hbc
      exact (hle a c).mpr (((hle a b).mp hab).trans ((hle b c).mp hbc))
    · intro a b
      rw [Bool.or_eq_true, hle, hle]
      exact le_total _ _
  have hplaces : (rows.mergeSort le).Pairwise fun a b => place a ≠ place b :=
    ((List.mergeSort_perm rows le).pairwise_iff fun hne => hne.symm).mpr hdistinct
  refine (hsorted.and hplaces).imp fun hab => ?_
  exact lt_of_le_of_ne ((hle _ _).mp hab.1) hab.2

/-- How rows are sorted does not depend on how they stand before. -/
lemma mergeSort_eq_of_perm (hle : ∀ a b, le a b = true ↔ place a ≤ place b)
    (hdistinct : rows.Pairwise fun a b => place a ≠ place b) (hperm : rows'.Perm rows) :
    rows'.mergeSort le = rows.mergeSort le := by
  have hdistinct' : rows'.Pairwise fun a b => place a ≠ place b :=
    (hperm.pairwise_iff fun hne => hne.symm).mpr hdistinct
  have hsame : (rows'.mergeSort le).Perm (rows.mergeSort le) :=
    (List.mergeSort_perm rows' le).trans (hperm.trans (List.mergeSort_perm rows le).symm)
  refine hsame.eq_of_pairwise ?_ (mergeSort_pairwise hle hdistinct')
    (mergeSort_pairwise hle hdistinct)
  intro a b _ _ hab hba
  exact absurd hba hab.asymm

end Sorting

/-! ### The order of listings -/

/-- The newest job comes first, and jobs of one time come by id. -/
def Job.Precedes (a b : Job) : Prop :=
  b.createdAt.before a.createdAt = true ∨ a.createdAt = b.createdAt ∧ a.id < b.id

/-- The place of a job in a listing. -/
def Job.place (job : Job) : (ℤ ×ₗ ℕ)ᵒᵈ ×ₗ String :=
  toLex (toDual (toLex (job.createdAt.seconds, job.createdAt.nanos)), job.id)

/-- The provider of the best reputation comes first, and providers of one reputation by wallet. -/
def Provider.Precedes (a b : Provider) : Prop :=
  b.reputation < a.reputation ∨ a.reputation = b.reputation ∧ a.wallet < b.wallet

/-- The place of a provider in a listing. -/
def Provider.place (p : Provider) : ℤᵒᵈ ×ₗ String := toLex (toDual p.reputation.toInt, p.wallet)

/-- An instant is before another if its second is, or else its nanosecond within the second. -/
lemma Timestamp.before_iff_toLex_lt {a b : Timestamp} :
    a.before b = true ↔ toLex (a.seconds, a.nanos) < toLex (b.seconds, b.nanos) := by
  rw [Timestamp.before, Prod.Lex.toLex_lt_toLex]
  simp

lemma Timestamp.eq_iff_toLex_eq {a b : Timestamp} :
    a = b ↔ toLex (a.seconds, a.nanos) = toLex (b.seconds, b.nanos) := by
  cases a
  cases b
  simp

lemma Job.precedes_iff {a b : Job} : a.Precedes b ↔ a.place < b.place := by
  rw [Precedes, place, place, Prod.Lex.toLex_lt_toLex, toDual_lt_toDual, toDual_inj,
    Timestamp.before_iff_toLex_lt, Timestamp.eq_iff_toLex_eq]

lemma Job.listsBefore_iff {a b : Job} : a.listsBefore b = true ↔ a.place ≤ b.place := by
  rw [listsBefore, place, place, Prod.Lex.toLex_le_toLex, toDual_lt_toDual, toDual_inj,
    Bool.or_eq_true, Bool.and_eq_true, beq_iff_eq, decide_eq_true_iff,
    Timestamp.before_iff_toLex_lt, Timestamp.eq_iff_toLex_eq]

lemma Provider.precedes_iff {a b : Provider} : a.Precedes b ↔ a.place < b.place := by
  rw [Precedes, place, place, Prod.Lex.toLex_lt_toLex, toDual_lt_toDual, toDual_inj,
    Int64.lt_iff_toInt_lt, Int64.toInt_inj]

lemma Provider.listsBefore_iff {a b : Provider} : a.listsBefore b = true ↔ a.place ≤ b.place := by
  rw [listsBefore, place, place, Prod.Lex.toLex_le_toLex, toDual_lt_toDual, toDual_inj,
    Bool.or_eq_true, Bool.and_eq_true, beq_iff_eq, decide_eq_true_iff, decide_eq_true_iff,
    Int64.lt_iff_toInt_lt, Int64.toInt_inj]

/-! ### What a filter asks -/

/-- Whether a job meets every criterion of a filter, where the empty text is none. -/
structure JobFilter.MetBy (f : JobFilter) (job : Job) : Prop where
  renter : ∀ renter, f.renter = some renter → renter ≠ "" → job.renter = renter
  provider : ∀ provider, f.provider = some provider → provider ≠ "" → job.provider = provider
  status : ∀ status, f.status = some status → job.status = status

/-- Whether a provider meets every criterion of a filter, where the empty text is none. -/
structure NodeFilter.MetBy (f : NodeFilter) (p : Provider) : Prop where
  minVram : ∀ vram, f.minVram = some vram → vram ≤ p.vram
  gpuModel : ∀ model, f.gpuModel = some model → model ≠ "" → p.gpuModel = model
  minReputation : ∀ reputation, f.minReputation = some reputation → reputation ≤ p.reputation

/-- A text criterion holds of a text unless it is another text that is not empty. -/
lemma all_criterion {s : Option String} {text : String} :
    (criterion s).all (· == text) = true ↔ ∀ t, s = some t → t ≠ "" → text = t := by
  cases s with
  | none => simp [criterion]
  | some t =>
    by_cases ht : t = ""
    · simp [criterion, ht]
    · have hasked : criterion (some t) = some t := by simp [criterion, ht]
      rw [hasked, Option.all_some, beq_iff_eq, eq_comm]
      constructor
      · rintro hsame _ ⟨⟩ _
        exact hsame
      · intro h
        exact h t rfl ht

lemma JobFilter.admits_iff {f : JobFilter} {job : Job} : f.admits job = true ↔ f.MetBy job := by
  have hstatus : f.status.all (· == job.status) = true ↔
      ∀ t, f.status = some t → job.status = t := by
    cases f.status with
    | none => simp
    | some t =>
      rw [Option.all_some, beq_iff_eq, eq_comm]
      simp only [Option.some.injEq, forall_eq']
  rw [admits, Bool.and_eq_true, Bool.and_eq_true, all_criterion, all_criterion, hstatus]
  constructor
  · rintro ⟨⟨hrenter, hprovider⟩, hstatus⟩
    exact ⟨hrenter, hprovider, hstatus⟩
  · intro h
    exact ⟨⟨h.renter, h.provider⟩, h.status⟩

lemma NodeFilter.admits_iff {f : NodeFilter} {p : Provider} : f.admits p = true ↔ f.MetBy p := by
  have hleast : ∀ (least : Option Int64) (n : Int64),
      least.all (· ≤ n) = true ↔ ∀ t, least = some t → t ≤ n := by
    intro least n
    cases least <;> simp
  rw [admits, Bool.and_eq_true, Bool.and_eq_true, all_criterion, hleast, hleast]
  constructor
  · rintro ⟨⟨hvram, hmodel⟩, hreputation⟩
    exact ⟨hvram, hmodel, hreputation⟩
  · intro h
    exact ⟨⟨h.minVram, h.gpuModel⟩, h.minReputation⟩

/-! ### Pages -/

/-- A whole number that is not above the greatest integer is read as it is. -/
lemma toInt_ofNat_of_le {n : ℕ} (h : (n : ℤ) ≤ Int64.maxValue.toInt) :
    (Int64.ofNat n).toInt = n := by
  rw [Int64.toInt_maxValue] at h
  exact Int64.toInt_ofNat_of_lt (by omega)

section Paging

variable {α : Type} {rows : List α} {size offset : ℕ}

/-- A page of up to a thousand rows starts where it is asked to and has the size that is asked. -/
lemma Page.cut_resolve (hpos : 1 ≤ size) (hsize : size ≤ 1000)
    (hoffset : (offset : ℤ) ≤ Int64.maxValue.toInt) :
    (Page.resolve (some (.ofNat size)) (some (.ofNat offset))).cut rows =
      (rows.drop offset).take size := by
  have hmax : Int64.maxValue.toInt = 9223372036854775807 := Int64.toInt_maxValue
  have hlimit : (Int64.ofNat size).toInt = size := toInt_ofNat_of_le (by omega)
  have hstart : (Int64.ofNat offset).toInt = offset := toInt_ofNat_of_le hoffset
  have hasked : (0 : Int64) < .ofNat size := by
    rw [Int64.lt_iff_toInt_lt, hlimit]
    change (0 : ℤ) < size
    omega
  have hleast : min (Int64.ofNat size) greatestLimit = .ofNat size := by
    refine if_pos (Int64.le_iff_toInt_le.mpr ?_)
    rw [hlimit]
    change (size : ℤ) ≤ 1000
    omega
  have hgreatest : max (Int64.ofNat offset) 0 = .ofNat offset := by
    change (if Int64.ofNat offset ≤ 0 then (0 : Int64) else .ofNat offset) = _
    by_cases hzero : Int64.ofNat offset ≤ 0
    · rw [if_pos hzero]
      refine Int64.toInt_inj.mp ?_
      have hnot := Int64.le_iff_toInt_le.mp hzero
      rw [hstart] at hnot ⊢
      change (offset : ℤ) ≤ 0 at hnot
      change (0 : ℤ) = offset
      omega
    · rw [if_neg hzero]
  rw [Page.cut, Page.resolve]
  simp only [if_pos hasked, hleast, Option.getD_some, hgreatest, hlimit, hstart, Int.toNat_natCast]

/-- The pages of one size that follow one another are the rows up to the end of the last. -/
lemma flatMap_pages (rows : List α) (size count : ℕ) :
    ((List.range count).flatMap fun number => (rows.drop (number * size)).take size) =
      rows.take (count * size) := by
  induction count with
  | zero => simp
  | succ count ih =>
    rw [List.range_succ, List.flatMap_append, ih, List.flatMap_singleton, Nat.succ_mul,
      List.take_add]

/-- A page is a part of the rows. -/
lemma Page.cut_isInfix (page : Page) (rows : List α) : page.cut rows <:+: rows :=
  (List.take_prefix _ _).isInfix.trans (List.drop_suffix _ _).isInfix

/-- What it means that rows are listed page by page: they are the admitted rows, each once, in a
strict order; whatever page is asked for is a part of them, and a page of up to a thousand rows is
the part that is asked for; and the pages from the start on that follow one another are all rows. -/
structure IsListing (precedes : α → α → Prop) (admitted : α → Prop)
    (answer : Option Int64 → Option Int64 → Except StoreError (List α)) (rows : List α) : Prop where
  ordered : rows.Pairwise precedes
  once : rows.Nodup
  exact : ∀ row, row ∈ rows ↔ admitted row
  part : ∀ limit offset, ∃ page, answer limit offset = .ok page ∧ page <:+: rows
  page : ∀ size offset : ℕ, 1 ≤ size → size ≤ 1000 → (offset : ℤ) ≤ Int64.maxValue.toInt →
    answer (some (.ofNat size)) (some (.ofNat offset)) = .ok ((rows.drop offset).take size)
  whole : ∀ size count : ℕ, 1 ≤ size → size ≤ 1000 → rows.length ≤ count * size →
    (∀ number < count, ((number * size : ℕ) : ℤ) ≤ Int64.maxValue.toInt) →
    ∃ page : ℕ → List α, (List.range count).flatMap page = rows ∧
      ∀ number < count,
        answer (some (.ofNat size)) (some (.ofNat (number * size))) = .ok (page number)

/-- Rows that are sorted by their places in a linear order and cut into pages are listed page by
page. -/
lemma isListing_mergeSort {β : Type} [LinearOrder β] {place : α → β} {le : α → α → Bool}
    {precedes : α → α → Prop} {admitted : α → Prop}
    {answer : Option Int64 → Option Int64 → Except StoreError (List α)}
    (hle : ∀ a b, le a b = true ↔ place a ≤ place b)
    (hprecedes : ∀ a b, precedes a b ↔ place a < place b)
    (hdistinct : rows.Pairwise fun a b => place a ≠ place b)
    (hadmitted : ∀ row, row ∈ rows ↔ admitted row)
    (hanswer : ∀ limit offset,
      answer limit offset = .ok ((Page.resolve limit offset).cut (rows.mergeSort le))) :
    IsListing precedes admitted answer (rows.mergeSort le) := by
  have hsorted := mergeSort_pairwise hle hdistinct
  have hpage : ∀ size offset : ℕ, 1 ≤ size → size ≤ 1000 →
      (offset : ℤ) ≤ Int64.maxValue.toInt →
      answer (some (.ofNat size)) (some (.ofNat offset)) =
        .ok (((rows.mergeSort le).drop offset).take size) := by
    intro size offset hpos hsize hoffset
    rw [hanswer, Page.cut_resolve hpos hsize hoffset]
  refine ⟨?_, ?_, ?_, ?_, hpage, ?_⟩
  · exact hsorted.imp fun hab => (hprecedes _ _).mpr hab
  · exact hsorted.imp fun hab => fun heq => hab.ne (congrArg place heq)
  · intro row
    rw [(List.mergeSort_perm rows le).mem_iff]
    exact hadmitted row
  · intro limit offset
    exact ⟨_, hanswer limit offset, Page.cut_isInfix _ _⟩
  · intro size count hpos hsize hlength hoffsets
    refine ⟨fun number => ((rows.mergeSort le).drop (number * size)).take size, ?_, ?_⟩
    · rw [flatMap_pages]
      exact List.take_of_length_le hlength
    · intro number hlt
      exact hpage size _ hpos hsize (hoffsets number hlt)

end Paging

namespace MemoryStore

variable {s : MemoryStore}

/-- A store that can be reached lists the jobs it has. -/
lemma perform_listJobs (hup : s.isUnavailable = false) (f : JobFilter) :
    (s.perform (.listJobs f)).1 = .ok (f.page.cut (s.matchingJobs f)) := by
  rw [perform, if_neg (by simp [hup])]

/-- A store that can be reached lists the providers it has. -/
lemma perform_listActiveProviders (hup : s.isUnavailable = false) (f : NodeFilter) :
    (s.perform (.listActiveProviders f)).1 = .ok (f.page.cut (s.matchingProviders f)) := by
  rw [perform, if_neg (by simp [hup])]

/-- No two jobs of a store have one place in listings. -/
lemma Keyed.pairwise_jobs (h : s.Keyed) (f : JobFilter) :
    (s.jobs.values.filter f.admits).Pairwise fun a b => a.place ≠ b.place := by
  refine (h.jobs.pairwise_values.imp ?_).filter _
  intro a b hid heq
  exact hid (congrArg (fun place => (ofLex place).2) heq)

/-- No two providers of a store have one place in listings. -/
lemma Keyed.pairwise_providers (h : s.Keyed) (f : NodeFilter) :
    (s.providers.values.filter fun p => p.isOnline && f.admits p).Pairwise
      fun a b => a.place ≠ b.place := by
  refine (h.providers.pairwise_values.imp ?_).filter _
  intro a b hwallet heq
  exact hwallet (congrArg (fun place => (ofLex place).2) heq)

/-- The jobs a filter admits are listed page by page. -/
lemma Keyed.isListing_jobs (h : s.Keyed) (hup : s.isUnavailable = false) (f : JobFilter) :
    IsListing Job.Precedes (fun job => (∃ id, s.jobs.get? id = some job) ∧ f.MetBy job)
      (fun limit offset => (s.perform (.listJobs { f with limit, offset })).1)
      (s.matchingJobs f) := by
  refine isListing_mergeSort (fun _ _ => Job.listsBefore_iff) (fun _ _ => Job.precedes_iff)
    (h.pairwise_jobs f) ?_ ?_
  · intro job
    rw [List.mem_filter, h.jobs.mem_values_iff, JobFilter.admits_iff]
  · intro limit offset
    exact perform_listJobs hup { f with limit, offset }

/-- The online providers a filter admits are listed page by page. -/
lemma Keyed.isListing_providers (h : s.Keyed) (hup : s.isUnavailable = false) (f : NodeFilter) :
    IsListing Provider.Precedes
      (fun p => (∃ wallet, s.providers.get? wallet = some p) ∧ p.isOnline = true ∧ f.MetBy p)
      (fun limit offset => (s.perform (.listActiveProviders { f with limit, offset })).1)
      (s.matchingProviders f) := by
  refine isListing_mergeSort (fun _ _ => Provider.listsBefore_iff)
    (fun _ _ => Provider.precedes_iff) (h.pairwise_providers f) ?_ ?_
  · intro p
    rw [List.mem_filter, h.providers.mem_values_iff, Bool.and_eq_true, NodeFilter.admits_iff]
  · intro limit offset
    exact perform_listActiveProviders hup { f with limit, offset }

/-- Whether two stores have the same jobs and providers, in whatever order they keep them. -/
structure SameRows (s' s : MemoryStore) : Prop where
  jobs : s'.jobs.rows.Perm s.jobs.rows
  providers : s'.providers.rows.Perm s.providers.rows

/-- The order in which a store keeps its rows does not matter to its listings. -/
lemma Keyed.matching_eq {s' : MemoryStore} (h : s.Keyed) (hsame : s'.SameRows s) :
    (∀ f, s'.matchingJobs f = s.matchingJobs f) ∧
      ∀ f, s'.matchingProviders f = s.matchingProviders f := by
  constructor
  · intro f
    exact mergeSort_eq_of_perm (fun _ _ => Job.listsBefore_iff) (h.pairwise_jobs f)
      ((hsame.jobs.map _).filter _)
  · intro f
    exact mergeSort_eq_of_perm (fun _ _ => Provider.listsBefore_iff) (h.pairwise_providers f)
      ((hsame.providers.map _).filter _)

/-- For every filter a store that can come about lists page by page exactly the jobs that meet it,
the newest first and those of one time by id, and exactly the online providers that meet it, the
best reputation first and those of one by wallet; in whatever order the store keeps its rows. -/
theorem listed_in_pages (h : s.Arises) (hup : s.isUnavailable = false) :
    (∀ f : JobFilter, ∃ jobs,
      IsListing Job.Precedes (fun job => (∃ id, s.jobs.get? id = some job) ∧ f.MetBy job)
        (fun limit offset => (s.perform (.listJobs { f with limit, offset })).1) jobs) ∧
    (∀ f : NodeFilter, ∃ providers,
      IsListing Provider.Precedes
        (fun p => (∃ wallet, s.providers.get? wallet = some p) ∧ p.isOnline = true ∧ f.MetBy p)
        (fun limit offset => (s.perform (.listActiveProviders { f with limit, offset })).1)
        providers) ∧
    ∀ s' : MemoryStore, s'.SameRows s → s'.isUnavailable = false →
      (∀ f, (s'.perform (.listJobs f)).1 = (s.perform (.listJobs f)).1) ∧
        ∀ f, (s'.perform (.listActiveProviders f)).1 = (s.perform (.listActiveProviders f)).1 := by
  have hkeyed : s.Keyed := h.keyed
  refine ⟨?_, ?_, ?_⟩
  · intro f
    exact ⟨_, hkeyed.isListing_jobs hup f⟩
  · intro f
    exact ⟨_, hkeyed.isListing_providers hup f⟩
  · intro s' hsame hup'
    obtain ⟨hjobs, hproviders⟩ := hkeyed.matching_eq hsame
    constructor
    · intro f
      rw [perform_listJobs hup', perform_listJobs hup, hjobs]
    · intro f
      rw [perform_listActiveProviders hup', perform_listActiveProviders hup, hproviders]

/-- The later of two jobs of one time, by its id. -/
def laterById : NewJob := ⟨"b", "r", "p", "i", "c", "1"⟩

/-- The earlier of two jobs of one time, by its id. -/
def earlierById : NewJob := ⟨"a", "r", "p", "i", "c", "1"⟩

/-- A store that has been given two jobs at one time, against the order of their ids. -/
def twoAtOnce : MemoryStore :=
  ((empty.perform (.insertJob laterById default)).2.perform (.insertJob earlierById default)).2

/-- Two jobs of one time are listed by their ids. -/
theorem listed_by_id : twoAtOnce.isUnavailable = false ∧ ∃ jobs,
    IsListing Job.Precedes
      (fun job => (∃ id, twoAtOnce.jobs.get? id = some job) ∧ JobFilter.MetBy default job)
      (fun limit offset => (twoAtOnce.perform
        (.listJobs { (default : JobFilter) with limit, offset })).1) jobs ∧
    jobs = [.ofNew earlierById default, .ofNew laterById default] := by
  have harises : twoAtOnce.Arises := (Arises.empty.perform _).perform _
  have hkeyed : twoAtOnce.Keyed := harises.keyed
  refine ⟨rfl, ?_⟩
  obtain ⟨jobs, hjobs⟩ := (listed_in_pages harises rfl).1 default
  have hids : (Job.ofNew earlierById default).Precedes (.ofNew laterById default) :=
    Or.inr ⟨rfl, by decide⟩
  have hmem : ∀ job,
      job ∈ jobs ↔ job ∈ [Job.ofNew earlierById default, .ofNew laterById default] := by
    intro job
    have hvalues : twoAtOnce.jobs.values = [.ofNew laterById default, .ofNew earlierById default] :=
      rfl
    have hmet : JobFilter.MetBy default job := ⟨nofun, nofun, nofun⟩
    rw [hjobs.exact, ← hkeyed.jobs.mem_values_iff, hvalues, and_iff_left hmet, List.mem_pair,
      List.mem_pair, or_comm]
  have hperm : jobs.Perm [Job.ofNew earlierById default, .ofNew laterById default] :=
    (List.perm_ext_iff_of_nodup hjobs.once (by decide)).mpr hmem
  refine ⟨jobs, hjobs, hperm.eq_of_pairwise ?_ hjobs.ordered (List.pairwise_pair.mpr hids)⟩
  intro a b _ _ hab hba
  exact absurd (Job.precedes_iff.mp hba) (Job.precedes_iff.mp hab).asymm

end MemoryStore

end ComputeExchange
