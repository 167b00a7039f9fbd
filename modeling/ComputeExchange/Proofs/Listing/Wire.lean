import ComputeExchange.Listing.Filter
import ComputeExchange.Proofs.Json.Fields
import ComputeExchange.Proofs.Time.Rfc3339

/-!
# Listings on the wire

What is asked of a listing and what it answers are read as they are written: filters, jobs,
providers and answers, every field of them.
-/

namespace ComputeExchange

open Json

lemma text_ne_null (s : String) : Json.text s ≠ .null := nofun

lemma ofInt64_ne_null (n : Int64) : Json.ofInt64 n ≠ .null := nofun

lemma Timestamp.toJson_ne_null (t : Timestamp) : t.toJson ≠ .null := nofun

lemma JobStatus.toJson_ne_null (s : JobStatus) : s.toJson ≠ .null := nofun

/-! ### Filters -/

/-- A filter of jobs is read as it is written. -/
theorem JobFilter.ofJson?_toJson (f : JobFilter) : ofJson? f.toJson = some f := by
  simp only [ofJson?, toJson, List.append_assoc]
  refine bind_fields? ?_ (by decide) ?_
  · rw [← List.append_nil (omittable "offset" _ _)]
    repeat' refine omittable_sublist _ _ _ ?_
    exact .slnil
  generalize hfs : Fields.mk _ false = fs
  have hget : ∀ name, fs.get? name = _ := fun name => by rw [← hfs, Fields.get?]
  simp only [lookup_omittable_append, lookup_omittable] at hget
  refine Fields.bind_omittable f.renter (by simp [hget]) asText_text text_ne_null ?_
  refine Fields.bind_omittable f.provider (by simp [hget]) asText_text text_ne_null ?_
  refine Fields.bind_omittable f.status (by simp [hget]) JobStatus.ofJson?_toJson
    JobStatus.toJson_ne_null ?_
  refine Fields.bind_omittable f.limit (by simp [hget]) asInt64_ofInt64
    ofInt64_ne_null ?_
  refine Fields.bind_omittable f.offset (by simp [hget]) asInt64_ofInt64
    ofInt64_ne_null ?_
  rfl

/-- A filter of providers is read as it is written. -/
theorem NodeFilter.ofJson?_toJson (f : NodeFilter) : ofJson? f.toJson = some f := by
  simp only [ofJson?, toJson, List.append_assoc]
  refine bind_fields? ?_ (by decide) ?_
  · rw [← List.append_nil (omittable "offset" _ _)]
    repeat' refine omittable_sublist _ _ _ ?_
    exact .slnil
  generalize hfs : Fields.mk _ false = fs
  have hget : ∀ name, fs.get? name = _ := fun name => by rw [← hfs, Fields.get?]
  simp only [lookup_omittable_append, lookup_omittable] at hget
  refine Fields.bind_omittable f.minVram (by simp [hget]) asInt64_ofInt64
    ofInt64_ne_null ?_
  refine Fields.bind_omittable f.gpuModel (by simp [hget]) asText_text text_ne_null ?_
  refine Fields.bind_omittable f.minReputation (by simp [hget]) asInt64_ofInt64
    ofInt64_ne_null ?_
  refine Fields.bind_omittable f.limit (by simp [hget]) asInt64_ofInt64
    ofInt64_ne_null ?_
  refine Fields.bind_omittable f.offset (by simp [hget]) asInt64_ofInt64
    ofInt64_ne_null ?_
  rfl

/-! ### Rows -/

/-- A job is read as it is written. -/
theorem Job.ofJson?_toJson (job : Job) : ofJson? job.toJson = some job := by
  rw [ofJson?, toJson]
  refine bind_fields? (.refl _) (by decide) ?_
  refine Fields.bind_required rfl asText_text ?_
  refine Fields.bind_required rfl asText_text ?_
  refine Fields.bind_required rfl asText_text ?_
  refine Fields.bind_required rfl asText_text ?_
  refine Fields.bind_required rfl asText_text ?_
  refine Fields.bind_nullable rfl asText_text text_ne_null ?_
  refine Fields.bind_required rfl asText_text ?_
  refine Fields.bind_required rfl JobStatus.ofJson?_toJson ?_
  refine Fields.bind_nullable rfl asText_text text_ne_null ?_
  refine Fields.bind_required rfl Timestamp.ofJson?_toJson ?_
  refine Fields.bind_required rfl Timestamp.ofJson?_toJson ?_
  refine Fields.bind_nullable rfl Timestamp.ofJson?_toJson Timestamp.toJson_ne_null ?_
  refine Fields.bind_nullable rfl Timestamp.ofJson?_toJson Timestamp.toJson_ne_null ?_
  refine Fields.bind_nullable rfl Timestamp.ofJson?_toJson Timestamp.toJson_ne_null ?_
  rfl

/-- A provider is read as it is written. -/
theorem Provider.ofJson?_toJson (p : Provider) : ofJson? p.toJson = some p := by
  rw [ofJson?, toJson]
  refine bind_fields? (.refl _) (by decide) ?_
  refine Fields.bind_required rfl asText_text ?_
  refine Fields.bind_required rfl asText_text ?_
  refine Fields.bind_required rfl asInt64_ofInt64 ?_
  refine Fields.bind_required rfl Timestamp.ofJson?_toJson ?_
  refine Fields.bind_required rfl asBool_bool ?_
  refine Fields.bind_required rfl asInt64_ofInt64 ?_
  refine Fields.bind_required rfl asInt64_ofInt64 ?_
  refine Fields.bind_required rfl Timestamp.ofJson?_toJson ?_
  refine Fields.bind_required rfl Timestamp.ofJson?_toJson ?_
  rfl

/-! ### Answers -/

/-- An answer with jobs is read as it is written. -/
theorem JobsResponse.ofJson?_toJson (r : JobsResponse) : ofJson? r.toJson = some r := by
  rw [ofJson?, toJson]
  refine bind_fields? (.refl _) (by decide) ?_
  refine Fields.bind_required rfl (asList_map Job.ofJson?_toJson) ?_
  refine Fields.bind_required rfl asUInt64_ofUInt64 ?_
  rfl

/-- An answer with providers is read as it is written. -/
theorem NodesResponse.ofJson?_toJson (r : NodesResponse) : ofJson? r.toJson = some r := by
  rw [ofJson?, toJson]
  refine bind_fields? (.refl _) (by decide) ?_
  refine Fields.bind_required rfl (asList_map Provider.ofJson?_toJson) ?_
  refine Fields.bind_required rfl asUInt64_ofUInt64 ?_
  rfl

end ComputeExchange
