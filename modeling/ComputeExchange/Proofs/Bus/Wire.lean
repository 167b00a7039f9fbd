import ComputeExchange.Dispatch.Service
import ComputeExchange.Settlement.Engine
import ComputeExchange.Proofs.Json.Text
import ComputeExchange.Proofs.Listing.Wire
import ComputeExchange.Proofs.Text.Utf8

/-!
# What the services write to one another

Every message that the services exchange is a record in JSON, sent as the bytes of its compact text.
`WireKind` names the kinds of message, each with the way it is written and the way it is read, and
`WireKind.decode?_encode` says that the one undoes the other.  Two facts carry it: a JSON value is
read back from its payload (`Payload.json?_ofJson`), and a record is read back from its JSON value,
field by field.
-/

namespace ComputeExchange

open Json

/-- A payload that is a text is read as the text. -/
lemma Payload.json?_ofText (s : String) : (ofText s).json? = Json.parse? s :=
  congrArg Json.parse? (Utf8.decode_encode malformed s)

/-- A JSON value is read back from the payload that carries it. -/
theorem Payload.json?_ofJson (j : Json) : (ofJson j).json? = some j := by
  rw [ofJson, json?_ofText, Json.parse?_compact]

/-! ### Records of dispatch -/

/-- An assignment is read as it is written. -/
theorem JobAssignment.ofJson?_toJson (a : JobAssignment) : ofJson? a.toJson = some a := by
  rw [ofJson?, toJson]
  refine bind_fields? (.refl _) (by decide) ?_
  refine Fields.bind_required rfl asText_text ?_
  refine Fields.bind_required rfl asText_text ?_
  refine Fields.bind_required rfl asText_text ?_
  rfl

/-- A report is read as it is written. -/
theorem JobStatusUpdate.ofJson?_toJson (u : JobStatusUpdate) : ofJson? u.toJson = some u := by
  simp only [ofJson?, toJson, List.append_assoc]
  refine bind_fields? ?_ (by decide) ?_
  · refine .cons_cons _ (.cons_cons _ ?_)
    rw [← List.append_nil (omittable "error_message" _ _)]
    repeat' refine omittable_sublist _ _ _ ?_
    exact .slnil
  refine Fields.bind_required rfl asText_text ?_
  refine Fields.bind_required rfl JobStatus.ofJson?_toJson ?_
  generalize hfs : Fields.mk _ false = fs
  have hget : ∀ name, fs.get? name = _ := fun name => by rw [← hfs, Fields.get?]
  simp only [List.cons_append, List.nil_append, List.lookup_cons, lookup_omittable_append,
    lookup_omittable] at hget
  refine Fields.bind_omittable u.outputCid (by simp [hget]) asText_text text_ne_null ?_
  refine Fields.bind_omittable u.errorMessage (by simp [hget]) asText_text text_ne_null ?_
  rfl

/-- A request for another delivery is read as it is written. -/
theorem RedispatchRequest.ofJson?_toJson (r : RedispatchRequest) : ofJson? r.toJson = some r := by
  rw [ofJson?, toJson]
  refine bind_fields? (.refl _) (by decide) ?_
  refine Fields.bind_required rfl asText_text ?_
  rfl

/-- What has come of a request for another delivery is read as it is written. -/
theorem RedispatchReply.ofJson?_toJson (r : RedispatchReply) : ofJson? r.toJson = some r := by
  simp only [ofJson?, toJson, List.append_assoc]
  refine bind_fields? ?_ (by decide) ?_
  · refine .cons_cons _ ?_
    rw [← List.append_nil (omittable "error" _ _)]
    repeat' refine omittable_sublist _ _ _ ?_
    exact .slnil
  refine Fields.bind_required rfl asText_text ?_
  generalize hfs : Fields.mk _ false = fs
  have hget : ∀ name, fs.get? name = _ := fun name => by rw [← hfs, Fields.get?]
  simp only [List.cons_append, List.nil_append, List.lookup_cons, lookup_omittable_append,
    lookup_omittable] at hget
  refine Fields.bind_omittable r.status (by simp [hget]) JobStatus.ofJson?_toJson
    JobStatus.toJson_ne_null ?_
  refine Fields.bind_omittable r.error (by simp [hget]) asText_text text_ne_null ?_
  rfl

/-! ### Records of settlement -/

/-- A question for a standing is read as it is written. -/
theorem ReputationRequest.ofJson?_toJson (r : ReputationRequest) : ofJson? r.toJson = some r := by
  rw [ofJson?, toJson]
  refine bind_fields? (.refl _) (by decide) ?_
  refine Fields.bind_required rfl asText_text ?_
  rfl

/-- A standing is read as it is written. -/
theorem ReputationReply.ofJson?_toJson (r : ReputationReply) : ofJson? r.toJson = some r := by
  rw [ofJson?, toJson]
  refine bind_fields? (.refl _) (by decide) ?_
  refine Fields.bind_required rfl asText_text ?_
  refine Fields.bind_required rfl asUInt64_ofUInt64 ?_
  refine Fields.bind_required rfl asUInt64_ofUInt64 ?_
  rfl

/-! ### Messages -/

/-- The kinds of message that the services exchange. -/
inductive WireKind where
  | job
  | jobAssignment
  | jobStatusUpdate
  | provider
  | jobFilter
  | nodeFilter
  | jobsResponse
  | nodesResponse
  | redispatchRequest
  | redispatchReply
  | reputationRequest
  | reputationReply
  deriving DecidableEq

namespace WireKind

/-- What a message of a kind says. -/
abbrev Value : WireKind → Type
  | job => Job
  | jobAssignment => JobAssignment
  | jobStatusUpdate => JobStatusUpdate
  | provider => Provider
  | jobFilter => JobFilter
  | nodeFilter => NodeFilter
  | jobsResponse => JobsResponse
  | nodesResponse => NodesResponse
  | redispatchRequest => RedispatchRequest
  | redispatchReply => RedispatchReply
  | reputationRequest => ReputationRequest
  | reputationReply => ReputationReply

/-- A message as JSON. -/
def toJson : (k : WireKind) → k.Value → Json
  | job => Job.toJson
  | jobAssignment => JobAssignment.toJson
  | jobStatusUpdate => JobStatusUpdate.toJson
  | provider => Provider.toJson
  | jobFilter => JobFilter.toJson
  | nodeFilter => NodeFilter.toJson
  | jobsResponse => JobsResponse.toJson
  | nodesResponse => NodesResponse.toJson
  | redispatchRequest => RedispatchRequest.toJson
  | redispatchReply => RedispatchReply.toJson
  | reputationRequest => ReputationRequest.toJson
  | reputationReply => ReputationReply.toJson

/-- The message that a JSON value stands for. -/
def ofJson? : (k : WireKind) → Json → Option k.Value
  | job => Job.ofJson?
  | jobAssignment => JobAssignment.ofJson?
  | jobStatusUpdate => JobStatusUpdate.ofJson?
  | provider => Provider.ofJson?
  | jobFilter => JobFilter.ofJson?
  | nodeFilter => NodeFilter.ofJson?
  | jobsResponse => JobsResponse.ofJson?
  | nodesResponse => NodesResponse.ofJson?
  | redispatchRequest => RedispatchRequest.ofJson?
  | redispatchReply => RedispatchReply.ofJson?
  | reputationRequest => ReputationRequest.ofJson?
  | reputationReply => ReputationReply.ofJson?

/-- The bytes of a message. -/
def encode (k : WireKind) (v : k.Value) : Payload := .ofJson (k.toJson v)

/-- The message that some bytes stand for. -/
def decode? (k : WireKind) (p : Payload) : Option k.Value := p.json?.bind k.ofJson?

/-- A message is read back from its JSON value. -/
lemma ofJson?_of_toJson (k : WireKind) (v : k.Value) : k.ofJson? (k.toJson v) = some v := by
  cases k with
  | job => exact Job.ofJson?_toJson v
  | jobAssignment => exact JobAssignment.ofJson?_toJson v
  | jobStatusUpdate => exact JobStatusUpdate.ofJson?_toJson v
  | provider => exact Provider.ofJson?_toJson v
  | jobFilter => exact JobFilter.ofJson?_toJson v
  | nodeFilter => exact NodeFilter.ofJson?_toJson v
  | jobsResponse => exact JobsResponse.ofJson?_toJson v
  | nodesResponse => exact NodesResponse.ofJson?_toJson v
  | redispatchRequest => exact RedispatchRequest.ofJson?_toJson v
  | redispatchReply => exact RedispatchReply.ofJson?_toJson v
  | reputationRequest => exact ReputationRequest.ofJson?_toJson v
  | reputationReply => exact ReputationReply.ofJson?_toJson v

/-- Every message is read back from its bytes, whatever its texts, numbers and times are and
whichever of its fields have a value. -/
theorem decode?_encode (k : WireKind) (v : k.Value) : k.decode? (k.encode v) = some v := by
  rw [decode?, encode, Payload.json?_ofJson, Option.bind_some, ofJson?_of_toJson]

end WireKind

end ComputeExchange
