import ComputeExchange.Job.Basic
import ComputeExchange.Time.Rfc3339

/-!
# Jobs on the wire

The JSON forms of a job, of an assignment and of a worker's report.
-/

namespace ComputeExchange

open Json (asText nullable omittable)

namespace Job

/-- The names of the fields of a job, in order. -/
def fieldNames : List String :=
  ["id", "renter_address", "provider_address", "docker_image", "input_file_cid", "output_file_cid",
   "payment_amount", "status", "error_message", "created_at", "updated_at", "assigned_at",
   "completed_at", "failed_at"]

/-- A job as JSON; what is not set is null. -/
def toJson (job : Job) : Json :=
  .record ([("id", .text job.id), ("renter_address", .text job.renter),
    ("provider_address", .text job.provider), ("docker_image", .text job.dockerImage),
    ("input_file_cid", .text job.inputCid)] ++ nullable "output_file_cid" .text job.outputCid ++
    [("payment_amount", .text job.payment), ("status", job.status.toJson)] ++
    nullable "error_message" .text job.errorMessage ++
    [("created_at", job.createdAt.toJson), ("updated_at", job.updatedAt.toJson)] ++
    nullable "assigned_at" Timestamp.toJson job.assignedAt ++
    nullable "completed_at" Timestamp.toJson job.completedAt ++
    nullable "failed_at" Timestamp.toJson job.failedAt)

/-- The job a JSON value stands for. -/
def ofJson? (j : Json) : Option Job := do
  let fs ← j.fields? fieldNames
  return {
    id := ← fs.required "id" asText
    renter := ← fs.required "renter_address" asText
    provider := ← fs.required "provider_address" asText
    dockerImage := ← fs.required "docker_image" asText
    inputCid := ← fs.required "input_file_cid" asText
    outputCid := ← fs.optional "output_file_cid" asText false
    payment := ← fs.required "payment_amount" asText
    status := ← fs.required "status" JobStatus.ofJson?
    errorMessage := ← fs.optional "error_message" asText false
    createdAt := ← fs.required "created_at" Timestamp.ofJson?
    updatedAt := ← fs.required "updated_at" Timestamp.ofJson?
    assignedAt := ← fs.optional "assigned_at" Timestamp.ofJson? false
    completedAt := ← fs.optional "completed_at" Timestamp.ofJson? false
    failedAt := ← fs.optional "failed_at" Timestamp.ofJson? false }

end Job

namespace JobAssignment

/-- An assignment as JSON. -/
def toJson (a : JobAssignment) : Json :=
  .record [("jobId", .text a.jobId), ("dockerImage", .text a.dockerImage),
    ("inputFileCID", .text a.inputCid)]

/-- The assignment a JSON value stands for. -/
def ofJson? (j : Json) : Option JobAssignment := do
  let fs ← j.fields? ["jobId", "dockerImage", "inputFileCID"]
  return {
    jobId := ← fs.required "jobId" asText
    dockerImage := ← fs.required "dockerImage" asText
    inputCid := ← fs.required "inputFileCID" asText }

end JobAssignment

namespace JobStatusUpdate

/-- A report as JSON; what it does not give is left out. -/
def toJson (u : JobStatusUpdate) : Json :=
  .record ([("job_id", .text u.jobId), ("status", u.status.toJson)] ++
    omittable "output_file_cid" .text u.outputCid ++
    omittable "error_message" .text u.errorMessage)

/-- The report a JSON value stands for. -/
def ofJson? (j : Json) : Option JobStatusUpdate := do
  let fs ← j.fields? ["job_id", "status", "output_file_cid", "error_message"]
  return {
    jobId := ← fs.required "job_id" asText
    status := ← fs.required "status" JobStatus.ofJson?
    outputCid := ← fs.optional "output_file_cid" asText true
    errorMessage := ← fs.optional "error_message" asText true }

end JobStatusUpdate

end ComputeExchange
