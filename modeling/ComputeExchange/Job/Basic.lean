import ComputeExchange.Job.Status
import ComputeExchange.Time.Timestamp

/-!
# Jobs

A job carries what its renter asked for, fixed when it is created, and where it stands.  A change of
status stamps the times that belong to it.
-/

namespace ComputeExchange

/-- What is asked for when a job is created. -/
structure NewJob where
  id : String
  renter : String
  provider : String
  dockerImage : String
  inputCid : String
  payment : String
  deriving DecidableEq, Inhabited

/-- A job and where it stands. -/
structure Job where
  id : String
  renter : String
  provider : String
  dockerImage : String
  inputCid : String
  outputCid : Option String
  payment : String
  status : JobStatus
  errorMessage : Option String
  createdAt : Timestamp
  updatedAt : Timestamp
  assignedAt : Option Timestamp
  completedAt : Option Timestamp
  failedAt : Option Timestamp
  deriving DecidableEq, Inhabited

/-- A change of status at a time, with what a worker reports along with it. -/
structure StatusChange where
  status : JobStatus
  at_ : Timestamp
  outputCid : Option String
  errorMessage : Option String
  deriving DecidableEq, Inhabited

namespace StatusChange

/-- The change of a job that has been delivered to its provider. -/
def assigned (now : Timestamp) : StatusChange := ⟨.assigned, now, none, none⟩

end StatusChange

namespace Job

/-- A job as it is created. -/
def ofNew (new : NewJob) (now : Timestamp) : Job where
  id := new.id
  renter := new.renter
  provider := new.provider
  dockerImage := new.dockerImage
  inputCid := new.inputCid
  outputCid := none
  payment := new.payment
  status := .created
  errorMessage := none
  createdAt := now
  updatedAt := now
  assignedAt := none
  completedAt := none
  failedAt := none

/-- A job after a change.  A report overwrites what it gives and leaves the rest; the time of the
change is stamped where it belongs. -/
def apply (job : Job) (change : StatusChange) : Job :=
  { job with
    status := change.status
    updatedAt := change.at_
    outputCid := change.outputCid.or job.outputCid
    errorMessage := change.errorMessage.or job.errorMessage
    assignedAt := if change.status = .assigned then some change.at_ else job.assignedAt
    completedAt := if change.status = .completed then some change.at_ else job.completedAt
    failedAt :=
      if change.status = .failed ∨ change.status = .cancelled then some change.at_
      else job.failedAt }

end Job

/-- What a provider is told of a job. -/
structure JobAssignment where
  jobId : String
  dockerImage : String
  inputCid : String
  deriving DecidableEq, Inhabited

/-- What a provider is told of this job. -/
def Job.assignment (job : Job) : JobAssignment := ⟨job.id, job.dockerImage, job.inputCid⟩

/-- What a worker reports of a job. -/
structure JobStatusUpdate where
  jobId : String
  status : JobStatus
  outputCid : Option String
  errorMessage : Option String
  deriving DecidableEq, Inhabited

/-- The change a report asks for, at a time. -/
def JobStatusUpdate.change (update : JobStatusUpdate) (now : Timestamp) : StatusChange :=
  ⟨update.status, now, update.outputCid, update.errorMessage⟩

end ComputeExchange
