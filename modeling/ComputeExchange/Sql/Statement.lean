import ComputeExchange.Clamp
import ComputeExchange.Store.Call

/-!
# Statements

What a store asks of its database, in SQL with numbered parameters.  A page and an empty criterion
are resolved before they become parameters; a criterion that asks for nothing is null.
-/

namespace ComputeExchange.Sql

/-- A parameter of a statement. -/
inductive Param where
  | null
  | text (s : String)
  | int (i : Int64)
  | time (t : Timestamp)

/-- A statement with its parameters. -/
structure Statement where
  /-- The kind of call it is carried out for. -/
  kind : StoreCall.Kind
  text : String
  params : List Param

/-- A text that may be missing, as a parameter. -/
def Param.ofText? (s : Option String) : Param := (s.map .text).getD .null

/-- A number that may be missing, as a parameter. -/
def Param.ofInt? (i : Option Int64) : Param := (i.map .int).getD .null

/-- The columns of a job.  The payment is read as text, since it has more digits than a word. -/
def jobColumns : String :=
  "id, renter_address, provider_address, docker_image, input_file_cid, output_file_cid, " ++
    "payment_amount::TEXT AS payment_amount, status, error_message, " ++
    "created_at, updated_at, assigned_at, completed_at, failed_at"

/-- Records a job unless its id is taken. -/
def insertJob : String :=
  "INSERT INTO jobs (id, renter_address, provider_address, docker_image, input_file_cid, " ++
    "payment_amount, status, created_at, updated_at) " ++
    "VALUES ($1, $2, $3, $4, $5, $6::NUMERIC, 'created', $7, $7) " ++
    "ON CONFLICT (id) DO NOTHING RETURNING " ++ jobColumns

/-- Reads a job. -/
def getJob : String := "SELECT " ++ jobColumns ++ " FROM jobs WHERE id = $1"

/-- Moves a job if it still has the status it was read in. -/
def transitionJob : String :=
  "UPDATE jobs SET status = $3::TEXT, updated_at = $4, " ++
    "assigned_at = CASE WHEN $3::TEXT = 'assigned' THEN $4 ELSE assigned_at END, " ++
    "completed_at = CASE WHEN $3::TEXT = 'completed' THEN $4 ELSE completed_at END, " ++
    "failed_at = CASE WHEN $3::TEXT IN ('failed', 'cancelled') THEN $4 ELSE failed_at END, " ++
    "output_file_cid = COALESCE($5, output_file_cid), " ++
    "error_message = COALESCE($6, error_message) " ++
    "WHERE id = $1 AND status = $2 RETURNING " ++ jobColumns

/-- Lists jobs. -/
def listJobs : String :=
  "SELECT " ++ jobColumns ++ " FROM jobs " ++
    "WHERE ($1::TEXT IS NULL OR renter_address = $1) " ++
    "AND ($2::TEXT IS NULL OR provider_address = $2) AND ($3::TEXT IS NULL OR status = $3) " ++
    "ORDER BY created_at DESC, id ASC LIMIT $4 OFFSET $5"

/-- Records a provider, or its next registration. -/
def upsertProvider : String :=
  "INSERT INTO providers ( wallet_address, gpu_model, vram, last_seen, is_online, created_at, " ++
    "updated_at ) VALUES ($1, $2, $3, $4, TRUE, $4, $4) " ++
    "ON CONFLICT (wallet_address) DO UPDATE SET gpu_model = EXCLUDED.gpu_model, " ++
    "vram = EXCLUDED.vram, last_seen = EXCLUDED.last_seen, is_online = TRUE, " ++
    "updated_at = EXCLUDED.updated_at RETURNING *"

/-- Records a sign of life. -/
def touchProvider : String :=
  "UPDATE providers SET last_seen = $2, is_online = TRUE, updated_at = $2 WHERE wallet_address = $1"

/-- Marks offline those last seen before a time. -/
def markOfflineBefore : String :=
  "UPDATE providers SET is_online = FALSE, updated_at = NOW() WHERE is_online AND last_seen < $1"

/-- Reads a provider. -/
def getProvider : String := "SELECT * FROM providers WHERE wallet_address = $1"

/-- Lists online providers. -/
def listActiveProviders : String :=
  "SELECT * FROM providers WHERE is_online AND ($1::BIGINT IS NULL OR vram >= $1) " ++
    "AND ($2::TEXT IS NULL OR gpu_model = $2) " ++
    "AND ($3::BIGINT IS NULL OR reputation_score >= $3) " ++
    "ORDER BY reputation_score DESC, wallet_address ASC LIMIT $4 OFFSET $5"

/-- Writes the count of the chain into the row of a provider. -/
def recordSettlement : String :=
  "UPDATE providers SET reputation_score = $2, " ++
    "total_jobs_completed = total_jobs_completed + 1, updated_at = $3 WHERE wallet_address = $1"

/-- Reads a cursor. -/
def loadCursor : String := "SELECT last_block FROM sync_cursors WHERE service = $1"

/-- Saves a cursor. -/
def saveCursor : String :=
  "INSERT INTO sync_cursors (service, last_block, updated_at) VALUES ($1, $2, NOW()) " ++
    "ON CONFLICT (service) DO UPDATE SET last_block = EXCLUDED.last_block, " ++
    "updated_at = EXCLUDED.updated_at"

/-- The statement of a call. -/
def Statement.ofCall : StoreCall → Statement
  | .insertJob new now =>
    ⟨.insertJob, Sql.insertJob,
      [.text new.id, .text new.renter, .text new.provider, .text new.dockerImage,
        .text new.inputCid, .text new.payment, .time now]⟩
  | .getJob id => ⟨.getJob, Sql.getJob, [.text id]⟩
  | .transitionJob id source change =>
    ⟨.transitionJob, Sql.transitionJob,
      [.text id, .text source.label, .text change.status.label, .time change.at_,
        .ofText? change.outputCid, .ofText? change.errorMessage]⟩
  | .listJobs filter =>
    let filter := filter.normalized
    ⟨.listJobs, Sql.listJobs,
      [.ofText? filter.renter, .ofText? filter.provider,
        .ofText? (filter.status.map JobStatus.label), .int filter.page.limit,
        .int filter.page.offset]⟩
  | .upsertProvider registration now =>
    ⟨.upsertProvider, Sql.upsertProvider,
      [.text registration.wallet, .text registration.gpuModel, .int registration.vram, .time now]⟩
  | .touchProvider wallet now => ⟨.touchProvider, Sql.touchProvider, [.text wallet, .time now]⟩
  | .markOfflineBefore cutoff => ⟨.markOfflineBefore, Sql.markOfflineBefore, [.time cutoff]⟩
  | .getProvider wallet => ⟨.getProvider, Sql.getProvider, [.text wallet]⟩
  | .listActiveProviders filter =>
    let filter := filter.normalized
    ⟨.listActiveProviders, Sql.listActiveProviders,
      [.ofInt? filter.minVram, .ofText? filter.gpuModel, .ofInt? filter.minReputation,
        .int filter.page.limit, .int filter.page.offset]⟩
  | .recordSettlement wallet count now =>
    ⟨.recordSettlement, Sql.recordSettlement, [.text wallet, .int count, .time now]⟩
  | .loadCursor service => ⟨.loadCursor, Sql.loadCursor, [.text service]⟩
  | .saveCursor service block =>
    ⟨.saveCursor, Sql.saveCursor, [.text service, .int (Clamp.signedOfWord block)]⟩

/-- A parameter as JSON; an instant is told in whole microseconds. -/
def Param.toJson : Param → Json
  | .null => .null
  | .text s => .text s
  | .int i => .ofInt64 i
  | .time t => .record [("us", .int t.microseconds)]

end ComputeExchange.Sql
