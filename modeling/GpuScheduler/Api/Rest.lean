import GpuScheduler.Invariant.Status
import GpuScheduler.Invariant.Capacity
/-
# The REST handlers (`pkg/api/rest`)

`SubmitJobHandler`, `GetJobStatusHandler` and `CancelJobHandler` turn the scheduler's answers into
HTTP responses: a status code and a body, the body being `http.Error`'s plain text or the JSON
`respondJSON` writes.  The JSON decoder is left out: a request body it refuses is `none`.

What the handlers add to the scheduler is the choice of the code, and each code is tied here to
the state the request met:

* `submit_forbidden_iff`: `403` exactly when the job is valid and its stored tenant lacks quota,
  with nothing written and a body that always names the tenant's GPU ceiling and usage, whichever
  of the four quotas refused;
* `submit_handler_run`: an undecodable body is a `400` that writes nothing; `201` stores the job
  as Pending under a new id and queues it; a `500` writes nothing, or leaves the job stored
  Pending and out of the queue when the queue refused it; an invalid job is a `500`, never a
  `400`;
* `cancel_handler_run`: `404`, `500` and `200` split on whether the job exists and is Pending or
  Running, and a `200` leaves it Cancelled and out of the queue;
* `status_handler_run`: `GetJobStatusHandler` never answers `500`;
* `served_faithful`: serving any sequence of requests, interleaved with the scheduler's own
  operations, moves the system along `Move` only, so every invariant proved over moves holds of
  every state the server reaches;
* `cluster_status_served`: in those states `GetClusterStatusHandler`'s available GPUs are the
  total less what the Active allocations hold, and every node it counts is online.
-/

namespace GpuScheduler

open Scheduler Prog

/-! ## 1. Responses and the texts of errors -/

/-- The text of a sentinel (`errors.New` in `pkg/utils/errors.go`). -/
def Sentinel.text : Sentinel → String
  | .insufficientResources => "insufficient resources available"
  | .gpuNotFound => "GPU not found"
  | .nodeNotFound => "node not found"
  | .jobNotFound => "job not found"
  | .tenantNotFound => "tenant not found"
  | .allocationNotFound => "allocation not found"
  | .gangSchedulingFailed => "gang scheduling failed - partial allocation"
  | .quotaExceeded => "tenant quota exceeded"

/-- Go's `err.Error()`.  A `%w` wrapper joins its message and the inner text with `": "`; the
struct errors print their integer fields with `%d`, in signed decimal.  The repository's text
for a refused key is not in the source, so the key stands in for it. -/
def Err.error : Err → String
  | .sentinel s => s.text
  | .text msg => msg
  | .wrap msg inner => msg ++ ": " ++ inner.error
  | .quotaExceeded tenantID resource requested quota current =>
    "quota exceeded for tenant " ++ tenantID ++ ": " ++ resource ++ " requested=" ++
      toString requested.toInt ++ ", quota=" ++ toString quota.toInt ++ ", current=" ++
      toString current.toInt
  | .queueFull maxSize => "queue is full (max size: " ++ toString maxSize ++ ")"
  | .jobAlreadyInQueue jobID => "job " ++ jobID ++ " is already in queue"
  | .duplicateKey key => key

/-- The counts `GetClusterStatusHandler` reports.  The GPU totals are Go `int` sums of the nodes'
counters, in 64-bit two's complement; the other fields are lengths and counts of lists. -/
structure ClusterStatus where
  totalGPUs : BitVec 64
  availableGPUs : BitVec 64
  totalNodes : Nat
  onlineNodes : Nat
  totalJobs : Nat
  pendingJobs : Nat
  runningJobs : Nat
  deriving DecidableEq, Repr

/-- What a handler writes after the status code: `http.Error`'s plain text, a JSON object of
string fields (`respondJSON` of a map), a `JobStatus`, or the cluster's counts, as JSON. -/
inductive Body where
  | text (msg : String)
  | json (fields : List (String × String))
  | status (status : JobStatus)
  | cluster (status : ClusterStatus)
  deriving DecidableEq, Repr

/-- An HTTP response: the status code and the body. -/
structure Response where
  code : Nat
  body : Body
  deriving DecidableEq, Repr

/-! ## 2. The handlers -/

/-- The fields of `SubmitJobHandler`'s request body that the job it builds keeps and the scheduler
reads. -/
structure SubmitJobRequest where
  tenantID : String
  priority : BitVec 64
  gpuCount : BitVec 64
  gpuMemoryMB : BitVec 64
  cpuCores : BitVec 64
  memoryMB : BitVec 64
  gangScheduling : Bool
  deriving DecidableEq, Repr

/-- The job `SubmitJobHandler` builds from the request under the id it generated.  Go leaves
`State` and `SubmittedAt` at their zero values, which `SubmitJob` overwrites before anything
reads them; the model has no empty state and puts `pending` there. -/
def SubmitJobRequest.job (req : SubmitJobRequest) (id : String) : Job :=
  { id, tenantID := req.tenantID, state := .pending, priority := req.priority,
    gpuCount := req.gpuCount, gpuMemoryMB := req.gpuMemoryMB, cpuCores := req.cpuCores,
    memoryMB := req.memoryMB, gangScheduling := req.gangScheduling, submittedAt := 0,
    preemptedCount := 0 }

namespace Handlers

/-- Go's `generateJobID()`: `"job-"` and the clock's reading in nanoseconds. -/
def generateJobID : Prog String := do
  let now ← lift .now
  return "job-" ++ toString now

/-- What `SubmitJobHandler` writes for `SubmitJob`'s answer about the job `jobID`: `403` with the
error's text for a quota error, a generic `500` for any other error, `201` with the id. -/
def submitResponse (jobID : String) : Except Err Unit → Response
  | .error e =>
    if isQuotaExceeded e then ⟨403, .json [("error", e.error)]⟩
    else ⟨500, .json [("error", "Failed to submit job")]⟩
  | .ok () =>
    ⟨201, .json [("job_id", jobID), ("status", "submitted"),
      ("message", "Job submitted successfully")]⟩

/-- Go's `SubmitJobHandler`, for the decoded body. -/
def submitJobHandler (body : Option SubmitJobRequest) : Prog Response := do
  match body with
  | none => return ⟨400, .text "Invalid request body"⟩
  | some req =>
  let job := req.job (← generateJobID)
  return submitResponse job.id (← submitJob job)

/-- What `GetJobStatusHandler` writes for `GetJobStatus`'s answer. -/
def statusResponse : Except Err JobStatus → Response
  | .error e =>
    if isNotFound e then ⟨404, .text "Job not found"⟩
    else ⟨500, .text "Failed to get job status"⟩
  | .ok status => ⟨200, .status status⟩

/-- Go's `GetJobStatusHandler`, for the `jobID` of the URL. -/
def getJobStatusHandler (jobID : String) : Prog Response := do
  return statusResponse (← getJobStatus jobID)

/-- What `CancelJobHandler` writes for `CancelJob`'s answer. -/
def cancelResponse : Except Err Unit → Response
  | .error e =>
    if isNotFound e then ⟨404, .text "Job not found"⟩
    else ⟨500, .text "Failed to cancel job"⟩
  | .ok () => ⟨200, .json [("message", "Job cancelled successfully")]⟩

/-- Go's `CancelJobHandler`, for the `jobID` of the URL. -/
def cancelJobHandler (jobID : String) : Prog Response := do
  return cancelResponse (← cancelJob jobID)

/-- Go's `GetClusterStatusHandler`.  The error of `ListJobs` is dropped, as the source drops it,
and then there are no jobs to count. -/
def getClusterStatusHandler : Prog Response := do
  match ← lift .listNodes with
  | .error _ => return ⟨500, .text "Failed to get cluster status"⟩
  | .ok nodes =>
  let allJobs := (← lift (.listJobs 10000 0)).toOption.getD []
  return ⟨200, .cluster
    { totalGPUs := (nodes.map (·.totalGPUs)).sum
      availableGPUs := (nodes.map (·.availableGPUs)).sum
      totalNodes := nodes.length
      onlineNodes := nodes.countP (·.online)
      totalJobs := allJobs.length
      pendingJobs := allJobs.countP (·.state == .pending)
      runningJobs := allJobs.countP (·.state == .running) }⟩

end Handlers

open Handlers

/-- A request to one of the routes of the modelled handlers: `POST /jobs`, `GET /jobs/{jobID}`,
`DELETE /jobs/{jobID}` and `GET /cluster/status`. -/
inductive Request where
  | submitJob (body : Option SubmitJobRequest)
  | getJobStatus (jobID : String)
  | cancelJob (jobID : String)
  | getClusterStatus

/-- The handler a request is routed to. -/
def Request.handle : Request → Prog Response
  | .submitJob body => submitJobHandler body
  | .getJobStatus jobID => getJobStatusHandler jobID
  | .cancelJob jobID => cancelJobHandler jobID
  | .getClusterStatus => getClusterStatusHandler

/-! ## 3. Each handler is the scheduler's call and a choice of code -/

/-- The id `generateJobID` gives at `w`. -/
theorem generateJobID_run (w : World) :
    generateJobID.run w = some ("job-" ++ toString w.now, w.advance) := rfl

theorem submitJobHandler_none (w : World) :
    (submitJobHandler none).run w = some (⟨400, .text "Invalid request body"⟩, w) := rfl

/-- `SubmitJobHandler` reads the clock for the id, runs `SubmitJob`, and picks the code. -/
theorem submitJobHandler_some {req : SubmitJobRequest} {w w' : World} {r : Except Err Unit}
    (h : (submitJob (req.job ("job-" ++ toString w.now))).run w.advance = some (r, w')) :
    (submitJobHandler (some req)).run w =
      some (submitResponse ("job-" ++ toString w.now) r, w') := by
  simp only [submitJobHandler, generateJobID, bind_eq, lift_bind, run_call, Call.exec,
    Prog.pure_eq, run_bind, run_pure, Option.some_bind, h]
  rfl

theorem getJobStatusHandler_of_run {jobID : String} {w w' : World} {r : Except Err JobStatus}
    (h : (getJobStatus jobID).run w = some (r, w')) :
    (getJobStatusHandler jobID).run w = some (statusResponse r, w') := by
  simp only [getJobStatusHandler, bind_eq, Prog.pure_eq, run_bind, h, Option.some_bind]
  rfl

theorem cancelJobHandler_of_run {jobID : String} {w w' : World} {r : Except Err Unit}
    (h : (cancelJob jobID).run w = some (r, w')) :
    (cancelJobHandler jobID).run w = some (cancelResponse r, w') := by
  simp only [cancelJobHandler, bind_eq, Prog.pure_eq, run_bind, h, Option.some_bind]
  rfl

/-- `GetClusterStatusHandler` reads the online nodes and the first ten thousand jobs, and writes
nothing. -/
theorem getClusterStatusHandler_run (w : World) :
    getClusterStatusHandler.run w = some (⟨200, .cluster
      { totalGPUs := (w.store.listNodes.map (·.totalGPUs)).sum
        availableGPUs := (w.store.listNodes.map (·.availableGPUs)).sum
        totalNodes := w.store.listNodes.length
        onlineNodes := w.store.listNodes.countP (·.online)
        totalJobs := (w.store.listJobs 10000 0).length
        pendingJobs := (w.store.listJobs 10000 0).countP (·.state == .pending)
        runningJobs := (w.store.listJobs 10000 0).countP (·.state == .running) }⟩, w) := rfl

/-! ## 4. `SubmitJobHandler` -/

/-- **`SubmitJobHandler` answers `403` exactly on a quota refusal.**  From any store with unique
keys, the handler answers `403` exactly when the job it builds passes `validateJob` and its stored
tenant's `HasAvailableQuota` refuses it; the response then writes nothing (only the clock was
read), and its body is the `QuotaExceededError` text naming the tenant's GPU ceiling and usage
against the requested GPU count, whichever of the four quotas refused. -/
theorem submit_forbidden_iff {w : World} (hk : w.store.Keys) (req : SubmitJobRequest) :
    ∃ resp w', (submitJobHandler (some req)).run w = some (resp, w') ∧
      (resp.code = 403 ↔ validateJob (req.job ("job-" ++ toString w.now)) = .ok () ∧
        ∃ t ∈ w.store.tenants, t.id = req.tenantID ∧
          t.hasAvailableQuota req.gpuCount req.gpuMemoryMB req.cpuCores req.memoryMB = false) ∧
      (resp.code = 403 → w' = w.advance ∧ ∃ t ∈ w.store.tenants, t.id = req.tenantID ∧
        resp.body = .json [("error",
          (Err.quotaExceeded t.id "GPUs" req.gpuCount t.maxGPUs t.currentGPUs).error)]) := by
  obtain ⟨r, w', hrun, -⟩ :=
    submitJob_run (w := w.advance) hk (req.job ("job-" ++ toString w.now))
  obtain ⟨hiff, hform⟩ := submitJob_quota (w := w.advance) hk hrun
  refine ⟨_, w', submitJobHandler_some hrun, ?_⟩
  rcases r with e | ⟨⟨⟩⟩
  · by_cases hq : isQuotaExceeded e = true
    · obtain ⟨rfl, t, ht, htid, rfl⟩ := hform e rfl hq
      simp only [submitResponse, if_pos hq]
      exact ⟨iff_of_true trivial (hiff.mp ⟨_, rfl, hq⟩),
        fun _ => ⟨trivial, t, ht, htid, rfl⟩⟩
    · simp only [submitResponse, if_neg hq]
      refine ⟨iff_of_false (by decide) fun hc => hq ?_, fun h => absurd h (by decide)⟩
      obtain ⟨e', he, hq'⟩ := hiff.mpr hc
      cases he
      exact hq'
  · refine ⟨iff_of_false (by simp [submitResponse]) fun hc => ?_,
      fun h => absurd h (by simp [submitResponse])⟩
    obtain ⟨e', he, -⟩ := hiff.mpr hc
    cases he

/-- A request for one GPU of tenant `t1`. -/
def sampleSubmission : SubmitJobRequest :=
  { tenantID := "t1", priority := 1, gpuCount := 1, gpuMemoryMB := 0, cpuCores := 1,
    memoryMB := 10, gangScheduling := false }

/-- A tenant whose GPU quota is zero gets a `403` for a one-GPU job, and nothing is written. -/
theorem submit_forbidden_sample : ∃ resp w',
    (submitJobHandler (some sampleSubmission)).run (sampleWorld 0 ["g1"] 10) = some (resp, w') ∧
      resp.code = 403 ∧ w' = (sampleWorld 0 ["g1"] 10).advance := by
  obtain ⟨resp, w', h, hiff, hw⟩ :=
    submit_forbidden_iff (sampleWorld_keys 0 (List.nodup_singleton "g1") 10) sampleSubmission
  have h403 := hiff.mpr ⟨rfl, sampleTenant 0, List.mem_singleton_self _, rfl, by decide⟩
  exact ⟨resp, w', h, h403, (hw h403).1⟩

/-- **What each answer of `SubmitJobHandler` leaves behind.**  From a state satisfying the core
invariant, a body the decoder refuses is answered `400` with nothing written, and a decoded body
is answered `201`, `403` or `500`.  A `201` names the id made of `"job-"` and the clock's
reading, which no stored job had, and leaves that job stored Pending and queued.  A `500`
carries the generic text and either writes nothing or, when the queue refused the job, leaves it
stored Pending but out of the queue.  A job `validateJob` refuses is answered `500`, having
written nothing. -/
theorem submit_handler_run {w : World} (hc : Core w.state) (body : Option SubmitJobRequest) :
    ∃ resp w', (submitJobHandler body).run w = some (resp, w') ∧
      (body = none → resp = ⟨400, .text "Invalid request body"⟩ ∧ w' = w) ∧
      ∀ req, body = some req →
      (resp.code = 201 ∨ resp.code = 403 ∨ resp.code = 500) ∧
      (resp.code = 201 → resp.body = .json [("job_id", "job-" ++ toString w.now),
          ("status", "submitted"), ("message", "Job submitted successfully")] ∧
        (∀ j ∈ w.store.jobs, j.id ≠ "job-" ++ toString w.now) ∧
        (∃ j ∈ w'.store.jobs, j.id = "job-" ++ toString w.now ∧ j.state = .pending) ∧
        "job-" ++ toString w.now ∈ w'.queue.ids) ∧
      (resp.code = 500 → resp.body = .json [("error", "Failed to submit job")] ∧
        (w'.state = w.state ∨
          (∃ j ∈ w'.store.jobs, j.id = "job-" ++ toString w.now ∧ j.state = .pending) ∧
            w'.queue = w.queue ∧ "job-" ++ toString w.now ∉ w'.queue.ids)) ∧
      (validateJob (req.job ("job-" ++ toString w.now)) ≠ .ok () →
        resp.code = 500 ∧ w'.state = w.state) := by
  cases body with
  | none => exact ⟨_, w, submitJobHandler_none w, fun _ => ⟨rfl, rfl⟩, fun _ h => (nomatch h)⟩
  | some req =>
  obtain ⟨r, w', hrun, ho⟩ :=
    submitJob_run (w := w.advance) hc.keys (req.job ("job-" ++ toString w.now))
  obtain ⟨hiff, -⟩ := submitJob_quota (w := w.advance) hc.keys hrun
  refine ⟨_, w', submitJobHandler_some hrun, fun h => (nomatch h), fun _ h => ?_⟩
  obtain rfl := Option.some.inj h
  rcases ho with ⟨hs, hq, e, rfl⟩ |
    ⟨tenant, htm, htid, hv, hquota, t, now, hfresh, hstore, hm⟩
  · -- refused before anything was written
    have hst : w'.state = w.state := by simp only [World.state, hs, hq, World.advance_store,
      World.advance_queue]
    by_cases hqe : isQuotaExceeded e = true
    · rw [submitResponse, if_pos hqe]
      exact ⟨.inr (.inl rfl), fun h => by simp at h, fun h => by simp at h,
        fun hv => absurd (hiff.mp ⟨e, rfl, hqe⟩).1 hv⟩
    · rw [submitResponse, if_neg hqe]
      exact ⟨.inr (.inr rfl), fun h => absurd h (by decide), fun _ => ⟨rfl, .inl hst⟩,
        fun _ => ⟨rfl, hst⟩⟩
  · -- the job was stored; the queue accepted it or not
    have hnot : "job-" ++ toString w.now ∉ w.queue.ids := fun hm' => by
      obtain ⟨j, hj, hjid, -⟩ := hc.queued _ hm'
      exact hfresh j hj hjid
    have hjob : ∃ j ∈ w'.store.jobs, j.id = "job-" ++ toString w.now ∧ j.state = .pending :=
      ⟨_, by rw [hstore]; exact List.mem_append_right _ (List.mem_singleton_self _), rfl, rfl⟩
    split at hm <;> rename_i he
    · obtain ⟨hq', rfl⟩ := hm
      refine ⟨.inl rfl, fun _ => ⟨rfl, hfresh, hjob, ?_⟩,
        fun h => by simp [submitResponse] at h, fun h => absurd hv h⟩
      exact hq' ▸ (hc.valid.mem_ids_enqueue he _).mpr (.inr rfl)
    · obtain ⟨hq', rfl⟩ := hm
      have hqe : ¬isQuotaExceeded (.wrap "failed to enqueue job" _) = true := fun hqe => by
        obtain ⟨-, t', ht', hid', hq₂⟩ := hiff.mp ⟨_, rfl, hqe⟩
        rw [hc.keys.tenants.inj ht' htm (by simpa using hid'.trans htid.symm), hquota] at hq₂
        cases hq₂
      rw [submitResponse, if_neg hqe]
      exact ⟨.inr (.inr rfl), fun h => absurd h (by decide),
        fun _ => ⟨rfl, .inr ⟨hjob, hq', hq' ▸ hnot⟩⟩, fun h => absurd hv h⟩

/-- The sample cluster, fresh, satisfies the core invariant. -/
theorem sampleWorld_core : Core (sampleWorld 4 ["g1"] 10).state :=
  Core.initial (sampleWorld_keys 4 (List.nodup_singleton "g1") 10) (sampleWorld_fresh 4 ["g1"] 10)
    (.of_none rfl)

/-- On a fresh scheduler the handler answers a decoded body with one of its three codes. -/
theorem submit_handler_sample : ∃ resp w',
    (submitJobHandler (some sampleSubmission)).run (sampleWorld 4 ["g1"] 10) = some (resp, w') ∧
      (resp.code = 201 ∨ resp.code = 403 ∨ resp.code = 500) :=
  have ⟨resp, w', h, _, hsome⟩ := submit_handler_run sampleWorld_core (some sampleSubmission)
  ⟨resp, w', h, (hsome _ rfl).1⟩

/-! ## 5. `CancelJobHandler` and `GetJobStatusHandler` -/

/-- **`CancelJobHandler`'s codes.**  From a state satisfying the core invariant, the handler
answers `404` exactly when no stored job has the id, `500` exactly when the job is neither
Pending nor Running, and `200` exactly when it is one of the two.  Only a `200` writes: the job
is then read back Cancelled, and its id is in no queue entry, so no later cycle starts it. -/
theorem cancel_handler_run {w : World} (hc : Core w.state) (jobID : String) :
    ∃ resp w', (cancelJobHandler jobID).run w = some (resp, w') ∧
      (resp = ⟨404, .text "Job not found"⟩ ↔ ∀ j ∈ w.store.jobs, j.id ≠ jobID) ∧
      (resp = ⟨500, .text "Failed to cancel job"⟩ ↔
        ∃ j ∈ w.store.jobs, j.id = jobID ∧ j.state ≠ .pending ∧ j.state ≠ .running) ∧
      (resp = ⟨200, .json [("message", "Job cancelled successfully")]⟩ ↔
        ∃ j ∈ w.store.jobs, j.id = jobID ∧ (j.state = .pending ∨ j.state = .running)) ∧
      (resp.code ≠ 200 → w' = w) ∧
      (resp.code = 200 → (∃ j, w'.store.getJob jobID = .ok j ∧ j.state = .cancelled) ∧
        jobID ∉ w'.queue.ids) := by
  have hk := hc.keys
  obtain ⟨r, w', hrun, hspec⟩ := cancelJob_run hk jobID
  refine ⟨_, w', cancelJobHandler_of_run hrun, ?_⟩
  cases hg : w.store.getJob jobID with
  | error e =>
    -- no job under the id: `404`, nothing written
    rw [hg] at hspec
    obtain ⟨rfl, hw⟩ := hspec
    obtain ⟨rfl, hno⟩ := Table.get_eq_error_iff.mp hg
    have hno' : ∀ j ∈ w.store.jobs, j.id ≠ jobID := fun j hj => by simpa using hno j hj
    refine ⟨iff_of_true rfl hno',
      iff_of_false (by decide) fun ⟨j, hj, hid, _⟩ => hno' j hj hid,
      iff_of_false (by decide) fun ⟨j, hj, hid, _⟩ => hno' j hj hid, fun _ => hw,
      fun h => absurd h (by decide)⟩
  | ok job =>
    rw [hg] at hspec
    dsimp only at hspec
    obtain ⟨hj, hid⟩ := (Table.get_eq_ok hk.jobs _).mp hg
    replace hid : job.id = jobID := hid
    have hex : ∀ {P : Job → Prop}, (∃ j ∈ w.store.jobs, j.id = jobID ∧ P j) ↔ P job :=
      Store.exists_job_iff hk.jobs hj hid
    have hsome : ¬∀ j ∈ w.store.jobs, j.id ≠ jobID := fun h => h job hj hid
    by_cases hpr : job.state = .pending ∨ job.state = .running
    · -- Pending or Running: `200`, and the job is read back Cancelled and is out of the queue
      have hdone : r = .ok () ∧ (∃ j, w'.store.getJob jobID = .ok j ∧
          j.state = .cancelled) ∧ jobID ∉ w'.queue.ids := by
        rcases hpr with hp | hr
        · obtain ⟨rfl, rfl⟩ := if_pos hp ▸ hspec
          exact ⟨rfl, ⟨{ job with state := .cancelled },
            hid ▸ Store.getJob_updateJob hk.jobs _, rfl⟩,
            fun hm => ((hc.valid.mem_ids_remove jobID jobID).mp hm).2 rfl⟩
        · -- resources freed; a Running job is not queued
          rw [if_neg (by rw [hr]; decide)] at hspec
          obtain ⟨rfl, rfl⟩ := if_pos hr ▸ hspec
          exact ⟨rfl, ⟨{ job with state := .cancelled }, hid ▸ Store.getJob_updateJob
            (by simpa [Store.freeJobResources] using hk.jobs) _, rfl⟩,
            fun hm => (hc.not_queued hj hr _ hm).2 hid.symm⟩
      obtain ⟨rfl, hdone⟩ := hdone
      exact ⟨iff_of_false (by decide) hsome,
        iff_of_false (by decide) fun h => hpr.elim (hex.mp h).1 (hex.mp h).2,
        iff_of_true rfl (hex.mpr hpr), fun h => absurd rfl h, fun _ => hdone⟩
    · -- any other state: refused with its name, nothing written
      obtain ⟨hp, hr⟩ := not_or.mp hpr
      rw [if_neg hp] at hspec
      obtain ⟨rfl, hw⟩ := if_neg hr ▸ hspec
      have h500 : cancelResponse (.error (.text ("cannot cancel job in state: " ++ job.state.name)))
          = ⟨500, .text "Failed to cancel job"⟩ := rfl
      rw [h500]
      exact ⟨iff_of_false (by decide) hsome, iff_of_true rfl ⟨job, hj, hid, hp, hr⟩,
        iff_of_false (by decide) fun h => hpr (hex.mp h), fun _ => hw,
        fun h => absurd h (by decide)⟩

/-- Cancelling a job of an empty store is a `404` that writes nothing. -/
theorem cancel_handler_sample : ∃ resp w',
    (cancelJobHandler "j1").run (sampleWorld 4 ["g1"] 10) = some (resp, w') ∧
      resp = ⟨404, .text "Job not found"⟩ ∧ w' = sampleWorld 4 ["g1"] 10 := by
  obtain ⟨resp, w', h, h404, -, -, hw, -⟩ := cancel_handler_run sampleWorld_core "j1"
  have hr := h404.mpr fun j hj => by simp [sampleWorld] at hj
  exact ⟨resp, w', h, hr, hw (by rw [hr]; decide)⟩

/-- **`GetJobStatusHandler` never answers `500`.**  From any store with unique keys the handler
writes nothing and answers `404` exactly when no stored job has the id; otherwise it answers
`200` with a status of that job's id and stored state. -/
theorem status_handler_run {w : World} (hk : w.store.Keys) (jobID : String) :
    ∃ resp, (getJobStatusHandler jobID).run w = some (resp, w) ∧
      (resp = ⟨404, .text "Job not found"⟩ ↔ ∀ j ∈ w.store.jobs, j.id ≠ jobID) ∧
      (resp ≠ ⟨404, .text "Job not found"⟩ → ∃ st, resp = ⟨200, .status st⟩ ∧
        ∃ j ∈ w.store.jobs, j.id = jobID ∧ st.jobID = jobID ∧ st.state = j.state) := by
  obtain ⟨r, hrun, hr⟩ := getJobStatus_run jobID w
  refine ⟨_, getJobStatusHandler_of_run hrun, ?_⟩
  rcases r with e | st <;> dsimp only at hr
  · obtain ⟨rfl, hno⟩ := Table.get_eq_error_iff.mp hr
    exact ⟨iff_of_true rfl fun j hj => by simpa using hno j hj, fun h => absurd rfl h⟩
  · obtain ⟨j, hg, hid, hst, -⟩ := hr
    obtain ⟨hj, hjid⟩ := (Table.get_eq_ok hk.jobs _).mp hg
    exact ⟨iff_of_false (by simp [statusResponse]) fun h => h j hj hjid,
      fun _ => ⟨st, rfl, j, hj, hjid, hid.trans hjid, hst⟩⟩

/-- The status of a job of an empty store is a `404`. -/
theorem status_handler_sample : ∃ resp,
    (getJobStatusHandler "j1").run (sampleWorld 4 ["g1"] 10) = some (resp, sampleWorld 4 ["g1"] 10) ∧
      resp = ⟨404, .text "Job not found"⟩ :=
  have ⟨resp, h, h404, _⟩ :=
    status_handler_run (sampleWorld_keys 4 (List.nodup_singleton "g1") 10) "j1"
  ⟨resp, h, h404.mpr fun j hj => by simp [sampleWorld] at hj⟩

/-! ## 6. Serving requests -/

/-- One thing the server does, to its end: answer one request, or run one operation of the
scheduler (a cycle of `Start`'s loop, the start-up replay). -/
inductive Served (config : SchedulerConfig) : World → World → Prop where
  | request {w w' : World} (req : Request) (resp : Response)
      (h : req.handle.run w = some (resp, w')) : Served config w w'
  | operation {w w' : World} (op : Op) (r : Except Err Unit) (h : Step config w op r w') :
      Served config w w'

/-- From a store with unique keys, whatever the server does is a sequence of moves: a handler
makes the moves of the scheduler call it wraps, and nothing else. -/
theorem Served.moves {config : SchedulerConfig} {w w' : World} (hk : w.store.Keys)
    (h : Served config w w') : Relation.ReflTransGen Move w.state w'.state := by
  cases h with
  | operation op r h => exact step_moves hk h
  | request req resp h =>
    cases req with
    | submitJob body =>
      cases body with
      | none =>
        cases h
        exact .refl
      | some req =>
        obtain ⟨r, w₁, hrun, -⟩ :=
          submitJob_run (w := w.advance) hk (req.job ("job-" ++ toString w.now))
        rw [Request.handle, submitJobHandler_some hrun] at h
        cases h
        exact step_moves (w := w.advance) hk
          (show Step config w.advance (.submitJob _) r _ from hrun)
    | getJobStatus jobID =>
      obtain ⟨r, hrun, -⟩ := getJobStatus_run jobID w
      rw [Request.handle, getJobStatusHandler_of_run hrun] at h
      cases h
      exact .refl
    | cancelJob jobID =>
      obtain ⟨r, w₁, hrun, -⟩ := cancelJob_run hk jobID
      rw [Request.handle, cancelJobHandler_of_run hrun] at h
      cases h
      exact step_moves hk (show Step config w (.cancelJob jobID) r _ from hrun)
    | getClusterStatus =>
      rw [Request.handle, getClusterStatusHandler_run] at h
      cases h
      exact .refl

/-- From a store with unique keys, every sequence of served requests and operations is a
sequence of moves. -/
theorem served_moves {config : SchedulerConfig} {w₀ w : World} (hk : w₀.store.Keys)
    (h : Relation.ReflTransGen (Served config) w₀ w) :
    Relation.ReflTransGen Move w₀.state w.state := by
  induction h with
  | refl => exact .refl
  | tail _ hs ih => exact ih.trans (hs.moves (Reach.keys (ih.mono fun _ _ => Move.action) hk))

/-- **The REST server refines the moves of the scheduler.**  Serving any sequence of requests to
the three handlers, interleaved with any operations of the scheduler, from a fresh scheduler over
a store with unique keys and no allocation, only makes `Move`s, so every state it reaches is
faithful: unique keys, a valid heap, every queued id a stored Pending job whose row is the one
queued, and every job's allocations in step with its state. -/
theorem served_faithful {config : SchedulerConfig} {w₀ w : World} (hk : w₀.store.Keys)
    (hq : Fresh config w₀) (hnone : w₀.store.allocations = [])
    (h : Relation.ReflTransGen (Served config) w₀ w) :
    Relation.ReflTransGen Move w₀.state w.state ∧ Faithful w.state := by
  have hm := served_moves hk h
  exact ⟨hm, (Moves.invariant (P := fun _ => True) (fun _ _ _ => trivial) hm
    (Faithful.initial hk hq hnone) trivial).1⟩

/-- A submission served on a fresh scheduler leaves it faithful. -/
theorem served_faithful_sample : ∃ w,
    Relation.ReflTransGen (Served (sampleConfig 10)) (sampleWorld 4 ["g1"] 10) w ∧ Faithful w.state := by
  have hk := sampleWorld_keys 4 (List.nodup_singleton "g1") 10
  obtain ⟨r, w', hrun, -⟩ := submitJob_run (w := (sampleWorld 4 ["g1"] 10).advance) hk
    (sampleSubmission.job ("job-" ++ toString (sampleWorld 4 ["g1"] 10).now))
  have hs : Served (sampleConfig 10) (sampleWorld 4 ["g1"] 10) w' :=
    .request (.submitJob (some sampleSubmission)) _ (submitJobHandler_some hrun)
  exact ⟨w', .single hs,
    (served_faithful hk (sampleWorld_fresh 4 ["g1"] 10) rfl (.single hs)).2⟩

/-! ## 7. `GetClusterStatusHandler` -/

/-- Node counters are exact in every state the server reaches from nodes with all of their
capacity available. -/
theorem served_capacity {config : SchedulerConfig} {w₀ w : World} (hk : w₀.store.Keys)
    (hq : Fresh config w₀) (hnone : w₀.store.allocations = [])
    (hfull : ∀ n ∈ w₀.store.nodes, n.availableGPUs = n.totalGPUs ∧
      n.availableCPUCores = n.totalCPUCores ∧ n.availableMemoryMB = n.totalMemoryMB)
    (h : Relation.ReflTransGen (Served config) w₀ w) : w.store.Capacity :=
  Reach.invariant (P := fun st => st.1.Capacity) (fun hc ha hb => ha.capacity hc hb)
    ((served_moves hk h).mono fun _ _ => Move.action) (Core.initial hk hq (.of_none hnone))
    ⟨fun n hn => by simp [Store.held, World.state, hnone, (hfull n hn).1],
      fun n hn => by simp [Store.held, World.state, hnone, (hfull n hn).2.1],
      fun n hn => by simp [Store.held, World.state, hnone, (hfull n hn).2.2]⟩

/-- **What the cluster status reports.**  In every state the server reaches from a fresh scheduler
over a store with unique keys, no allocation and every node's capacity available, and while at
most ten thousand jobs are stored, `GetClusterStatusHandler` writes nothing and answers `200`
with: as many online nodes as nodes, since `ListNodes` only lists online ones; available GPUs
equal to the total less the GPUs the Active allocations on those nodes hold (in 64-bit
arithmetic); and the numbers of stored jobs, of Pending jobs and of Running jobs. -/
theorem cluster_status_served {config : SchedulerConfig} {w₀ w : World} (hk : w₀.store.Keys)
    (hq : Fresh config w₀) (hnone : w₀.store.allocations = [])
    (hfull : ∀ n ∈ w₀.store.nodes, n.availableGPUs = n.totalGPUs ∧
      n.availableCPUCores = n.totalCPUCores ∧ n.availableMemoryMB = n.totalMemoryMB)
    (h : Relation.ReflTransGen (Served config) w₀ w) (hsmall : w.store.jobs.length ≤ 10000) :
    ∃ st, getClusterStatusHandler.run w = some (⟨200, .cluster st⟩, w) ∧
      st.onlineNodes = st.totalNodes ∧ st.totalNodes = w.store.listNodes.length ∧
      st.availableGPUs = st.totalGPUs -
        (w.store.listNodes.map fun n => w.store.held n.id fun a => BitVec.ofNat 64 a.gpuIDs.length).sum ∧
      st.totalJobs = w.store.jobs.length ∧
      st.pendingJobs = w.store.jobs.countP (·.state == .pending) ∧
      st.runningJobs = w.store.jobs.countP (·.state == .running) := by
  have hcap := served_capacity hk hq hnone hfull h
  have hall := Store.listJobs_perm hsmall
  refine ⟨_, getClusterStatusHandler_run w, ?_, rfl, ?_, hall.length_eq, hall.countP_eq _,
    hall.countP_eq _⟩
  · -- every listed node is online
    exact List.countP_eq_length.mpr fun n hn => by simpa using (List.mem_filter.mp hn).2
  · -- each listed node's counter is its total less what it holds
    have hn : ∀ n ∈ w.store.listNodes, n.availableGPUs =
        n.totalGPUs - w.store.held n.id fun a => BitVec.ofNat 64 a.gpuIDs.length :=
      fun n hn => hcap.gpus n (List.mem_filter.mp hn).1
    rw [List.map_congr_left hn]
    simpa using Multiset.sum_map_sub (m := (w.store.listNodes : Multiset Node))
      (f := (·.totalGPUs))
      (g := fun n => w.store.held n.id fun a => BitVec.ofNat 64 a.gpuIDs.length)

/-- On the sample cluster the status counts its one node, online. -/
theorem cluster_status_sample : ∃ st, getClusterStatusHandler.run (sampleWorld 4 ["g1"] 10) =
    some (⟨200, .cluster st⟩, sampleWorld 4 ["g1"] 10) ∧ st.onlineNodes = 1 ∧ st.totalNodes = 1 := by
  obtain ⟨st, h, hon, htot, -⟩ := cluster_status_served
    (sampleWorld_keys 4 (List.nodup_singleton "g1") 10) (sampleWorld_fresh 4 ["g1"] 10) rfl
    (by decide) .refl (by decide)
  exact ⟨st, h, hon.trans htot, htot⟩

end GpuScheduler
