import GpuScheduler.Models
/-
# The repository: five keyed tables

`storage.Repository`, as `postgres.PostgresRepository` implements it with gorm, over the five
tables the scheduler uses.  A table is the list of its rows, each under the string primary key
`ID`; a query returns the rows it selects in table order.

* `First(&row, "id = ?", id)` is `Table.find`, and a missing row is the repository's sentinel
  (`ErrJobNotFound`, ...): `Table.get`.
* `Save(row)` updates the row with the same key, or inserts it: `Table.save`.
* `Create(row)` is refused when the key is taken: `Table.create`.
* `Where(...).Find(&rows)` is a `filter`.

Every call of the model succeeds unless the finite-map semantics refuses it (a missing key, or a
taken one).  Keys stay unique (`Table.Keys`): `save` and `create` keep them so.
-/

namespace GpuScheduler

/-- Records stored under a string primary key (the `ID` column of every table). -/
class Keyed (α : Type) where
  key : α → String

instance : Keyed Job := ⟨Job.id⟩
instance : Keyed Tenant := ⟨Tenant.id⟩
instance : Keyed GPU := ⟨GPU.id⟩
instance : Keyed Node := ⟨Node.id⟩
instance : Keyed Allocation := ⟨Allocation.id⟩

@[simp] theorem Keyed.key_job (j : Job) : Keyed.key j = j.id := rfl
@[simp] theorem Keyed.key_tenant (t : Tenant) : Keyed.key t = t.id := rfl
@[simp] theorem Keyed.key_gpu (g : GPU) : Keyed.key g = g.id := rfl
@[simp] theorem Keyed.key_node (n : Node) : Keyed.key n = n.id := rfl
@[simp] theorem Keyed.key_allocation (a : Allocation) : Keyed.key a = a.id := rfl

namespace Table

variable {α : Type} [Keyed α]

/-- gorm's `First(&row, "id = ?", id)`: the row under the key, if any. -/
def find (rows : List α) (id : String) : Option α := rows.find? (fun r => Keyed.key r == id)

/-- A `Get*` method: the row under the key, or the repository's not-found sentinel. -/
def get (rows : List α) (id : String) (notFound : Sentinel) : Except Err α :=
  match find rows id with
  | some r => .ok r
  | none => .error (.sentinel notFound)

/-- gorm's `Save(row)`: replace the row under the same key, or append it. -/
def save (r : α) : List α → List α
  | [] => [r]
  | x :: xs => if Keyed.key x = Keyed.key r then r :: xs else x :: save r xs

/-- gorm's `Create(row)`: the primary key refuses a second row under a taken key. -/
def create (rows : List α) (r : α) : Except Err (List α) :=
  if rows.any (fun x => Keyed.key x == Keyed.key r) then .error (.duplicateKey (Keyed.key r))
  else .ok (rows ++ [r])

/-- The primary keys of the rows are distinct. -/
def Keys (rows : List α) : Prop := (rows.map Keyed.key).Nodup

variable {rows : List α} {r x : α} {id : String}

theorem Keys.inj (h : Keys rows) {y : α} (hx : x ∈ rows) (hy : y ∈ rows)
    (e : Keyed.key x = Keyed.key y) : x = y :=
  List.inj_on_of_nodup_map h hx hy e

theorem find_eq_some (h : Keys rows) : find rows id = some r ↔ r ∈ rows ∧ Keyed.key r = id := by
  constructor
  · intro hf
    exact ⟨List.mem_of_find?_eq_some hf, by simpa using List.find?_some hf⟩
  · rintro ⟨hr, rfl⟩
    obtain ⟨x, hx⟩ := Option.isSome_iff_exists.mp
      ((List.find?_isSome (p := fun y => Keyed.key y == Keyed.key r)).mpr ⟨r, hr, by simp⟩)
    have hk : Keyed.key x = Keyed.key r := by simpa using List.find?_some hx
    rw [find, hx, h.inj (List.mem_of_find?_eq_some hx) hr hk]

theorem find_eq_none : find rows id = none ↔ ∀ r ∈ rows, Keyed.key r ≠ id := by
  simp [find]

theorem get_eq_ok (h : Keys rows) (s : Sentinel) : get rows id s = .ok r ↔ r ∈ rows ∧ Keyed.key r = id := by
  unfold get
  split <;> rename_i hf
  · rw [← find_eq_some h, hf, Except.ok.injEq, Option.some.injEq]
  · simp only [reduceCtorEq, false_iff, not_and]
    exact find_eq_none.mp hf r

/-- A row `get` returns is stored under the key asked for, whether or not the keys are unique. -/
theorem mem_of_get_eq_ok {s : Sentinel} (hg : get rows id s = .ok r) : r ∈ rows ∧ Keyed.key r = id := by
  unfold get at hg
  split at hg <;> rename_i hf
  · cases hg
    exact ⟨List.mem_of_find?_eq_some hf, by simpa using List.find?_some hf⟩
  · cases hg

theorem get_eq_error {s : Sentinel} {e : Err} (hg : get rows id s = .error e) :
    ∀ r ∈ rows, Keyed.key r ≠ id := by
  unfold get at hg
  split at hg <;> rename_i hf
  · cases hg
  · exact find_eq_none.mp hf

/-- `get` fails exactly when no row has the key, and then with the not-found sentinel. -/
theorem get_eq_error_iff {s : Sentinel} {e : Err} :
    get rows id s = .error e ↔ e = .sentinel s ∧ ∀ r ∈ rows, Keyed.key r ≠ id := by
  unfold get
  rw [← find_eq_none]
  split <;> rename_i hf <;> simp [hf, eq_comm]

theorem mem_save (h : Keys rows) : x ∈ save r rows ↔ x = r ∨ (x ∈ rows ∧ Keyed.key x ≠ Keyed.key r) := by
  induction rows with
  | nil => simp [save]
  | cons y ys ih =>
    have hy : Keyed.key y ∉ ys.map Keyed.key := (List.nodup_cons.mp h).1
    unfold save
    split <;> rename_i hky
    · simp only [List.mem_cons]
      constructor
      · rintro (rfl | hm)
        · exact .inl rfl
        · exact .inr ⟨.inr hm, fun e => hy (hky ▸ e ▸ List.mem_map_of_mem _ hm)⟩
      · rintro (rfl | ⟨rfl | hm, hk⟩)
        · exact .inl rfl
        · exact absurd hky hk
        · exact .inr hm
    · simp only [List.mem_cons, ih (List.nodup_cons.mp h).2]
      constructor
      · rintro (rfl | rfl | ⟨hm, hk⟩)
        · exact .inr ⟨.inl rfl, hky⟩
        · exact .inl rfl
        · exact .inr ⟨.inr hm, hk⟩
      · rintro (rfl | ⟨rfl | hm, hk⟩)
        · exact .inr (.inl rfl)
        · exact .inl rfl
        · exact .inr (.inr ⟨hm, hk⟩)

theorem keys_save (h : Keys rows) (r : α) : Keys (save r rows) := by
  induction rows with
  | nil => simp [Keys, save]
  | cons y ys ih =>
    have hy := List.nodup_cons.mp h
    unfold save
    split <;> rename_i hky
    · simpa [Keys, ← hky] using h
    · refine List.nodup_cons.mpr ⟨fun hm => ?_, ih hy.2⟩
      obtain ⟨z, hz, hzk⟩ := List.mem_map.mp hm
      rcases (mem_save hy.2).mp hz with rfl | ⟨hz, -⟩
      · exact hky hzk.symm
      · exact hy.1 (hzk ▸ List.mem_map_of_mem _ hz)

theorem create_eq_ok {rows' : List α} :
    create rows r = .ok rows' ↔ (∀ x ∈ rows, Keyed.key x ≠ Keyed.key r) ∧ rows' = rows ++ [r] := by
  unfold create
  split <;> rename_i hany
  · simp only [reduceCtorEq, false_iff, not_and]
    obtain ⟨x, hx, hk⟩ := List.any_eq_true.mp hany
    exact fun hall => absurd (beq_iff_eq.mp hk) (hall x hx)
  · simp only [Except.ok.injEq, List.any_eq_true, beq_iff_eq, not_exists, not_and] at hany ⊢
    exact ⟨fun e => ⟨hany, e.symm⟩, fun ⟨_, e⟩ => e.symm⟩

theorem keys_create (h : Keys rows) (hr : ∀ x ∈ rows, Keyed.key x ≠ Keyed.key r) :
    Keys (rows ++ [r]) := by
  unfold Keys
  rw [List.map_append, List.nodup_append]
  refine ⟨h, List.nodup_singleton _, fun a ha hb => ?_⟩
  obtain ⟨x, hx, rfl⟩ := List.mem_map.mp ha
  simp only [List.map_cons, List.map_nil, List.mem_singleton] at hb
  exact hr x hx hb

/-- Under unique keys, saving over a stored row replaces exactly that row. -/
theorem save_eq_map (h : Keys rows) {r₀ : α} (hr : r₀ ∈ rows) (hk : Keyed.key r = Keyed.key r₀) :
    save r rows = rows.map fun x => if Keyed.key x = Keyed.key r then r else x := by
  induction rows with
  | nil => cases hr
  | cons y ys ih =>
    have hy := List.nodup_cons.mp h
    unfold save
    split <;> rename_i hky
    · have hne : ∀ x ∈ ys, ¬ Keyed.key x = Keyed.key r := fun x hx e =>
        hy.1 (hky ▸ e ▸ List.mem_map_of_mem _ hx)
      rw [List.map_cons, if_pos hky, List.map_congr_left fun x hx => if_neg (hne x hx), List.map_id']
    · rw [List.map_cons, if_neg hky,
        ih hy.2 ((List.mem_cons.mp hr).resolve_left fun e => hky (e ▸ hk.symm))]

theorem keys_map {f : α → α} (hf : ∀ x, Keyed.key (f x) = Keyed.key x) (h : Keys rows) :
    Keys (rows.map f) := by
  have e : (rows.map f).map Keyed.key = rows.map Keyed.key := by
    rw [List.map_map]
    exact List.map_congr_left fun x _ => hf x
  unfold Keys
  rwa [e]

end Table

/-- The five tables of the database. -/
structure Store where
  jobs : List Job
  tenants : List Tenant
  gpus : List GPU
  nodes : List Node
  allocations : List Allocation

namespace Store

/-- `CreateJob`. -/
def createJob (s : Store) (job : Job) : Except Err Store :=
  (Table.create s.jobs job).map fun jobs => { s with jobs }

/-- `GetJob`. -/
def getJob (s : Store) (jobID : String) : Except Err Job := Table.get s.jobs jobID .jobNotFound

/-- `UpdateJob`. -/
def updateJob (s : Store) (job : Job) : Store := { s with jobs := Table.save job s.jobs }

/-- `ListJobs(limit, offset)`: gorm's `Order("submitted_at DESC")`, then `Offset` and `Limit`.
SQL leaves the order of equal submission times open; the model keeps the table's order there. -/
def listJobs (s : Store) (limit offset : Nat) : List Job :=
  ((s.jobs.mergeSort fun a b => decide (b.submittedAt ≤ a.submittedAt)).drop offset).take limit

/-- With at most `limit` stored jobs, `ListJobs(limit, 0)` lists every job once, in some order. -/
theorem listJobs_perm {s : Store} {limit : Nat} (h : s.jobs.length ≤ limit) :
    (s.listJobs limit 0).Perm s.jobs := by
  unfold listJobs
  rw [List.drop_zero, List.take_of_length_le (by rw [List.length_mergeSort]; exact h)]
  exact List.mergeSort_perm _ _

/-- `ListJobsByState`. -/
def listJobsByState (s : Store) (state : JobState) : List Job := s.jobs.filter (·.state == state)

/-- `GetTenant`. -/
def getTenant (s : Store) (tenantID : String) : Except Err Tenant :=
  Table.get s.tenants tenantID .tenantNotFound

/-- `UpdateTenant`. -/
def updateTenant (s : Store) (tenant : Tenant) : Store :=
  { s with tenants := Table.save tenant s.tenants }

/-- `GetGPU`. -/
def getGPU (s : Store) (gpuID : String) : Except Err GPU := Table.get s.gpus gpuID .gpuNotFound

/-- `UpdateGPU`. -/
def updateGPU (s : Store) (gpu : GPU) : Store := { s with gpus := Table.save gpu s.gpus }

/-- `ListGPUsByNode`. -/
def listGPUsByNode (s : Store) (nodeID : String) : List GPU := s.gpus.filter (·.nodeID == nodeID)

/-- `GetNode`. -/
def getNode (s : Store) (nodeID : String) : Except Err Node := Table.get s.nodes nodeID .nodeNotFound

/-- `UpdateNode`. -/
def updateNode (s : Store) (node : Node) : Store := { s with nodes := Table.save node s.nodes }

/-- `ListNodes`: the online nodes. -/
def listNodes (s : Store) : List Node := s.nodes.filter (·.online)

/-- `CreateAllocation`. -/
def createAllocation (s : Store) (allocation : Allocation) : Except Err Store :=
  (Table.create s.allocations allocation).map fun allocations => { s with allocations }

/-- `GetAllocation`. -/
def getAllocation (s : Store) (allocationID : String) : Except Err Allocation :=
  Table.get s.allocations allocationID .allocationNotFound

/-- `UpdateAllocation`. -/
def updateAllocation (s : Store) (allocation : Allocation) : Store :=
  { s with allocations := Table.save allocation s.allocations }

/-- `GetJobAllocations`. -/
def getJobAllocations (s : Store) (jobID : String) : List Allocation :=
  s.allocations.filter (·.jobID == jobID)

theorem createJob_eq_ok {s s' : Store} {job : Job} :
    s.createJob job = .ok s' ↔ (∀ j ∈ s.jobs, j.id ≠ job.id) ∧ s' = { s with jobs := s.jobs ++ [job] } := by
  unfold createJob
  cases h : Table.create s.jobs job with
  | error e =>
    simp only [Except.map, reduceCtorEq, false_iff, not_and]
    intro hf
    rw [Table.create_eq_ok.mpr ⟨fun x hx => by simpa using hf x hx, rfl⟩] at h
    cases h
  | ok rows =>
    obtain ⟨hf, rfl⟩ := Table.create_eq_ok.mp h
    simp only [Except.map, Except.ok.injEq]
    exact ⟨fun e => ⟨fun j hj => by simpa using hf j hj, e.symm⟩, fun ⟨_, e⟩ => e.symm⟩

/-- `CreateJob` refuses only a taken key. -/
theorem createJob_eq_error {s : Store} {job : Job} {e : Err} (h : s.createJob job = .error e) :
    e = .duplicateKey job.id := by
  unfold createJob Table.create at h
  split_ifs at h <;> simp [Except.map] at h
  exact h.symm

theorem createAllocation_eq_ok {s s' : Store} {a : Allocation} :
    s.createAllocation a = .ok s' ↔
      (∀ b ∈ s.allocations, b.id ≠ a.id) ∧ s' = { s with allocations := s.allocations ++ [a] } := by
  unfold createAllocation
  cases h : Table.create s.allocations a with
  | error e =>
    simp only [Except.map, reduceCtorEq, false_iff, not_and]
    intro hf
    rw [Table.create_eq_ok.mpr ⟨fun x hx => by simpa using hf x hx, rfl⟩] at h
    cases h
  | ok rows =>
    obtain ⟨hf, rfl⟩ := Table.create_eq_ok.mp h
    simp only [Except.map, Except.ok.injEq]
    exact ⟨fun e => ⟨fun b hb => by simpa using hf b hb, e.symm⟩, fun ⟨_, e⟩ => e.symm⟩

/-- Every table has unique primary keys. -/
structure Keys (s : Store) : Prop where
  jobs : Table.Keys s.jobs
  tenants : Table.Keys s.tenants
  gpus : Table.Keys s.gpus
  nodes : Table.Keys s.nodes
  allocations : Table.Keys s.allocations

theorem Keys.updateJob {s : Store} (h : s.Keys) (job : Job) : (s.updateJob job).Keys :=
  { h with jobs := Table.keys_save h.jobs job }

theorem Keys.updateTenant {s : Store} (h : s.Keys) (tenant : Tenant) : (s.updateTenant tenant).Keys :=
  { h with tenants := Table.keys_save h.tenants tenant }

/-- Under unique keys, "a stored job under `jobID` has `P`" is `P` of the one stored there. -/
theorem exists_job_iff {s : Store} (hk : Table.Keys s.jobs) {job : Job} (hj : job ∈ s.jobs)
    {jobID : String} (hid : job.id = jobID) {P : Job → Prop} :
    (∃ j ∈ s.jobs, j.id = jobID ∧ P j) ↔ P job :=
  ⟨fun ⟨_, hj', hid', hp⟩ => hk.inj hj' hj (by simp [hid', hid]) ▸ hp,
    fun hp => ⟨job, hj, hid, hp⟩⟩

/-- After `UpdateJob(job)`, `GetJob` returns the row saved. -/
theorem getJob_updateJob {s : Store} (hk : Table.Keys s.jobs) (job : Job) :
    (s.updateJob job).getJob job.id = .ok job :=
  (Table.get_eq_ok (Table.keys_save hk job) _).mpr ⟨(Table.mem_save hk).mpr (.inl rfl), rfl⟩

end Store

end GpuScheduler
