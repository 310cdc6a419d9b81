import MishProxy.Machine.Pool

/-!
# The session count of a mesh ingress

`MeshSessionOwner` with one atomic operation a section: any number of admissions, lease drops and
revokes run at once, and an exchange may fail spuriously. A lease is the task that drops it.
`session_capacity`: the count is the number of leases and of admissions that still hold their
increment, and it stays within the capacity.
-/

namespace MishProxy.Mesh

open Machine List

def maxMeshSessions : Nat := 512

def counterValues : Nat := 2 ^ 64

structure MeshSessionOwner where
  accepting : Bool
  active : Nat
  capacityRejects : Nat

def MeshSessionOwner.productGeneration : MeshSessionOwner := ⟨true, 0, 0⟩

/-- The atomic operations: of `try_admit` in order, of `revoke`, and the drop of a lease. -/
inductive SessionTask where
  | checkOpen
  | loadActive
  | exchange (current : Nat)
  | loadRejects
  | exchangeRejects (observed : Nat)
  | checkStillOpen
  | rollBack
  | lease
  | revoke
  deriving DecidableEq

namespace SessionTask

/-- The head of the loop, with the count it has read. -/
def reserve (current : Nat) : SessionTask :=
  if maxMeshSessions ≤ current then .loadRejects else .exchange current

/-- `checked_add` of `fetch_update`. -/
def reject (observed : Nat) : List SessionTask :=
  if observed + 1 < counterValues then [.exchangeRejects observed] else []

/-- An admission that has incremented the count and has not returned. -/
def pending (task : SessionTask) : Bool := task = .checkStillOpen ∨ task = .rollBack

end SessionTask

inductive SessionCall where
  | tryAdmit
  | revoke
  deriving DecidableEq

/-- `fetch_sub(1)`, which wraps at zero. -/
def fetchSub (count : Nat) : Nat := if count = 0 then counterValues - 1 else count - 1

/-- One atomic operation; the answer of an exchange is whether it fails spuriously. -/
def MeshSessionOwner.proceed (owner : MeshSessionOwner) :
    SessionTask → Bool → MeshSessionOwner × List SessionTask
  | .checkOpen, _ => (owner, if owner.accepting then [.loadActive] else [])
  | .loadActive, _ => (owner, [.reserve owner.active])
  | .exchange current, spurious =>
    if owner.active = current ∧ spurious = false then
      ({ owner with active := current + 1 }, [.checkStillOpen])
    else (owner, [.reserve owner.active])
  | .loadRejects, _ => (owner, SessionTask.reject owner.capacityRejects)
  | .exchangeRejects observed, spurious =>
    if owner.capacityRejects = observed ∧ spurious = false then
      ({ owner with capacityRejects := observed + 1 }, [])
    else (owner, SessionTask.reject owner.capacityRejects)
  | .checkStillOpen, _ => (owner, [if owner.accepting then .lease else .rollBack])
  | .rollBack, _ => ({ owner with active := fetchSub owner.active }, [])
  | .lease, _ => ({ owner with active := fetchSub owner.active }, [])
  | .revoke, _ => ({ owner with accepting := false }, [])

def sessionProtocol : Protocol MeshSessionOwner SessionCall SessionTask Bool where
  first
    | .tryAdmit => .checkOpen
    | .revoke => .revoke
  proceed task answer owner := owner.proceed task answer

abbrev SessionPool := Pool MeshSessionOwner SessionTask

def runSessions (p : SessionPool) (actions : List (PoolAction SessionCall SessionTask Bool)) :
    SessionPool := run (Pool.step sessionProtocol) p actions

/-- The increments that have not been taken back. -/
def heldCount (tasks : List SessionTask) : Nat :=
  tasks.count .lease + tasks.countP SessionTask.pending

structure CountHeld (p : SessionPool) : Prop where
  active : p.shared.active = heldCount p.tasks
  capacity : p.shared.active ≤ maxMeshSessions
  exchange : ∀ current, .exchange current ∈ p.tasks → current < maxMeshSessions

section

variable {task : SessionTask} {tasks : List SessionTask}

theorem heldCount_append (first second : List SessionTask) :
    heldCount (first ++ second) = heldCount first + heldCount second := by
  simp only [heldCount, count_append, countP_append]
  omega

theorem heldCount_erase (h : task ∈ tasks) :
    heldCount tasks = heldCount [task] + heldCount (tasks.erase task) := by
  have hperm := perm_cons_erase h
  rw [← heldCount_append]
  unfold heldCount
  rw [hperm.count_eq, hperm.countP_eq]
  rfl

end

open MeshSessionOwner

theorem proceed_held {owner : MeshSessionOwner} {task} (hheld : heldCount [task] ≤ owner.active)
    (hcap : owner.active ≤ maxMeshSessions)
    (hexch : ∀ current, task = .exchange current → current < maxMeshSessions) (ans) :
    (owner.proceed task ans).1.active + heldCount [task] =
        owner.active + heldCount (owner.proceed task ans).2 ∧
      (owner.proceed task ans).1.active ≤ maxMeshSessions ∧
      ∀ current, .exchange current ∈ (owner.proceed task ans).2 → current < maxMeshSessions := by
  cases task with
  | checkOpen | checkStillOpen =>
    simp only [proceed]
    split_ifs
    · exact ⟨rfl, hcap, by simp⟩
    · exact ⟨rfl, hcap, by simp⟩
  | loadActive =>
    simp only [proceed, SessionTask.reserve]
    split_ifs with hfull
    · exact ⟨rfl, hcap, by simp⟩
    · exact ⟨rfl, hcap, by simpa using hfull⟩
  | exchange current =>
    have hlt := hexch current rfl
    simp only [proceed, SessionTask.reserve]
    split_ifs with hmatch hfull
    · exact ⟨hmatch.1 ▸ rfl, hlt, by simp⟩
    · exact ⟨rfl, hcap, by simp⟩
    · exact ⟨rfl, hcap, by simpa using hfull⟩
  | loadRejects | exchangeRejects observed =>
    simp only [proceed, SessionTask.reject]
    split_ifs
    all_goals exact ⟨rfl, hcap, by simp⟩
  | rollBack | lease =>
    have hpos : 1 ≤ owner.active := hheld
    simp only [proceed, fetchSub, if_neg (Nat.ne_of_gt hpos)]
    exact ⟨Nat.sub_add_cancel hpos, by omega, by simp⟩
  | revoke => exact ⟨rfl, hcap, by simp [proceed]⟩

variable {p : SessionPool}

theorem CountHeld.advance {task} (h : CountHeld p) (hmem : task ∈ p.tasks) (ans) :
    CountHeld (p.advance sessionProtocol task ans) := by
  have hheld := heldCount_erase hmem
  have hact := h.active
  obtain ⟨hcount, hcap, hexch⟩ := proceed_held (by omega) h.capacity
    (fun current heq => h.exchange current (heq ▸ hmem)) ans
  refine ⟨?_, hcap, fun current hcur => ?_⟩
  · show (p.shared.proceed task ans).1.active = heldCount ((p.shared.proceed task ans).2 ++ _)
    rw [heldCount_append]
    omega
  · rcases mem_append.mp hcur with hnew | hold
    · exact hexch current hnew
    · exact h.exchange current (mem_of_mem_erase hold)

theorem CountHeld.enter (h : CountHeld p) (call) : CountHeld (p.enter sessionProtocol call) := by
  refine ⟨?_, h.capacity, fun current hcur => ?_⟩
  · rw [Pool.enter, h.active]
    cases call <;> rfl
  · rcases mem_cons.mp hcur with heq | hold
    · cases call <;> cases heq
    · exact h.exchange current hold

theorem countHeld_run (actions) : CountHeld (runSessions (.init .productGeneration) actions) := by
  refine Pool.run_always (fun _ call h => h.enter call) (fun _ _ ans h hmem => h.advance hmem ans)
    ⟨rfl, Nat.zero_le _, ?_⟩ actions
  simp [Pool.init]

theorem revoked_run (h : p.shared.accepting = false) (actions) :
    (runSessions p actions).shared.accepting = false := by
  refine Pool.run_always (I := fun q : SessionPool => q.shared.accepting = false)
    (fun _ _ h => h) ?_ h actions
  intro q task ans hq _
  show (q.shared.proceed task ans).1.accepting = false
  cases task with
  | exchange | exchangeRejects =>
    simp only [proceed]
    split_ifs <;> exact hq
  | revoke => rfl
  | _ => exact hq

/-- The count is that of the leases and of the admissions that hold their increment, within the
capacity, and is positive whenever it is decremented. A final check behind a revoke only rolls the
increment back. -/
theorem session_capacity (actions : List (PoolAction SessionCall SessionTask Bool)) :
    let p := runSessions (.init .productGeneration) actions
    p.shared.active = p.tasks.count .lease + p.tasks.countP SessionTask.pending ∧
    p.shared.active ≤ maxMeshSessions ∧
    (∀ task ∈ p.tasks, task = .lease ∨ task = .rollBack → ∀ ans,
      p.advance sessionProtocol task ans =
          ⟨{ p.shared with active := p.shared.active - 1 }, p.tasks.erase task⟩ ∧
        0 < p.shared.active) ∧
    ∀ more, let q := runSessions (p.advance sessionProtocol .revoke false) more
      ∀ ans, q.advance sessionProtocol .checkStillOpen ans =
        ⟨q.shared, .rollBack :: q.tasks.erase .checkStillOpen⟩ := by
  intro p
  have h := countHeld_run actions
  refine ⟨h.active, h.capacity, fun task hmem htask ans => ?_, fun more => ?_⟩
  · have hheld := heldCount_erase hmem
    have hpos : 0 < p.shared.active := by
      have hone : heldCount [task] = 1 := by rcases htask with rfl | rfl <;> rfl
      rw [show p.shared.active = heldCount p.tasks from h.active]
      omega
    refine ⟨?_, hpos⟩
    have hsub : fetchSub p.shared.active = p.shared.active - 1 := if_neg (Nat.ne_of_gt hpos)
    rw [← hsub]
    rcases htask with rfl | rfl <;> rfl
  · intro q ans
    have hrev : q.shared.accepting = false := revoked_run rfl more
    simp [Pool.advance, sessionProtocol, proceed, hrev]

end MishProxy.Mesh
