import MishProxy.Mesh.Composition
import MishProxy.Probing.Fresh

/-!
# What Mesh believes about readiness

A readiness call projects under the lock of the readiness runtime and pushes the result to
the Mesh composition after it has released that lock. Two calls may push in the opposite
order of their projections, and then Mesh keeps the older result (`mesh_believes_withdrawn`).

`mesh_believes_projected` says when this cannot happen: no call pushes behind the push of a
later projection. To say so the projections that are published carry numbers, which no section
of the source has. The other way to leave Mesh behind is an update that starts with one
freshness marker left: it projects, fails to allocate the marker of its ticket and returns
before it pushes anything.
-/

namespace MishProxy.Probing

open Machine ReadinessRuntime

/-- The replies after which a call goes on to publish the projected readiness. -/
def ReadinessReply.publishes : ReadinessReply → Bool
  | .changed _ | .completed _ | .closed => true
  | _ => false

def ReadinessRuntime.ready (s : ReadinessRuntime) : Bool := s.projected = .ready

structure PublishedReadiness where
  runtime : ReadinessRuntime
  mesh : Mesh.MeshCompositionState
  /-- How many projections were to be published; the number of the last one. -/
  projections : Nat
  /-- The number of the projection that was pushed last. -/
  pushed : Nat

/-- What a readiness call does next: a section of the runtime, or the push to Mesh. -/
inductive ReadinessTask where
  | perform (action : ReadinessAction)
  | publish (number : Nat) (ready : Bool)
  deriving DecidableEq

namespace PublishedReadiness

def new (generation : RuntimeGeneration) : PublishedReadiness := ⟨.new generation, .new, 0, 0⟩

/-- The pushed result is the one that was projected in the section before. -/
def proceed (task : ReadinessTask) (s : PublishedReadiness) :
    PublishedReadiness × List ReadinessTask :=
  match task with
  | .perform action =>
    let (reply, runtime) := s.runtime.step action
    if reply.publishes then
      ({ s with runtime, projections := s.projections + 1 },
        [.publish (s.projections + 1) runtime.ready])
    else ({ s with runtime }, [])
  | .publish number ready =>
    ({ s with mesh := s.mesh.setReadinessReady ready, pushed := number }, [])

/-- The last projection is the one that Mesh has heard of. -/
def Believed (s : PublishedReadiness) : Prop :=
  s.pushed = s.projections ∧ s.mesh.readinessReady = s.runtime.ready

end PublishedReadiness

def readinessProtocol : Protocol PublishedReadiness ReadinessAction ReadinessTask Unit where
  first := .perform
  proceed task _ := PublishedReadiness.proceed task

abbrev ReadinessPool : Type := Pool PublishedReadiness ReadinessTask

abbrev ReadinessCallAction : Type := PoolAction ReadinessAction ReadinessTask Unit

def runPublished (generation : RuntimeGeneration) (actions : List ReadinessCallAction) :
    ReadinessPool :=
  run (Pool.step readinessProtocol) (.init (.new generation)) actions

/-- No push is made behind the push of a later projection, and no update starts with exactly
one freshness marker left. -/
def PushesInOrder (p : ReadinessPool) : ReadinessCallAction → Prop
  | .advance (.perform (.update _)) _ => p.shared.runtime.probe.lastFreshness + 1 ≠ maxFreshness
  | .advance (.publish number _) _ => p.shared.pushed ≤ number
  | _ => True

instance (p : ReadinessPool) : ∀ action, Decidable (PushesInOrder p action)
  | .advance (.perform (.update _)) _ => inferInstanceAs (Decidable (_ ≠ _))
  | .advance (.publish _ _) _ => inferInstanceAs (Decidable (_ ≤ _))
  | .advance (.perform (.spawnProbe _)) _ | .advance (.perform (.completeProbe _ _ _)) _
  | .advance (.perform (.fireRefresh _)) _ | .advance (.perform .shutdown) _ | .call _ =>
    .isTrue trivial

/-- With more than one marker left, or with none, an update publishes what it projects. -/
theorem reproject_quiet {s : ReadinessRuntime} (hquiet : s.reproject.1.publishes = false)
    (hmarkers : s.probe.lastFreshness + 1 ≠ maxFreshness) :
    s.reproject.2.projected = s.projected := by
  revert hquiet
  unfold reproject
  simp only [EgressProbeCoordinator.invalidate_eq]
  split_ifs with hleft
  · refine fun hquiet => absurd hquiet (Bool.ne_false_iff.mpr ?_)
    show s.cleared.offerTicket.1.publishes = true
    unfold offerTicket
    split
    · split_ifs
      · have hnext : s.cleared.probe.lastFreshness < maxFreshness :=
          Nat.lt_of_le_of_ne hleft hmarkers
        simp only [issue, EgressProbeCoordinator.begin_eq, if_pos hnext]
        rfl
      · rfl
    · rfl
  · exact fun _ => rfl

/-- The projected readiness changes only in the steps that publish it. -/
theorem projected_kept {s : ReadinessRuntime} {act : ReadinessAction}
    (hmarkers : ∀ update, act = .update update → s.probe.lastFreshness + 1 ≠ maxFreshness)
    (hquiet : (s.step act).1.publishes = false) : (s.step act).2.projected = s.projected := by
  cases act with
  | update update =>
    have hstep : s.step (.update update) = s.observe update := rfl
    rw [hstep] at hquiet ⊢
    rcases s.observe_cases update with ⟨error, hreject⟩ | ⟨after, _, ⟨_, hsame⟩ | hchg⟩
    · rw [hreject]
    · rw [hsame]
    · rw [hchg] at hquiet ⊢
      exact reproject_quiet hquiet (hmarkers update rfl)
  | spawnProbe ticket =>
    simp only [step, spawnProbe]
    split_ifs <;> rfl
  | completeProbe ticket out elapsed =>
    simp only [step, completeProbe] at hquiet ⊢
    split_ifs at hquiet ⊢
    · rfl
    · split at hquiet
      · rfl
      · split_ifs at hquiet <;> cases hquiet
  | fireRefresh timer =>
    simp only [step, fireRefresh]
    split_ifs
    · rfl
    · split
      · rfl
      · rename_i ticket next hissue
        obtain ⟨_, _, rfl⟩ := issue_eq_ok hissue
        rfl
    · rfl
    · rfl
  | shutdown =>
    simp only [step, shutdown] at hquiet ⊢
    split_ifs at hquiet ⊢
    · rfl
    · cases hquiet

/-- Mesh believes the last projection, or a call in progress is about to push it; and no call
has a later projection to push, or another result of the last one. -/
structure BeliefSettled (p : ReadinessPool) : Prop where
  settled : Pool.Settled PublishedReadiness.Believed
    (fun s task => task = .publish s.projections s.runtime.ready) p
  numbered : ∀ number ready, .publish number ready ∈ p.tasks → number ≤ p.shared.projections ∧
    (number = p.shared.projections → ready = p.shared.runtime.ready)

namespace BeliefSettled

variable {p : ReadinessPool}

theorem enter (h : BeliefSettled p) (call : ReadinessAction) :
    BeliefSettled (p.enter readinessProtocol call) := by
  refine ⟨h.settled.enter call, fun number ready hmem => ?_⟩
  rcases List.mem_cons.mp hmem with heq | hmem
  · cases heq
  · exact h.numbered number ready hmem

/-- The new projection has the highest number and is still to be pushed. -/
theorem perform_publishing (h : BeliefSettled p) {act}
    (hpubs : (p.shared.runtime.step act).1.publishes = true) :
    BeliefSettled (p.advance readinessProtocol (.perform act) ()) := by
  have hproceed : readinessProtocol.proceed (.perform act) () p.shared =
      ({ p.shared with
          runtime := (p.shared.runtime.step act).2
          projections := p.shared.projections + 1 },
        [.publish (p.shared.projections + 1) (p.shared.runtime.step act).2.ready]) := if_pos hpubs
  unfold Pool.advance
  rw [hproceed]
  refine ⟨.inr ⟨_, .head _, rfl⟩, fun number ready hmem => ?_⟩
  rcases List.mem_cons.mp hmem with heq | hmem
  · cases heq
    exact ⟨Nat.le_refl _, fun _ => rfl⟩
  · have hle := (h.numbered number ready (List.mem_of_mem_erase hmem)).1
    exact ⟨Nat.le_succ_of_le hle, fun heq => absurd heq (Nat.ne_of_lt (Nat.lt_succ_of_le hle))⟩

theorem perform_quiet (h : BeliefSettled p) {act}
    (hquiet : (p.shared.runtime.step act).1.publishes = false)
    (hready : (p.shared.runtime.step act).2.ready = p.shared.runtime.ready) :
    BeliefSettled (p.advance readinessProtocol (.perform act) ()) := by
  have hproceed : readinessProtocol.proceed (.perform act) () p.shared =
      ({ p.shared with runtime := (p.shared.runtime.step act).2 }, []) :=
    if_neg (Bool.eq_false_iff.mp hquiet)
  unfold Pool.advance
  rw [hproceed]
  constructor
  · rcases h.settled with ⟨hnumber, hbelieved⟩ | ⟨task, hmem, rfl⟩
    · exact .inl ⟨hnumber, hbelieved.trans hready.symm⟩
    · refine .inr ⟨_, (List.mem_erase_of_ne (by simp)).mpr hmem, ?_⟩
      exact congrArg _ hready.symm
  · intro number ready hmem
    show _ ∧ (_ → ready = (p.shared.runtime.step act).2.ready)
    rw [hready]
    exact h.numbered number ready (List.mem_of_mem_erase hmem)

/-- A push in order is the push of the last projection, or leaves that one to be pushed. -/
theorem publish (h : BeliefSettled p) {number ready} (hmem : .publish number ready ∈ p.tasks)
    (horder : p.shared.pushed ≤ number) :
    BeliefSettled (p.advance readinessProtocol (.publish number ready) ()) := by
  refine ⟨?_, fun other result hmem => h.numbered other result (List.mem_of_mem_erase hmem)⟩
  obtain ⟨hle, hlast⟩ := h.numbered number ready hmem
  by_cases heq : number = p.shared.projections
  · exact .inl ⟨heq, hlast heq⟩
  · rcases h.settled with ⟨hpushed, _⟩ | ⟨task, htask, rfl⟩
    · omega
    · refine .inr ⟨_, (List.mem_erase_of_ne ?_).mpr htask, rfl⟩
      intro hsame
      cases hsame
      exact heq rfl

theorem advance (h : BeliefSettled p) {task} (hmem : task ∈ p.tasks)
    (hguard : PushesInOrder p (.advance task ())) :
    BeliefSettled (p.advance readinessProtocol task ()) := by
  cases task with
  | perform act =>
    cases hpubs : (p.shared.runtime.step act).1.publishes with
    | true => exact h.perform_publishing hpubs
    | false =>
      have hkept : (p.shared.runtime.step act).2.projected = p.shared.runtime.projected := by
        refine projected_kept (fun update heq => ?_) hpubs
        subst heq
        exact hguard
      exact h.perform_quiet hpubs (by rw [ReadinessRuntime.ready, hkept, ReadinessRuntime.ready])
  | publish number ready => exact h.publish hmem hguard

end BeliefSettled

/-- Between readiness calls, the flag of Mesh is up exactly when the projected readiness is
Ready, when the results are pushed in the order of their projections. -/
theorem mesh_believes_projected (generation : RuntimeGeneration)
    (actions : List ReadinessCallAction)
    (horder : Along (Pool.step readinessProtocol) PushesInOrder (.init (.new generation)) actions)
    (hidle : (runPublished generation actions).tasks = []) :
    (runPublished generation actions).shared.mesh.readinessReady = true ↔
      (runPublished generation actions).shared.runtime.projected = .ready := by
  have hnew : BeliefSettled (.init (.new generation)) :=
    ⟨.inl ⟨rfl, rfl⟩, fun _ _ hmem => by cases hmem⟩
  have hsettled : BeliefSettled (runPublished generation actions) :=
    Pool.run_keeps (I := BeliefSettled) (fun _ call h => h.enter call)
      (fun _ _ _ h hmem hguard => h.advance hmem hguard) hnew horder
  rw [(hsettled.settled.good hidle).2]
  exact decide_eq_true_iff

/-- A call that runs to its end without a publication. -/
def quietCall (action : ReadinessAction) : List ReadinessCallAction :=
  [.call action, .advance (.perform action) ()]

def publishingCall (action : ReadinessAction) (number : Nat) (ready : Bool) :
    List ReadinessCallAction :=
  quietCall action ++ [.advance (.publish number ready) ()]

/-- All owners report, and a probe is started. -/
def startedProbe : List ReadinessCallAction :=
  publishingCall (.update (.cellular
      ⟨⟨.admitted, none, some Cellular.sampleHandle, some sampleSequence⟩, .enforced⟩)) 1 false ++
    publishingCall (.update (.mesh ⟨.admitted, some 41⟩)) 2 false ++
    publishingCall (.update (.proxyStarted 31 51 "user".toList "secret".toList)) 3 false ++
    quietCall (.spawnProbe sampleTicket)

def completedProbe : List ReadinessCallAction :=
  startedProbe ++ quietCall (.completeProbe sampleTicket .succeeded 1000000000)

def publishedProbe : List ReadinessCallAction :=
  completedProbe ++ [.advance (.publish 4 true) ()]

theorem mesh_believes_projected_probe :
    (runPublished sampleGeneration publishedProbe).shared.runtime.projected = .ready ∧
      (runPublished sampleGeneration publishedProbe).shared.mesh.readinessReady = true := by
  have hready : (runPublished sampleGeneration publishedProbe).shared.runtime.projected =
      .ready := by
    decide +kernel
  refine ⟨hready, ?_⟩
  exact (mesh_believes_projected sampleGeneration publishedProbe (by decide +kernel)
    (by decide +kernel)).mpr hready

/-- The network is lost after the completion has projected and before it has pushed. -/
def overtakenProbe : List ReadinessCallAction :=
  completedProbe ++
    publishingCall (.update (.cellularAdmission
      ⟨.notAdmitted, some .networkLost, none, some ⟨12, by decide⟩⟩)) 5 false ++
    [.advance (.publish 4 true) ()]

/-- No readiness call is in progress any more, Mesh believes Ready, and readiness is
withdrawn. -/
theorem mesh_believes_withdrawn :
    (runPublished sampleGeneration overtakenProbe).tasks = [] ∧
      (runPublished sampleGeneration overtakenProbe).shared.mesh.readinessReady = true ∧
      (runPublished sampleGeneration overtakenProbe).shared.runtime.projected = .notReady := by
  decide +kernel

end MishProxy.Probing
