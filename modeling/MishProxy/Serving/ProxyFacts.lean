import MishProxy.Serving.ProxyCoordinator

/-!
# The facts about the proxy follow its owner

Between calls the installed proxy should be the current one, and a healthy proxy fact should
name the generation that is served. Two things can prevent it. A start checks once that its
generation is still served and then installs and observes it, and a terminal failure or a stop
may fall between the check and the two publications (`facts_outlive_terminal_failure`). And a
failed start forgets the served generation without withdrawing the facts about it.

`proxy_facts_agree` says that nothing else can: when every publication is made while its
generation is served, or while a call in progress has yet to withdraw it, and a failure is
published while nothing is served, the facts agree with the owner between calls.
-/

namespace MishProxy.Serving

open Machine Mesh Probing ProxySystem Pool.Settled List Bool ProxyCoordinatorState

/-! ## What readiness does with the observations -/

section

variable (readiness : ReadinessRuntime)

/-- The serving generation of a healthy proxy fact. -/
def healthyGeneration : Option Nat :=
  readiness.facts.proxy.bind fun proxy =>
    if proxy.healthy then proxy.servingGeneration.map GenerationKey.raw else none

theorem healthyGeneration_mesh (adm) :
    healthyGeneration (readiness.observe (.mesh adm)).2 = healthyGeneration readiness := by
  unfold healthyGeneration
  rcases readiness.observe_facts (.mesh adm) with hsame | ⟨after, hresv, hafter⟩
  · rw [hsame]
  · obtain ⟨epoch, -, hfacts⟩ := ReadinessRuntime.exists_of_bind_eq_ok hresv
    cases hfacts
    rw [hafter]

/-- A start that readiness refuses leaves the fact as it was. -/
theorem healthyGeneration_started (gen version username password) :
    let observed := readiness.observe (.proxyStarted gen version username password)
    accepted observed.1 = false ∧ healthyGeneration observed.2 = healthyGeneration readiness ∨
      healthyGeneration observed.2 = some gen := by
  intro observed
  have hresolved : ∀ after, FactUpdate.resolve readiness.facts readiness.credentials
      (.proxyStarted gen version username password) = .ok after →
      observed.2.facts = after.facts → healthyGeneration observed.2 = some gen := by
    intro after hresv hafter
    obtain ⟨key, -, hrest⟩ := ReadinessRuntime.exists_of_bind_eq_ok hresv
    obtain ⟨served, hserv, hfacts⟩ := ReadinessRuntime.exists_of_bind_eq_ok hrest
    cases hfacts
    unfold healthyGeneration
    rw [hafter]
    exact congrArg some (ReadinessRuntime.ownerKey_raw hserv)
  rcases readiness.observe_cases (.proxyStarted gen version username password) with
    ⟨error, hreject⟩ | ⟨after, hresv, ⟨-, hsame⟩ | hchg⟩
  · refine .inl ?_
    rw [show observed = _ from hreject]
    exact ⟨rfl, rfl⟩
  · exact .inr (hresolved after hresv (congrArg (fun res => res.2.facts) hsame))
  · refine .inr (hresolved after hresv ?_)
    rw [show observed = _ from hchg]
    exact (ReadinessRuntime.reproject_kept _).1

theorem healthyGeneration_stopped (hopen : readiness.closed = false) :
    healthyGeneration (readiness.observe .proxyStopped).2 = none := by
  unfold healthyGeneration
  rw [ReadinessRuntime.observe_facts_of_resolve hopen rfl]
  cases readiness.facts.proxy <;> rfl

end

/-! ## What a section does to the owner -/

/-- The owner has the same proxy and the same generation, and no new failure. -/
structure OwnerKept (s s' : ProxySystem) : Prop where
  closed : s'.coordinator.closed = s.coordinator.closed
  current : s'.coordinator.current = s.coordinator.current
  served : s'.coordinator.servingGeneration = s.coordinator.servingGeneration
  failure : s.coordinator.failure = none → s'.coordinator.failure = none

theorem OwnerKept.refl (s) : OwnerKept s s := ⟨rfl, rfl, rfl, id⟩

/-- A section keeps the owner, or it begins to serve a generation and will check that it is
still current, or it leaves a withdrawal to be made. -/
inductive OwnerMove (s s' : ProxySystem) (left : List ProxyTask) : Prop where
  | kept (h : OwnerKept s s')
  | serving (runtime : ProxyServingRuntime) (generation version : Nat)
      (hleft : .stillCurrent runtime generation version ∈ left) (h : s'.Serves runtime generation)
      (hopen : s'.coordinator.closed = false)
  | withdrawing (withdrawal : Withdrawal) (hleft : .observeProxyStopped withdrawal ∈ left)
      (hnone : s'.coordinator.servingGeneration = none)

/-- Nothing is published about the proxy. -/
structure Quiet (s s' : ProxySystem) (left : List ProxyTask) : Prop where
  owner : OwnerMove s s' left
  mesh : s'.mesh = s.mesh
  readiness : s'.readiness = s.readiness

variable {s : ProxySystem} {answers : ProxyAnswers}

theorem Quiet.refl (s left) : Quiet s s left := ⟨.kept (.refl s), rfl, rfl⟩

theorem fail_servingGeneration (failure : ProxyServingFailure) (s : ProxyCoordinatorState) :
    (s.fail failure).servingGeneration = none := by
  unfold fail scheduleRecovery
  split_ifs <;> rfl

theorem start_quiet (input) : Quiet s (s.start input).1 (s.start input).2 := by
  unfold start
  split
  · exact .refl s _
  · split_ifs
    · exact .refl s _
    · exact ⟨.kept ⟨rfl, rfl, rfl, fun _ => rfl⟩, rfl, rfl⟩

theorem recover_quiet (epoch : Nat) : Quiet s (s.recover epoch).1 (s.recover epoch).2 := by
  unfold recover
  dsimp only
  split_ifs
  · exact ⟨.kept ⟨rfl, rfl, rfl, id⟩, rfl, rfl⟩
  · split
    · exact ⟨.kept ⟨rfl, rfl, rfl, fun _ => rfl⟩, rfl, rfl⟩
    · exact ⟨.kept ⟨rfl, rfl, rfl, id⟩, rfl, rfl⟩
  · exact .refl s _

theorem onTerminalFailure_quiet (gen failure) : Quiet s (s.onTerminalFailure gen failure).1
      (s.onTerminalFailure gen failure).2 := by
  unfold onTerminalFailure
  split_ifs
  · exact .refl s _
  · exact ⟨.withdrawing .terminalFailure (mem_singleton.mpr rfl) (fail_servingGeneration _ _),
      rfl, rfl⟩

theorem proceedCall_quiet (call) : Quiet s (s.proceedCall call).1 (s.proceedCall call).2 := by
  cases call with
  | start input => exact start_quiet input
  | recover epoch => exact recover_quiet epoch
  | terminalFailure gen failure => exact onTerminalFailure_quiet gen failure
  | stop close =>
    exact ⟨.withdrawing (.stop s.coordinator.current true) (mem_singleton.mpr rfl) rfl, rfl, rfl⟩

theorem finishStarted_quiet (rt version) :
    Quiet s (s.finishStarted rt version).1 (s.finishStarted rt version).2 := by
  unfold finishStarted
  split_ifs with hclos
  · exact .refl s _
  · exact .refl s _
  · exact ⟨.serving rt s.coordinator.nextServingGeneration version
      (mem_singleton.mpr rfl) ⟨rfl, rfl, rfl⟩ (not_eq_true _ ▸ hclos), rfl, rfl⟩

theorem publishRunning_quiet (gen : Nat) :
    Quiet s (s.publishRunning gen).1 (s.publishRunning gen).2 := by
  unfold publishRunning
  split_ifs
  · exact .refl s _
  · exact ⟨.kept ⟨rfl, rfl, rfl, fun _ => rfl⟩, rfl, rfl⟩

theorem spawnRecovery_quiet : Quiet s (s.spawnRecovery answers).1 (s.spawnRecovery answers).2 := by
  unfold spawnRecovery
  split_ifs
  · exact .refl s _
  · exact ⟨.kept ⟨rfl, rfl, rfl, id⟩, rfl, rfl⟩

/-- The sections that change the installed proxy or the facts of readiness. -/
def ProxyTask.publishes : ProxyTask → Bool
  | .installProxy _ _ _ | .clearProxy _ | .observeInstalled _ _ _ | .observeCleared _ _
  | .observeProxyStarted _ _ _ | .observeProxyStopped _ => true
  | _ => false

/-- The sections that report a failure of the owner leave the facts to others. -/
def ProxyTask.reportsFailure : ProxyTask → Bool
  | .publishStartFailure _ | .publishStopFailure => true
  | _ => false

theorem proceed_quiet {task} (hpubs : task.publishes = false)
    (hrpts : task.reportsFailure = false) :
    Quiet s (s.proceed task answers).1 (s.proceed task answers).2 := by
  cases task with
  | call call => exact proceedCall_quiet call
  | finishStarted rt version => exact finishStarted_quiet rt version
  | publishRunning gen => exact publishRunning_quiet gen
  | spawnRecovery => exact spawnRecovery_quiet
  | startCandidate version =>
    unfold proceed
    dsimp only
    split <;> exact .refl s _
  | stillCurrent rt gen version =>
    unfold proceed
    dsimp only
    split_ifs <;> exact .refl s _
  | readCredentials gen version =>
    unfold proceed readCredentials
    dsimp only
    split <;> exact .refl s _
  | stopRuntime rt clean =>
    unfold proceed stopRuntime
    dsimp only
    split_ifs <;> exact .refl s _
  | publishStartFailure | publishStopFailure => cases hrpts
  | installProxy | clearProxy | observeInstalled | observeCleared | observeProxyStarted
  | observeProxyStopped => cases hpubs

/-- The closed coordinator serves nothing, and readiness is open. -/
structure Steady (s : ProxySystem) : Prop where
  unserved : s.coordinator.closed = true → s.coordinator.servingGeneration = none
  opened : s.readiness.closed = false

theorem Steady.of_quiet {s' left} (h : Steady s) (hquiet : Quiet s s' left) : Steady s' where
  unserved := by
    intro hclos
    cases hquiet.owner with
    | kept hkept => rw [hkept.served, h.unserved (hkept.closed ▸ hclos)]
    | serving _ _ _ _ _ hopen => cases hopen.symm.trans hclos
    | withdrawing _ _ hnone => exact hnone
  opened := hquiet.readiness ▸ h.opened

/-- What a section that reports a failure does: it serves no generation afterwards, unless it
leaves the served one. -/
theorem reportsFailure_cases (s : ProxySystem) (answers : ProxyAnswers) {task}
    (h : task.reportsFailure = true) : (s.proceed task answers).1.mesh = s.mesh ∧
      (s.proceed task answers).1.readiness = s.readiness ∧
      ((s.proceed task answers).1.coordinator.servingGeneration = none ∨
        (s.proceed task answers).1.coordinator.servingGeneration =
          s.coordinator.servingGeneration) ∧
      (s.proceed task answers).1.coordinator.closed = s.coordinator.closed := by
  cases task with
  | publishStartFailure failure =>
    unfold proceed publishStartFailure
    dsimp only
    split_ifs
    · exact ⟨rfl, rfl, .inr rfl, rfl⟩
    · refine ⟨rfl, rfl, .inl (fail_servingGeneration _ _), ?_⟩
      unfold fail scheduleRecovery
      split_ifs <;> rfl
  | publishStopFailure => exact ⟨rfl, rfl, .inr rfl, rfl⟩
  | _ => cases h

theorem Steady.proceed (h : Steady s) (task) : Steady (s.proceed task answers).1 := by
  by_cases hrpts : task.reportsFailure = true
  · obtain ⟨-, hreadiness, hserv, hclos⟩ := reportsFailure_cases s answers hrpts
    refine ⟨fun hclosed' => ?_, hreadiness ▸ h.opened⟩
    rcases hserv with hnone | hsame
    · exact hnone
    · exact hsame.trans (h.unserved (hclos ▸ hclosed'))
  · by_cases hpubs : task.publishes = true
    · cases task with
      | installProxy | clearProxy => exact ⟨h.unserved, h.opened⟩
      | observeInstalled | observeCleared | observeProxyStarted | observeProxyStopped =>
        exact ⟨h.unserved, (ReadinessRuntime.observe_closed _ _).trans h.opened⟩
      | _ => cases hpubs
    · exact h.of_quiet (proceed_quiet (not_eq_true _ ▸ hpubs) (not_eq_true _ ▸ hrpts))

/-! ## A published fact and the calls that put it right -/

def ProxySystem.Owns (runtime : ProxyServingRuntime) (generation : Nat) (s : ProxySystem) : Prop :=
  s.coordinator.servingGeneration = some generation ∧ s.coordinator.current = some runtime

instance (runtime : ProxyServingRuntime) (generation : Nat) (s : ProxySystem) :
    Decidable (s.Owns runtime generation) :=
  inferInstanceAs (Decidable (_ ∧ _))

/-- A fact about the proxy that others keep: its value, what the owner must have for it to be
right, and the tasks that have yet to put it right. -/
structure PublishedFact (α : Type) where
  value : ProxySystem → Option α
  owned : ProxySystem → α → Prop
  repairs : ProxySystem → ProxyTask → Prop
  value_eq : ∀ {s s'}, s'.mesh = s.mesh → s'.readiness = s.readiness → value s' = value s
  owned_kept : ∀ {s s' a}, OwnerKept s s' → owned s a → owned s' a
  owned_served : ∀ {s a}, owned s a → s.coordinator.servingGeneration ≠ none
  repairs_kept : ∀ {s s' task}, OwnerKept s s' → repairs s task → repairs s' task
  /-- Without a served generation only a withdrawal puts a fact right. -/
  repairs_unserved : ∀ {s s' task}, s.coordinator.servingGeneration = none → repairs s task →
    repairs s' task
  repairs_quiet : ∀ {s task}, repairs s task → task.reportsFailure = false
  repairs_stopped : ∀ s withdrawal, repairs s (.observeProxyStopped withdrawal)
  repairs_stillCurrent : ∀ {s runtime generation} version, s.Serves runtime generation →
    repairs s (.stillCurrent runtime generation version)
  repairs_installProxy : ∀ {s runtime generation} version, s.Owns runtime generation →
    repairs s (.installProxy runtime generation version)

namespace PublishedFact

variable {α : Type} (F : PublishedFact α)

def Agrees (s : ProxySystem) : Prop := ∀ a, F.value s = some a → F.owned s a

abbrev Settled (p : ProxyPool) : Prop := Pool.Settled F.Agrees F.repairs p

variable {F} {p : ProxyPool} {task : ProxyTask}

theorem Agrees.of_kept {s'} (h : F.Agrees s) (hkept : OwnerKept s s')
    (hvalue : F.value s' = F.value s) : F.Agrees s' :=
  fun a ha => F.owned_kept hkept (h a (hvalue ▸ ha))

theorem Settled.of_left (other) (hleft : (p.shared.proceed task answers).2 = [other])
    (hrep : F.repairs (p.shared.proceed task answers).1 other) :
    F.Settled (p.advance proxyProtocol task answers) :=
  of_task (.inl (hleft ▸ mem_singleton.mpr rfl)) hrep

theorem Settled.keep (h : F.Settled p)
    (hkept : OwnerKept p.shared (p.shared.proceed task answers).1)
    (hvalue : F.value (p.shared.proceed task answers).1 = F.value p.shared)
    (hown : F.repairs p.shared task → F.Settled (p.advance proxyProtocol task answers)) :
    F.Settled (p.advance proxyProtocol task answers) := by
  refine advance h ?_ ?_
  · rintro (hagrees | hrep)
    · exact .inl (hagrees.of_kept hkept hvalue)
    · exact hown hrep
  · intro other hmem hrep
    exact of_task (.inr hmem) (F.repairs_kept hkept hrep)

theorem Settled.quiet (h : F.Settled p) (hpubs : task.publishes = false)
    (hrpts : task.reportsFailure = false)
    (hown : F.repairs p.shared task → F.Settled (p.advance proxyProtocol task answers)) :
    F.Settled (p.advance proxyProtocol task answers) := by
  have hquiet : Quiet p.shared (p.shared.proceed task answers).1
    (p.shared.proceed task answers).2 := proceed_quiet hpubs hrpts
  cases hquiet.owner with
  | kept hkept => exact h.keep hkept (F.value_eq hquiet.mesh hquiet.readiness) hown
  | serving rt gen version hleft hserves _ =>
    exact of_task (.inl hleft) (F.repairs_stillCurrent version hserves)
  | withdrawing withdrawal hleft _ => exact of_task (.inl hleft) (F.repairs_stopped _ withdrawal)

/-- A start that finds its generation current goes on to install it. -/
theorem Settled.stillCurrent (h : F.Settled p) (rt gen version)
    (hserves : F.repairs p.shared (.stillCurrent rt gen version) → p.shared.Serves rt gen) :
    F.Settled (p.advance proxyProtocol (.stillCurrent rt gen version) answers) := by
  refine h.quiet rfl rfl fun hrep => ?_
  have howner := hserves hrep
  have hproceed : p.shared.proceed (.stillCurrent rt gen version) answers =
      (p.shared, [.installProxy rt gen version]) := if_pos howner
  refine Settled.of_left _ (congrArg Prod.snd hproceed) ?_
  rw [hproceed]
  exact F.repairs_installProxy version ⟨howner.1, howner.2.1⟩

/-- A failure that is reported while nothing is served concerns no fact that is right. -/
theorem Settled.report (h : F.Settled p) (hrpts : task.reportsFailure = true)
    (hnone : p.shared.coordinator.servingGeneration = none) :
    F.Settled (p.advance proxyProtocol task answers) := by
  obtain ⟨hmesh, hreadiness, -⟩ := reportsFailure_cases p.shared answers hrpts
  refine advance h ?_ ?_
  · rintro (hagrees | hrep)
    · refine .inl fun a ha => absurd hnone (F.owned_served (hagrees a ?_))
      exact (F.value_eq hmesh hreadiness).symm.trans ha
    · cases (F.repairs_quiet hrep).symm.trans hrpts
  · intro other hmem hrep
    exact of_task (.inr hmem) (F.repairs_unserved hnone hrep)

end PublishedFact

theorem OwnerKept.serves {s'} (h : OwnerKept s s') {rt gen} (hserves : s.Serves rt gen) :
    s'.Serves rt gen :=
  ⟨h.served.trans hserves.1, h.current.trans hserves.2.1, h.failure hserves.2.2⟩

theorem not_serves_of_unserved (h : s.coordinator.servingGeneration = none)
    {rt gen} : ¬ s.Serves rt gen := by
  rintro ⟨hserv, -⟩
  cases h.symm.trans hserv

/-- A proxy is put right by its clearing, and by an install that is made while it is the current
one. -/
def repairsInstalled (s : ProxySystem) : ProxyTask → Prop
  | .observeProxyStopped _ | .clearProxy _ => True
  | .stillCurrent runtime generation _ => s.Serves runtime generation
  | .installProxy runtime generation _ => s.Owns runtime generation
  | _ => False

/-- The installed proxy of the Mesh composition, which has to be the current one. -/
def installedProxy : PublishedFact ProxyServingRuntime where
  value s := s.mesh.proxy
  value_eq hmesh _ := congrArg MeshCompositionState.proxy hmesh
  owned s runtime := s.coordinator.current = some runtime ∧ s.coordinator.servingGeneration ≠ none
  repairs := repairsInstalled
  owned_kept hkept howned := by
    rw [hkept.current, hkept.served]
    exact howned
  owned_served howned := howned.2
  repairs_kept := by
    intro s s' task hkept hrepairs
    cases task with
    | observeProxyStopped | clearProxy => trivial
    | stillCurrent => exact hkept.serves hrepairs
    | installProxy => exact ⟨hkept.served.trans hrepairs.1, hkept.current.trans hrepairs.2⟩
    | _ => exact hrepairs.elim
  repairs_unserved := by
    intro s s' task hnone hrepairs
    cases task with
    | observeProxyStopped | clearProxy => trivial
    | stillCurrent => exact absurd hrepairs (not_serves_of_unserved hnone)
    | installProxy => cases hnone.symm.trans hrepairs.1
    | _ => exact hrepairs.elim
  repairs_quiet := by
    intro s task hrepairs
    cases task with
    | publishStartFailure | publishStopFailure => exact hrepairs.elim
    | _ => rfl
  repairs_stopped _ _ := trivial
  repairs_stillCurrent _ hserves := hserves
  repairs_installProxy _ howns := howns

/-- A proxy fact is put right by its withdrawal, and by a start that is on its way to observe the
served generation, or to give it up. -/
def repairsHealthy (s : ProxySystem) : ProxyTask → Prop
  | .observeProxyStopped _ => True
  | .stillCurrent runtime generation _ => s.Serves runtime generation
  | .installProxy _ generation _ | .observeInstalled generation _ _ | .readCredentials generation _
  | .observeProxyStarted generation _ _ | .call (.terminalFailure generation _) =>
    s.coordinator.servingGeneration = some generation
  | _ => False

/-- The healthy proxy fact of readiness, which has to name the served generation. -/
def healthyFact : PublishedFact Nat where
  value s := healthyGeneration s.readiness
  value_eq _ hreadiness := congrArg healthyGeneration hreadiness
  owned s generation := s.coordinator.servingGeneration = some generation
  repairs := repairsHealthy
  owned_kept hkept howned := hkept.served.trans howned
  owned_served howned hnone := by cases hnone.symm.trans howned
  repairs_kept := by
    intro s s' task hkept hrepairs
    cases task with
    | observeProxyStopped => trivial
    | stillCurrent => exact hkept.serves hrepairs
    | installProxy | observeInstalled | readCredentials | observeProxyStarted =>
      exact hkept.served.trans hrepairs
    | call call =>
      cases call with
      | terminalFailure => exact hkept.served.trans hrepairs
      | _ => exact hrepairs.elim
    | _ => exact hrepairs.elim
  repairs_unserved := by
    intro s s' task hnone hrepairs
    cases task with
    | observeProxyStopped => trivial
    | stillCurrent => exact absurd hrepairs (not_serves_of_unserved hnone)
    | installProxy | observeInstalled | readCredentials | observeProxyStarted =>
      cases hnone.symm.trans hrepairs
    | call call =>
      cases call with
      | terminalFailure => cases hnone.symm.trans hrepairs
      | _ => exact hrepairs.elim
    | _ => exact hrepairs.elim
  repairs_quiet := by
    intro s task hrepairs
    cases task with
    | publishStartFailure | publishStopFailure => exact hrepairs.elim
    | _ => rfl
  repairs_stopped _ _ := trivial
  repairs_stillCurrent _ hserves := hserves
  repairs_installProxy _ howns := howns.1

/-! ## When the facts may be published -/

def ProxyTask.withdrawsFact : ProxyTask → Bool
  | .observeProxyStopped _ => true
  | _ => false

def ProxyTask.withdrawsProxy : ProxyTask → Bool
  | .observeProxyStopped _ | .clearProxy _ => true
  | _ => false

/-- A publication is made while its generation is served, and a failure is reported while none
is, or else while a call in progress has yet to withdraw the fact. -/
def Timely (s : ProxySystem) (others : List ProxyTask) : ProxyTask → Prop
  | .installProxy runtime generation _ =>
    s.Owns runtime generation ∨ ∃ other ∈ others, other.withdrawsProxy = true
  | .observeProxyStarted generation _ _ =>
    s.coordinator.servingGeneration = some generation ∨
      ∃ other ∈ others, other.withdrawsFact = true
  | .publishStartFailure _ | .publishStopFailure =>
    s.coordinator.servingGeneration = none ∨ ∃ other ∈ others, other.withdrawsFact = true
  | _ => True

instance (s : ProxySystem) (others : List ProxyTask) (task : ProxyTask) :
    Decidable (Timely s others task) :=
  match task with
  | .installProxy _ _ _ | .observeProxyStarted _ _ _ | .publishStartFailure _
  | .publishStopFailure => inferInstanceAs (Decidable (_ ∨ _))
  | .call _ | .startCandidate _ | .finishStarted _ _ | .stillCurrent _ _ _ | .observeInstalled _ _ _
  | .readCredentials _ _ | .publishRunning _ | .observeProxyStopped _ | .clearProxy _
  | .observeCleared _ _ | .stopRuntime _ _ | .spawnRecovery => .isTrue trivial

def PublishesTimely (p : ProxyPool) : ProxyAction → Prop
  | .call _ => True
  | .advance task _ => Timely p.shared (p.tasks.erase task) task

instance (p : ProxyPool) (action : ProxyAction) : Decidable (PublishesTimely p action) :=
  match action with
  | .call _ => .isTrue trivial
  | .advance task _ => inferInstanceAs (Decidable (Timely _ _ task))

variable {p : ProxyPool} {task : ProxyTask}

theorem settled_of_withdrawsFact {α : Type} (F : PublishedFact α)
    (h : ∃ other ∈ p.tasks.erase task, other.withdrawsFact = true) :
    F.Settled (p.advance proxyProtocol task answers) := by
  obtain ⟨other, hmem, hwithdraws⟩ := h
  cases other with
  | observeProxyStopped withdrawal => exact of_task (.inr hmem) (F.repairs_stopped _ withdrawal)
  | _ => cases hwithdraws

theorem settled_report {α : Type} {F : PublishedFact α} (h : F.Settled p)
    (hrpts : task.reportsFailure = true)
    (htimely : Timely p.shared (p.tasks.erase task) task) :
    F.Settled (p.advance proxyProtocol task answers) := by
  have hguard : p.shared.coordinator.servingGeneration = none ∨
      ∃ other ∈ p.tasks.erase task, other.withdrawsFact = true := by
    cases task with
    | publishStartFailure | publishStopFailure => exact htimely
    | _ => cases hrpts
  rcases hguard with hnone | hother
  · exact h.report hrpts hnone
  · exact settled_of_withdrawsFact F hother

theorem installedProxy_advance (h : installedProxy.Settled p)
    (htimely : Timely p.shared (p.tasks.erase task) task) :
    installedProxy.Settled (p.advance proxyProtocol task answers) := by
  cases task with
  | installProxy rt gen version =>
    rcases htimely with howns | ⟨other, hmem, hwithdraws⟩
    · refine .inl fun installed hinst => ?_
      obtain rfl : rt = installed := Option.some.inj hinst
      exact ⟨howns.2, fun hnone => by cases hnone.symm.trans howns.1⟩
    · refine of_task (.inr hmem) ?_
      cases other with
      | observeProxyStopped | clearProxy => trivial
      | _ => cases hwithdraws
  | clearProxy withdrawal => exact .inl (by rintro _ ⟨⟩)
  | observeProxyStopped withdrawal =>
    obtain ⟨withdrawal', hleft⟩ : ∃ withdrawal', .clearProxy withdrawal' ∈
        (p.shared.proceed (.observeProxyStopped withdrawal) answers).2 := by
      unfold proceed observe
      split_ifs <;> exact ⟨_, mem_singleton.mpr rfl⟩
    exact of_task (.inl hleft) trivial
  | observeInstalled | observeCleared | observeProxyStarted =>
    exact h.keep ⟨rfl, rfl, rfl, id⟩ rfl fun hrep => hrep.elim
  | publishStartFailure | publishStopFailure => exact settled_report h rfl htimely
  | stillCurrent rt gen version => exact h.stillCurrent rt gen version id
  | _ => exact h.quiet rfl rfl fun hrep => hrep.elim

variable (h : healthyFact.Settled p)
include h

theorem healthyFact_installProxy (rt gen version) : healthyFact.Settled
      (p.advance proxyProtocol (.installProxy rt gen version) answers) := by
  refine h.keep ⟨rfl, rfl, rfl, id⟩ rfl fun hserv => ?_
  cases hrcl : answers.reconciled with
  | ok adm =>
    refine .of_left (.observeInstalled gen version adm) ?_ hserv
    simp only [proceed, installProxy, hrcl]
  | error error =>
    refine .of_left (.call (.terminalFailure gen .runtimeStateUnavailable)) ?_ hserv
    simp only [proceed, installProxy, hrcl, giveUp]

theorem healthyFact_observeInstalled (gen version adm) : healthyFact.Settled
      (p.advance proxyProtocol (.observeInstalled gen version adm) answers) := by
  refine h.keep ⟨rfl, rfl, rfl, id⟩ (healthyGeneration_mesh _ _) fun hserv => ?_
  cases hacc : accepted (p.shared.readiness.observe (.mesh adm)).1 with
  | true =>
    refine .of_left (.readCredentials gen version) ?_ hserv
    simp only [proceed, observe, hacc, if_true]
  | false =>
    refine .of_left (.call (.terminalFailure gen .runtimeStateUnavailable)) ?_ hserv
    simp only [proceed, observe, hacc, false_eq_true, if_false, giveUp]

theorem healthyFact_readCredentials (gen version : Nat) :
    healthyFact.Settled (p.advance proxyProtocol (.readCredentials gen version) answers) := by
  refine h.quiet rfl rfl fun hserv => ?_
  have hleft : ∃ other, p.shared.proceed (.readCredentials gen version) answers =
      (p.shared, [other]) ∧ repairsHealthy p.shared other := by
    unfold proceed readCredentials
    dsimp only
    split
    · exact ⟨_, rfl, hserv⟩
    · exact ⟨_, rfl, hserv⟩
  obtain ⟨other, hproceed, hrep⟩ := hleft
  refine .of_left other (congrArg Prod.snd hproceed) ?_
  rw [hproceed]
  exact hrep

/-- The fact is set while its generation is served, or the start is given up. -/
theorem healthyFact_observeProxyStarted (gen version credentials)
    (hserv : p.shared.coordinator.servingGeneration = some gen) : healthyFact.Settled
      (p.advance proxyProtocol (.observeProxyStarted gen version credentials) answers) := by
  rcases healthyGeneration_started p.shared.readiness gen version credentials.username
    credentials.password with ⟨href, hsame⟩ | hset
  · refine h.keep ⟨rfl, rfl, rfl, id⟩ hsame fun _ =>
      .of_left (.call (.terminalFailure gen .runtimeStateUnavailable)) ?_ hserv
    simp only [proceed, observe, href, false_eq_true, if_false, giveUp]
  · refine .inl fun observed hobsd => ?_
    obtain rfl : gen = observed := Option.some.inj (hset.symm.trans hobsd)
    exact hserv

omit h

theorem healthyFact_terminalFailure (hsteady : Steady p.shared) (h : healthyFact.Settled p)
    (gen failure) : healthyFact.Settled
      (p.advance proxyProtocol (.call (.terminalFailure gen failure)) answers) := by
  refine h.quiet rfl rfl fun hserv => ?_
  have hcur : ¬ (p.shared.coordinator.closed = true ∨
      p.shared.coordinator.servingGeneration ≠ some gen) := by
    rintro (hclos | hother)
    · cases (hsteady.unserved hclos).symm.trans hserv
    · exact hother hserv
  have hproceed : p.shared.proceed (.call (.terminalFailure gen failure)) answers =
      (_, [.observeProxyStopped .terminalFailure]) := if_neg hcur
  exact .of_left (.observeProxyStopped .terminalFailure) (congrArg Prod.snd hproceed) trivial

theorem healthyFact_advance (hsteady : Steady p.shared) (h : healthyFact.Settled p)
    (htimely : Timely p.shared (p.tasks.erase task) task) :
    healthyFact.Settled (p.advance proxyProtocol task answers) := by
  cases task with
  | installProxy rt gen version => exact healthyFact_installProxy h rt gen version
  | observeInstalled gen version adm => exact healthyFact_observeInstalled h gen version adm
  | readCredentials gen version => exact healthyFact_readCredentials h gen version
  | observeProxyStarted gen version credentials =>
    rcases htimely with hserv | hother
    · exact healthyFact_observeProxyStarted h gen version credentials hserv
    · exact settled_of_withdrawsFact healthyFact hother
  | observeProxyStopped withdrawal =>
    refine .inl fun gen hgen => ?_
    cases (healthyGeneration_stopped p.shared.readiness hsteady.opened).symm.trans hgen
  | clearProxy => exact h.keep ⟨rfl, rfl, rfl, id⟩ rfl fun hrep => hrep.elim
  | observeCleared withdrawal adm =>
    exact h.keep ⟨rfl, rfl, rfl, id⟩ (healthyGeneration_mesh _ _) fun hrep => hrep.elim
  | publishStartFailure | publishStopFailure => exact settled_report h rfl htimely
  | stillCurrent rt gen version => exact h.stillCurrent rt gen version id
  | call call =>
    cases call with
    | terminalFailure gen failure => exact healthyFact_terminalFailure hsteady h gen failure
    | _ => exact h.quiet rfl rfl fun hrep => hrep.elim
  | _ => exact h.quiet rfl rfl fun hrep => hrep.elim

/-- Between calls the installed proxy is the current one, and a healthy proxy fact names the
generation that is served, when every publication is made while its generation is served and
every failure is reported while none is, or else while a call in progress has yet to withdraw
the fact. -/
theorem proxy_facts_agree (generation : RuntimeGeneration) (actions : List ProxyAction)
    (htimely : Along (Pool.step proxyProtocol) PublishesTimely (.init (.new generation)) actions)
    (hidle : (runProxy generation actions).tasks = []) :
    let s := (runProxy generation actions).shared
    (∀ runtime, s.mesh.proxy = some runtime →
      s.coordinator.current = some runtime ∧ s.coordinator.servingGeneration ≠ none) ∧
    ∀ served, healthyGeneration s.readiness = some served →
      s.coordinator.servingGeneration = some served := by
  have hinvariant : Steady (runProxy generation actions).shared ∧
      installedProxy.Settled (runProxy generation actions) ∧
      healthyFact.Settled (runProxy generation actions) := by
    refine Pool.run_keeps
      (I := fun p => Steady p.shared ∧ installedProxy.Settled p ∧ healthyFact.Settled p)
      ?_ ?_ ?_ htimely
    · rintro p call ⟨hsteady, hinstalled, hhealthy⟩
      exact ⟨hsteady, hinstalled.enter call, hhealthy.enter call⟩
    · rintro p task answers ⟨hsteady, hinstalled, hhealthy⟩ _ htimely
      exact ⟨hsteady.proceed task, installedProxy_advance hinstalled htimely,
        healthyFact_advance hsteady hhealthy htimely⟩
    · exact ⟨⟨by rintro ⟨⟩, rfl⟩, .inl (by rintro _ ⟨⟩), .inl (by rintro _ ⟨⟩)⟩
  exact ⟨good hinvariant.2.1 hidle, good hinvariant.2.2 hidle⟩

/-! ## A terminal failure that crosses a start -/

def sampleMaterial : ProxyCredentialMaterial :=
  ⟨"user".toList, "secret".toList, by decide, by decide⟩

def sampleInput : StartInput := ⟨some 51, some "user".toList, some "secret".toList⟩

def meshAdmitted : Probing.MeshAdmissionSnapshot := ⟨.admitted, some 41⟩

/-- A section in which everything succeeds. -/
def goodSection (task : ProxyTask) : ProxyAction :=
  .advance task ⟨.ok sampleProxy, .ok meshAdmitted, true, true⟩

/-- A start up to the check that its generation is current. -/
def checkedStart : List ProxyAction :=
  [.call (.start sampleInput), goodSection (.call (.start sampleInput)),
    goodSection (.startCandidate 51), goodSection (.finishStarted sampleProxy 51),
    goodSection (.stillCurrent sampleProxy 1 51)]

/-- The publications of that start. -/
def publishedStart : List ProxyAction :=
  [goodSection (.installProxy sampleProxy 1 51),
    goodSection (.observeInstalled 1 51 meshAdmitted), goodSection (.readCredentials 1 51),
    goodSection (.observeProxyStarted 1 51 sampleMaterial), goodSection (.publishRunning 1)]

/-- The terminal failure of its proxy, up to the delay before the recovery. -/
def terminalFailure : List ProxyAction :=
  [.call (.terminalFailure 1 .servingUnhealthy),
    goodSection (.call (.terminalFailure 1 .servingUnhealthy)),
    goodSection (.observeProxyStopped .terminalFailure),
    goodSection (.clearProxy .terminalFailure),
    goodSection (.observeCleared .terminalFailure meshAdmitted), goodSection .spawnRecovery]

theorem proxy_facts_agree_started :
    let s := (runProxy sampleGeneration (checkedStart ++ publishedStart)).shared
    s.mesh.proxy = some sampleProxy ∧ healthyGeneration s.readiness = some 1 ∧
      s.coordinator.current = some sampleProxy ∧ s.coordinator.servingGeneration = some 1 :=
  have hagree := proxy_facts_agree sampleGeneration (checkedStart ++ publishedStart)
    (by decide +kernel) (by decide +kernel)
  have hinstalled : (runProxy sampleGeneration (checkedStart ++ publishedStart)).shared.mesh.proxy =
    some sampleProxy := by decide +kernel
  have hhealthy : healthyGeneration
    (runProxy sampleGeneration (checkedStart ++ publishedStart)).shared.readiness = some 1 := by
    decide +kernel
  ⟨hinstalled, hhealthy, (hagree.1 _ hinstalled).1, hagree.2 _ hhealthy⟩

/-- The proxy fails after its start has checked that it is current and before it is installed.
The failure withdraws the facts, the start publishes them again, and no call is in progress any
more: only the delay before the recovery. Nothing is served. -/
theorem facts_outlive_terminal_failure :
    let p := runProxy sampleGeneration (checkedStart ++ terminalFailure ++ publishedStart)
    p.tasks = [] ∧ p.shared.mesh.proxy = some sampleProxy ∧
      healthyGeneration p.shared.readiness = some 1 ∧
      p.shared.coordinator.servingGeneration = none := by
  decide +kernel

end MishProxy.Serving
