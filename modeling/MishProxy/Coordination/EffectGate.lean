import MishProxy.Cellular.Egress

/-!
# The owner and the root-policy effect gate

The runtime coordinator keeps the cellular owner under one lock and the gate under another.
An operation on the owner holds the owner lock while it closes or opens the gate, so other
threads run between its steps. An action names the thread's next step; it is answered
`blocked` when it needs the owner lock and another operation holds it.

`gate_invariant` is the relation between the two: an open gate is open for the owner's
current generation, and permits are granted only then. The invariant `GateSound` also holds
while the owner lock is held, because an event closes the gate before it touches the owner.
-/

namespace MishProxy.Coordination

open Machine Cellular

structure RootPolicyEffectGateState where
  ready : Bool
  inFlight : Nat
  deriving DecidableEq, Repr

/-- The largest count that a `usize` holds. -/
def maxInFlight : Nat := 2 ^ 64 - 1

namespace RootPolicyEffectGateState

def setReady (ready : Bool) (gate : RootPolicyEffectGateState) : RootPolicyEffectGateState :=
  { gate with ready }

def acquire (gate : RootPolicyEffectGateState) : Bool × RootPolicyEffectGateState :=
  if gate.ready = true ∧ gate.inFlight < maxInFlight then
    (true, { gate with inFlight := gate.inFlight + 1 })
  else (false, gate)

def dropPermit (gate : RootPolicyEffectGateState) : RootPolicyEffectGateState :=
  if gate.inFlight = 0 then gate else { gate with inFlight := gate.inFlight - 1 }

end RootPolicyEffectGateState

/-- What the operation that holds the owner lock does next. -/
inductive OwnerSection where
  | closing (event : NetworkEvent)
  | applying (event : NetworkEvent)
  | authorizing (authority : CellularNetworkAuthority)
  deriving DecidableEq

structure CellularRuntime where
  owner : CellularEgress
  gate : RootPolicyEffectGateState
  holder : Option OwnerSection
  /-- The permits that were handed out and not dropped yet. -/
  permits : Nat
  /-- The generation of the latest `authorize_root_policy` that returned true. -/
  lastAuthorization : Option CellularNetworkAuthority
  deriving DecidableEq

inductive RuntimeAction where
  | observe (event : NetworkEvent)
  | authorize (authority : CellularNetworkAuthority)
  /-- The next step of the operation that holds the owner lock. -/
  | advance
  | closeGate
  | acquire
  | dropPermit
  deriving DecidableEq

inductive RuntimeReply where
  | blocked
  | locked
  | closed
  | applied (result : ApplyResult)
  | authorized (current : Bool)
  | permit (granted : Bool)
  | dropped
  deriving DecidableEq

namespace CellularRuntime

def new : CellularRuntime where
  owner := .new
  gate := { ready := false, inFlight := 0 }
  holder := none
  permits := 0
  lastAuthorization := none

def closeGate (runtime : CellularRuntime) : CellularRuntime :=
  { runtime with gate := runtime.gate.setReady false }

def applyEvent (event : NetworkEvent) (runtime : CellularRuntime) :
    ApplyResult × CellularRuntime :=
  let (result, owner) := runtime.owner.apply event
  (result, { runtime with owner, holder := none })

/-- `authorize_root_policy` compares the owner's admission with the generation as
`validate_network_authority` does. -/
def isCurrent (authority : CellularNetworkAuthority) (runtime : CellularRuntime) : Bool :=
  (runtime.owner.validateNetworkAuthority authority).isOk

def authorizeRootPolicy (authority : CellularNetworkAuthority) (runtime : CellularRuntime) :
    Bool × CellularRuntime :=
  if runtime.isCurrent authority then
    (true, { runtime with
      gate := runtime.gate.setReady true
      holder := none
      lastAuthorization := some authority })
  else (false, { runtime with gate := runtime.gate.setReady false, holder := none })

def acquire (runtime : CellularRuntime) : Bool × CellularRuntime :=
  let (granted, gate) := runtime.gate.acquire
  (granted,
    { runtime with gate, permits := if granted then runtime.permits + 1 else runtime.permits })

theorem acquire_eq (rt : CellularRuntime) : rt.acquire =
      if rt.gate.ready = true ∧ rt.gate.inFlight < maxInFlight then
        (true, { rt with
          gate := { rt.gate with inFlight := rt.gate.inFlight + 1 }
          permits := rt.permits + 1 })
      else (false, rt) := by
  unfold acquire RootPolicyEffectGateState.acquire
  split_ifs <;> rfl

/-- A permit can only be dropped by the thread that has one. -/
def dropPermit (runtime : CellularRuntime) : CellularRuntime :=
  if runtime.permits = 0 then runtime
  else { runtime with gate := runtime.gate.dropPermit, permits := runtime.permits - 1 }

def lock (start : OwnerSection) (runtime : CellularRuntime) : RuntimeReply × CellularRuntime :=
  match runtime.holder with
  | some _ => (.blocked, runtime)
  | none => (.locked, { runtime with holder := some start })

def advance (runtime : CellularRuntime) : RuntimeReply × CellularRuntime :=
  match runtime.holder with
  | none => (.blocked, runtime)
  | some (.closing event) => (.closed, { runtime.closeGate with holder := some (.applying event) })
  | some (.applying event) =>
    let (result, runtime) := runtime.applyEvent event
    (.applied result, runtime)
  | some (.authorizing authority) =>
    let (current, runtime) := runtime.authorizeRootPolicy authority
    (.authorized current, runtime)

def step (runtime : CellularRuntime) : RuntimeAction → RuntimeReply × CellularRuntime
  | .observe event => runtime.lock (.closing event)
  | .authorize authority => runtime.lock (.authorizing authority)
  | .advance => runtime.advance
  | .closeGate => (.closed, runtime.closeGate)
  | .acquire =>
    let (granted, runtime) := runtime.acquire
    (.permit granted, runtime)
  | .dropPermit => (.dropped, runtime.dropPermit)

end CellularRuntime

abbrev RuntimeEntry : Type := Event CellularRuntime RuntimeAction RuntimeReply

def runActions (actions : List RuntimeAction) :
    Recorded CellularRuntime RuntimeAction RuntimeReply :=
  run (record CellularRuntime.step) (.init .new) actions

/-! ## The invariant -/

/-- The owner is admitted with exactly this generation. -/
structure CurrentGeneration (authority : CellularNetworkAuthority) (owner : CellularEgress) :
    Prop where
  admitted : owner.admission.state = .admitted
  network : owner.admission.admittedNetwork = some authority.network
  sequence : owner.admission.lastSequence = some authority.sequence

open CellularRuntime

theorem isCurrent_iff {auth : CellularNetworkAuthority} {rt : CellularRuntime} :
    rt.isCurrent auth = true ↔ CurrentGeneration auth rt.owner := by
  unfold isCurrent CellularEgress.validateNetworkAuthority
  split
  · rename_i h
    exact iff_of_true rfl ⟨h.1, h.2.1, h.2.2⟩
  · rename_i h
    exact iff_of_false (by rintro ⟨⟩) fun hcur => h ⟨hcur.admitted, hcur.network, hcur.sequence⟩

structure GateSound (runtime : CellularRuntime) : Prop where
  permits : runtime.gate.inFlight = runtime.permits
  applying : ∀ event, runtime.holder = some (.applying event) → runtime.gate.ready = false
  current : runtime.gate.ready = true →
    ∃ authority, runtime.lastAuthorization = some authority ∧
      CurrentGeneration authority runtime.owner

def AppliesEvent (e : RuntimeEntry) : Prop := ∃ result, e.output = .applied result

/-- The latest of the owner events and the authorizations is an authorization, which was of
the owner's generation then. -/
def AuthorizedLast : List RuntimeEntry → Prop :=
  Since (fun e => ¬ AppliesEvent e) fun e _ =>
    e.output = .authorized true ∧
      ∃ authority, e.after.lastAuthorization = some authority ∧
        CurrentGeneration authority e.after.owner

/-- Every permit was granted while an authorization was the latest word. -/
def GrantsAuthorized (history : List RuntimeEntry) : Prop :=
  ∀ newer e older, history = newer ++ e :: older → e.output = .permit true → AuthorizedLast older

namespace GateSound

variable {rt : CellularRuntime}

variable (h : GateSound rt)
include h

theorem closeGate : GateSound rt.closeGate where
  permits := h.permits
  applying := fun _ _ => rfl
  current := by rintro ⟨⟩

theorem acquire : GateSound rt.acquire.2 := by
  rw [acquire_eq]
  split_ifs
  · exact ⟨congrArg (· + 1) h.permits, h.applying, h.current⟩
  · exact h

theorem dropPermit : GateSound rt.dropPermit := by
  unfold CellularRuntime.dropPermit RootPolicyEffectGateState.dropPermit
  split_ifs with hnone hzero
  · exact h
  · exact absurd (h.permits.symm.trans hzero) hnone
  · exact ⟨by simp [h.permits], h.applying, h.current⟩

theorem authorizeRootPolicy (auth) : GateSound (rt.authorizeRootPolicy auth).2 := by
  unfold CellularRuntime.authorizeRootPolicy
  split
  · rename_i hcur
    exact ⟨h.permits, by simp, fun _ => ⟨auth, rfl, isCurrent_iff.mp hcur⟩⟩
  · exact ⟨h.permits, by rintro _ ⟨⟩, by rintro ⟨⟩⟩

/-- The owner changes only behind a closed gate. -/
theorem applyEvent (ev) (hclos : rt.gate.ready = false) : GateSound (rt.applyEvent ev).2 where
  permits := h.permits
  applying := by rintro _ ⟨⟩
  current := fun hready => absurd (hclos.symm.trans hready) (by simp)

theorem lock {start} (hstart : ∀ ev, start ≠ .applying ev) : GateSound (rt.lock start).2 := by
  unfold CellularRuntime.lock
  split
  · exact h
  · refine ⟨h.permits, ?_, h.current⟩
    intro ev hevent
    exact absurd (Option.some.inj hevent) (hstart ev)

theorem advance : GateSound rt.advance.2 := by
  unfold CellularRuntime.advance
  split
  · exact h
  · exact ⟨h.permits, fun _ _ => rfl, by rintro ⟨⟩⟩
  · rename_i ev hholder
    exact h.applyEvent ev (h.applying ev hholder)
  · exact h.authorizeRootPolicy _

theorem step (act) : GateSound (rt.step act).2 := by
  cases act with
  | observe ev | authorize auth => exact h.lock (by simp)
  | advance => exact h.advance
  | closeGate => exact h.closeGate
  | acquire => exact h.acquire
  | dropPermit => exact h.dropPermit

end GateSound

theorem gateSound_new : GateSound .new := ⟨rfl, by rintro _ ⟨⟩, by rintro ⟨⟩⟩

/-! ## Whole runs -/

structure GateSoundRun (r : Recorded CellularRuntime RuntimeAction RuntimeReply) : Prop where
  sound : GateSound r.state
  authorized : r.state.gate.ready = true → AuthorizedLast r.history
  grants : GrantsAuthorized r.history

theorem GrantsAuthorized.cons {hist e}
    (h : GrantsAuthorized hist) (he : e.output = .permit true → AuthorizedLast hist) :
    GrantsAuthorized (e :: hist) := by
  intro newer x older heq hgrt
  cases newer with
  | nil =>
    cases heq
    exact he hgrt
  | cons y newer =>
    cases heq
    exact h newer x older rfl hgrt

variable {r : Recorded CellularRuntime RuntimeAction RuntimeReply}

/-- What a step has to show about the history: an open gate was open before and no event was
applied, or the step is the authorization. -/
theorem GateSoundRun.cons (h : GateSoundRun r) {act reply next} (hsound : GateSound next)
    (hopen : next.gate.ready = true →
      reply = .authorized true ∨ r.state.gate.ready = true ∧ ∀ res, reply ≠ .applied res)
    (hgrant : reply = .permit true → r.state.gate.ready = true) :
    GateSoundRun ⟨next, ⟨act, reply, next⟩ :: r.history⟩ where
  sound := hsound
  authorized := by
    intro hready
    rcases hopen hready with hauthd | ⟨hbef, hnot⟩
    · exact Since.now ⟨hauthd, hsound.current hready⟩
    · refine Since.cons (h.authorized hbef) ?_
      rintro ⟨res, hres⟩
      exact hnot res hres
  grants := h.grants.cons fun hgrt => h.authorized (hgrant hgrt)

theorem GateSoundRun.lock (h : GateSoundRun r) (act) {start} (hstart : ∀ ev, start ≠ .applying ev) :
    GateSoundRun ⟨(r.state.lock start).2,
      ⟨act, (r.state.lock start).1, (r.state.lock start).2⟩ :: r.history⟩ := by
  refine h.cons (h.sound.lock hstart) ?_ ?_
  all_goals
    unfold CellularRuntime.lock
    split <;> simp

theorem GateSoundRun.advance (h : GateSoundRun r) :
    GateSoundRun ⟨r.state.advance.2, ⟨.advance, r.state.advance.1, r.state.advance.2⟩ ::
      r.history⟩ := by
  refine h.cons h.sound.advance ?_ ?_
  · unfold CellularRuntime.advance
    split
    · exact fun hready => .inr ⟨hready, by simp⟩
    · rintro ⟨⟩
    · rename_i ev hholder
      intro hready
      cases (h.sound.applying ev hholder).symm.trans hready
    · rename_i auth hholder
      dsimp only [authorizeRootPolicy]
      split
      · exact fun _ => .inl rfl
      · rintro ⟨⟩
  · unfold CellularRuntime.advance
    split <;> rintro ⟨⟩

theorem GateSoundRun.step (h : GateSoundRun r) (act) :
    GateSoundRun (record CellularRuntime.step r act) := by
  cases act with
  | observe ev | authorize auth => exact h.lock _ (by simp)
  | advance => exact h.advance
  | closeGate => exact h.cons h.sound.closeGate (by rintro ⟨⟩) (by rintro ⟨⟩)
  | acquire =>
    have hstep : record CellularRuntime.step r .acquire =
        ⟨r.state.acquire.2, ⟨.acquire, .permit r.state.acquire.1, r.state.acquire.2⟩ ::
          r.history⟩ := rfl
    rw [hstep]
    refine h.cons h.sound.acquire ?_ ?_
    · rw [CellularRuntime.acquire_eq]
      split_ifs with hopen
      · exact fun _ => .inr ⟨hopen.1, by simp⟩
      · exact fun hready => .inr ⟨hready, by simp⟩
    · rw [CellularRuntime.acquire_eq]
      split_ifs with hopen
      · exact fun _ => hopen.1
      · simp
  | dropPermit =>
    refine h.cons h.sound.dropPermit ?_ (by simp)
    intro hready
    refine .inr ⟨?_, by simp⟩
    unfold CellularRuntime.dropPermit RootPolicyEffectGateState.dropPermit at hready
    split_ifs at hready <;> exact hready

theorem gateSoundRun_runActions (actions) : GateSoundRun (runActions actions) := by
  have hnew : GateSoundRun (.init .new) := by
    refine ⟨gateSound_new, by rintro ⟨⟩, ?_⟩
    intro newer e older heq
    cases newer <;> cases heq
  exact run_invariant (I := GateSoundRun) (fun r act h => h.step act) hnew actions

/-- An open gate is open for the owner's generation, every permit is counted, and none is
granted from an event to the next authorization. -/
theorem gate_invariant (actions : List RuntimeAction) :
    ((runActions actions).state.holder = none → (runActions actions).state.gate.ready = true →
      ∃ authority, (runActions actions).state.lastAuthorization = some authority ∧
        CurrentGeneration authority (runActions actions).state.owner) ∧
    (runActions actions).state.gate.inFlight = (runActions actions).state.permits ∧
    GrantsAuthorized (runActions actions).history := by
  have hrun := gateSoundRun_runActions actions
  exact ⟨fun _ => hrun.sound.current, hrun.sound.permits, hrun.grants⟩

end MishProxy.Coordination
