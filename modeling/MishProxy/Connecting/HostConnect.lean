import MishProxy.Coordination.GatedConnect
import MishProxy.Effects.Exec

/-!
# A connect stays under one authority

`connect_host_with` issues an authority from the cellular owner, resolves the host under it and
attempts the candidates in order, with the deadline and the authority checked around every effect.
All the while the owner goes on with the events of other threads.

The call is a program over the owner and a trace of what was done, newest first. An environment
says what happens at each moment: the events that reach the owner before it, the clock, and the
answers of the resolver and the sockets. Nothing is assumed of it.

`connect_under_one_authority` collects what every trace of the call has.
-/

namespace MishProxy.Connecting

open Cellular Coordination Effects Exec Machine Net List Bool CellularEgress

/-- One moment of the call, as the environment has it. -/
structure Moment (τ : Type) where
  /-- What reaches the owner before the call goes on. -/
  events : List NetworkEvent
  /-- Whether the owner lock is poisoned. -/
  poisoned : Bool
  now : Nat
  resolution : Except ProxyOutboundConnectError (List IpAddr)
  connection : Except ProxyOutboundConnectError τ

inductive Effect where
  | accepted (event : NetworkEvent)
  | issued (authority : CellularNetworkAuthority)
  | validated (authority : CellularNetworkAuthority)
  | resolved (authority : CellularNetworkAuthority) (domain : Text) (deadline : Nat)
      (answer : Except ProxyOutboundConnectError (List IpAddr))
  | attempted (authority : CellularNetworkAuthority) (address : IpAddr) (port deadline : Nat)

structure World where
  owner : CellularEgress
  /-- How many moments of the environment are over. -/
  moments : Nat
  trace : List Effect

def World.start (owner : CellularEgress) : World where
  owner := owner
  moments := 0
  trace := []

def World.record (effect : Effect) (world : World) : World :=
  { world with trace := effect :: world.trace }

inductive CellularDnsPrepareError where
  | authorityUnavailable
  | deadlineExceeded
  | resolverFailed
  | staleAuthority
  | unusableResult

def CellularDnsPrepareError.toConnectError : CellularDnsPrepareError → ProxyOutboundConnectError
  | .authorityUnavailable | .deadlineExceeded | .staleAuthority => .unavailable
  | .resolverFailed | .unusableResult => .failed

structure PreparedCellularDnsTarget where
  authority : CellularNetworkAuthority
  addresses : List IpAddr

section

variable {τ ε : Type} (environment : Nat → Moment τ)

/-- The next moment comes: the owner takes the events of the other threads. -/
def World.advance (world : World) : World where
  owner := world.owner.runEvents (environment world.moments).events
  moments := world.moments + 1
  trace := (world.owner.acceptedEvents (environment world.moments).events).reverse.map .accepted ++
    world.trace

def instantNow : Exec World ε Nat :=
  lift fun world => ((environment world.moments).now, world.advance environment)

def lockOwner : Exec World ε (Option CellularEgress) :=
  lift fun world =>
    (if (environment world.moments).poisoned then none else some (world.advance environment).owner,
      world.advance environment)

/-- The time that is left, which must not be zero. -/
def remaining (deadline : Nat) : Exec World ProxyOutboundConnectError Nat := do
  let now ← instantNow environment
  if now < deadline then pure (deadline - now) else fail .unavailable

def ensureDeadline (deadline : Nat) : Exec World ProxyOutboundConnectError Unit := do
  let _ ← remaining environment deadline
  pure ()

def issueAuthority : Exec World ProxyOutboundConnectError CellularNetworkAuthority := do
  match ← lockOwner environment with
  | none => fail .unavailable
  | some owner =>
    match owner.admittedNetworkAuthority with
    | .error _ => fail .unavailable
    | .ok authority =>
      lift fun world => (authority, world.record (.issued authority))

variable (authority : CellularNetworkAuthority)

def validateAuthority :
    Exec World ProxyOutboundConnectError Unit := do
  match ← lockOwner environment with
  | none => fail .unavailable
  | some owner =>
    match owner.validateNetworkAuthority authority with
    | .error _ => fail .unavailable
    | .ok () => lift fun world => ((), world.record (.validated authority))

def currentOwnerSequence : Exec World ε (Option Nat) := do
  let owner ← lockOwner environment
  pure (owner.bind fun owner => owner.admission.lastSequence.map ObservationSequence.raw)

/-- The resolver of the caller. -/
def resolve (domain : Text) (deadline : Nat) :
    Exec World ε (Except ProxyOutboundConnectError (List IpAddr)) :=
  lift fun world =>
    ((environment world.moments).resolution,
      (world.advance environment).record
        (.resolved authority domain deadline (environment world.moments).resolution))

/-- The connect of the caller. -/
def connect (address : IpAddr) (port deadline : Nat) :
    Exec World ε (Except ProxyOutboundConnectError τ) :=
  lift fun world =>
    ((environment world.moments).connection,
      (world.advance environment).record (.attempted authority address port deadline))

def resolveCurrentDomain (domain : Text) (deadline : Nat) :
    Exec World CellularDnsPrepareError PreparedCellularDnsTarget := do
  mapError (fun _ => .deadlineExceeded) (ensureDeadline environment deadline)
  mapError (fun _ => .authorityUnavailable) (validateAuthority environment authority)
  match ← resolve environment authority domain deadline with
  | .error _ => fail .resolverFailed
  | .ok addresses =>
    mapError (fun _ => .deadlineExceeded) (ensureDeadline environment deadline)
    match ← attempt (validateAuthority environment authority) with
    | .error _ =>
      let sequence ← currentOwnerSequence environment
      if sequence.any (· != authority.sequence.raw) then fail .staleAuthority
      else fail .authorityUnavailable
    | .ok () =>
      match boundedIpv4Candidates addresses with
      | .error _ => fail .unusableResult
      | .ok addresses => pure { authority, addresses }

/-- An equal share of what is left. The clock is read again after the share is known. -/
def perCandidateDeadline (operationDeadline attemptsRemaining : Nat) :
    Exec World ProxyOutboundConnectError Nat := do
  let remainingBudget ← remaining environment operationDeadline
  if 2 ^ 32 ≤ attemptsRemaining then fail .rejected
  else if attemptsRemaining = 0 then fail .rejected
  else
    let now ← instantNow environment
    pure (min (now + remainingBudget / attemptsRemaining) operationDeadline)

/-- The loop over the candidates that are left. -/
def attemptCandidates (port deadline : Nat) :
    ProxyOutboundConnectError → List IpAddr → Exec World ProxyOutboundConnectError τ
  | lastError, [] => fail lastError
  | _, address :: rest => do
    ensureDeadline environment deadline
    validateAuthority environment authority
    let attemptDeadline ← perCandidateDeadline environment deadline (rest.length + 1)
    match ← connect environment authority address port attemptDeadline with
    | .ok stream =>
      ensureDeadline environment deadline
      validateAuthority environment authority
      pure stream
    | .error .rejected => fail .rejected
    | .error error =>
      validateAuthority environment authority
      attemptCandidates port deadline error rest

/-- The candidates of the host, under the authority. -/
def hostCandidates (deadline : Nat) :
    ProxyTargetHost → Exec World ProxyOutboundConnectError (List IpAddr)
  | .ipv4 address => pure [.v4 address]
  | .ipv6 _ => fail .rejected
  | .domain domain => do
    let prepared ← mapError CellularDnsPrepareError.toConnectError
      (resolveCurrentDomain environment authority domain deadline)
    if prepared.authority ≠ authority then fail .unavailable
    else pure prepared.addresses

def connectHostWith (host : ProxyTargetHost) (port deadline : Nat) :
    Exec World ProxyOutboundConnectError τ :=
  if port = 0 then fail .rejected
  else do
    ensureDeadline environment deadline
    let authority ← issueAuthority environment
    let candidates ← hostCandidates environment authority deadline host
    attemptCandidates environment authority port deadline .failed candidates

end

/-! ## What a trace says -/

namespace Effect

def isAccepted : Effect → Bool
  | .accepted _ => true
  | _ => false

def attemptedAddress : Effect → Option IpAddr
  | .attempted _ address _ _ => some address
  | _ => none

def answer : Effect → Option (Except ProxyOutboundConnectError (List IpAddr))
  | .resolved _ _ _ answer => some answer
  | _ => none

end Effect

/-- The attempted addresses, in the order of the attempts. -/
def attempts (trace : List Effect) : List IpAddr := trace.reverse.filterMap Effect.attemptedAddress

/-- The answers of the resolver, in the order of the resolves. -/
def resolutions (trace : List Effect) : List (Except ProxyOutboundConnectError (List IpAddr)) :=
  trace.reverse.filterMap Effect.answer

/-- The authority was validated, and nothing has been attempted since. -/
def ValidatedLast (authority : CellularNetworkAuthority) : List Effect → Prop :=
  Since (fun effect => effect.attemptedAddress = none) fun effect _ => effect = .validated authority

/-- Before every attempt its authority was validated, with no other attempt in between. -/
def EachValidated : List Effect → Prop
  | [] => True
  | .attempted authority _ _ _ :: older => ValidatedLast authority older ∧ EachValidated older
  | _ :: older => EachValidated older

def DeadlinesWithin (deadline : Nat) (trace : List Effect) : Prop :=
  ∀ authority address port attemptDeadline,
    .attempted authority address port attemptDeadline ∈ trace → attemptDeadline ≤ deadline

/-- The owner has accepted nothing since it issued the authority. -/
def Undisturbed (authority : CellularNetworkAuthority) : List Effect → Prop :=
  Since (fun effect => effect.isAccepted = false) fun effect _ => effect = .issued authority

/-- The last thing done is the check of the authority after the attempt, and the owner has
accepted nothing since it issued the authority. -/
def ServedUndisturbed (port : Nat) (trace : List Effect) : Prop :=
  ∃ authority address attemptDeadline older,
    trace = .validated authority :: .attempted authority address port attemptDeadline :: older ∧
      Undisturbed authority trace

/-- The first different IPv4 addresses, at most as many as the bound. -/
def firstDistinctIpv4 (addresses : List IpAddr) : List IpAddr :=
  (addresses.filter IpAddr.isIpv4).eraseDups.take maxIpv4Candidates

/-- What may be attempted for the host, given what the resolver answered. -/
def permittedCandidates (host : ProxyTargetHost)
    (answers : List (Except ProxyOutboundConnectError (List IpAddr))) : List IpAddr :=
  match host, answers with
  | .ipv4 address, _ => [.v4 address]
  | .domain _, [.ok addresses] => firstDistinctIpv4 addresses
  | _, _ => []

theorem eachValidated_accepted_append (events : List NetworkEvent) (trace : List Effect) :
    EachValidated (events.map .accepted ++ trace) ↔ EachValidated trace := by
  induction events with
  | nil => rfl
  | cons ev rest ih => exact ih

theorem attempts_accepted_append (events : List NetworkEvent) (trace : List Effect) :
    attempts (events.map .accepted ++ trace) = attempts trace := by
  have hnone : (events.map Effect.accepted).reverse.filterMap Effect.attemptedAddress = [] := by
    simp [filterMap_eq_nil_iff, Effect.attemptedAddress]
  rw [attempts, reverse_append, filterMap_append, hnone, append_nil]
  rfl

theorem resolutions_accepted_append (events : List NetworkEvent) (trace : List Effect) :
    resolutions (events.map .accepted ++ trace) = resolutions trace := by
  have hnone : (events.map Effect.accepted).reverse.filterMap Effect.answer = [] := by
    simp [filterMap_eq_nil_iff, Effect.answer]
  rw [resolutions, reverse_append, filterMap_append, hnone, append_nil]
  rfl

theorem validatedLast_accepted_append {auth trace}
    (h : ValidatedLast auth trace) (events : List NetworkEvent) :
    ValidatedLast auth (events.map .accepted ++ trace) := by
  induction events with
  | nil => exact h
  | cons ev rest ih => exact ih.cons rfl

theorem DeadlinesWithin.accepted_append {due trace}
    (h : DeadlinesWithin due trace) (events : List NetworkEvent) :
    DeadlinesWithin due (events.map .accepted ++ trace) := by
  intro auth addr port attemptDeadline hmem
  rcases mem_append.mp hmem with hmem | hmem
  · obtain ⟨ev, -, heq⟩ := mem_map.mp hmem
    cases heq
  · exact h auth addr port attemptDeadline hmem

theorem collectIpv4Candidates_eq (addresses candidates)
    (hlen : candidates.length < maxIpv4Candidates) : collectIpv4Candidates candidates addresses =
      candidates ++ ((addresses.filter fun addr =>
        addr.isIpv4 && !candidates.contains addr).eraseDups).take
          (maxIpv4Candidates - candidates.length) := by
  induction addresses generalizing candidates with
  | nil => simp [collectIpv4Candidates]
  | cons addr rest ih =>
    rw [collectIpv4Candidates, filter_cons]
    by_cases hskip : (!addr.isIpv4 || candidates.contains addr) = true
    · have hdrop : (addr.isIpv4 && !candidates.contains addr) = false := by
        rw [← Bool.not_eq_true', Bool.not_and, Bool.not_not]
        exact hskip
      rw [if_pos hskip, hdrop, if_neg Bool.false_ne_true]
      exact ih candidates hlen
    · have hkeep : (addr.isIpv4 && !candidates.contains addr) = true := by
        rw [not_eq_true, or_eq_false_iff] at hskip
        simp only [and_eq_true, not_eq_true']
        exact ⟨by simpa using hskip.1, hskip.2⟩
      obtain ⟨left, hleft⟩ : ∃ left, maxIpv4Candidates - candidates.length = left + 1 :=
        ⟨maxIpv4Candidates - candidates.length - 1, by omega⟩
      rw [if_neg hskip, if_pos hkeep, eraseDups_cons, filter_filter, hleft, take_succ_cons]
      have hfilter : (fun other : IpAddr =>
          (!other == addr) && (other.isIpv4 && !candidates.contains other)) =
          fun other => other.isIpv4 && !(candidates ++ [addr]).contains other := by
        funext other
        rw [Bool.eq_iff_iff]
        simp only [and_eq_true, not_eq_true', beq_eq_false_iff_ne, contains_append,
          Bool.or_eq_false_iff, contains_cons, contains_nil, Bool.or_false]
        tauto
      rw [hfilter]
      split_ifs with hfull
      · obtain rfl : left = 0 := by omega
        simp
      · rw [ih (candidates ++ [addr]) (by simp; omega)]
        simp only [append_assoc, singleton_append, length_append, length_singleton]
        rw [show maxIpv4Candidates - (candidates.length + 1) = left by omega]

theorem firstDistinctIpv4_of_bounded {addresses candidates}
    (h : boundedIpv4Candidates addresses = .ok candidates) :
    candidates = firstDistinctIpv4 addresses := by
  have hcollect := collectIpv4Candidates_eq addresses [] (by decide)
  simp only [contains_nil, Bool.not_false, Bool.and_true, nil_append, length_nil,
    Nat.sub_zero] at hcollect
  unfold boundedIpv4Candidates at h
  split at h
  · cases h
  · cases h
    exact hcollect

/-! ## The moments of the call -/

section

variable {τ : Type} {environment : Nat → Moment τ} {world : World}

/-- What the coming of the next moment keeps. -/
def Stable (environment : Nat → Moment τ) (I : World → Prop) : Prop :=
  ∀ world, I world → I (world.advance environment)

/-- Only accepted events have been added to the trace. -/
def Waited (trace : List Effect) (world : World) : Prop :=
  ∃ events : List NetworkEvent, world.trace = events.map .accepted ++ trace

theorem stable_waited (trace) : Stable environment (Waited trace) := by
  rintro world ⟨events, heq⟩
  refine ⟨(world.owner.acceptedEvents (environment world.moments).events).reverse ++ events, ?_⟩
  rw [World.advance, heq, map_append, append_assoc]

theorem Stable.and {I J} (hI : Stable environment I) (hJ : Stable environment J) :
    Stable environment fun world => I world ∧ J world := fun world h => ⟨hI world h.1, hJ world h.2⟩

variable {I : World → Prop}

variable (hI : Stable environment I)
include hI

theorem Stable.keeps_remaining (due : Nat) : Keeps I (remaining environment due) := by
  intro world h
  rw [remaining, ends_bind, instantNow, ends_lift, ends_ite]
  exact ⟨fun _ => hI world h, fun _ => hI world h⟩

theorem Stable.keeps_ensureDeadline (due : Nat) : Keeps I (ensureDeadline environment due) :=
  (hI.keeps_remaining due).bind fun _ => Keeps.pure ()

theorem Stable.keeps_lockOwner {ε : Type} :
    Keeps I (lockOwner environment : Exec World ε (Option CellularEgress)) :=
  fun world h => hI world h

theorem Stable.keeps_currentOwnerSequence {ε : Type} :
    Keeps I (currentOwnerSequence environment : Exec World ε (Option Nat)) :=
  hI.keeps_lockOwner.bind fun _ => Keeps.pure _

theorem Stable.ends_perCandidateDeadline (h : I world) (due attemptsRemaining : Nat) :
    Ends (perCandidateDeadline environment due attemptsRemaining)
      (fun attemptDeadline world => attemptDeadline ≤ due ∧ I world) (fun _ => I) world := by
  rw [perCandidateDeadline]
  refine Ends.bind (hI.keeps_remaining due world h) ?_
  intro budget world h
  rw [ends_ite, ends_ite, ends_bind, instantNow, ends_lift]
  exact ⟨fun _ => h, fun _ => ⟨fun _ => h, fun _ => ⟨Nat.min_le_right _ _, hI world h⟩⟩⟩

theorem Stable.ends_issueAuthority (h : I world) : Ends (issueAuthority environment)
      (fun auth world' => ∃ world, I world ∧ world.owner.admittedNetworkAuthority = .ok auth ∧
          world' = world.record (.issued auth))
      (fun _ => I) world := by
  have hnext := hI world h
  rw [issueAuthority, ends_bind, lockOwner, ends_lift]
  split_ifs
  · exact hnext
  · cases hissue : (world.advance environment).owner.admittedNetworkAuthority with
    | error error => simpa only [hissue, ends_fail] using hnext
    | ok auth =>
      simp only [hissue, ends_lift]
      exact ⟨_, hnext, hissue, rfl⟩

theorem Stable.ends_validateAuthority (h : I world) (auth) :
    Ends (validateAuthority environment auth)
      (fun _ world' => ∃ world, I world ∧ world.owner.validateNetworkAuthority auth = .ok () ∧
          world' = world.record (.validated auth))
      (fun _ => I) world := by
  have hnext := hI world h
  rw [validateAuthority, ends_bind, lockOwner, ends_lift]
  split_ifs
  · exact hnext
  · cases hvalid : (world.advance environment).owner.validateNetworkAuthority auth with
    | error error => simpa only [hvalid, ends_fail] using hnext
    | ok _ =>
      simp only [hvalid, ends_lift]
      exact ⟨_, hnext, hvalid, rfl⟩

end

/-! ## Under one authority -/

section

variable {τ : Type} {environment : Nat → Moment τ} {due : Nat}
  {auth : CellularNetworkAuthority}
  {answers : List (Except ProxyOutboundConnectError (List IpAddr))} {done : List IpAddr}
  {world : World}

/-- The call has its authority, and `answers` and `done` are what it got from the resolver and
what it attempted. As long as the owner stands where it issued the authority, it has accepted
nothing. -/
structure Under (deadline : Nat) (authority : CellularNetworkAuthority)
    (answers : List (Except ProxyOutboundConnectError (List IpAddr))) (done : List IpAddr)
    (world : World) : Prop where
  validated : EachValidated world.trace
  within : DeadlinesWithin deadline world.trace
  resolutions_eq : resolutions world.trace = answers
  attempts_eq : attempts world.trace = done
  issued : .issued authority ∈ world.trace
  reached : authority.sequence.raw ≤ world.owner.lastRaw
  undisturbed : world.owner.lastRaw = authority.sequence.raw → Undisturbed authority world.trace

/-- An effect that is neither an attempt nor an accepted event adds only its answer. -/
theorem Under.record (h : Under due auth answers done world) (effect)
    (hattempt : effect.attemptedAddress = none) (hacc : effect.isAccepted = false) :
    Under due auth (answers ++ effect.answer.toList) done (world.record effect) where
  validated := by
    cases effect with
    | attempted => cases hattempt
    | _ => exact h.validated
  within := by
    intro authority' addr port attemptDeadline hmem
    rcases mem_cons.mp hmem with rfl | hmem
    · cases hattempt
    · exact h.within authority' addr port attemptDeadline hmem
  resolutions_eq := by
    rw [← h.resolutions_eq]
    simp only [World.record, resolutions, reverse_cons, filterMap_append,
      filterMap_cons, filterMap_nil]
    cases effect.answer <;> rfl
  attempts_eq := by
    rw [← h.attempts_eq]
    simp [World.record, attempts, hattempt]
  issued := .tail _ h.issued
  reached := h.reached
  undisturbed hlast := (h.undisturbed hlast).cons hacc

theorem Under.validate (h : Under due auth answers done world) :
    Under due auth answers done (world.record (.validated auth)) := by
  have hrecord : Under due auth (answers ++ []) done
      (world.record (.validated auth)) := h.record (.validated auth) rfl rfl
  rwa [append_nil] at hrecord

theorem stable_under : Stable environment (Under due auth answers done) := by
  intro world h
  exact {
    validated := (eachValidated_accepted_append _ _).mpr h.validated
    within := h.within.accepted_append _
    resolutions_eq := (resolutions_accepted_append _ _).trans h.resolutions_eq
    attempts_eq := (attempts_accepted_append _ _).trans h.attempts_eq
    issued := mem_append_right _ h.issued
    reached := h.reached.trans (lastRaw_le_runEvents _ _)
    undisturbed := by
      intro hlast
      -- An accepted event would have moved the owner past the sequence of the authority.
      have hnone : world.owner.acceptedEvents (environment world.moments).events = [] := by
        by_contra hsome
        have hlt := lastRaw_lt_runEvents hsome
        have hrch := h.reached
        simp only [World.advance] at hlast
        omega
      simp only [World.advance, hnone, runEvents_of_acceptedEvents_eq_nil hnone,
        reverse_nil, map_nil, nil_append] at hlast ⊢
      exact h.undisturbed hlast }

theorem Under.issue {events : List NetworkEvent} (htrace : world.trace = events.map .accepted)
    (hissued : world.owner.admittedNetworkAuthority = .ok auth) :
    Under due auth [] [] (world.record (.issued auth)) := by
  have htrace' : world.trace = events.map .accepted ++ [] := by rw [htrace, append_nil]
  exact {
    validated := by
      show EachValidated world.trace
      rw [htrace', eachValidated_accepted_append]
      trivial
    within := by
      intro authority' addr port attemptDeadline hmem
      simp [World.record, htrace] at hmem
    resolutions_eq := by
      show resolutions ([.issued auth] ++ world.trace) = []
      rw [htrace', resolutions, reverse_append, filterMap_append]
      exact (congrArg (· ++ []) (resolutions_accepted_append events []))
    attempts_eq := by
      show attempts ([.issued auth] ++ world.trace) = []
      rw [htrace', attempts, reverse_append, filterMap_append]
      exact (congrArg (· ++ []) (attempts_accepted_append events []))
    issued := .head _
    reached := by
      rw [admittedNetworkAuthority_eq_ok_iff] at hissued
      exact (lastRaw_of_validates hissued).ge
    undisturbed := fun _ => Since.now rfl }

theorem Under.attempt (h : Under due auth answers done world)
    (hvalidated : ValidatedLast auth world.trace) {attemptDeadline : Nat}
    (hdead : attemptDeadline ≤ due) (addr port) : Under due auth answers (done ++ [addr])
      (world.record (.attempted auth addr port attemptDeadline)) where
  validated := ⟨hvalidated, h.validated⟩
  within := by
    intro authority' address' port' attemptDeadline' hmem
    rcases mem_cons.mp hmem with heq | hmem
    · cases heq
      exact hdead
    · exact h.within authority' address' port' attemptDeadline' hmem
  resolutions_eq := by
    rw [← h.resolutions_eq]
    simp [World.record, resolutions, Effect.answer]
  attempts_eq := by
    rw [← h.attempts_eq]
    simp [World.record, attempts, Effect.attemptedAddress]
  issued := .tail _ h.issued
  reached := h.reached
  undisturbed hlast := (h.undisturbed hlast).cons rfl

end

/-! ## Every way out -/

section

variable {τ : Type} {environment : Nat → Moment τ} {due port : Nat}
  {authority : CellularNetworkAuthority}
  {answers : List (Except ProxyOutboundConnectError (List IpAddr))} {done : List IpAddr}
  {world : World}

theorem ends_validateAuthority_under (h : Under due authority answers done world) :
    Ends (validateAuthority environment authority)
      (fun _ world => Under due authority answers done world ∧ ValidatedLast authority world.trace)
      (fun _ => Under due authority answers done) world := by
  refine Ends.imp (stable_under.ends_validateAuthority h authority) ?_
  rintro _ _ ⟨world, h, -, rfl⟩
  exact ⟨h.validate, Since.now rfl⟩

theorem stable_validatedLast :
    Stable environment fun world => ValidatedLast authority world.trace :=
  fun _ h => validatedLast_accepted_append h _

variable (h : Under due authority answers done world)
include h

theorem ends_connect (hvalidated : ValidatedLast authority world.trace) {attemptDeadline : Nat}
    (hdead : attemptDeadline ≤ due) (addr port) :
    Ends (connect environment authority addr port attemptDeadline)
      (fun _ world => ∃ older, Under due authority answers (done ++ [addr]) world ∧
        world.trace = .attempted authority addr port attemptDeadline :: older)
      (fun (_ : ProxyOutboundConnectError) _ => False) world := by
  rw [connect, ends_lift]
  have hnext : Under due authority answers done (world.advance environment) := stable_under world h
  exact ⟨_, hnext.attempt (stable_validatedLast world hvalidated) hdead addr port, rfl⟩

theorem ends_resolve (domain : Text) : Ends (resolve environment authority domain due)
      (fun ans world => Under due authority (answers ++ [ans]) done world)
      (fun (_ : CellularDnsPrepareError) _ => False) world := by
  rw [resolve, ends_lift]
  have hnext : Under due authority answers done (world.advance environment) := stable_under world h
  exact hnext.record (.resolved authority domain due _) rfl rfl

/-- The deadline and the authority are checked once more after a connect, and the check finds
that the owner has accepted nothing since the authority was issued. -/
theorem ends_afterConnect {addr attemptDeadline older}
    (htrace : world.trace = .attempted authority addr port attemptDeadline :: older)
    (stream : τ) : Ends (do
        ensureDeadline environment due
        validateAuthority environment authority
        pure stream)
      (fun _ world => Under due authority answers done world ∧ ServedUndisturbed port world.trace)
      (fun _ => Under due authority answers done) world := by
  have hstable : Stable environment fun world => Under due authority answers done world ∧
      Waited (.attempted authority addr port attemptDeadline :: older) world :=
    stable_under.and (stable_waited _)
  rw [ends_bind]
  refine ends_mono (hstable.keeps_ensureDeadline due world ⟨h, [], htrace⟩) ?_
    fun _ _ h => h.1
  intro _ world h
  rw [ends_bind]
  refine ends_mono (hstable.ends_validateAuthority h authority) ?_ fun _ _ h => h.1
  rintro _ _ ⟨world, ⟨h, events, htrace⟩, hvalid, rfl⟩
  have hund := h.undisturbed (lastRaw_of_validates hvalid)
  refine ⟨h.validate, authority, addr, attemptDeadline, older, ?_, hund.cons rfl⟩
  cases events with
  | nil => exact congrArg _ htrace
  | cons ev rest =>
    rw [htrace] at hund
    rcases since_cons_iff.mp hund with heq | ⟨hnot, -⟩
    · cases heq
    · cases hnot

omit h

/-- What is left of the call when it has attempted some of the candidates, in order. -/
def Attempted (deadline : Nat) (authority : CellularNetworkAuthority)
    (answers : List (Except ProxyOutboundConnectError (List IpAddr))) (candidates : List IpAddr)
    (world : World) : Prop :=
  ∃ done, Under deadline authority answers done world ∧ done <+: candidates

theorem Under.attempted_append (h : Under due authority answers done world)
    (rest) : Attempted due authority answers (done ++ rest) world := ⟨done, h, rest, rfl⟩

theorem ends_attemptCandidates (rest lastError) (h : Under due authority answers done world) :
    Ends (attemptCandidates environment authority port due lastError rest)
      (fun _ world => Attempted due authority answers (done ++ rest) world ∧
        ServedUndisturbed port world.trace)
      (fun _ => Attempted due authority answers (done ++ rest)) world := by
  induction rest generalizing lastError done world with
  | nil => exact h.attempted_append []
  | cons addr rest ih =>
    have hstable : Stable environment fun world => Under due authority answers done world ∧
        ValidatedLast authority world.trace := stable_under.and stable_validatedLast
    rw [attemptCandidates, ends_bind]
    refine ends_mono (stable_under.keeps_ensureDeadline due world h) ?_
      fun _ _ h => h.attempted_append _
    intro _ world h
    rw [ends_bind]
    refine ends_mono (ends_validateAuthority_under h) ?_ fun _ _ h => h.attempted_append _
    intro _ world h
    rw [ends_bind]
    refine ends_mono (hstable.ends_perCandidateDeadline h due (rest.length + 1)) ?_
      fun _ _ h => h.1.attempted_append _
    rintro attemptDeadline world ⟨hdead, h⟩
    rw [ends_bind]
    refine ends_mono (ends_connect h.1 h.2 hdead addr port) ?_ fun _ _ h => h.elim
    rintro ans world ⟨older, h, htrace⟩
    rw [append_cons done addr rest]
    cases ans with
    | ok stream =>
      exact ends_mono (ends_afterConnect h htrace stream)
        (fun _ _ h => ⟨h.1.attempted_append rest, h.2⟩) fun _ _ h => h.attempted_append rest
    | error error =>
      cases error with
      | rejected => exact h.attempted_append rest
      | _ =>
        rw [ends_bind]
        exact ends_mono (ends_validateAuthority_under h) (fun _ _ h => ih _ h.1)
          fun _ _ h => h.attempted_append rest

/-- A domain is resolved once, and what comes of it are its first different IPv4 addresses. -/
theorem ends_resolveCurrentDomain (domain : Text) (h : Under due authority [] [] world) :
    Ends (resolveCurrentDomain environment authority domain due)
      (fun prepared world => ∃ addresses, Under due authority [.ok addresses] [] world ∧
        prepared.addresses = firstDistinctIpv4 addresses)
      (fun _ world => ∃ answers, Under due authority answers [] world) world := by
  rw [resolveCurrentDomain, ends_bind, ends_mapError]
  refine ends_mono (stable_under.keeps_ensureDeadline due world h) ?_ fun _ _ h => ⟨[], h⟩
  intro _ world h
  rw [ends_bind, ends_mapError]
  refine ends_mono (ends_validateAuthority_under h) ?_ fun _ _ h => ⟨[], h⟩
  rintro _ world ⟨h, -⟩
  rw [ends_bind]
  refine ends_mono (ends_resolve h domain) ?_ fun _ _ h => h.elim
  intro ans world h
  cases ans with
  | error error => exact ⟨_, h⟩
  | ok addresses =>
    rw [ends_bind, ends_mapError]
    refine ends_mono (stable_under.keeps_ensureDeadline due world h) ?_ fun _ _ h => ⟨_, h⟩
    intro _ world h
    rw [ends_bind, ends_attempt]
    refine ends_mono (ends_validateAuthority_under h) ?_ ?_
    · rintro _ world ⟨h, -⟩
      cases hbounded : boundedIpv4Candidates addresses with
      | error error => exact ⟨_, h⟩
      | ok candidates => exact ⟨addresses, h, firstDistinctIpv4_of_bounded hbounded⟩
    · intro _ world h
      rw [ends_bind]
      refine ends_mono (stable_under.keeps_currentOwnerSequence world h) ?_ fun _ _ h => ⟨_, h⟩
      intro seq world h
      rw [ends_ite]
      exact ⟨fun _ => ⟨_, h⟩, fun _ => ⟨_, h⟩⟩

theorem ends_hostCandidates (host) (h : Under due authority [] [] world) :
    Ends (hostCandidates environment authority due host)
      (fun candidates world => ∃ answers, Under due authority answers [] world ∧
        candidates = permittedCandidates host answers ∧ ∀ addr, host ≠ .ipv6 addr)
      (fun _ world => ∃ answers, Under due authority answers [] world ∧
        ∀ addr, host = .ipv6 addr → answers = []) world := by
  cases host with
  | ipv4 addr => exact ⟨[], h, rfl, by simp⟩
  | ipv6 addr => exact ⟨[], h, fun _ _ => rfl⟩
  | domain domain =>
    rw [hostCandidates, ends_bind, ends_mapError]
    refine ends_mono (ends_resolveCurrentDomain domain h) ?_ ?_
    · rintro prepared world ⟨addresses, h, hprepared⟩
      rw [ends_ite]
      exact ⟨fun _ => ⟨_, h, by simp⟩, fun _ => ⟨_, h, hprepared, by simp⟩⟩
    · rintro _ world ⟨answers, h⟩
      exact ⟨answers, h, by simp⟩

/-- What holds of the trace on every way out of the call. -/
structure Outcome (host : ProxyTargetHost) (port deadline : Nat) (trace : List Effect) : Prop where
  validated : EachValidated trace
  permitted : attempts trace <+: permittedCandidates host (resolutions trace)
  within : DeadlinesWithin deadline trace
  idle : (∃ address, host = .ipv6 address) ∨ port = 0 ∨ (∀ authority, .issued authority ∉ trace) →
    resolutions trace = [] ∧ attempts trace = []

/-- Before the authority is issued there is nothing to tell. -/
theorem outcome_of_waited {host} (h : Waited [] world) : Outcome host port due world.trace := by
  obtain ⟨events, htrace⟩ := h
  have hresolutions : resolutions world.trace = [] := by
    rw [htrace, resolutions_accepted_append]
    rfl
  have hatts : attempts world.trace = [] := by
    rw [htrace, attempts_accepted_append]
    rfl
  exact {
    validated := by
      rw [htrace, eachValidated_accepted_append]
      trivial
    permitted := by
      rw [hatts]
      exact nil_prefix
    within := by
      rw [htrace]
      exact DeadlinesWithin.accepted_append (by simp [DeadlinesWithin]) events
    idle := fun _ => ⟨hresolutions, hatts⟩ }

theorem Under.outcome {host} (h : Under due authority answers done world)
    (hport : port ≠ 0) (hdone : done <+: permittedCandidates host answers)
    (hhost : ∀ addr, host = .ipv6 addr → answers = []) : Outcome host port due world.trace where
  validated := h.validated
  permitted := by
    rw [h.attempts_eq, h.resolutions_eq]
    exact hdone
  within := h.within
  idle := by
    rw [h.attempts_eq, h.resolutions_eq]
    rintro (⟨addr, rfl⟩ | hzero | hmissing)
    · exact ⟨hhost addr rfl, prefix_nil.mp hdone⟩
    · exact absurd hzero hport
    · exact absurd h.issued (hmissing authority)

theorem ends_connectHostWith (environment : Nat → Moment τ) (owner host port due) :
    Ends (connectHostWith environment host port due)
      (fun _ world => Outcome host port due world.trace ∧ ServedUndisturbed port world.trace)
      (fun _ world => Outcome host port due world.trace) (.start owner) := by
  have hwaited : Waited [] (.start owner) := ⟨[], rfl⟩
  rw [connectHostWith, ends_ite]
  refine ⟨fun _ => outcome_of_waited hwaited, fun hport => ?_⟩
  rw [ends_bind]
  refine ends_mono ((stable_waited []).keeps_ensureDeadline due _ hwaited) ?_
    fun _ _ h => outcome_of_waited h
  intro _ world hwaited
  rw [ends_bind]
  refine ends_mono ((stable_waited []).ends_issueAuthority hwaited) ?_
    fun _ _ h => outcome_of_waited h
  rintro authority _ ⟨world, ⟨events, htrace⟩, hissued, rfl⟩
  rw [append_nil] at htrace
  rw [ends_bind]
  refine ends_mono (ends_hostCandidates host (Under.issue htrace hissued)) ?_ ?_
  · rintro _ world ⟨answers, h, rfl, hhost⟩
    have hexit : ∀ world, Attempted due authority answers
        ([] ++ permittedCandidates host answers) world → Outcome host port due world.trace := by
      rintro world ⟨done, h, hdone⟩
      exact h.outcome hport hdone fun addr heq => absurd heq (hhost addr)
    exact ends_mono (ends_attemptCandidates (permittedCandidates host answers) .failed h)
      (fun _ world h => ⟨hexit world h.1, h.2⟩) fun _ => hexit
  · rintro _ world ⟨answers, h, hhost⟩
    exact h.outcome hport nil_prefix hhost

/-- Whatever the host, the port, the deadline, the resolver, the sockets, the clock and the
other threads do: a stream is returned only with the owner untouched since it issued the
authority; every attempt follows a validation of its authority; the attempts go through the
permitted candidates in order; no attempt outlasts the operation; and an IPv6 address, a zero
port or a missing authority ends the call before it resolves or connects. -/
theorem connect_under_one_authority (environment : Nat → Moment τ) (owner : CellularEgress)
    (host : ProxyTargetHost) (port deadline : Nat) :
    let outcome := connectHostWith environment host port deadline (.start owner)
    let trace := outcome.2.trace
    (∀ stream, outcome.1 = .ok stream → ServedUndisturbed port trace) ∧
    EachValidated trace ∧
    attempts trace <+: permittedCandidates host (resolutions trace) ∧
    DeadlinesWithin deadline trace ∧
    ((∃ address, host = .ipv6 address) ∨ port = 0 ∨ (∀ authority, .issued authority ∉ trace) →
      resolutions trace = [] ∧ attempts trace = []) := by
  intro outcome trace
  have hends := ends_connectHostWith environment owner host port deadline
  have hall : Outcome host port deadline trace :=
    (ends_mono hends (fun _ _ h => h.1) fun _ _ h => h).state
  refine ⟨?_, hall.validated, hall.permitted, hall.within, hall.idle⟩
  intro stream hok
  exact (hends.of_ok (Prod.ext hok rfl)).2

end

end MishProxy.Connecting
