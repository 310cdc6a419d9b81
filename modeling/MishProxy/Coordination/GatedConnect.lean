import MishProxy.Coordination.EffectGate
import MishProxy.Net.Address
import MishProxy.Text.Basic

/-!
# One gated connect among the owner's operations

The gated connector takes a permit and then runs the cellular connector, which issues an
authority from the owner, resolves the target under it, and validates it around every
attempt. Permit and authority are taken in two steps, and the owner may move on between
them: the stream then belongs to a generation for which the gate was never opened.
`connect_generation_iff` says that this is the only way to get such a stream.

The clock, the resolver and the sockets are the environment: each step of the call is given
the answers that it may ask for.
-/

namespace MishProxy.Coordination

open Machine Cellular Net CellularEgress

inductive ProxyOutboundConnectError where
  | unavailable
  | rejected
  | failed
  deriving DecidableEq, Repr

inductive ProxyTargetHost where
  | ipv4 (address : BitVec 32)
  | ipv6 (address : BitVec 128)
  | domain (name : Text)
  deriving DecidableEq

structure ProxyConnectTarget where
  host : ProxyTargetHost
  port : Nat
  deriving DecidableEq

def maxIpv4Candidates : Nat := 8

/-- The first different IPv4 addresses, up to the bound. -/
def collectIpv4Candidates (candidates : List IpAddr) : List IpAddr → List IpAddr
  | [] => candidates
  | address :: rest =>
    if !address.isIpv4 || candidates.contains address then collectIpv4Candidates candidates rest
    else if candidates.length + 1 = maxIpv4Candidates then candidates ++ [address]
    else collectIpv4Candidates (candidates ++ [address]) rest

def boundedIpv4Candidates (addresses : List IpAddr) :
    Except ProxyOutboundConnectError (List IpAddr) :=
  match collectIpv4Candidates [] addresses with
  | [] => .error .failed
  | candidates => .ok candidates

/-- Where the call is. The authority is the one that it issued. -/
inductive ConnectStage where
  | idle
  | permitted
  | issued (authority : CellularNetworkAuthority)
  | resolving (authority : CellularNetworkAuthority)
  | resolved (authority : CellularNetworkAuthority) (addresses : List IpAddr)
  | attempting (authority : CellularNetworkAuthority) (candidates : List IpAddr)
      (lastError : ProxyOutboundConnectError)
  | connecting (authority : CellularNetworkAuthority) (rest : List IpAddr)
  | connected (authority : CellularNetworkAuthority)
  | attemptFailed (authority : CellularNetworkAuthority) (rest : List IpAddr)
      (error : ProxyOutboundConnectError)
  | returning (result : Except ProxyOutboundConnectError CellularNetworkAuthority)
  | returned (result : Except ProxyOutboundConnectError CellularNetworkAuthority)

/-- What the environment answers at a step of the call. -/
structure ConnectAnswers where
  withinDeadline : Bool
  resolution : Option (List IpAddr)
  attempt : Except ProxyOutboundConnectError Unit

structure ConnectSystem where
  runtime : CellularRuntime
  target : ProxyConnectTarget
  stage : ConnectStage
  /-- The generation for which the gate was open when the permit was granted. -/
  openFor : Option CellularNetworkAuthority

inductive ConnectAction where
  | other (action : RuntimeAction)
  | connect (answers : ConnectAnswers)

inductive ConnectReply where
  | other (reply : RuntimeReply)
  | permit (granted : Bool)
  | issued (result : Except CellularNetworkAuthorityError CellularNetworkAuthority)
  | moved

namespace ConnectStage

/-- The stages in which the call has its permit. -/
def holdsPermit : ConnectStage → Bool
  | .idle | .returned _ => false
  | _ => true

end ConnectStage

namespace ConnectSystem

def new (target : ProxyConnectTarget) : ConnectSystem where
  runtime := .new
  target := target
  stage := .idle
  openFor := none

def moveTo (stage : ConnectStage) (system : ConnectSystem) : ConnectReply × ConnectSystem :=
  (.moved, { system with stage })

def failWith (error : ProxyOutboundConnectError) (system : ConnectSystem) :
    ConnectReply × ConnectSystem :=
  system.moveTo (.returning (.error error))

/-- `validate_authority`, which needs the owner lock. -/
def validate (authority : CellularNetworkAuthority) (onCurrent : ConnectStage)
    (system : ConnectSystem) : ConnectReply × ConnectSystem :=
  if system.runtime.holder.isSome then (.moved, system)
  else if system.runtime.isCurrent authority then system.moveTo onCurrent
  else system.failWith .unavailable

def acquirePermit (system : ConnectSystem) : ConnectReply × ConnectSystem :=
  let (granted, runtime) := system.runtime.acquire
  if granted then
    (.permit true,
      { system with runtime, stage := .permitted, openFor := runtime.lastAuthorization })
  else (.permit false, { system with runtime, stage := .returned (.error .unavailable) })

/-- The port and the deadline are checked before the owner is asked. -/
def issueAuthority (answers : ConnectAnswers) (system : ConnectSystem) :
    ConnectReply × ConnectSystem :=
  if system.target.port = 0 then system.failWith .rejected
  else if !answers.withinDeadline then system.failWith .unavailable
  else if system.runtime.holder.isSome then (.moved, system)
  else match system.runtime.owner.admittedNetworkAuthority with
    | .ok authority => (.issued (.ok authority), { system with stage := .issued authority })
    | .error error =>
      (.issued (.error error), { system with stage := .returning (.error .unavailable) })

def connectStep (answers : ConnectAnswers) (system : ConnectSystem) :
    ConnectReply × ConnectSystem :=
  match system.stage with
  | .idle => system.acquirePermit
  | .permitted => system.issueAuthority answers
  | .issued authority =>
    match system.target.host with
    | .ipv4 address => system.moveTo (.attempting authority [.v4 address] .failed)
    | .ipv6 _ => system.failWith .rejected
    | .domain _ =>
      if !answers.withinDeadline then system.failWith .unavailable
      else system.validate authority (.resolving authority)
  | .resolving authority =>
    match answers.resolution with
    | some addresses => system.moveTo (.resolved authority addresses)
    | none => system.failWith .failed
  | .resolved authority addresses =>
    if !answers.withinDeadline then system.failWith .unavailable
    else match boundedIpv4Candidates addresses with
      | .ok candidates => system.validate authority (.attempting authority candidates .failed)
      | .error error => system.validate authority (.returning (.error error))
  | .attempting _ [] lastError => system.failWith lastError
  | .attempting authority (_ :: rest) _ =>
    if !answers.withinDeadline then system.failWith .unavailable
    else system.validate authority (.connecting authority rest)
  | .connecting authority rest =>
    if !answers.withinDeadline then system.failWith .unavailable
    else match answers.attempt with
      | .ok () => system.moveTo (.connected authority)
      | .error .rejected => system.failWith .rejected
      | .error error => system.moveTo (.attemptFailed authority rest error)
  | .connected authority =>
    if !answers.withinDeadline then system.failWith .unavailable
    else system.validate authority (.returning (.ok authority))
  | .attemptFailed authority rest error =>
    system.validate authority (.attempting authority rest error)
  | .returning result =>
    (.moved, { system with runtime := system.runtime.dropPermit, stage := .returned result })
  | .returned _ => (.moved, system)

/-- Other threads cannot drop the permit of the call. -/
def otherStep (action : RuntimeAction) (system : ConnectSystem) : ConnectReply × ConnectSystem :=
  if action = .dropPermit ∧ system.stage.holdsPermit = true ∧ system.runtime.permits ≤ 1 then
    (.other .blocked, system)
  else
    let (reply, runtime) := system.runtime.step action
    (.other reply, { system with runtime })

def step (system : ConnectSystem) : ConnectAction → ConnectReply × ConnectSystem
  | .other action => system.otherStep action
  | .connect answers => system.connectStep answers

end ConnectSystem

abbrev ConnectEntry : Type := Event ConnectSystem ConnectAction ConnectReply

def runConnect (target : ProxyConnectTarget) (actions : List ConnectAction) :
    Recorded ConnectSystem ConnectAction ConnectReply :=
  run (record ConnectSystem.step) (.init (.new target)) actions

def GrantsPermit (e : ConnectEntry) : Prop := e.output = .permit true

def IssuesAuthority (e : ConnectEntry) : Prop := ∃ result, e.output = .issued result

def AcceptsEvent (e : ConnectEntry) : Prop :=
  ∃ snapshot, e.output = .other (.applied (.applied snapshot))

/-- No owner event was accepted since the permit was granted. -/
def UnchangedSincePermit : List ConnectEntry → Prop :=
  Since (fun e => ¬ AcceptsEvent e) fun e _ => GrantsPermit e

/-- No owner event was accepted between the permit and the authority. -/
def IssuedUnderPermit : List ConnectEntry → Prop :=
  Once fun e past => IssuesAuthority e ∧ UnchangedSincePermit past

/-! ## The owner's generation under the permit -/

section

variable {auth : CellularNetworkAuthority} {owner : CellularEgress}

theorem CurrentGeneration.lastRaw (h : CurrentGeneration auth owner) :
    owner.lastRaw = auth.sequence.raw := by
  simp [CellularEgress.lastRaw, h.sequence]

theorem currentGeneration_iff_issued :
    CurrentGeneration auth owner ↔ owner.admittedNetworkAuthority = .ok auth := by
  rw [admittedNetworkAuthority_eq_ok_iff]
  unfold validateNetworkAuthority
  constructor
  · rintro ⟨hadm, hnet, hseq⟩
    rw [if_pos ⟨hadm, hnet, hseq⟩]
  · intro h
    split at h
    · rename_i hcur
      exact ⟨hcur.1, hcur.2.1, hcur.2.2⟩
    · cases h

end

theorem CellularRuntime.lock_owner (rt : CellularRuntime) (start : OwnerSection) :
    (rt.lock start).2.owner = rt.owner ∧ ∀ snap, (rt.lock start).1 ≠ .applied (.applied snap) := by
  unfold lock
  split <;> exact ⟨rfl, fun _ => by simp⟩

theorem CellularRuntime.step_owner (rt : CellularRuntime) (act : RuntimeAction) :
    ((rt.step act).2.owner = rt.owner ∧ ∀ snap, (rt.step act).1 ≠ .applied (.applied snap)) ∨
    ∃ ev snap, (rt.step act).1 = .applied (.applied snap) ∧ rt.owner.accepts ev = true ∧
      (rt.step act).2.owner = rt.owner.next ev := by
  cases act with
  | observe ev | authorize auth => exact .inl (rt.lock_owner _)
  | advance =>
    show (rt.advance.2.owner = rt.owner ∧ ∀ snap, rt.advance.1 ≠ .applied (.applied snap)) ∨
      ∃ ev snap, rt.advance.1 = .applied (.applied snap) ∧ rt.owner.accepts ev = true ∧
        rt.advance.2.owner = rt.owner.next ev
    unfold advance
    split
    · exact .inl ⟨rfl, fun _ => by simp⟩
    · exact .inl ⟨rfl, fun _ => by simp⟩
    · rename_i ev hholder
      dsimp only [applyEvent]
      rw [apply_eq]
      cases haccs : rt.owner.accepts ev with
      | false => exact .inl ⟨rfl, fun _ => by simp⟩
      | true =>
        refine .inr ⟨ev, _, rfl, haccs, ?_⟩
        rw [next_of_accepts haccs]
        rfl
    · dsimp only [authorizeRootPolicy]
      refine .inl ⟨?_, fun _ => by simp⟩
      split <;> rfl
  | closeGate => exact .inl ⟨rfl, fun _ => by rintro ⟨⟩⟩
  | acquire =>
    refine .inl ⟨?_, fun _ => by rintro ⟨⟩⟩
    show rt.acquire.2.owner = rt.owner
    rw [acquire_eq]
    split <;> rfl
  | dropPermit =>
    refine .inl ⟨?_, fun _ => by rintro ⟨⟩⟩
    show rt.dropPermit.owner = rt.owner
    unfold dropPermit
    split <;> rfl

/-! ## The invariant -/

def NothingIssued (history : List ConnectEntry) : Prop := ∀ e ∈ history, ¬ IssuesAuthority e

/-- While the call has a permit and no authority, the generation of the permit is current
exactly as long as no event was accepted. -/
structure UnderPermit (authority : CellularNetworkAuthority) (owner : CellularEgress)
    (history : List ConnectEntry) : Prop where
  reached : authority.sequence.raw ≤ owner.lastRaw
  current_iff : CurrentGeneration authority owner ↔ UnchangedSincePermit history

def ConnectStage.authority : ConnectStage → Option CellularNetworkAuthority
  | .issued authority | .resolving authority | .resolved authority _
  | .attempting authority _ _ | .connecting authority _ | .connected authority
  | .attemptFailed authority _ _ | .returning (.ok authority) | .returned (.ok authority) =>
    some authority
  | _ => none

structure ConnectSound (r : Recorded ConnectSystem ConnectAction ConnectReply) : Prop where
  gate : GateSound r.state.runtime
  early : r.state.stage = .idle ∨ r.state.stage = .permitted → NothingIssued r.history
  permitted : r.state.stage = .permitted →
    ∃ authority, r.state.openFor = some authority ∧
      UnderPermit authority r.state.runtime.owner r.history
  issued : ∀ authority, r.state.stage.authority = some authority →
    (r.state.openFor = some authority ↔ IssuedUnderPermit r.history)

variable {auth : CellularNetworkAuthority} {owner : CellularEgress}
  {hist : List ConnectEntry} {e : ConnectEntry}

theorem NothingIssued.not_issuedUnderPermit (h : NothingIssued hist) :
    ¬ IssuedUnderPermit hist := by
  rintro ⟨newer, e, older, rfl, hissues, -⟩
  exact h e (by simp) hissues

theorem issuedUnderPermit_cons_iff (he : ¬ IssuesAuthority e) :
    IssuedUnderPermit (e :: hist) ↔ IssuedUnderPermit hist := by
  unfold IssuedUnderPermit
  rw [once_cons_iff]
  simp [he]

theorem unchangedSincePermit_cons_iff (he : ¬ GrantsPermit e) :
    UnchangedSincePermit (e :: hist) ↔ ¬ AcceptsEvent e ∧ UnchangedSincePermit hist := by
  unfold UnchangedSincePermit
  rw [since_cons_iff]
  simp [he]

variable {r : Recorded ConnectSystem ConnectAction ConnectReply} {act : ConnectAction}

theorem ConnectSound.keeps (h : ConnectSound r) {next}
    (hgate : GateSound next.runtime) (hopen : next.openFor = r.state.openFor)
    (hlate : next.stage ≠ .idle ∧ (next.stage = .permitted → next = r.state))
    (hauty : ∀ auth, next.stage.authority = some auth → r.state.stage.authority = some auth) :
    ConnectSound ⟨next, ⟨act, .moved, next⟩ :: r.history⟩ where
  gate := hgate
  early := by
    rintro (hidle | hperm)
    · exact absurd hidle hlate.1
    · intro e he
      rcases List.mem_cons.mp he with rfl | he
      · rintro ⟨_, ⟨⟩⟩
      · rw [hlate.2 hperm] at hperm
        exact h.early (.inr hperm) e he
  permitted := by
    intro hperm
    obtain rfl := hlate.2 hperm
    obtain ⟨auth, hsome, hunder⟩ := h.permitted hperm
    refine ⟨auth, hsome, hunder.reached, ?_⟩
    rw [hunder.current_iff, unchangedSincePermit_cons_iff (by simp [GrantsPermit])]
    exact (and_iff_right (by simp [AcceptsEvent])).symm
  issued := by
    intro auth hsome
    rw [hopen, h.issued auth (hauty auth hsome), issuedUnderPermit_cons_iff]
    rintro ⟨_, ⟨⟩⟩

/-- An accepted event ends the generation of the permit for good. -/
theorem UnderPermit.accepted {ev} (h : UnderPermit auth owner hist)
    (haccs : owner.accepts ev = true) (hgrants : ¬ GrantsPermit e) (he : AcceptsEvent e) :
    UnderPermit auth (owner.next ev) (e :: hist) := by
  have hlt := lastRaw_next_of_accepts haccs
  have hrch := h.reached
  refine ⟨by omega, ?_⟩
  rw [unchangedSincePermit_cons_iff hgrants]
  refine iff_of_false ?_ fun hunchanged => hunchanged.1 he
  intro hcur
  have hsame := hcur.lastRaw
  omega

theorem UnderPermit.kept (h : UnderPermit auth owner hist) (hgrants : ¬ GrantsPermit e)
    (he : ¬ AcceptsEvent e) : UnderPermit auth owner (e :: hist) := by
  refine ⟨h.reached, ?_⟩
  rw [h.current_iff, unchangedSincePermit_cons_iff hgrants]
  exact (and_iff_right he).symm

variable (h : ConnectSound r)
include h

theorem ConnectSound.runtime {reply runtime} (hgate : GateSound runtime)
    (howner : (runtime.owner = r.state.runtime.owner ∧ ∀ snap, reply ≠ .applied (.applied snap)) ∨
      ∃ ev snap, reply = .applied (.applied snap) ∧ r.state.runtime.owner.accepts ev = true ∧
        runtime.owner = r.state.runtime.owner.next ev) :
    ConnectSound ⟨{ r.state with runtime }, ⟨act, .other reply, { r.state with runtime }⟩ ::
      r.history⟩ where
  gate := hgate
  early := by
    intro hstg e he
    rcases List.mem_cons.mp he with rfl | he
    · rintro ⟨_, ⟨⟩⟩
    · exact h.early hstg e he
  permitted := by
    intro hperm
    obtain ⟨auth, hsome, hunder⟩ := h.permitted hperm
    refine ⟨auth, hsome, ?_⟩
    rcases howner with ⟨hsame, hreply⟩ | ⟨ev, snap, hreply, haccs, hnext⟩
    · rw [hsame]
      refine hunder.kept (by simp [GrantsPermit]) ?_
      rintro ⟨snap, heq⟩
      exact hreply snap (ConnectReply.other.inj heq)
    · rw [hnext]
      exact hunder.accepted haccs (by simp [GrantsPermit])
        ⟨snap, congrArg ConnectReply.other hreply⟩
  issued := by
    intro auth hsome
    rw [issuedUnderPermit_cons_iff]
    · exact h.issued auth hsome
    · rintro ⟨_, ⟨⟩⟩

open ConnectSystem

theorem ConnectSound.other (act) : ConnectSound (record step r (.other act)) := by
  show ConnectSound ⟨(r.state.otherStep act).2,
    ⟨.other act, (r.state.otherStep act).1, (r.state.otherStep act).2⟩ :: r.history⟩
  unfold otherStep
  split_ifs
  · exact h.runtime h.gate (.inl ⟨rfl, fun _ => by simp⟩)
  · exact h.runtime (h.gate.step act) (r.state.runtime.step_owner act)

theorem ConnectSound.acquirePermit (hidle : r.state.stage = .idle) (answers) :
    ConnectSound ⟨r.state.acquirePermit.2,
      ⟨.connect answers, r.state.acquirePermit.1, r.state.acquirePermit.2⟩ :: r.history⟩ := by
  have hgate := h.gate.acquire
  unfold ConnectSystem.acquirePermit
  rw [CellularRuntime.acquire_eq] at hgate ⊢
  split_ifs at hgate ⊢ with hopen
  · obtain ⟨auth, hsome, hcur⟩ := h.gate.current hopen.1
    refine ⟨hgate, ?_, ?_, by rintro _ ⟨⟩⟩
    · intro _ e he
      rcases List.mem_cons.mp he with rfl | he
      · rintro ⟨_, ⟨⟩⟩
      · exact h.early (.inl hidle) e he
    · intro _
      refine ⟨auth, hsome, ?_, iff_of_true hcur (Since.now rfl)⟩
      exact Nat.le_of_eq hcur.lastRaw.symm
  · exact ⟨hgate, by simp, by rintro ⟨⟩, by rintro _ ⟨⟩⟩

theorem ConnectSound.issueAuthority (hperm : r.state.stage = .permitted) (answers) :
    ConnectSound ⟨(r.state.issueAuthority answers).2,
      ⟨.connect answers, (r.state.issueAuthority answers).1,
        (r.state.issueAuthority answers).2⟩ :: r.history⟩ := by
  unfold ConnectSystem.issueAuthority
  split_ifs
  · exact h.keeps h.gate rfl ⟨by rintro ⟨⟩, by rintro ⟨⟩⟩ (by rintro _ ⟨⟩)
  · exact h.keeps h.gate rfl ⟨by rintro ⟨⟩, by rintro ⟨⟩⟩ (by rintro _ ⟨⟩)
  · exact h.keeps h.gate rfl ⟨by simp [hperm], fun _ => rfl⟩ fun _ hsome => hsome
  cases hissued : r.state.runtime.owner.admittedNetworkAuthority with
  | error error => exact ⟨h.gate, by simp, by rintro ⟨⟩, by rintro _ ⟨⟩⟩
  | ok auth =>
    obtain ⟨opened, hsome, hunder⟩ := h.permitted hperm
    refine ⟨h.gate, by simp, by simp, ?_⟩
    intro current hcur
    cases hcur
    have hnone := (h.early (.inr hperm)).not_issuedUnderPermit
    have hsame : r.state.openFor = some auth ↔ CurrentGeneration opened r.state.runtime.owner := by
      rw [hsome, currentGeneration_iff_issued, hissued]
      exact ⟨fun heq => congrArg _ (Option.some.inj heq).symm,
        fun heq => congrArg some (Except.ok.inj heq).symm⟩
    unfold IssuedUnderPermit at hnone ⊢
    rw [hsame, hunder.current_iff, once_cons_iff]
    simp only [hnone, or_false]
    exact (and_iff_right ⟨_, rfl⟩).symm

theorem ConnectSound.moveTo {stage} (hlate : stage ≠ .idle ∧ stage ≠ .permitted)
    (hauty : ∀ auth, stage.authority = some auth → r.state.stage.authority = some auth) :
    ConnectSound ⟨(r.state.moveTo stage).2,
      ⟨act, (r.state.moveTo stage).1, (r.state.moveTo stage).2⟩ :: r.history⟩ :=
  h.keeps h.gate rfl ⟨hlate.1, fun hperm => absurd hperm hlate.2⟩ hauty

theorem ConnectSound.validate {stage}
    (hlate : stage ≠ .idle ∧ stage ≠ .permitted) (hlater : r.state.stage ≠ .idle)
    (hauty : ∀ auth, stage.authority = some auth → r.state.stage.authority = some auth) :
    ConnectSound ⟨(r.state.validate auth stage).2,
      ⟨act, (r.state.validate auth stage).1, (r.state.validate auth stage).2⟩ :: r.history⟩ := by
  unfold ConnectSystem.validate
  split_ifs
  · exact h.keeps h.gate rfl ⟨hlater, fun _ => rfl⟩ fun _ hsome => hsome
  · exact h.moveTo hlate hauty
  · exact h.moveTo ⟨by rintro ⟨⟩, by rintro ⟨⟩⟩ (by rintro _ ⟨⟩)

open ConnectStage

theorem ConnectSound.connect (answers) : ConnectSound (record step r (.connect answers)) := by
  show ConnectSound ⟨(r.state.connectStep answers).2,
    ⟨.connect answers, (r.state.connectStep answers).1, (r.state.connectStep answers).2⟩ ::
      r.history⟩
  have hfail : ∀ error, ConnectSound ⟨(r.state.failWith error).2,
      ⟨.connect answers, (r.state.failWith error).1, (r.state.failWith error).2⟩ :: r.history⟩ :=
    fun error => h.moveTo ⟨by rintro ⟨⟩, by rintro ⟨⟩⟩ (by rintro _ ⟨⟩)
  unfold connectStep
  cases hstg : r.state.stage with
  | idle => exact h.acquirePermit hstg answers
  | permitted => exact h.issueAuthority hstg answers
  | issued auth =>
    cases r.state.target.host with
    | ipv4 addr => exact h.moveTo ⟨by simp, by simp⟩ (by simp [hstg, authority])
    | ipv6 addr => exact hfail .rejected
    | domain name =>
      dsimp only
      split
      · exact hfail .unavailable
      · exact h.validate ⟨by simp, by simp⟩ (by simp [hstg]) (by simp [hstg, authority])
  | resolving auth =>
    cases answers.resolution with
    | none => exact hfail .failed
    | some addresses => exact h.moveTo ⟨by simp, by simp⟩ (by simp [hstg, authority])
  | resolved auth addresses =>
    dsimp only
    split
    · exact hfail .unavailable
    · cases boundedIpv4Candidates addresses with
      | ok candidates =>
        exact h.validate ⟨by simp, by simp⟩ (by simp [hstg]) (by simp [hstg, authority])
      | error error => exact h.validate ⟨by simp, by simp⟩ (by simp [hstg]) (by simp [authority])
  | attempting auth candidates lastError =>
    cases candidates with
    | nil => exact hfail lastError
    | cons candidate rest =>
      dsimp only
      split
      · exact hfail .unavailable
      · exact h.validate ⟨by simp, by simp⟩ (by simp [hstg]) (by simp [hstg, authority])
  | connecting auth rest =>
    dsimp only
    split
    · exact hfail .unavailable
    · split
      · exact h.moveTo ⟨by simp, by simp⟩ (by simp [hstg, authority])
      · exact hfail .rejected
      · exact h.moveTo ⟨by simp, by simp⟩ (by simp [hstg, authority])
  | connected auth =>
    dsimp only
    split
    · exact hfail .unavailable
    · exact h.validate ⟨by simp, by simp⟩ (by simp [hstg]) (by simp [hstg, authority])
  | attemptFailed auth rest error =>
    exact h.validate ⟨by simp, by simp⟩ (by simp [hstg]) (by simp [hstg, authority])
  | returning res =>
    refine h.keeps h.gate.dropPermit rfl ⟨by simp, by simp⟩ ?_
    cases res <;> simp [hstg, authority]
  | returned res => exact h.keeps h.gate rfl ⟨by simp [hstg], fun _ => rfl⟩ fun _ hsome => hsome

omit h

theorem connectSound_runConnect (tgt actions) : ConnectSound (runConnect tgt actions) := by
  have hnew : ConnectSound (.init (.new tgt)) := by
    refine ⟨gateSound_new, ?_, by rintro ⟨⟩, by rintro _ ⟨⟩⟩
    intro _ e he
    cases he
  refine run_invariant (I := ConnectSound) ?_ hnew actions
  intro r act h
  cases act with
  | other act => exact h.other act
  | connect answers => exact h.connect answers

/-- A stream belongs to the generation of its permit exactly when no owner event was accepted
between the permit and the authority. -/
theorem connect_generation_iff (target : ProxyConnectTarget) (actions : List ConnectAction)
    (authority : CellularNetworkAuthority)
    (hreturned : (runConnect target actions).state.stage = .returned (.ok authority)) :
    (runConnect target actions).state.openFor = some authority ↔
      IssuedUnderPermit (runConnect target actions).history :=
  (connectSound_runConnect target actions).issued authority (by rw [hreturned]; rfl)

/-- Every environment answer is the good one. -/
def ConnectAnswers.good : ConnectAnswers := ⟨true, none, .ok ()⟩

def sampleTarget : ProxyConnectTarget := ⟨.ipv4 0xC6336401#32, 443⟩

def qualifiedEvent (sequence : ObservationSequence) (handle : NetworkHandle) : NetworkEvent :=
  .observed ⟨sequence, handle, true, true, true, true⟩

def firstGeneration : CellularNetworkAuthority := ⟨sampleHandle, firstSequence⟩

def secondGeneration : CellularNetworkAuthority := ⟨otherHandle, secondSequence⟩

/-- The first generation is admitted and authorised, and the call takes its permit. -/
def permittedActions : List ConnectAction :=
  [.other (.observe (qualifiedEvent firstSequence sampleHandle)), .other .advance,
    .other .advance, .other (.authorize firstGeneration), .other .advance, .connect .good]

def finishActions : List ConnectAction := List.replicate 7 (.connect .good)

theorem connect_generation_iff_undisturbed :
    (runConnect sampleTarget (permittedActions ++ finishActions)).state.openFor =
        some firstGeneration ∧
      IssuedUnderPermit (runConnect sampleTarget (permittedActions ++ finishActions)).history := by
  have hopen : (runConnect sampleTarget (permittedActions ++ finishActions)).state.openFor =
      some firstGeneration := by decide
  exact ⟨hopen, (connect_generation_iff sampleTarget _ firstGeneration rfl).mp hopen⟩

/-- The second generation is admitted after the permit and before the authority. It is never
authorised. -/
def movedActions : List ConnectAction :=
  permittedActions ++
    [.other (.observe (qualifiedEvent secondSequence otherHandle)), .other .advance,
      .other .advance] ++ finishActions

theorem connect_under_unauthorized_generation :
    (runConnect sampleTarget movedActions).state.stage = .returned (.ok secondGeneration) ∧
      (runConnect sampleTarget movedActions).state.openFor = some firstGeneration ∧
      (runConnect sampleTarget movedActions).state.runtime.gate.ready = false := by
  refine ⟨rfl, ?_, ?_⟩ <;> decide

end MishProxy.Coordination
