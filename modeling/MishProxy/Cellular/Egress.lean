import MishProxy.Machine.Run

/-!
# The owner of the admitted cellular network

The owner takes capability observations and losses of networks. Every event carries a
sequence number, and one that is not newer than the last accepted event is ignored.

* `runEvents_exceedingEarlier`: only the events whose number exceeds all earlier ones count.
* `admitted_iff`: a network is admitted exactly when it was the last one to qualify and was
  neither rejected nor lost since. Events of other networks do not matter, because the
  network observed last is the admitted one for as long as there is one.
* `validates_iff`: an authority is current exactly until the next accepted event.
-/

namespace MishProxy.Cellular

open Machine List

/-- A network of the platform; the platform never hands out zero. -/
structure NetworkHandle where
  raw : Nat
  ne_zero : raw ≠ 0
  deriving DecidableEq

/-- The number of an event; zero is reserved for no event. -/
structure ObservationSequence where
  raw : Nat
  ne_zero : raw ≠ 0
  deriving DecidableEq

def sampleHandle : NetworkHandle := ⟨7, by decide⟩

def otherHandle : NetworkHandle := ⟨9, by decide⟩

def firstSequence : ObservationSequence := ⟨1, by decide⟩

def secondSequence : ObservationSequence := ⟨2, by decide⟩

inductive CellularAdmissionState where
  | unknown
  | notAdmitted
  | admitted
  deriving DecidableEq, Repr

inductive CellularAdmissionReason where
  | noObservation
  | notCellular
  | missingInternetCapability
  | vpnDerivedNetwork
  | notValidated
  | networkLost
  deriving DecidableEq, Repr

structure NetworkObservation where
  sequence : ObservationSequence
  handle : NetworkHandle
  isCellular : Bool
  hasInternet : Bool
  isValidated : Bool
  isNotVpn : Bool
  deriving DecidableEq

def NetworkObservation.rejectionReason (observation : NetworkObservation) :
    Option CellularAdmissionReason :=
  if !observation.isCellular then some .notCellular
  else if !observation.hasInternet then some .missingInternetCapability
  else if !observation.isNotVpn then some .vpnDerivedNetwork
  else if !observation.isValidated then some .notValidated
  else none

structure CellularAdmissionSnapshot where
  state : CellularAdmissionState
  reason : Option CellularAdmissionReason
  admittedNetwork : Option NetworkHandle
  lastSequence : Option ObservationSequence
  deriving DecidableEq

structure CellularNetworkAuthority where
  network : NetworkHandle
  sequence : ObservationSequence
  deriving DecidableEq

inductive CellularNetworkAuthorityError where
  | noAdmittedNetwork
  | networkChanged
  deriving DecidableEq, Repr

inductive ApplyResult where
  | applied (snapshot : CellularAdmissionSnapshot)
  | ignoredStale (snapshot : CellularAdmissionSnapshot)
  deriving DecidableEq

structure CellularEgress where
  admission : CellularAdmissionSnapshot
  lastObservedNetwork : Option NetworkHandle
  deriving DecidableEq

namespace CellularEgress

def new : CellularEgress where
  admission :=
    { state := .unknown
      reason := some .noObservation
      admittedNetwork := none
      lastSequence := none }
  lastObservedNetwork := none

def admittedNetworkAuthority (owner : CellularEgress) :
    Except CellularNetworkAuthorityError CellularNetworkAuthority :=
  if owner.admission.state ≠ .admitted then .error .noAdmittedNetwork
  else match owner.admission.admittedNetwork, owner.admission.lastSequence with
    | some network, some sequence => .ok { network, sequence }
    | _, _ => .error .noAdmittedNetwork

def validateNetworkAuthority (authority : CellularNetworkAuthority) (owner : CellularEgress) :
    Except CellularNetworkAuthorityError Unit :=
  if owner.admission.state = .admitted ∧
      owner.admission.admittedNetwork = some authority.network ∧
      owner.admission.lastSequence = some authority.sequence then .ok ()
  else .error .networkChanged

def isStale (sequence : ObservationSequence) (owner : CellularEgress) : Bool :=
  owner.admission.lastSequence.any fun last => sequence.raw ≤ last.raw

/-- The part of `observe` behind the staleness check. -/
def applyObservation (observation : NetworkObservation) (owner : CellularEgress) :
    CellularEgress :=
  match observation.rejectionReason with
  | some reason =>
    if owner.admission.admittedNetwork = none ∨
        owner.admission.admittedNetwork = some observation.handle then
      { admission :=
          { state := .notAdmitted
            reason := some reason
            admittedNetwork := none
            lastSequence := some observation.sequence }
        lastObservedNetwork := some observation.handle }
    else { owner with
      admission := { owner.admission with lastSequence := some observation.sequence } }
  | none =>
    { admission :=
        { state := .admitted
          reason := none
          admittedNetwork := some observation.handle
          lastSequence := some observation.sequence }
      lastObservedNetwork := some observation.handle }

def observe (observation : NetworkObservation) (owner : CellularEgress) :
    ApplyResult × CellularEgress :=
  if owner.isStale observation.sequence then (.ignoredStale owner.admission, owner)
  else
    let owner := owner.applyObservation observation
    (.applied owner.admission, owner)

/-- The part of `lost` behind the staleness check. -/
def applyLoss (sequence : ObservationSequence) (handle : NetworkHandle) (owner : CellularEgress) :
    CellularEgress :=
  if owner.admission.admittedNetwork = some handle ∨ owner.lastObservedNetwork = some handle ∨
      owner.admission.state = .unknown then
    { admission :=
        { state := .notAdmitted
          reason := some .networkLost
          admittedNetwork := none
          lastSequence := some sequence }
      lastObservedNetwork :=
        if owner.lastObservedNetwork = some handle then none else owner.lastObservedNetwork }
  else { owner with admission := { owner.admission with lastSequence := some sequence } }

def lost (sequence : ObservationSequence) (handle : NetworkHandle) (owner : CellularEgress) :
    ApplyResult × CellularEgress :=
  if owner.isStale sequence then (.ignoredStale owner.admission, owner)
  else
    let owner := owner.applyLoss sequence handle
    (.applied owner.admission, owner)

end CellularEgress

/-! ## Events -/

inductive NetworkEvent where
  | observed (observation : NetworkObservation)
  | lost (sequence : ObservationSequence) (handle : NetworkHandle)
  deriving DecidableEq

namespace NetworkEvent

def sequence : NetworkEvent → ObservationSequence
  | .observed observation => observation.sequence
  | .lost sequence _ => sequence

def handle : NetworkEvent → NetworkHandle
  | .observed observation => observation.handle
  | .lost _ handle => handle

/-- The observation of a network that may be admitted. -/
def qualifies : NetworkEvent → Bool
  | .observed observation => observation.rejectionReason.isNone
  | .lost _ _ => false

end NetworkEvent

namespace CellularEgress

def apply (owner : CellularEgress) : NetworkEvent → ApplyResult × CellularEgress
  | .observed observation => owner.observe observation
  | .lost sequence handle => owner.lost sequence handle

/-- The effect of an event that is not stale. -/
def accept (owner : CellularEgress) : NetworkEvent → CellularEgress
  | .observed observation => owner.applyObservation observation
  | .lost sequence handle => owner.applyLoss sequence handle

def accepts (owner : CellularEgress) (event : NetworkEvent) : Bool := !owner.isStale event.sequence

def next (owner : CellularEgress) (event : NetworkEvent) : CellularEgress := (owner.apply event).2

def runEvents (owner : CellularEgress) (events : List NetworkEvent) : CellularEgress :=
  run next owner events

def acceptedEvents (owner : CellularEgress) : List NetworkEvent → List NetworkEvent
  | [] => []
  | event :: rest =>
    if owner.accepts event then event :: acceptedEvents (owner.next event) rest
    else acceptedEvents (owner.next event) rest

variable {owner : CellularEgress} {event : NetworkEvent}

theorem next_of_accepts (h : owner.accepts event = true) :
    owner.next event = owner.accept event := by
  cases event <;>
    simp_all [next, apply, accept, accepts, observe, CellularEgress.lost, NetworkEvent.sequence]

theorem next_of_not_accepts (h : owner.accepts event = false) : owner.next event = owner := by
  cases event <;>
    simp_all [next, apply, accepts, observe, CellularEgress.lost, NetworkEvent.sequence]

theorem apply_eq : owner.apply event =
    if owner.accepts event then (.applied (owner.accept event).admission, owner.accept event)
    else (.ignoredStale owner.admission, owner) := by
  cases event <;> simp only [apply, accept, accepts, observe, CellularEgress.lost,
    NetworkEvent.sequence] <;> split <;> simp_all

@[simp] theorem accept_lastSequence :
    (owner.accept event).admission.lastSequence = some event.sequence := by
  cases event with
  | observed obs =>
    simp only [accept, applyObservation, NetworkEvent.sequence]
    split
    · split <;> rfl
    · rfl
  | lost seq handle =>
    simp only [accept, applyLoss, NetworkEvent.sequence]
    split <;> rfl

@[simp] theorem runEvents_cons (owner : CellularEgress) (event : NetworkEvent)
    (rest : List NetworkEvent) :
    owner.runEvents (event :: rest) = (owner.next event).runEvents rest := rfl

theorem runEvents_append (owner : CellularEgress) (events later : List NetworkEvent) :
    owner.runEvents (events ++ later) = (owner.runEvents events).runEvents later := foldl_append

/-! ## Only newer events count -/

/-- The events whose sequence number exceeds those of all events before them, whether these
were accepted or not. -/
def exceedingEarlier (earlier : List NetworkEvent) : List NetworkEvent → List NetworkEvent
  | [] => []
  | event :: rest =>
    if ∀ x ∈ earlier, x.sequence.raw < event.sequence.raw then
      event :: exceedingEarlier (event :: earlier) rest
    else exceedingEarlier (event :: earlier) rest

/-- The owner's last sequence number is the largest one that it has been shown. -/
def HasSeen (owner : CellularEgress) (earlier : List NetworkEvent) : Prop :=
  ∀ event : NetworkEvent, owner.accepts event = true ↔
    ∀ x ∈ earlier, x.sequence.raw < event.sequence.raw

theorem hasSeen_new : HasSeen new [] := by
  intro event
  simp [accepts, isStale, new]

theorem accepts_iff : owner.accepts event = true ↔
    ∀ last, owner.admission.lastSequence = some last → last.raw < event.sequence.raw := by
  simp only [accepts, isStale, Bool.not_eq_true', Option.any_eq_false, decide_eq_false_iff_not,
    Nat.not_le]

theorem HasSeen.next {earlier} (h : HasSeen owner earlier)
    (event) : HasSeen (owner.next event) (event :: earlier) := by
  intro later
  rw [forall_mem_cons]
  cases haccs : owner.accepts event with
  | true =>
    have hearl := (h event).mp haccs
    rw [next_of_accepts haccs, accepts_iff, accept_lastSequence]
    constructor
    · intro hlast
      have hlt := hlast _ rfl
      exact ⟨hlt, fun x hx => Nat.lt_trans (hearl x hx) hlt⟩
    · rintro ⟨hlt, -⟩ last hlast
      cases hlast
      exact hlt
  | false =>
    rw [next_of_not_accepts haccs, h later]
    refine (and_iff_right_of_imp fun hlater => ?_).symm
    -- some earlier number is at least that of the ignored event
    have hstale : ¬ ∀ x ∈ earlier, x.sequence.raw < event.sequence.raw := by
      rw [← h event, haccs]
      exact Bool.false_ne_true
    by_contra hle
    exact hstale fun x hx => by have := hlater x hx; omega

theorem acceptedEvents_eq {earlier} (h : HasSeen owner earlier) (events) :
    owner.acceptedEvents events = exceedingEarlier earlier events := by
  induction events generalizing owner earlier with
  | nil => rfl
  | cons event rest ih => simp only [acceptedEvents, exceedingEarlier, h event, ih (h.next event)]

theorem runEvents_acceptedEvents (owner : CellularEgress) (events : List NetworkEvent) :
    owner.runEvents (owner.acceptedEvents events) = owner.runEvents events := by
  induction events generalizing owner with
  | nil => rfl
  | cons event rest ih =>
    cases haccs : owner.accepts event with
    | true => simp only [acceptedEvents, haccs, if_true, runEvents_cons, ih]
    | false =>
      have hkept := next_of_not_accepts haccs
      simp only [acceptedEvents, haccs, Bool.false_eq_true, if_false, runEvents_cons, hkept, ih]

theorem runEvents_exceedingEarlier (events) :
    new.runEvents (exceedingEarlier [] events) = new.runEvents events := by
  rw [← acceptedEvents_eq hasSeen_new, runEvents_acceptedEvents]

/-! ## The admitted network -/

/-- The last event to qualify was of the network, and the network was neither rejected nor
lost since. The history is newest first. -/
def StandsAdmitted (handle : NetworkHandle) : List NetworkEvent → Prop :=
  Since (fun event => event.qualifies = false ∧ event.handle ≠ handle)
    fun event _ => event.qualifies = true ∧ event.handle = handle

structure Admission (owner : CellularEgress) (history : List NetworkEvent) : Prop where
  admitted : ∀ handle, owner.admission.admittedNetwork = some handle ↔
    StandsAdmitted handle history
  observed : ∀ handle, owner.admission.admittedNetwork = some handle →
    owner.lastObservedNetwork = some handle
  state : owner.admission.state = .admitted ↔ owner.admission.admittedNetwork.isSome = true

theorem admission_new : Admission new [] where
  admitted := by
    intro handle
    refine iff_of_false (by rintro ⟨⟩) ?_
    rintro ⟨newer, event, older, heq, -⟩
    cases newer <;> cases heq
  observed := by rintro _ ⟨⟩
  state := by decide

variable {hist : List NetworkEvent}

theorem standsAdmitted_cons_iff {handle} : StandsAdmitted handle (event :: hist) ↔
      if event.qualifies then event.handle = handle
      else event.handle ≠ handle ∧ StandsAdmitted handle hist := by
  unfold StandsAdmitted
  rw [since_cons_iff]
  cases event.qualifies <;> simp

theorem Admission.qualified {obs} (hqual : obs.rejectionReason = none) :
    Admission (owner.applyObservation obs) (.observed obs :: hist) where
  admitted := by
    intro handle
    rw [standsAdmitted_cons_iff]
    simp [applyObservation, hqual, NetworkEvent.qualifies, NetworkEvent.handle]
  observed := by simp [applyObservation, hqual]
  state := by simp [applyObservation, hqual]

variable (h : Admission owner hist)
include h

theorem Admission.evicting {next} (hqual : event.qualifies = false)
    (hcur : owner.admission.admittedNetwork = none ∨
      owner.admission.admittedNetwork = some event.handle)
    (hnone : next.admission.admittedNetwork = none) (hst : next.admission.state ≠ .admitted) :
    Admission next (event :: hist) where
  admitted := by
    intro handle
    rw [hnone, standsAdmitted_cons_iff, hqual]
    refine iff_of_false (by simp) ?_
    rintro ⟨hne, hstnd⟩
    rw [← h.admitted handle] at hstnd
    rcases hcur with hcur | hcur
    · cases hcur.symm.trans hstnd
    · exact hne (Option.some.inj (hcur.symm.trans hstnd))
  observed := by simp [hnone]
  state := by simp [hnone, hst]

/-- An event of another network only moves the sequence number. -/
theorem Admission.unrelated {next} (hqual : event.qualifies = false)
    (hoth : owner.admission.admittedNetwork ≠ some event.handle)
    (hadm : next.admission.admittedNetwork = owner.admission.admittedNetwork)
    (hobsd : next.lastObservedNetwork = owner.lastObservedNetwork)
    (hst : next.admission.state = owner.admission.state) : Admission next (event :: hist) where
  admitted := by
    intro handle
    rw [hadm, standsAdmitted_cons_iff, hqual, h.admitted handle]
    refine (and_iff_right_of_imp ?_).symm
    rintro hstnd rfl
    exact hoth ((h.admitted _).mpr hstnd)
  observed := by
    rw [hadm, hobsd]
    exact h.observed
  state := by
    rw [hadm, hst]
    exact h.state

theorem Admission.accept (event) : Admission (owner.accept event) (event :: hist) := by
  cases event with
  | observed obs =>
    cases hreason : obs.rejectionReason with
    | none => exact .qualified hreason
    | some reason =>
      have hqual : (NetworkEvent.observed obs).qualifies = false := by
        simp [NetworkEvent.qualifies, hreason]
      simp only [CellularEgress.accept, applyObservation, hreason]
      split
      · rename_i hcur
        exact h.evicting hqual hcur rfl (by simp)
      · rename_i hcur
        exact h.unrelated hqual (fun hsome => hcur (.inr hsome)) rfl rfl rfl
  | lost seq handle =>
    simp only [CellularEgress.accept, applyLoss]
    split
    · rename_i hcur
      refine h.evicting rfl ?_ rfl (by simp)
      cases hadm : owner.admission.admittedNetwork with
      | none => exact .inl rfl
      | some network =>
        have hobsd := h.observed network hadm
        have hst := h.state.mpr (by rw [hadm]; rfl)
        rw [hadm, hobsd, hst] at hcur
        rcases hcur with hcur | hcur | hcur
        · exact .inr hcur
        · exact .inr hcur
        · cases hcur
    · rename_i hcur
      exact h.unrelated rfl (fun hsome => hcur (.inl hsome)) rfl rfl rfl

theorem Admission.runEvents (events) :
    Admission (owner.runEvents events) ((owner.acceptedEvents events).reverse ++ hist) := by
  induction events generalizing owner hist with
  | nil => exact h
  | cons event rest ih =>
    rw [runEvents_cons]
    cases haccs : owner.accepts event with
    | true =>
      have hnext := next_of_accepts haccs
      simp only [acceptedEvents, haccs, if_true, reverse_cons, append_assoc, singleton_append]
      rw [hnext]
      exact ih (h.accept event)
    | false =>
      simp only [acceptedEvents, haccs, Bool.false_eq_true, if_false, next_of_not_accepts haccs]
      exact ih h

omit h

theorem admitted_iff (events handle) : ((new.runEvents events).admission.state = .admitted ∧
      (new.runEvents events).admission.admittedNetwork = some handle) ↔
      StandsAdmitted handle (exceedingEarlier [] events).reverse := by
  have hadm := admission_new.runEvents events
  rw [append_nil, acceptedEvents_eq hasSeen_new] at hadm
  rw [hadm.state, ← hadm.admitted handle]
  constructor
  · exact fun h => h.2
  · intro h
    exact ⟨by rw [h]; rfl, h⟩

/-! ## Authorities -/

theorem runEvents_of_acceptedEvents_eq_nil {events}
    (h : owner.acceptedEvents events = []) : owner.runEvents events = owner := by
  rw [← runEvents_acceptedEvents, h]
  rfl

/-- The number of the last accepted event, zero before the first. -/
def lastRaw (owner : CellularEgress) : Nat :=
  owner.admission.lastSequence.elim 0 ObservationSequence.raw

theorem lastRaw_next_of_accepts (h : owner.accepts event = true) :
    owner.lastRaw < (owner.next event).lastRaw := by
  rw [next_of_accepts h]
  simp only [lastRaw, accept_lastSequence, Option.elim_some]
  cases hlast : owner.admission.lastSequence with
  | none => exact Nat.pos_of_ne_zero event.sequence.ne_zero
  | some last => exact accepts_iff.mp h last hlast

theorem lastRaw_le_runEvents (owner : CellularEgress) (events : List NetworkEvent) :
    owner.lastRaw ≤ (owner.runEvents events).lastRaw := by
  induction events generalizing owner with
  | nil => exact Nat.le_refl _
  | cons event rest ih =>
    rw [runEvents_cons]
    refine Nat.le_trans ?_ (ih (owner.next event))
    cases haccs : owner.accepts event with
    | true => exact Nat.le_of_lt (lastRaw_next_of_accepts haccs)
    | false => exact Nat.le_of_eq (congrArg lastRaw (next_of_not_accepts haccs)).symm

theorem lastRaw_lt_runEvents {events} (h : owner.acceptedEvents events ≠ []) :
    owner.lastRaw < (owner.runEvents events).lastRaw := by
  induction events generalizing owner with
  | nil => exact absurd rfl h
  | cons event rest ih =>
    rw [runEvents_cons]
    cases haccs : owner.accepts event with
    | true => exact Nat.lt_of_lt_of_le (lastRaw_next_of_accepts haccs) (lastRaw_le_runEvents _ rest)
    | false =>
      have hkept := next_of_not_accepts haccs
      simp only [acceptedEvents, haccs, Bool.false_eq_true, if_false, hkept] at h
      rw [hkept]
      exact ih h

variable {authority : CellularNetworkAuthority}

theorem admittedNetworkAuthority_eq_ok_iff : owner.admittedNetworkAuthority = .ok authority ↔
      owner.validateNetworkAuthority authority = .ok () := by
  unfold admittedNetworkAuthority validateNetworkAuthority
  by_cases hst : owner.admission.state = .admitted
  · cases hnet : owner.admission.admittedNetwork with
    | none => simp [hst]
    | some network =>
      cases hseq : owner.admission.lastSequence with
      | none => simp [hst]
      | some seq =>
        simp only [hst, ne_eq, not_true_eq_false, if_false, Except.ok.injEq, true_and,
          Option.some.injEq]
        cases authority
        simp
  · simp [hst]

theorem lastRaw_of_validates (h : owner.validateNetworkAuthority authority = .ok ()) :
    owner.lastRaw = authority.sequence.raw := by
  unfold validateNetworkAuthority at h
  split at h
  · rename_i hcur
    simp [lastRaw, hcur.2.2]
  · cases h

theorem validates_iff (hissued : owner.admittedNetworkAuthority = .ok authority) (later) :
    (owner.runEvents later).validateNetworkAuthority authority = .ok () ↔
      owner.acceptedEvents later = [] := by
  rw [admittedNetworkAuthority_eq_ok_iff] at hissued
  constructor
  · intro hvalid
    by_contra hne
    have hlt := lastRaw_lt_runEvents hne
    rw [lastRaw_of_validates hissued, lastRaw_of_validates hvalid] at hlt
    exact Nat.lt_irrefl _ hlt
  · intro hnil
    rw [runEvents_of_acceptedEvents_eq_nil hnil]
    exact hissued

/-- The accepted events determine the owner, the admitted network and how long an authority
is current. -/
theorem admission_determined (events : List NetworkEvent) :
    new.runEvents events = new.runEvents (exceedingEarlier [] events) ∧
    (∀ handle, ((new.runEvents events).admission.state = .admitted ∧
      (new.runEvents events).admission.admittedNetwork = some handle) ↔
        StandsAdmitted handle (exceedingEarlier [] events).reverse) ∧
    ∀ authority later, (new.runEvents events).admittedNetworkAuthority = .ok authority →
      ((new.runEvents (events ++ later)).validateNetworkAuthority authority = .ok () ↔
        (new.runEvents events).acceptedEvents later = []) := by
  refine ⟨(runEvents_exceedingEarlier events).symm, admitted_iff events, ?_⟩
  intro authority later hissued
  rw [runEvents_append]
  exact validates_iff hissued later

/-- Network 7 qualifies, network 9 is rejected, and a late loss of network 7 is ignored. -/
def unrelatedRejection : List NetworkEvent :=
  [.observed ⟨firstSequence, sampleHandle, true, true, true, true⟩,
    .observed ⟨secondSequence, otherHandle, true, true, false, true⟩,
    .lost firstSequence sampleHandle]

theorem admission_determined_unrelatedRejection :
    StandsAdmitted ⟨7, by decide⟩ (exceedingEarlier [] unrelatedRejection).reverse ∧
      ((new.runEvents (unrelatedRejection ++ [.lost ⟨2, by decide⟩ ⟨7, by decide⟩])
        ).validateNetworkAuthority ⟨⟨7, by decide⟩, ⟨2, by decide⟩⟩ = .ok ()) :=
  ⟨((admission_determined unrelatedRejection).2.1 ⟨7, by decide⟩).mp ⟨rfl, rfl⟩,
    ((admission_determined unrelatedRejection).2.2 _ _ rfl).mpr rfl⟩

end CellularEgress

/-- An owner that has heard nothing is unknown, and an admitted one can name its network. -/
structure CellularAdmissionSnapshot.Complete (admission : CellularAdmissionSnapshot) : Prop where
  unheard : admission.lastSequence = none →
    admission.state = .unknown ∧ admission.admittedNetwork = none
  named : admission.state = .admitted →
    admission.lastSequence.isSome = true ∧ admission.admittedNetwork.isSome = true

theorem CellularAdmissionSnapshot.Complete.accept {owner : CellularEgress}
    (h : owner.admission.Complete) (ev) : (owner.accept ev).admission.Complete := by
  refine ⟨by simp, fun hadm => ⟨by simp, ?_⟩⟩
  cases ev with
  | observed obs =>
    simp only [CellularEgress.accept, CellularEgress.applyObservation] at hadm ⊢
    split at hadm
    · split at hadm
      · cases hadm
      · rename_i hkept
        rw [if_neg hkept]
        exact (h.named hadm).2
    · rfl
  | lost seq handle =>
    simp only [CellularEgress.accept, CellularEgress.applyLoss] at hadm ⊢
    split at hadm
    · cases hadm
    · rename_i hkept
      rw [if_neg hkept]
      exact (h.named hadm).2

end MishProxy.Cellular
