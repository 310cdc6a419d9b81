import MishProxy.Mesh.Transport
import Mathlib.Data.List.Pairwise
import Mathlib.Data.List.Sort

/-!
# The stored platform facts and their replay

The product keeps the last observation of every network that was not lost since, and the last
observation of the VPN. A start replays them into the owners of a new generation: the stored
observations in the order of their sequence numbers, and the last loss when no network is stored.

`Compacts` ties the store to the events it has accepted, newest first. `replay_fidelity`: the
replayed owner is admitted exactly when the most recent accepted event of some network is an
observation that qualifies, with the newest of these networks, and whenever an owner that heard
everything is admitted, the replayed one is admitted with the same network. Otherwise the replayed
owner may fall back to a network that still qualifies where the live owner has lost its own.
-/

namespace MishProxy.Product

open Cellular Text CellularEgress List Bool

structure StoredCellularObservation where
  sequence : ObservationSequence
  observation : NetworkObservation
  observedHandle : NetworkHandle
  interfaceName : Option Text
  deriving DecidableEq

/-- The order of the replay. -/
def StoredCellularObservation.NotAfter (stored other : StoredCellularObservation) : Prop :=
  stored.sequence.raw ≤ other.sequence.raw

instance : DecidableRel StoredCellularObservation.NotAfter := fun stored other =>
  inferInstanceAs (Decidable (stored.sequence.raw ≤ other.sequence.raw))

instance : Std.Total StoredCellularObservation.NotAfter :=
  ⟨fun stored other => Nat.le_total stored.sequence.raw other.sequence.raw⟩

instance : IsTrans StoredCellularObservation StoredCellularObservation.NotAfter :=
  ⟨fun _ _ _ hfirst hsecond => Nat.le_trans hfirst hsecond⟩

structure StoredMeshObservation where
  sequence : Nat
  observation : Mesh.MeshVpnObservation
  deriving DecidableEq

/-- The values of a map that is keyed by the observed network. -/
structure CellularMap where
  values : List StoredCellularObservation
  distinct : values.Pairwise fun stored other => stored.observedHandle ≠ other.observedHandle

namespace CellularMap

def empty : CellularMap := ⟨[], .nil⟩

def remove (handle : NetworkHandle) (map : CellularMap) : CellularMap where
  values := map.values.filter fun stored => stored.observedHandle ≠ handle
  distinct := map.distinct.filter _

def insert (stored : StoredCellularObservation) (map : CellularMap) : CellularMap where
  values := stored :: (map.remove stored.observedHandle).values
  distinct := by
    refine List.pairwise_cons.mpr ⟨?_, (map.remove stored.observedHandle).distinct⟩
    intro other hmem
    have hne := (List.mem_filter.mp hmem).2
    exact fun heq => of_decide_eq_true hne heq.symm

end CellularMap

structure ProductPlatformFacts where
  cellular : CellularMap
  lastCellularSequence : Option ObservationSequence
  lastCellularLoss : Option (ObservationSequence × NetworkHandle)
  mesh : Option StoredMeshObservation

namespace ProductPlatformFacts

def empty : ProductPlatformFacts := ⟨.empty, none, none, none⟩

/-- The check at the head of both recording functions. -/
def rejects (sequence : ObservationSequence) (facts : ProductPlatformFacts) : Bool :=
  facts.lastCellularSequence.any fun last => sequence.raw ≤ last.raw

def recordCellularObservation (sequence : ObservationSequence) (observation : NetworkObservation)
    (observedHandle : NetworkHandle) (interfaceName : Option Text) (facts : ProductPlatformFacts) :
    ProductPlatformFacts :=
  if facts.rejects sequence then facts
  else { facts with
    lastCellularSequence := some sequence
    lastCellularLoss := none
    cellular := facts.cellular.insert { sequence, observation, observedHandle, interfaceName } }

def recordCellularLoss (sequence : ObservationSequence) (observedHandle : NetworkHandle)
    (facts : ProductPlatformFacts) : ProductPlatformFacts :=
  if facts.rejects sequence then facts
  else { facts with
    lastCellularSequence := some sequence
    lastCellularLoss := some (sequence, observedHandle)
    cellular := facts.cellular.remove observedHandle }

def recordMesh (sequence : Nat) (observation : Mesh.MeshVpnObservation)
    (facts : ProductPlatformFacts) : ProductPlatformFacts :=
  if facts.mesh.any fun current => sequence ≤ current.sequence then facts
  else { facts with mesh := some { sequence, observation } }

def cellularReplay (facts : ProductPlatformFacts) : List StoredCellularObservation :=
  facts.cellular.values.insertionSort StoredCellularObservation.NotAfter

/-- The events that a start shows to the cellular owner of the new generation. -/
def replayEvents (facts : ProductPlatformFacts) : List NetworkEvent :=
  let cellular := facts.cellularReplay
  cellular.map (fun stored => .observed stored.observation) ++
    if cellular.isEmpty then
      (facts.lastCellularLoss.map fun (sequence, handle) => .lost sequence handle).toList
    else []

/-- The cellular part of `replay_platform_facts`. -/
def replayed (facts : ProductPlatformFacts) : CellularEgress :=
  new.runEvents facts.replayEvents

end ProductPlatformFacts

/-- A call of the platform. Its sequence number and its network are those of the event. -/
inductive PlatformCall where
  | observeNetwork (observation : NetworkObservation) (interfaceName : Option Text)
  | networkLost (sequence : ObservationSequence) (handle : NetworkHandle)
  deriving DecidableEq

def PlatformCall.event : PlatformCall → NetworkEvent
  | .observeNetwork observation _ => .observed observation
  | .networkLost sequence handle => .lost sequence handle

namespace ProductPlatformFacts

def record (facts : ProductPlatformFacts) : PlatformCall → ProductPlatformFacts
  | .observeNetwork observation interfaceName =>
    facts.recordCellularObservation observation.sequence observation observation.handle
      interfaceName
  | .networkLost sequence handle => facts.recordCellularLoss sequence handle

def recordAll (facts : ProductPlatformFacts) (calls : List PlatformCall) : ProductPlatformFacts :=
  calls.foldl record facts

/-- The events that the store accepts, in the order of the calls. -/
def acceptedEvents (facts : ProductPlatformFacts) : List PlatformCall → List NetworkEvent
  | [] => []
  | call :: rest =>
    if facts.rejects call.event.sequence then acceptedEvents (facts.record call) rest
    else call.event :: acceptedEvents (facts.record call) rest

end ProductPlatformFacts

/-! ## The store and the events behind it -/

/-- The newest event of a network; the history is newest first. -/
def mostRecent (handle : NetworkHandle) (history : List NetworkEvent) : Option NetworkEvent :=
  history.find? fun event => event.handle = handle

structure Compacts (facts : ProductPlatformFacts) (history : List NetworkEvent) : Prop where
  last : facts.lastCellularSequence = history.head?.map NetworkEvent.sequence
  loss : ∀ sequence handle, facts.lastCellularLoss = some (sequence, handle) ↔
    history.head? = some (.lost sequence handle)
  stored : ∀ stored ∈ facts.cellular.values, stored.sequence = stored.observation.sequence ∧
    stored.observedHandle = stored.observation.handle
  observed : ∀ observation, (∃ stored ∈ facts.cellular.values, stored.observation = observation) ↔
    mostRecent observation.handle history = some (.observed observation)
  decreasing : history.Pairwise fun newer older => older.sequence.raw < newer.sequence.raw

variable {handle : NetworkHandle}

theorem mostRecent_cons {ev hist} : mostRecent handle (ev :: hist) =
      if ev.handle = handle then some ev else mostRecent handle hist := by
  simp only [mostRecent, find?_cons]
  split <;> simp_all

namespace Compacts

variable {facts : ProductPlatformFacts} {hist : List NetworkEvent}

theorem empty : Compacts .empty [] where
  last := rfl
  loss := by simp [ProductPlatformFacts.empty]
  stored := by rintro _ ⟨⟩
  observed := by simp [ProductPlatformFacts.empty, CellularMap.empty, mostRecent]
  decreasing := .nil

variable (h : Compacts facts hist)
include h

theorem rejects_iff (seq) : facts.rejects seq = true ↔ ∃ ev ∈ hist, seq.raw ≤ ev.sequence.raw := by
  rw [ProductPlatformFacts.rejects, h.last]
  cases hist with
  | nil => simp
  | cons newest older =>
    simp only [head?_cons, Option.map_some, Option.any_some, decide_eq_true_eq]
    constructor
    · exact fun hle => ⟨newest, .head _, hle⟩
    · rintro ⟨ev, hmem, hle⟩
      rcases mem_cons.mp hmem with rfl | hold
      · exact hle
      · have hlt := (pairwise_cons.mp h.decreasing).1 ev hold
        omega

theorem decreasing_cons {ev} (hacc : facts.rejects ev.sequence = false) :
    (ev :: hist).Pairwise fun newer older => older.sequence.raw < newer.sequence.raw := by
  refine pairwise_cons.mpr ⟨fun older hmem => ?_, h.decreasing⟩
  by_contra hle
  have hrejs := (h.rejects_iff ev.sequence).mpr ⟨older, hmem, by omega⟩
  rw [hacc] at hrejs
  cases hrejs

theorem recordCellularObservation {obs}
    (hacc : facts.rejects obs.sequence = false) (interfaceName) : Compacts
      (facts.recordCellularObservation obs.sequence obs obs.handle interfaceName)
      (.observed obs :: hist) := by
  rw [ProductPlatformFacts.recordCellularObservation, if_neg (by rw [hacc]; exact false_ne_true)]
  refine ⟨rfl, by simp, ?_, ?_, h.decreasing_cons hacc⟩
  · intro stored hmem
    rcases mem_cons.mp hmem with rfl | hold
    · exact ⟨rfl, rfl⟩
    · exact h.stored stored (mem_filter.mp hold).1
  · intro other
    rw [mostRecent_cons]
    by_cases hsame : obs.handle = other.handle
    · rw [if_pos (show (NetworkEvent.observed obs).handle = other.handle from hsame)]
      constructor
      · rintro ⟨stored, hmem, rfl⟩
        rcases mem_cons.mp hmem with rfl | hold
        · rfl
        · obtain ⟨hbef, hne⟩ := mem_filter.mp hold
          exact absurd ((h.stored stored hbef).2.trans hsame.symm) (of_decide_eq_true hne)
      · intro heq
        obtain rfl : obs = other := by simpa using heq
        exact ⟨_, .head _, rfl⟩
    · rw [if_neg (show (NetworkEvent.observed obs).handle ≠ other.handle from hsame),
        ← h.observed other]
      constructor
      · rintro ⟨stored, hmem, rfl⟩
        rcases mem_cons.mp hmem with rfl | hold
        · exact absurd rfl hsame
        · exact ⟨stored, (mem_filter.mp hold).1, rfl⟩
      · rintro ⟨stored, hmem, rfl⟩
        refine ⟨stored, .tail _ (mem_filter.mpr ⟨hmem, ?_⟩), rfl⟩
        exact decide_eq_true fun heq => hsame (heq.symm.trans (h.stored stored hmem).2)

theorem recordCellularLoss {seq} (hacc : facts.rejects seq = false) (handle) :
    Compacts (facts.recordCellularLoss seq handle) (.lost seq handle :: hist) := by
  rw [ProductPlatformFacts.recordCellularLoss, if_neg (by rw [hacc]; exact false_ne_true)]
  refine ⟨rfl, by simp, ?_, ?_, h.decreasing_cons hacc⟩
  · intro stored hmem
    exact h.stored stored (mem_filter.mp hmem).1
  · intro other
    rw [mostRecent_cons]
    by_cases hsame : handle = other.handle
    · rw [if_pos (show (NetworkEvent.lost seq handle).handle = other.handle from hsame)]
      refine iff_of_false ?_ (by simp)
      rintro ⟨stored, hmem, rfl⟩
      obtain ⟨hbef, hne⟩ := mem_filter.mp hmem
      exact of_decide_eq_true hne ((h.stored stored hbef).2.trans hsame.symm)
    · rw [if_neg (show (NetworkEvent.lost seq handle).handle ≠ other.handle from hsame),
        ← h.observed other]
      constructor
      · rintro ⟨stored, hmem, rfl⟩
        exact ⟨stored, (mem_filter.mp hmem).1, rfl⟩
      · rintro ⟨stored, hmem, rfl⟩
        refine ⟨stored, mem_filter.mpr ⟨hmem, ?_⟩, rfl⟩
        exact decide_eq_true fun heq => hsame (heq.symm.trans (h.stored stored hmem).2)

theorem record {call} (hacc : facts.rejects call.event.sequence = false) :
    Compacts (facts.record call) (call.event :: hist) := by
  cases call with
  | observeNetwork obs interfaceName => exact h.recordCellularObservation hacc interfaceName
  | networkLost seq handle => exact h.recordCellularLoss hacc handle

end Compacts

namespace ProductPlatformFacts

theorem record_of_rejects {facts : ProductPlatformFacts} {call : PlatformCall}
    (hrej : facts.rejects call.event.sequence = true) : facts.record call = facts := by
  cases call with
  | observeNetwork obs interfaceName | networkLost seq handle => exact if_pos hrej

theorem lastCellularSequence_record {facts : ProductPlatformFacts} {call : PlatformCall}
    (hacc : facts.rejects call.event.sequence = false) :
    (facts.record call).lastCellularSequence = some call.event.sequence := by
  have hnot : ¬ facts.rejects call.event.sequence = true := eq_false_iff.mp hacc
  cases call with
  | observeNetwork obs interfaceName | networkLost seq handle =>
    exact congrArg lastCellularSequence (if_neg hnot)

end ProductPlatformFacts

theorem Compacts.recordAll {facts hist} (h : Compacts facts hist) (calls) :
    Compacts (facts.recordAll calls) ((facts.acceptedEvents calls).reverse ++ hist) := by
  induction calls generalizing facts hist with
  | nil => exact h
  | cons call rest ih =>
    unfold ProductPlatformFacts.acceptedEvents
    cases hrej : facts.rejects call.event.sequence with
    | true =>
      rw [if_pos rfl]
      have hsame := ProductPlatformFacts.record_of_rejects hrej
      show Compacts ((facts.record call).recordAll rest) _
      rw [hsame]
      exact ih h
    | false =>
      rw [if_neg Bool.false_ne_true, reverse_cons, append_assoc, singleton_append]
      exact ih (h.record hrej)

/-! ## What the replay shows to the owner -/

section

variable {facts : ProductPlatformFacts} {hist : List NetworkEvent}

theorem mem_of_mostRecent {handle ev}
    (h : mostRecent handle hist = some ev) : ev ∈ hist := mem_of_find?_eq_some h

theorem Compacts.eq_of_sequence (h : Compacts facts hist) {ev other}
    (hevent : ev ∈ hist) (hoth : other ∈ hist)
    (hseq : ev.sequence.raw = other.sequence.raw) : ev = other := by
  have hpairwise : hist.Pairwise fun newer older =>
      newer.sequence.raw ≠ older.sequence.raw := h.decreasing.imp fun hlt => Nat.ne_of_gt hlt
  have hsymm : Std.Symm fun newer older : NetworkEvent =>
      newer.sequence.raw ≠ older.sequence.raw := ⟨fun _ _ hne => hne.symm⟩
  by_contra hne
  exact hpairwise.forall hevent hoth hne hseq

theorem Compacts.mem_history (h : Compacts facts hist) {stored}
    (hmem : stored ∈ facts.cellular.values) : .observed stored.observation ∈ hist :=
  mem_of_mostRecent ((h.observed stored.observation).mp ⟨stored, hmem, rfl⟩)

theorem Compacts.cellularReplay_increasing (h : Compacts facts hist) :
    facts.cellularReplay.Pairwise fun stored later => stored.sequence.raw < later.sequence.raw := by
  have hsequences : facts.cellular.values.Pairwise fun stored other =>
      stored.sequence.raw ≠ other.sequence.raw := by
    refine facts.cellular.distinct.imp_of_mem fun {stored other} hstored hoth hhandle hsame => ?_
    obtain ⟨hseq, hobsd⟩ := h.stored stored hstored
    obtain ⟨hsequence', hobserved'⟩ := h.stored other hoth
    have heq : NetworkEvent.observed stored.observation = .observed other.observation :=
      h.eq_of_sequence (h.mem_history hstored) (h.mem_history hoth) (by
        show stored.observation.sequence.raw = other.observation.sequence.raw
        rw [← hseq, ← hsequence', hsame])
    have hobservation : stored.observation = other.observation := by simpa using heq
    exact hhandle (hobsd.trans (by rw [hobservation, hobserved']))
  have hsorted : facts.cellularReplay.Pairwise StoredCellularObservation.NotAfter :=
    pairwise_insertionSort _ _
  have hdist := (perm_insertionSort StoredCellularObservation.NotAfter
    facts.cellular.values).symm.pairwise hsequences fun hne => hne.symm
  exact (hsorted.and hdist).imp fun hboth => Nat.lt_of_le_of_ne hboth.1 hboth.2

theorem cellularReplay_distinct (facts : ProductPlatformFacts) :
    facts.cellularReplay.Pairwise fun stored other =>
      stored.observedHandle ≠ other.observedHandle :=
  (perm_insertionSort StoredCellularObservation.NotAfter
    facts.cellular.values).symm.pairwise facts.cellular.distinct fun hne => hne.symm

theorem mem_cellularReplay {stored} :
    stored ∈ facts.cellularReplay ↔ stored ∈ facts.cellular.values := mem_insertionSort _

/-- Either the stored observations are replayed, or at most the last loss. -/
theorem replayEvents_cases (facts : ProductPlatformFacts) :
    facts.replayEvents = facts.cellularReplay.map (fun stored => .observed stored.observation) ∨
      facts.cellularReplay = [] ∧ ∃ seq handle, facts.lastCellularLoss = some (seq, handle) ∧
        facts.replayEvents = [.lost seq handle] := by
  unfold ProductPlatformFacts.replayEvents
  cases hrepl : facts.cellularReplay with
  | nil =>
    cases hloss : facts.lastCellularLoss with
    | none => exact .inl rfl
    | some loss => exact .inr ⟨rfl, loss.1, loss.2, rfl, rfl⟩
  | cons stored rest => exact .inl (append_nil _)

theorem Compacts.observed_mem_replayEvents (h : Compacts facts hist) {obs} :
    .observed obs ∈ facts.replayEvents ↔ mostRecent obs.handle hist = some (.observed obs) := by
  rw [← h.observed obs]
  have hmem : .observed obs ∈
      facts.cellularReplay.map (fun stored => NetworkEvent.observed stored.observation) ↔
        ∃ stored ∈ facts.cellular.values, stored.observation = obs := by
    simp [mem_cellularReplay]
  rcases replayEvents_cases facts with hrepl | ⟨hnone, seq, handle, _, hrepl⟩
  · rw [hrepl, hmem]
  · rw [hrepl, ← hmem, hnone]
    simp

theorem Compacts.replayEvents_increasing (h : Compacts facts hist) :
    facts.replayEvents.Pairwise fun ev later => ev.sequence.raw < later.sequence.raw := by
  rcases replayEvents_cases facts with hrepl | ⟨_, seq, handle, _, hrepl⟩
  · rw [hrepl, pairwise_map]
    refine h.cellularReplay_increasing.imp_of_mem fun {stored later} hstored hlater hlt => ?_
    show stored.observation.sequence.raw < later.observation.sequence.raw
    rw [← (h.stored stored (mem_cellularReplay.mp hstored)).1,
      ← (h.stored later (mem_cellularReplay.mp hlater)).1]
    exact hlt
  · rw [hrepl]
    exact pairwise_singleton _ _

theorem Compacts.replayEvents_distinct (h : Compacts facts hist) :
    facts.replayEvents.Pairwise fun ev later => ev.handle ≠ later.handle := by
  rcases replayEvents_cases facts with hrepl | ⟨_, seq, handle, _, hrepl⟩
  · rw [hrepl, pairwise_map]
    refine (cellularReplay_distinct facts).imp_of_mem fun {stored later} hstored hlater hne => ?_
    show stored.observation.handle ≠ later.observation.handle
    rw [← (h.stored stored (mem_cellularReplay.mp hstored)).2,
      ← (h.stored later (mem_cellularReplay.mp hlater)).2]
    exact hne
  · rw [hrepl]
    exact pairwise_singleton _ _

end

/-! ## What the owner makes of it -/

variable {events : List NetworkEvent}

theorem exceedingEarlier_of_increasing {earlier}
    (hearl : ∀ x ∈ earlier, ∀ ev ∈ events, x.sequence.raw < ev.sequence.raw)
    (hincreasing : events.Pairwise fun ev later => ev.sequence.raw < later.sequence.raw) :
    exceedingEarlier earlier events = events := by
  induction events generalizing earlier with
  | nil => rfl
  | cons ev rest ih =>
    obtain ⟨hfirst, hrest⟩ := pairwise_cons.mp hincreasing
    have hnewest : ∀ x ∈ earlier, x.sequence.raw < ev.sequence.raw :=
      fun x hx => hearl x hx ev (.head _)
    rw [exceedingEarlier, if_pos hnewest, ih ?_ hrest]
    intro x hx later hlater
    rcases mem_cons.mp hx with rfl | hold
    · exact hfirst later hlater
    · exact hearl x hold later (.tail _ hlater)

variable (hdecreasing : events.Pairwise fun newer older => older.sequence.raw < newer.sequence.raw)
include hdecreasing

/-- With one event of every network, the newest one that qualifies decides. -/
theorem standsAdmitted_iff
    (hdist : events.Pairwise fun newer older => newer.handle ≠ older.handle) :
    CellularEgress.StandsAdmitted handle events ↔
      ∃ ev ∈ events, ev.qualifies = true ∧ ev.handle = handle ∧
        ∀ other ∈ events, other.qualifies = true → other.sequence.raw ≤ ev.sequence.raw := by
  induction events with
  | nil =>
    refine iff_of_false ?_ (by simp)
    rintro ⟨newer, ev, older, heq, -⟩
    cases newer <;> cases heq
  | cons newest rest ih =>
    obtain ⟨holder, hdecreasing'⟩ := pairwise_cons.mp hdecreasing
    obtain ⟨hoth, hdistinct'⟩ := pairwise_cons.mp hdist
    rw [standsAdmitted_cons_iff, ih hdecreasing' hdistinct']
    cases hqual : newest.qualifies with
    | true =>
      rw [if_pos rfl]
      constructor
      · intro hhandle
        refine ⟨newest, .head _, hqual, hhandle, fun other hmem _ => ?_⟩
        rcases mem_cons.mp hmem with rfl | hold
        · exact Nat.le_refl _
        · exact Nat.le_of_lt (holder other hold)
      · rintro ⟨ev, hmem, _, hhandle, hmax⟩
        rcases mem_cons.mp hmem with rfl | hold
        · exact hhandle
        · have hle := hmax newest (.head _) hqual
          have hlt := holder ev hold
          omega
    | false =>
      rw [if_neg Bool.false_ne_true]
      constructor
      · rintro ⟨_, ev, hmem, hevent, hhandle, hmax⟩
        refine ⟨ev, .tail _ hmem, hevent, hhandle, fun other hoth hq => ?_⟩
        rcases mem_cons.mp hoth with rfl | hold
        · cases hqual.symm.trans hq
        · exact hmax other hold hq
      · rintro ⟨ev, hmem, hevent, hhandle, hmax⟩
        rcases mem_cons.mp hmem with rfl | hold
        · cases hqual.symm.trans hevent
        · refine ⟨?_, ev, hold, hevent, hhandle, fun other hother' => hmax other (.tail _ hother')⟩
          exact fun heq => hoth ev hold (heq.trans hhandle.symm)

theorem exists_standsAdmitted
    (hdist : events.Pairwise fun newer older => newer.handle ≠ older.handle)
    {ev} (hmem : ev ∈ events) (hqual : ev.qualifies = true) :
    ∃ handle, CellularEgress.StandsAdmitted handle events := by
  induction events with
  | nil => cases hmem
  | cons newest rest ih =>
    obtain ⟨_, hdecreasing'⟩ := pairwise_cons.mp hdecreasing
    obtain ⟨hoth, hdistinct'⟩ := pairwise_cons.mp hdist
    cases hnewest : newest.qualifies with
    | true =>
      refine ⟨newest.handle, standsAdmitted_cons_iff.mpr ?_⟩
      rw [hnewest, if_pos rfl]
    | false =>
      have hrest : ev ∈ rest := by
        rcases mem_cons.mp hmem with rfl | hold
        · cases hnewest.symm.trans hqual
        · exact hold
      obtain ⟨handle, hstnd⟩ := ih hdecreasing' hdistinct' hrest
      refine ⟨handle, standsAdmitted_cons_iff.mpr ?_⟩
      rw [hnewest, if_neg Bool.false_ne_true]
      obtain ⟨standing, hstanding, _, hhandle, _⟩ :=
        (standsAdmitted_iff hdecreasing' hdistinct').mp hstnd
      exact ⟨fun heq => hoth standing hstanding (heq.trans hhandle.symm), hstnd⟩

omit hdecreasing

theorem acceptedEvents_eq_live {facts : ProductPlatformFacts} {owner : CellularEgress}
    (h : facts.lastCellularSequence = owner.admission.lastSequence) (calls) :
    facts.acceptedEvents calls = owner.acceptedEvents (calls.map PlatformCall.event) := by
  induction calls generalizing facts owner with
  | nil => rfl
  | cons call rest ih =>
    have hcheck : facts.rejects call.event.sequence = owner.isStale call.event.sequence := by
      rw [ProductPlatformFacts.rejects, isStale, h]
    rw [map_cons, ProductPlatformFacts.acceptedEvents, acceptedEvents, accepts, ← hcheck]
    cases hrej : facts.rejects call.event.sequence with
    | true =>
      have haccs : owner.accepts call.event = false := by
        rw [accepts, ← hcheck, hrej]
        rfl
      rw [ProductPlatformFacts.record_of_rejects hrej, next_of_not_accepts haccs]
      exact ih h
    | false =>
      have haccs : owner.accepts call.event = true := by
        rw [accepts, ← hcheck, hrej]
        rfl
      have hlast : (facts.record call).lastCellularSequence =
          (owner.next call.event).admission.lastSequence := by
        rw [next_of_accepts haccs, accept_lastSequence,
          ProductPlatformFacts.lastCellularSequence_record hrej]
      rw [if_neg Bool.false_ne_true, if_pos (Bool.not_false), ih hlast]

/-- The accepted events of a list of calls, newest first. -/
def acceptedHistory (calls : List PlatformCall) : List NetworkEvent :=
  (ProductPlatformFacts.empty.acceptedEvents calls).reverse

/-- The most recent accepted event of the observed network is this observation, and it
qualifies. -/
def LastQualifies (calls : List PlatformCall) (observation : NetworkObservation) : Prop :=
  mostRecent observation.handle (acceptedHistory calls) = some (.observed observation) ∧
    observation.rejectionReason = none

theorem compacts_recordAll (calls) :
    Compacts (ProductPlatformFacts.empty.recordAll calls) (acceptedHistory calls) := by
  have h := Compacts.empty.recordAll calls
  rwa [append_nil] at h

/-- A replay shows each network once, oldest event first, and of the observations exactly those
that no accepted event of their network has followed. -/
theorem replay_compacts (calls : List PlatformCall) :
    let replay := (ProductPlatformFacts.empty.recordAll calls).replayEvents
    (replay.Pairwise fun ev later =>
      ev.sequence.raw < later.sequence.raw ∧ ev.handle ≠ later.handle) ∧
    ∀ obs, .observed obs ∈ replay ↔
      mostRecent obs.handle (acceptedHistory calls) = some (.observed obs) := by
  have h := compacts_recordAll calls
  exact ⟨h.replayEvents_increasing.and h.replayEvents_distinct,
    fun obs => h.observed_mem_replayEvents⟩

theorem qualifies_iff {ev : NetworkEvent} : ev.qualifies = true ↔ ∃ obs, ev = .observed obs ∧
      obs.rejectionReason = none := by
  cases ev with
  | observed obs | lost seq handle => simp [NetworkEvent.qualifies]

/-- The newest of the networks whose most recent accepted event qualifies. -/
def Newest (calls : List PlatformCall) (handle : NetworkHandle) : Prop :=
  ∃ observation, LastQualifies calls observation ∧ observation.handle = handle ∧
    ∀ other, LastQualifies calls other → other.sequence.raw ≤ observation.sequence.raw

theorem replayed_admission (calls) :
    CellularEgress.Admission (ProductPlatformFacts.empty.recordAll calls).replayed
      (ProductPlatformFacts.empty.recordAll calls).replayEvents.reverse := by
  have h := admission_new.runEvents
    (ProductPlatformFacts.empty.recordAll calls).replayEvents
  rwa [append_nil, acceptedEvents_eq hasSeen_new, exceedingEarlier_of_increasing (by simp)
    (compacts_recordAll calls).replayEvents_increasing] at h

theorem replayed_admittedNetwork (calls handle) :
    (ProductPlatformFacts.empty.recordAll calls).replayed.admission.admittedNetwork = some handle ↔
      Newest calls handle := by
  have hcmp := compacts_recordAll calls
  have hmem : ∀ obs, .observed obs ∈
      (ProductPlatformFacts.empty.recordAll calls).replayEvents ∧ obs.rejectionReason = none ↔
        LastQualifies calls obs := fun obs => by
    rw [hcmp.observed_mem_replayEvents, LastQualifies]
  rw [(replayed_admission calls).admitted handle, standsAdmitted_iff
    (pairwise_reverse.mpr hcmp.replayEvents_increasing)
    (pairwise_reverse.mpr (hcmp.replayEvents_distinct.imp fun hne => hne.symm))]
  simp only [mem_reverse, qualifies_iff]
  constructor
  · rintro ⟨ev, hevent, ⟨obs, rfl, hreason⟩, hhandle, hmax⟩
    refine ⟨obs, (hmem obs).mp ⟨hevent, hreason⟩, hhandle, fun other hoth => ?_⟩
    obtain ⟨hoth, hotherReason⟩ := (hmem other).mpr hoth
    exact hmax (.observed other) hoth ⟨other, rfl, hotherReason⟩
  · rintro ⟨obs, hlast, hhandle, hmax⟩
    obtain ⟨hevent, hreason⟩ := (hmem obs).mpr hlast
    refine ⟨.observed obs, hevent, ⟨obs, rfl, hreason⟩, hhandle, ?_⟩
    rintro other hoth ⟨otherObservation, rfl, hotherReason⟩
    exact hmax otherObservation ((hmem otherObservation).mp ⟨hoth, hotherReason⟩)

theorem exists_newest {calls obs}
    (h : LastQualifies calls obs) : ∃ handle, Newest calls handle := by
  have hcmp := compacts_recordAll calls
  have hmem := hcmp.observed_mem_replayEvents.mpr h.1
  obtain ⟨handle, hstnd⟩ := exists_standsAdmitted
    (pairwise_reverse.mpr hcmp.replayEvents_increasing)
    (pairwise_reverse.mpr (hcmp.replayEvents_distinct.imp fun hne => hne.symm))
    (mem_reverse.mpr hmem) (qualifies_iff.mpr ⟨obs, rfl, h.2⟩)
  exact ⟨handle, (replayed_admittedNetwork calls handle).mp
    (((replayed_admission calls).admitted handle).mpr hstnd)⟩

/-- The network that a live owner has admitted was the last one to qualify, and its most recent
event is the one it qualified with. -/
theorem newest_of_live {calls}
    (h : (new.runEvents (calls.map PlatformCall.event)).admission.admittedNetwork =
      some handle) : Newest calls handle := by
  have hadm := admission_new.runEvents (calls.map PlatformCall.event)
  have hacc : ProductPlatformFacts.empty.acceptedEvents calls =
      new.acceptedEvents (calls.map PlatformCall.event) := acceptedEvents_eq_live rfl calls
  rw [append_nil, ← hacc] at hadm
  obtain ⟨newer, ev, older, hhist, hnewer, hqual, hhandle⟩ := (hadm.admitted handle).mp h
  have hhist : acceptedHistory calls = newer ++ ev :: older := hhist
  obtain ⟨obs, rfl, hreason⟩ := qualifies_iff.mp hqual
  have hrecent : mostRecent obs.handle (acceptedHistory calls) = some (.observed obs) := by
    have hskipped : mostRecent obs.handle newer = none := by
      refine find?_eq_none.mpr fun x hx hsame => ?_
      exact (hnewer x hx).2 ((of_decide_eq_true hsame).trans hhandle)
    have hfound : mostRecent obs.handle (.observed obs :: older) =
        some (.observed obs) := mostRecent_cons.trans (if_pos rfl)
    rw [mostRecent] at hskipped hfound ⊢
    rw [hhist, find?_append, hskipped, Option.none_or, hfound]
  refine ⟨obs, ⟨hrecent, hreason⟩, hhandle, fun other hoth => ?_⟩
  have hmem : .observed other ∈ newer ++ .observed obs :: older := hhist ▸ mem_of_mostRecent hoth.1
  have hdecreasing := (compacts_recordAll calls).decreasing
  rw [hhist] at hdecreasing
  rcases mem_append.mp hmem with hnew | hold
  · have hnot := (hnewer _ hnew).1
    cases hnot.symm.trans (qualifies_iff.mpr ⟨other, rfl, hoth.2⟩)
  · rcases mem_cons.mp hold with heq | hold
    · have hsame : other = obs := by simpa using heq
      exact Nat.le_of_eq (congrArg (fun o : NetworkObservation => o.sequence.raw) hsame)
    · have hlater := (pairwise_append.mp hdecreasing).2.1
      exact Nat.le_of_lt ((pairwise_cons.mp hlater).1 _ hold)

/-- Replaying the stored facts of any list of calls: the replayed owner is admitted exactly when
the most recent accepted event of some network qualifies, then with the newest such network, and
it is admitted with the network of an owner that has heard the whole list, if that is admitted. -/
theorem replay_fidelity (calls : List PlatformCall) :
    ((ProductPlatformFacts.empty.recordAll calls).replayed.admission.state = .admitted ↔
        ∃ observation, LastQualifies calls observation) ∧
      (∀ handle, (ProductPlatformFacts.empty.recordAll calls).replayed.admission.admittedNetwork =
          some handle ↔ Newest calls handle) ∧
      ∀ handle, (new.runEvents (calls.map PlatformCall.event)).admission.state =
          .admitted →
        (new.runEvents (calls.map PlatformCall.event)).admission.admittedNetwork =
          some handle →
        (ProductPlatformFacts.empty.recordAll calls).replayed.admission.state = .admitted ∧
          (ProductPlatformFacts.empty.recordAll calls).replayed.admission.admittedNetwork =
            some handle := by
  have hnetwork := replayed_admittedNetwork calls
  have hstate := (replayed_admission calls).state
  refine ⟨?_, hnetwork, ?_⟩
  · rw [hstate, Option.isSome_iff_exists]
    constructor
    · rintro ⟨handle, hadmitted⟩
      obtain ⟨observation, hlast, _⟩ := (hnetwork handle).mp hadmitted
      exact ⟨observation, hlast⟩
    · rintro ⟨observation, hlast⟩
      obtain ⟨handle, hnewest⟩ := exists_newest hlast
      exact ⟨handle, (hnetwork handle).mpr hnewest⟩
  · intro handle _ hlive
    have hadmitted := (hnetwork handle).mpr (newest_of_live hlive)
    exact ⟨hstate.mpr (by rw [hadmitted]; rfl), hadmitted⟩

end MishProxy.Product
