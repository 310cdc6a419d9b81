import MishProxy.Product.PlatformFacts

/-!
# Stale platform events across generations

The store and the cellular owner of a generation each remember the last sequence number they
accepted. While the product is stopped only the store hears the platform; a start builds the
owner of the new generation from the replay. The replay leaves out a loss when some network is
stored, and then the owner's last number is smaller than that of the store: an event between the
two is stale for the store and new for the owner (`stale_event_applied`).

`stale_stays_stale`: this is the only way. When no start finds a last loss together with a stored
network, the owner of a running product ignores whatever the store rejects.
-/

namespace MishProxy.Product

open Machine Cellular List Bool ProductPlatformFacts CellularEgress

structure PlatformProduct where
  facts : ProductPlatformFacts
  active : Bool
  owner : CellularEgress

inductive PlatformAction where
  | platform (call : PlatformCall)
  | stop
  | start
  deriving DecidableEq

namespace PlatformProduct

def new : PlatformProduct := ⟨.empty, false, .new⟩

/-- A stop installs a fresh generation, a start replays the facts into it. -/
def step (s : PlatformProduct) : PlatformAction → PlatformProduct
  | .platform call =>
    { s with
      facts := s.facts.record call
      owner := if s.active then s.owner.next call.event else s.owner }
  | .stop => { s with active := false, owner := .new }
  | .start => if s.active then s else { s with active := true, owner := s.facts.replayed }

/-- A start of a stopped product replays the newest event that the store has accepted. -/
def ReplaysNewest (s : PlatformProduct) : PlatformAction → Prop
  | .start => s.active = true ∨ s.facts.lastCellularLoss = none ∨ s.facts.cellular.values = []
  | _ => True

instance (s : PlatformProduct) : ∀ action, Decidable (s.ReplaysNewest action)
  | .start => inferInstanceAs
      (Decidable (s.active = true ∨ s.facts.lastCellularLoss = none ∨ s.facts.cellular.values = []))
  | .platform _ | .stop => .isTrue trivial

end PlatformProduct

def runPlatform (actions : List PlatformAction) : PlatformProduct :=
  run PlatformProduct.step .new actions

/-- What the store rejects, the owner ignores. -/
def Covers (facts : ProductPlatformFacts) (owner : CellularEgress) : Prop :=
  ∀ event : NetworkEvent, facts.rejects event.sequence = true → owner.accepts event = false

theorem hasSeen_runEvents {owner : CellularEgress} {earlier : List NetworkEvent}
    (h : owner.HasSeen earlier) (events) :
    (owner.runEvents events).HasSeen (events.reverse ++ earlier) := by
  induction events generalizing owner earlier with
  | nil => exact h
  | cons ev rest ih =>
    rw [reverse_cons, append_assoc, singleton_append]
    exact ih (h.next ev)

variable {facts : ProductPlatformFacts}

theorem accepts_eq_false_of_replayed {ev shown}
    (hshown : shown ∈ facts.replayEvents) (hle : ev.sequence.raw ≤ shown.sequence.raw) :
    facts.replayed.accepts ev = false := by
  have hseen := hasSeen_runEvents hasSeen_new facts.replayEvents ev
  rw [append_nil] at hseen
  refine eq_false_iff.mpr fun haccs => ?_
  have hlt := hseen.mp haccs shown (mem_reverse.mpr hshown)
  omega

theorem Compacts.covers_replayed {hist} (h : Compacts facts hist)
    (hnewest : facts.lastCellularLoss = none ∨ facts.cellular.values = []) :
    Covers facts facts.replayed := by
  intro ev hrej
  cases hist with
  | nil =>
    obtain ⟨_, hmem, _⟩ := (h.rejects_iff ev.sequence).mp hrej
    cases hmem
  | cons newest older =>
    have hle : ev.sequence.raw ≤ newest.sequence.raw := by
      rw [rejects, h.last] at hrej
      simpa using hrej
    refine accepts_eq_false_of_replayed ?_ hle
    cases newest with
    | observed obs => exact h.observed_mem_replayEvents.mpr (mostRecent_cons.trans (if_pos rfl))
    | lost seq handle =>
      have hloss := (h.loss seq handle).mpr rfl
      have hempty : facts.cellular.values = [] :=
        hnewest.resolve_left fun hnone => by cases hnone.symm.trans hloss
      have hrepl : facts.cellularReplay = [] := by
        rw [cellularReplay, hempty, insertionSort_nil]
      rw [replayEvents, hrepl, hloss]
      exact mem_singleton.mpr rfl

/-- A live event reaches both, whether or not the store had accepted it before. -/
theorem Covers.next {owner} (h : Covers facts owner) (call) :
    Covers (facts.record call) (owner.next call.event) := by
  intro ev hrej
  cases hcall : facts.rejects call.event.sequence with
  | true =>
    rw [record_of_rejects hcall] at hrej
    rw [next_of_not_accepts (h call.event hcall)]
    exact h ev hrej
  | false =>
    have hle : ev.sequence.raw ≤ call.event.sequence.raw := by
      rw [rejects, lastCellularSequence_record hcall]
        at hrej
      simpa using hrej
    refine eq_false_iff.mpr fun haccs => ?_
    rw [accepts_iff] at haccs
    cases hown : owner.accepts call.event with
    | true =>
      rw [next_of_accepts hown] at haccs
      have hlt := haccs call.event.sequence accept_lastSequence
      omega
    | false =>
      rw [next_of_not_accepts hown] at haccs
      have hstale : ¬ owner.accepts call.event = true := eq_false_iff.mp hown
      rw [accepts_iff] at hstale
      push Not at hstale
      obtain ⟨last, hlast, hnotLess⟩ := hstale
      have hlt := haccs last hlast
      omega

structure Tracks (s : PlatformProduct) : Prop where
  compacted : ∃ history, Compacts s.facts history
  covered : s.active = true → Covers s.facts s.owner

theorem Tracks.step {s} (h : Tracks s) {act}
    (hnewest : s.ReplaysNewest act) : Tracks (s.step act) := by
  obtain ⟨hist, hcmp⟩ := h.compacted
  cases act with
  | platform call =>
    refine ⟨?_, fun hact => ?_⟩
    · cases hcall : s.facts.rejects call.event.sequence with
      | true =>
        refine ⟨hist, ?_⟩
        show Compacts (s.facts.record call) hist
        rw [record_of_rejects hcall]
        exact hcmp
      | false => exact ⟨call.event :: hist, hcmp.record hcall⟩
    · have hact : s.active = true := hact
      show Covers (s.facts.record call) (if s.active then s.owner.next call.event else s.owner)
      rw [if_pos hact]
      exact (h.covered hact).next call
  | stop => exact ⟨⟨hist, hcmp⟩, by rintro ⟨⟩⟩
  | start =>
    simp only [PlatformProduct.step]
    split_ifs with hact
    · exact h
    · exact ⟨⟨hist, hcmp⟩, fun _ => hcmp.covers_replayed (hnewest.resolve_left hact)⟩

/-- The owner of a started product ignores every event that the store rejects, when every start
finds no last loss or no stored network. -/
theorem stale_stays_stale (actions : List PlatformAction)
    (hnewest : Along PlatformProduct.step PlatformProduct.ReplaysNewest .new actions)
    (hactive : (runPlatform actions).active = true) (event : NetworkEvent)
    (hrejected : (runPlatform actions).facts.rejects event.sequence = true) :
    (runPlatform actions).owner.apply event =
      (.ignoredStale (runPlatform actions).owner.admission, (runPlatform actions).owner) := by
  have hinvariant : Tracks (runPlatform actions) :=
    run_invariant_along (fun _ _ h hguard => h.step hguard)
      ⟨⟨[], Compacts.empty⟩, by rintro ⟨⟩⟩ hnewest
  have hignored := hinvariant.covered hactive event hrejected
  rw [apply_eq, if_neg (eq_false_iff.mp hignored)]

/-! ## A loss that is not replayed -/

/-- A cellular network with all capabilities. -/
def qualifyingObservation (sequence : ObservationSequence) (handle : NetworkHandle) :
    NetworkObservation where
  sequence := sequence
  handle := handle
  isCellular := true
  hasInternet := true
  isValidated := true
  isNotVpn := true

def observeQualifying (sequence : ObservationSequence) (handle : NetworkHandle) : PlatformAction :=
  .platform (.observeNetwork (qualifyingObservation sequence handle) none)

theorem stale_stays_stale_observed :
    (runPlatform [observeQualifying ⟨5, by decide⟩ ⟨1, by decide⟩, .start]).owner.apply
        (.observed (qualifyingObservation ⟨4, by decide⟩ ⟨2, by decide⟩)) =
      (.ignoredStale
        (runPlatform [observeQualifying ⟨5, by decide⟩ ⟨1, by decide⟩, .start]).owner.admission,
        (runPlatform [observeQualifying ⟨5, by decide⟩ ⟨1, by decide⟩, .start]).owner) :=
  stale_stays_stale [observeQualifying ⟨5, by decide⟩ ⟨1, by decide⟩, .start]
    (by decide) (by decide)
    (.observed (qualifyingObservation ⟨4, by decide⟩ ⟨2, by decide⟩)) (by decide)

/-- One network is stored, another one is lost while the product is stopped. -/
def lossBeforeStart : List PlatformAction :=
  [observeQualifying ⟨5, by decide⟩ ⟨1, firstSequence.ne_zero⟩,
    .platform (.networkLost ⟨10, by decide⟩ ⟨2, secondSequence.ne_zero⟩), .start]

theorem stale_event_applied :
    (runPlatform lossBeforeStart).active = true ∧
      (runPlatform lossBeforeStart).facts.rejects ⟨7, by decide⟩ = true ∧
      ((runPlatform lossBeforeStart).owner.apply
        (.lost ⟨7, by decide⟩ ⟨1, by decide⟩)).2.admission.state = .notAdmitted ∧
      (runPlatform lossBeforeStart).owner.admission.state = .admitted := by
  decide

end MishProxy.Product
