import Mathlib.Data.List.Dedup
import MishProxy.Mesh.Transport

/-!
# Epochs of the admitted endpoint

An epoch belongs to one uninterrupted admission of one address. While the address stays admitted
its epoch is `Held`; once it is lost or another address is admitted the epoch is `Gone` for good.
The epoch of an admitted address is always the value of the counter (`Counted`), so a later
admission has a larger one.

* `admission_epochs`: what the epochs of two accepted observations say about the observations
  between them, over every list of observations.
-/

namespace MishProxy.Mesh

open Machine List Option

/-- An admitted endpoint has an epoch, and no epoch is above the counter. -/
structure Numbered (owner : MeshEndpointOwner) : Prop where
  epoch : ∀ endpoint, owner.snapshot.admittedEndpoint = some endpoint →
    ∃ epoch, owner.snapshot.admissionEpoch = some epoch
  le : ∀ epoch, owner.snapshot.admissionEpoch = some epoch → epoch ≤ owner.nextEpoch

/-- The endpoint is admitted under the epoch. -/
def Held (endpoint : BitVec 32) (epoch : Nat) (owner : MeshEndpointOwner) : Prop :=
  owner.snapshot.admissionEpoch = some epoch ∧ owner.snapshot.admittedEndpoint = some endpoint

/-- The epoch is over and will not be given again. -/
def Gone (epoch : Nat) (owner : MeshEndpointOwner) : Prop :=
  epoch ≤ owner.nextEpoch ∧ owner.snapshot.admissionEpoch ≠ some epoch

open MeshEndpointOwner

section

variable {owner after : MeshEndpointOwner} {endpoint : BitVec 32} {epoch : Nat}
  {addresses : List (BitVec 32)} {seq : Nat}

/-- An observation ends the admission, keeps it or begins the next one. -/
theorem observeLocalIpv4_cases (h : owner.observeLocalIpv4 seq addresses = .ok after) :
    (after.snapshot.admissionEpoch = none ∧ after.snapshot.admittedEndpoint = none ∧
        after.nextEpoch = owner.nextEpoch) ∨
    (after.snapshot.admissionEpoch = owner.snapshot.admissionEpoch ∧
        after.snapshot.admittedEndpoint = owner.snapshot.admittedEndpoint ∧
        after.nextEpoch = owner.nextEpoch) ∨
    (after.snapshot.admissionEpoch = some (owner.nextEpoch + 1) ∧
        after.snapshot.admittedEndpoint ≠ owner.snapshot.admittedEndpoint ∧
        after.nextEpoch = owner.nextEpoch + 1) := by
  unfold observeLocalIpv4 at h
  split_ifs at h
  split at h
  · cases h
    exact .inl ⟨rfl, rfl, rfl⟩
  · unfold admitEndpoint at h
    split_ifs at h with hsame
    · cases h
      exact .inr (.inl ⟨rfl, hsame.symm, rfl⟩)
    · cases h
      exact .inr (.inr ⟨rfl, fun heq => hsame heq.symm, rfl⟩)
  · cases h
    exact .inl ⟨rfl, rfl, rfl⟩

theorem Numbered.observe (h : Numbered owner)
    (hobs : owner.observeLocalIpv4 seq addresses = .ok after) : Numbered after := by
  rcases observeLocalIpv4_cases hobs with ⟨hepoch, hend, -⟩ | ⟨hepoch, hend, hnext⟩ |
    ⟨hepoch, -, hnext⟩
  · refine ⟨fun endpoint heq => ?_, fun epoch heq => ?_⟩
    · cases hend.symm.trans heq
    · cases hepoch.symm.trans heq
  · refine ⟨fun endpoint heq => ?_, fun epoch heq => ?_⟩
    · rw [hepoch]
      exact h.epoch endpoint (hend ▸ heq)
    · rw [hnext]
      exact h.le epoch (hepoch ▸ heq)
  · refine ⟨fun endpoint _ => ⟨_, hepoch⟩, fun epoch heq => ?_⟩
    cases hepoch.symm.trans heq
    exact hnext.ge

theorem Gone.observe (h : Gone epoch owner)
    (hobs : owner.observeLocalIpv4 seq addresses = .ok after) : Gone epoch after := by
  obtain ⟨hle, hne⟩ := h
  rcases observeLocalIpv4_cases hobs with ⟨hepoch, -, hnext⟩ | ⟨hepoch, -, hnext⟩ |
    ⟨hepoch, -, hnext⟩
  · exact ⟨hnext ▸ hle, by rw [hepoch]; rintro ⟨⟩⟩
  · exact ⟨hnext ▸ hle, hepoch ▸ hne⟩
  · refine ⟨by omega, ?_⟩
    rw [hepoch]
    intro heq
    have heq := some.inj heq
    omega

theorem Held.observe (hnumd : Numbered owner) (h : Held endpoint epoch owner)
    (hobs : owner.observeLocalIpv4 seq addresses = .ok after) :
    Held endpoint epoch after ∨ Gone epoch after := by
  have hle := hnumd.le epoch h.1
  rcases observeLocalIpv4_cases hobs with ⟨hepoch, -, hnext⟩ | ⟨hepoch, hend, -⟩ |
    ⟨hepoch, -, hnext⟩
  · exact .inr ⟨hnext ▸ hle, by rw [hepoch]; rintro ⟨⟩⟩
  · exact .inl ⟨hepoch.trans h.1, hend.trans h.2⟩
  · refine .inr ⟨by omega, ?_⟩
    rw [hepoch]
    intro heq
    have heq := some.inj heq
    omega

end

/-! ## Whole runs -/

structure LocalObservation where
  sequence : Nat
  addresses : List (BitVec 32)

namespace MeshEndpointOwner

/-- A call of `observe_local_ipv4`: its result and the owner behind it. -/
def observe (owner : MeshEndpointOwner) (observation : LocalObservation) :
    Except MeshOwnerError MeshAdmissionSnapshot × MeshEndpointOwner :=
  match owner.observeLocalIpv4 observation.sequence observation.addresses with
  | .error error => (.error error, owner)
  | .ok after => (.ok after.snapshot, after)

def next (owner : MeshEndpointOwner) (observation : LocalObservation) : MeshEndpointOwner :=
  (owner.observe observation).2

/-- The observation is rejected, or it admits the address. -/
def Admits (address : BitVec 32) (owner : MeshEndpointOwner)
    (observation : LocalObservation) : Prop :=
  ∀ snapshot, (owner.observe observation).1 = .ok snapshot →
    snapshot.admittedEndpoint = some address

end MeshEndpointOwner

/-- The epoch of the admitted endpoint is the last one that was given. -/
structure Counted (owner : MeshEndpointOwner) : Prop extends Numbered owner where
  last : ∀ epoch, owner.snapshot.admissionEpoch = some epoch → owner.nextEpoch = epoch

section

variable {owner after : MeshEndpointOwner} {addr : BitVec 32} {epoch : Nat}
  {addresses : List (BitVec 32)} {obs : LocalObservation}

theorem observe_cases (owner : MeshEndpointOwner) (obs : LocalObservation) :
    (∃ error, owner.observe obs = (.error error, owner)) ∨
    ∃ after, owner.observeLocalIpv4 obs.sequence obs.addresses = .ok after ∧
      owner.observe obs = (.ok after.snapshot, after) := by
  unfold observe
  cases owner.observeLocalIpv4 obs.sequence obs.addresses with
  | error error => exact .inl ⟨error, rfl⟩
  | ok after => exact .inr ⟨after, rfl, rfl⟩

/-- The owner admits the only candidate, if there is just one. -/
theorem observeLocalIpv4_admits {seq : Nat} (h : owner.observeLocalIpv4 seq addresses = .ok after) :
    after.accepted = owner.accepted ∧
      (after.snapshot.state = .admitted ↔ ∃ addr, after.snapshot.admittedEndpoint = some addr) ∧
      ∀ addr, after.snapshot.admittedEndpoint = some addr ↔
        owner.candidates addresses = [addr] := by
  unfold observeLocalIpv4 at h
  split_ifs at h
  split at h
  case h_1 hnone =>
    cases h
    simp [withoutEndpoint, hnone]
  case h_2 endpoint hone =>
    unfold admitEndpoint at h
    split_ifs at h <;> cases h <;> simp [withEndpoint, hone]
  case h_3 hmany =>
    cases h
    simp only [withoutEndpoint, reduceCtorEq, exists_false, false_iff, true_and]
    exact fun addr => hmany addr

theorem candidates_eq_singleton_iff : owner.candidates addresses = [addr] ↔
    (addr ∈ addresses ∧ owner.accepted.contains addr = true) ∧
      ∀ other, other ∈ addresses ∧ owner.accepted.contains other = true → other = addr := by
  have hmem (other : BitVec 32) : other ∈ owner.candidates addresses ↔
      other ∈ addresses ∧ owner.accepted.contains other = true := by
    rw [candidates, mem_dedup, mem_filter]
  simp only [← hmem]
  refine ⟨fun h => by simp [h], fun h => ?_⟩
  refine perm_singleton.mp ((perm_ext_iff_of_nodup (nodup_dedup _)
    (nodup_singleton addr)).mpr fun other => ?_)
  rw [mem_singleton]
  exact ⟨h.2 other, fun heq => heq ▸ h.1⟩

theorem Counted.next (h : Counted owner) (obs) : Counted (owner.next obs) := by
  unfold MeshEndpointOwner.next
  rcases observe_cases owner obs with ⟨error, heq⟩ | ⟨after, hobs, heq⟩
  · rw [heq]
    exact h
  · rw [heq]
    refine ⟨h.toNumbered.observe hobs, fun epoch hafter => ?_⟩
    rcases observeLocalIpv4_cases hobs with ⟨hepoch, -, -⟩ | ⟨hepoch, -, hnext⟩ |
      ⟨hepoch, -, hnext⟩
    · cases hepoch.symm.trans hafter
    · exact hnext.trans (h.last epoch (hepoch.symm.trans hafter))
    · cases hepoch.symm.trans hafter
      exact hnext

theorem Gone.next (h : Gone epoch owner) (obs) : Gone epoch (owner.next obs) := by
  unfold MeshEndpointOwner.next
  rcases observe_cases owner obs with ⟨error, heq⟩ | ⟨after, hobs, heq⟩
  · rw [heq]
    exact h
  · rw [heq]
    exact h.observe hobs

/-- An epoch lasts exactly as long as its address is admitted. -/
theorem Held.next (hnumd : Numbered owner) (h : Held addr epoch owner) (obs) :
    (Held addr epoch (owner.next obs) ∧ owner.Admits addr obs) ∨
      (Gone epoch (owner.next obs) ∧ ¬ owner.Admits addr obs) := by
  unfold MeshEndpointOwner.next MeshEndpointOwner.Admits
  rcases observe_cases owner obs with ⟨error, heq⟩ | ⟨after, hobs, heq⟩
  · rw [heq]
    exact .inl ⟨h, by simp⟩
  · simp only [heq, Except.ok.injEq, forall_eq']
    have hlasts := h.observe hnumd hobs
    rcases observeLocalIpv4_cases hobs with ⟨hepoch, hend, -⟩ | ⟨hepoch, hend, -⟩ |
      ⟨-, hend, -⟩
    · refine .inr ⟨hlasts.resolve_left fun hheld => ?_, by rw [hend]; rintro ⟨⟩⟩
      cases hepoch.symm.trans hheld.1
    · exact .inl ⟨⟨hepoch.trans h.1, hend.trans h.2⟩, hend.trans h.2⟩
    · rw [h.2] at hend
      exact .inr ⟨hlasts.resolve_left fun hheld => hend hheld.2, hend⟩

theorem Held.run (hcounted : Counted owner) (h : Held addr epoch owner) (observations) :
    (Held addr epoch (run MeshEndpointOwner.next owner observations) ∧
        Along MeshEndpointOwner.next (MeshEndpointOwner.Admits addr) owner observations) ∨
      (Gone epoch (run MeshEndpointOwner.next owner observations) ∧
        ¬ Along MeshEndpointOwner.next (MeshEndpointOwner.Admits addr) owner observations) := by
  induction observations generalizing owner with
  | nil => exact .inl ⟨h, trivial⟩
  | cons obs rest ih =>
    rcases h.next hcounted.toNumbered obs with ⟨hheld, hadmits⟩ | ⟨hgone, hnot⟩
    · refine (ih (hcounted.next obs) hheld).imp (And.imp_right fun hall => ⟨hadmits, hall⟩)
        (And.imp_right fun hnot hall => hnot hall.2)
    · exact .inr ⟨run_invariant (fun _ obs h => h.next obs) hgone rest, fun hall => hnot hall.1⟩

theorem accepted_next (owner : MeshEndpointOwner) (obs : LocalObservation) :
    (owner.next obs).accepted = owner.accepted := by
  unfold MeshEndpointOwner.next
  rcases observe_cases owner obs with ⟨error, heq⟩ | ⟨after, hobs, heq⟩ <;> rw [heq]
  exact (observeLocalIpv4_admits hobs).1

theorem Counted.held (h : Counted owner) {snap : MeshAdmissionSnapshot}
    (hok : (owner.observe obs).1 = .ok snap) :
    (owner.next obs).snapshot = snap ∧ (snap.state = .admitted →
      ∃ addr, Held addr (owner.next obs).nextEpoch (owner.next obs)) := by
  have hcounted := h.next obs
  unfold MeshEndpointOwner.next at hcounted ⊢
  rcases observe_cases owner obs with ⟨error, heq⟩ | ⟨after, hobs, heq⟩
  · cases (congrArg Prod.fst heq).symm.trans hok
  · cases (congrArg Prod.fst heq).symm.trans hok
    rw [heq] at hcounted ⊢
    refine ⟨rfl, fun hadm => ?_⟩
    obtain ⟨addr, haddress⟩ := (observeLocalIpv4_admits hobs).2.1.mp hadm
    obtain ⟨epoch, hepoch⟩ := hcounted.epoch addr haddress
    exact ⟨addr, hcounted.last epoch hepoch ▸ hepoch, haddress⟩

end

/-- An observation that is accepted admits when exactly one observed address lies in the accepted
range, and one that is rejected changes nothing. Of two accepted observations that admit, the
epochs are the same exactly when all accepted observations behind the first up to the second admit
its address; otherwise the second epoch is larger. -/
theorem admission_epochs (accepted : Ipv4Cidr) (before between : List LocalObservation)
    (first second : LocalObservation) :
    let owner := run MeshEndpointOwner.next (.new accepted) before
    let later := run MeshEndpointOwner.next (owner.next first) between
    (∀ error, (owner.observe first).1 = .error error → owner.next first = owner) ∧
    ∀ s₁, (owner.observe first).1 = .ok s₁ → (owner.next first).snapshot = s₁ ∧
      (s₁.state = .admitted ↔
        ∃! address, address ∈ first.addresses ∧ accepted.contains address = true) ∧
      ∀ s₂, (later.observe second).1 = .ok s₂ → s₁.state = .admitted → s₂.state = .admitted →
        ∃ address epoch₁ epoch₂, s₁.admittedEndpoint = some address ∧
          s₁.admissionEpoch = some epoch₁ ∧ s₂.admissionEpoch = some epoch₂ ∧
          (epoch₁ = epoch₂ ↔ Along MeshEndpointOwner.next (MeshEndpointOwner.Admits address)
            (owner.next first) (between ++ [second])) ∧
          (epoch₁ ≠ epoch₂ → epoch₁ < epoch₂) := by
  intro owner later
  have hrange : owner.accepted = accepted := run_invariant (I := fun o => o.accepted = accepted)
    (fun o observation h => (accepted_next o observation).trans h) rfl before
  have hnew : Counted (.new accepted) := ⟨⟨by rintro _ ⟨⟩, by rintro _ ⟨⟩⟩, by rintro _ ⟨⟩⟩
  have hcounted : Counted owner :=
    run_invariant (fun _ observation h => h.next observation) hnew before
  have hlater : Counted later :=
    run_invariant (fun _ observation h => h.next observation) (hcounted.next first) between
  refine ⟨fun error herror => ?_, fun s₁ hfirst => ?_⟩
  · rcases observe_cases owner first with ⟨_, heq⟩ | ⟨after, -, heq⟩
    · rw [MeshEndpointOwner.next, heq]
    · cases (congrArg Prod.fst heq).symm.trans herror
  obtain ⟨hsnapshot₁, hheld₁⟩ := hcounted.held hfirst
  refine ⟨hsnapshot₁, ?_, fun s₂ hsecond hadmitted₁ hadmitted₂ => ?_⟩
  · rcases observe_cases owner first with ⟨_, heq⟩ | ⟨after, hobserve, heq⟩
    · cases (congrArg Prod.fst heq).symm.trans hfirst
    · cases (congrArg Prod.fst heq).symm.trans hfirst
      obtain ⟨-, hstate, hadmits⟩ := observeLocalIpv4_admits hobserve
      refine hstate.trans (exists_congr fun address => ?_)
      rw [hadmits, candidates_eq_singleton_iff, hrange]
  · obtain ⟨address, hheld⟩ := hheld₁ hadmitted₁
    obtain ⟨hsnapshot₂, hheld₂⟩ := hlater.held hsecond
    obtain ⟨-, hepoch₂, -⟩ := hheld₂ hadmitted₂
    refine ⟨address, (owner.next first).nextEpoch, (later.next second).nextEpoch,
      hsnapshot₁ ▸ hheld.2, hsnapshot₁ ▸ hheld.1, hsnapshot₂ ▸ hepoch₂, ?_⟩
    have htracked := hheld.run (hcounted.next first) (between ++ [second])
    rw [run_append] at htracked
    rcases htracked with ⟨hlast, hall⟩ | ⟨⟨hle, hne⟩, hnot⟩
    · have hsame := some.inj (hlast.1.symm.trans hepoch₂)
      exact ⟨iff_of_true hsame hall, fun hother => absurd hsame hother⟩
    · have hother : (owner.next first).nextEpoch ≠ (later.next second).nextEpoch :=
        fun hsame => hne (hsame ▸ hepoch₂)
      exact ⟨iff_of_false hother hnot, Nat.lt_of_le_of_ne hle⟩

end MishProxy.Mesh
