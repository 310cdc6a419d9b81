import MishProxy.Worker.Operations

/-!
# Who is authenticated

An AUTH handler reads the identity, waits for the verification of the signature and authenticates
its socket without reading the identity again. `enrolled_device_authenticated` proves that an
authenticated socket has the id of the enrolled device in every run in which no device is replaced
during such a wait. `replaced_device_authenticated` is the run in which one is: the device that was
replaced gets authenticated.
-/

namespace MishProxy.Worker

open Control Machine List

namespace DeviceControl

variable {w after : DeviceControl}

def IsEnrolled (w : DeviceControl) (deviceId : Text) : Prop :=
  ∃ identity, w.identity = some identity ∧ deviceId = identity.deviceId

def OnlyEnrolled (w : DeviceControl) : Prop :=
  ∀ socket ∈ w.sockets, socket.attachment.authenticated = true →
    w.IsEnrolled socket.attachment.deviceId

/-- No enrollment replaces the enrolled device while a signature is being verified. -/
def Undisturbed (w : DeviceControl) (input : Input) : Prop :=
  w.replaces input = false ∨ w.verifying = []

instance Undisturbed.decidable (w : DeviceControl) (input : Input) :
    Decidable (w.Undisturbed input) :=
  inferInstanceAs (Decidable (_ ∨ _))

/-- What an authentication needs is also known while the signature is verified. -/
structure EnrollmentFit (w : DeviceControl) : Prop where
  sockets : w.OnlyEnrolled
  verifying : ∀ verification ∈ w.verifying, w.IsEnrolled verification.deviceId

theorem IsEnrolled.congr {deviceId : Text} (h : w.IsEnrolled deviceId)
    (hident : after.identity = w.identity) : after.IsEnrolled deviceId := by
  obtain ⟨ident, hsome, hdevice⟩ := h
  exact ⟨ident, hident.trans hsome, hdevice⟩

namespace EnrollmentFit

theorem new : EnrollmentFit .new where
  sockets := by
    intro sock hmem
    cases hmem
  verifying := by
    intro verif hmem
    cases hmem

theorem fades (h : EnrollmentFit w) (hfades : w.Fades after) : EnrollmentFit after where
  sockets := by
    intro sock hmem hauth
    obtain ⟨old, hold, hauth, -, hdevice⟩ := hfades.fewer sock hmem hauth
    rw [← hdevice]
    exact (h.sockets old hold hauth).congr hfades.identity
  verifying := by
    intro verif hmem
    rw [hfades.verifying] at hmem
    exact (h.verifying verif hmem).congr hfades.identity

/-- The socket gets the id that was read before its signature was verified. -/
theorem authenticateSocket (h : EnrollmentFit w) {verif}
    (hpend : verif ∈ w.verifying) (nowMs : Int) :
    EnrollmentFit ({ w with verifying := w.verifying.erase verif }.authenticateSocket
      verif nowMs) where
  sockets := by
    intro sock hmem hauth
    obtain ⟨old, -, rfl⟩ := mem_map.mp hmem
    split_ifs at hauth ⊢
    · exact (h.verifying verif hpend).congr rfl
    · cases hauth
  verifying := by
    intro other hmem
    exact (h.verifying other (mem_of_mem_erase hmem)).congr rfl

theorem change (h : EnrollmentFit w) {input} (hchg : SocketChange w input after)
    (hund : w.Undisturbed input) : EnrollmentFit after := by
  cases hchg with
  | fades hfades => exact h.fades hfades
  | verifies hident hdevice =>
    rename_i verif ident
    refine ⟨h.sockets, fun other hmem => ?_⟩
    rcases mem_cons.mp hmem with rfl | hmem
    · exact ⟨ident, hident, hdevice⟩
    · exact h.verifying other hmem
  | refuses verif => exact ⟨h.sockets, fun other hmem => h.verifying other (mem_of_mem_erase hmem)⟩
  | authenticates nowMs hpend hfades => exact (h.authenticateSocket hpend nowMs).fades hfades
  | connects hident hsome hverg hid hauth hsockets hnext =>
    constructor
    · intro other hmem hoth
      rw [hsockets] at hmem
      rcases mem_append.mp hmem with hmem | hmem
      · exact (h.sockets other hmem hoth).congr hident
      · rw [mem_singleton.mp hmem, hauth] at hoth
        cases hoth
    · intro verif hmem
      rw [hverg] at hmem
      exact (h.verifying verif hmem).congr hident
  | disconnects socketId =>
    refine ⟨fun sock hmem => ?_, h.verifying⟩
    exact h.sockets sock (mem_of_mem_filter hmem)
  | enrolls hnone =>
    -- without an identity nothing was authenticated and nothing is being verified
    have hnobody : ∀ deviceId, ¬ w.IsEnrolled deviceId := by
      rintro deviceId ⟨ident, hsome, -⟩
      rw [hnone] at hsome
      cases hsome
    constructor
    · intro sock hmem hauth
      exact absurd (h.sockets sock hmem hauth) (hnobody _)
    · intro verif hmem
      exact absurd (h.verifying verif hmem) (hnobody _)
  | replaces hrep hsome hverg hnext hids hident hnobody =>
    constructor
    · intro sock hmem hauth
      rw [hnobody sock hmem] at hauth
      cases hauth
    · intro verif hmem
      rw [hverg] at hmem
      rcases hund with hnot | hidle
      · rw [hrep] at hnot
        cases hnot
      · rw [hidle] at hmem
        cases hmem

end EnrollmentFit

end DeviceControl

theorem enrolled_device_authenticated (inputs : List DeviceControl.Input)
    (hundisturbed : Along (record DeviceControl.step) (fun r input => r.state.Undisturbed input)
      (.init .new) inputs) : (runWorker inputs).state.OnlyEnrolled := by
  have hkept : ((runWorker inputs).state).EnrollmentFit := by
    refine run_invariant_along (I := fun r => r.state.EnrollmentFit) ?_ .new hundisturbed
    intro r input h hinput
    exact h.change (r.state.socketChange_step input) hinput
  exact hkept.sockets

def otherIdentity : DeviceIdentity := ⟨List.replicate 64 'b', "other key".toList⟩

/-- A device is replaced by another one between its connections. -/
def replacedSession : List DeviceControl.Input :=
  .enroll sampleIdentity none 0 :: sampleIdentity.connects 0 0 ++
  [.disconnected 0, .enroll otherIdentity (some sampleIdentity.deviceId) 10] ++
  otherIdentity.connects 1 20

theorem enrolled_device_authenticated_replaced :
    ((runWorker replacedSession).state.sockets.any fun socket =>
        socket.attachment.authenticated && socket.attachment.deviceId == otherIdentity.deviceId) ∧
      (runWorker replacedSession).state.OnlyEnrolled :=
  ⟨by decide +kernel, enrolled_device_authenticated replacedSession (by decide +kernel)⟩

/-- The same replacement while the signature of the first device is being verified. -/
def overtakenSession : List DeviceControl.Input :=
  .enroll sampleIdentity none 0 :: (sampleIdentity.connects 0 0).take 2 ++
  [.enroll otherIdentity (some sampleIdentity.deviceId) 10] ++ (sampleIdentity.connects 0 20).drop 2

theorem replaced_device_authenticated :
    (runWorker overtakenSession).state.verifying = [] ∧
      (runWorker overtakenSession).state.identity = some otherIdentity ∧
      (∃ socket ∈ (runWorker overtakenSession).state.sockets,
        socket.attachment.authenticated = true ∧
          socket.attachment.deviceId = sampleIdentity.deviceId) ∧
      ¬ (runWorker overtakenSession).state.OnlyEnrolled := by
  have hidentity : (runWorker overtakenSession).state.identity = some otherIdentity := by
    decide +kernel
  have hsocket : ∃ socket ∈ (runWorker overtakenSession).state.sockets,
      socket.attachment.authenticated = true ∧
        socket.attachment.deviceId = sampleIdentity.deviceId := by
    decide +kernel
  refine ⟨by decide +kernel, hidentity, hsocket, fun h => ?_⟩
  obtain ⟨socket, hmem, hauth, hdevice⟩ := hsocket
  obtain ⟨identity, hsome, hsame⟩ := h socket hmem hauth
  rw [hidentity] at hsome
  cases hsome
  rw [hdevice] at hsame
  exact absurd hsame (by decide)

end MishProxy.Worker
