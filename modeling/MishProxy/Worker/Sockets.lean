import MishProxy.Worker.DeviceControl

/-!
# What a step of the worker does to its sockets

A socket is authenticated only by the rest of an AUTH handler, which takes the authentication from
all other sockets in the same step. Everything else takes authentications away or leaves them.
`socketChange_step` lists what a step can do to the sockets, to the signatures that are being
verified and to the enrolled identity, and `SocketsFit` is what follows for a whole run.
-/

namespace MishProxy.Worker

open Control Machine List

namespace DeviceControl

/-- Some sockets lose their authentication. -/
structure Fades (w after : DeviceControl) : Prop where
  identity : after.identity = w.identity
  verifying : after.verifying = w.verifying
  nextSocket : after.nextSocket = w.nextSocket
  ids : after.sockets.map (·.id) = w.sockets.map (·.id)
  fewer : ∀ socket ∈ after.sockets, socket.attachment.authenticated = true →
    ∃ old ∈ w.sockets, old.attachment.authenticated = true ∧ old.id = socket.id ∧
      old.attachment.deviceId = socket.attachment.deviceId

namespace Fades

variable {w after last : DeviceControl}

theorem refl (w : DeviceControl) : w.Fades w :=
  ⟨rfl, rfl, rfl, rfl, fun sock hmem hauth => ⟨sock, hmem, hauth, rfl, rfl⟩⟩

theorem trans (h : w.Fades after) (h' : after.Fades last) : w.Fades last where
  identity := h'.identity.trans h.identity
  verifying := h'.verifying.trans h.verifying
  nextSocket := h'.nextSocket.trans h.nextSocket
  ids := h'.ids.trans h.ids
  fewer := by
    intro sock hmem hauth
    obtain ⟨mid, hmid, hauth, hid, hdevice⟩ := h'.fewer sock hmem hauth
    obtain ⟨old, hold, hauth, hid', hdevice'⟩ := h.fewer mid hmid hauth
    exact ⟨old, hold, hauth, hid'.trans hid, hdevice'.trans hdevice⟩

theorem of_eq (hident : after.identity = w.identity) (hverg : after.verifying = w.verifying)
    (hnext : after.nextSocket = w.nextSocket) (hsockets : after.sockets = w.sockets) :
    w.Fades after := by
  refine ⟨hident, hverg, hnext, by rw [hsockets], ?_⟩
  rw [hsockets]
  exact fun sock hmem hauth => ⟨sock, hmem, hauth, rfl, rfl⟩

theorem of_map (w : DeviceControl) (f : Socket → Socket) (hid : ∀ sock, (f sock).id = sock.id)
    (hdevice : ∀ sock, (f sock).attachment.deviceId = sock.attachment.deviceId)
    (hauth : ∀ sock, (f sock).attachment.authenticated = true →
      sock.attachment.authenticated = true) : w.Fades { w with sockets := w.sockets.map f } := by
  refine ⟨rfl, rfl, rfl, ?_, ?_⟩
  · rw [map_map]
    exact map_congr_left fun sock _ => hid sock
  · intro sock hmem hsocket
    obtain ⟨old, hold, rfl⟩ := mem_map.mp hmem
    exact ⟨old, hold, hauth old hsocket, (hid old).symm, (hdevice old).symm⟩

theorem closeStaleAuthenticatedSockets (w : DeviceControl) (nowMs : Int) :
    w.Fades (w.closeStaleAuthenticatedSockets nowMs) := by
  refine of_map w _ ?_ ?_ ?_
  · intro sock
    split <;> rfl
  · intro sock
    split <;> rfl
  · intro sock
    split
    · rintro ⟨⟩
    · exact id

theorem fenceAuthenticatedSockets (w : DeviceControl) : w.Fades w.fenceAuthenticatedSockets :=
  of_map w Socket.deauthenticate (fun _ => rfl) (fun _ => rfl) (by rintro _ ⟨⟩)

theorem fenceOperation (w : DeviceControl) (active : Operation) (nowMs : Int)
    (fenceSockets : Bool) : w.Fades (w.fenceOperation active nowMs fenceSockets) := by
  have hstored : w.Fades { w with
      active := some (active.fence nowMs), alarm := some (nowMs + fencedDrainMs) } :=
    of_eq rfl rfl rfl rfl
  unfold DeviceControl.fenceOperation
  cases fenceSockets with
  | true => exact (hstored.trans (fenceAuthenticatedSockets _)).trans (of_eq rfl rfl rfl rfl)
  | false => exact hstored.trans (of_eq rfl rfl rfl rfl)

theorem reconcile (w : DeviceControl) (nowMs : Int) (fenceSockets : Bool) :
    w.Fades (w.reconcileActiveOperation nowMs fenceSockets) := by
  unfold reconcileActiveOperation
  split
  · exact of_eq rfl rfl rfl rfl
  · split
    · unfold reconcileDispatched
      split_ifs
      · exact of_eq rfl rfl rfl rfl
      · exact of_eq rfl rfl rfl rfl
      · exact fenceOperation w _ nowMs fenceSockets
    · unfold reconcileRecovering
      split_ifs
      · exact of_eq rfl rfl rfl rfl
      · exact fenceOperation w _ nowMs fenceSockets
    · unfold reconcileAccepted
      split
      · exact of_eq rfl rfl rfl rfl
      · split_ifs <;> exact of_eq rfl rfl rfl rfl
    · unfold reconcileFenced
      split
      · exact of_eq rfl rfl rfl rfl
      · split_ifs <;> exact of_eq rfl rfl rfl rfl
    · exact refl w

theorem dispatchRotation (w : DeviceControl) (reqId : Text) (nowMs : Int) (sends : Bool) :
    w.Fades (w.dispatchRotation reqId nowMs sends).2.2 := by
  have hrcl := reconcile w nowMs true
  unfold DeviceControl.dispatchRotation
  dsimp only
  split
  · exact hrcl
  · exact hrcl
  · split
    · exact hrcl.trans (closeStaleAuthenticatedSockets _ nowMs)
    · unfold dispatchTo
      split_ifs
      · exact hrcl.trans (of_eq rfl rfl rfl rfl)
      · have hdropped : w.Fades { w.reconcileActiveOperation nowMs true with
            active := none, alarm := none } := hrcl.trans (of_eq rfl rfl rfl rfl)
        exact hdropped.trans (closeStaleAuthenticatedSockets _ nowMs)

theorem redeliver (w : DeviceControl) (sock : Nat) (nowMs : Int) (sends : Bool) :
    w.Fades (w.redeliverRecoveredOperation sock nowMs sends).2 := by
  unfold redeliverRecoveredOperation
  split
  · exact refl w
  · split_ifs
    · exact refl w
    · exact reconcile w nowMs true
    · exact of_eq rfl rfl rfl rfl
    · exact (of_eq rfl rfl rfl rfl : w.Fades (w.store _ _)).trans (fenceOperation _ _ nowMs true)

theorem handleAccepted (w : DeviceControl) (reqId : Text) (opId : Nat) (nowMs : Int) :
    w.Fades (w.handleAccepted reqId opId nowMs) := by
  unfold DeviceControl.handleAccepted
  split
  · exact refl w
  · split_ifs
    · exact refl w
    · split <;> exact of_eq rfl rfl rfl rfl

theorem acceptLateResult (w : DeviceControl) (sock : Nat) (reqId : Text)
    (res : RemoteRotationResult) (opId : Option Nat) (nowMs : Int) (sends : Bool) :
    w.Fades (w.acceptLateResult sock reqId res opId nowMs sends).2 := by
  unfold DeviceControl.acceptLateResult
  split
  · exact refl w
  · split_ifs <;> exact of_eq rfl rfl rfl rfl

theorem acceptResult (w : DeviceControl) (sock : Nat) (reqId : Text)
    (res : RemoteRotationResult) (opId : Option Nat) (nowMs : Int) (sends : Bool) :
    w.Fades (w.acceptResult sock reqId res opId nowMs sends).2 := by
  unfold DeviceControl.acceptResult
  split
  · exact acceptLateResult w sock reqId res opId nowMs sends
  · split_ifs
    · exact acceptLateResult w sock reqId res opId nowMs sends
    · exact refl w
    · exact refl w
    · exact of_eq rfl rfl rfl rfl

end Fades

/-- The enrollment replaces the enrolled device by another one. -/
def replaces (w : DeviceControl) : Input → Bool
  | .enroll identity expected nowMs => isDeviceId identity.deviceId && w.identity.any fun current =>
      current ≠ identity && expected = some current.deviceId &&
        expected ≠ some identity.deviceId &&
          !(w.closeStaleAuthenticatedSockets nowMs).oldRuntimeActive
  | _ => false

/-- What a step does to the sockets, the verifications and the identity. -/
inductive SocketChange (w : DeviceControl) (input : Input) : DeviceControl → Prop where
  | fades {after : DeviceControl} (hfades : w.Fades after) : SocketChange w input after
  | verifies {verification : Verification} {identity : DeviceIdentity}
    (hidentity : w.identity = some identity) (hdevice : verification.deviceId = identity.deviceId) :
    SocketChange w input { w with verifying := verification :: w.verifying }
  | refuses (verification : Verification) :
    SocketChange w input { w with verifying := w.verifying.erase verification }
  | authenticates {verification : Verification} {after : DeviceControl} (nowMs : Int)
    (hpending : verification ∈ w.verifying)
    (hfades : ({ w with verifying := w.verifying.erase verification }.authenticateSocket
      verification nowMs).Fades after) : SocketChange w input after
  | connects {after : DeviceControl} {socket : Socket}
    (hidentity : after.identity = w.identity) (hsome : w.identity.isSome = true)
    (hverifying : after.verifying = w.verifying) (hid : socket.id = w.nextSocket)
    (hauth : socket.attachment.authenticated = false)
    (hsockets : after.sockets = w.sockets ++ [socket])
    (hnext : after.nextSocket = w.nextSocket + 1) : SocketChange w input after
  | disconnects (socketId : Nat) :
    SocketChange w input { w with sockets := w.sockets.filter (·.id ≠ socketId) }
  | enrolls {identity : DeviceIdentity} (hnone : w.identity = none) :
    SocketChange w input { w with identity := some identity }
  | replaces {after : DeviceControl} (hreplaces : w.replaces input = true)
    (hsome : w.identity.isSome = true)
    (hverifying : after.verifying = w.verifying) (hnext : after.nextSocket = w.nextSocket)
    (hids : after.sockets.map (·.id) = w.sockets.map (·.id))
    (hidentity : after.identity.isSome = true)
    (hnobody : ∀ socket ∈ after.sockets, socket.attachment.authenticated = false) :
    SocketChange w input after

namespace SocketChange

variable {w : DeviceControl} {input : Input}

theorem stays : SocketChange w input w := .fades (.refl w)

theorem enroll (ident : DeviceIdentity) (expd : Option Text) (nowMs : Int) :
    SocketChange w (.enroll ident expd nowMs) (w.enroll ident expd nowMs) := by
  unfold DeviceControl.enroll
  split
  · exact .stays
  · split
    · split
      · exact .stays
      · exact .enrolls ‹_›
    · rename_i current hcur
      have hclos := Fades.closeStaleAuthenticatedSockets w nowMs
      dsimp only
      split_ifs with hsame hexpected hactive
      · exact .stays
      · exact .stays
      · exact .fades hclos
      · obtain ⟨heq, hne⟩ := not_or.mp hexpected
        refine .replaces ?_ ?_ hclos.verifying hclos.nextSocket ?_ rfl ?_
        · simp_all [DeviceControl.replaces]
        · rw [hcur]
          rfl
        · exact (Fades.fenceAuthenticatedSockets _).ids.trans hclos.ids
        · intro sock hmem
          obtain ⟨old, -, rfl⟩ := mem_map.mp hmem
          rfl

theorem connectDevice (deviceId challenge : Text) (nowMs : Int) :
    SocketChange w input (w.connectDevice deviceId challenge nowMs).2 := by
  unfold DeviceControl.connectDevice
  split
  · exact .stays
  · rename_i ident hident
    split
    · refine .connects rfl ?_ rfl rfl rfl rfl rfl
      rw [hident]
      rfl
    · exact .stays

theorem beginAuth (sock : Socket) (deviceId signature : Text) (nowMs : Int) :
    SocketChange w input (w.beginAuth sock deviceId signature nowMs) := by
  unfold DeviceControl.beginAuth
  split
  · rename_i ident challenge hident _
    split
    · rename_i hmatches
      exact .verifies hident hmatches.2.1.symm
    · exact .stays
  · exact .stays

theorem webSocketMessage (socketId : Nat) (msg : Option DeviceMessage) (nowMs : Int)
    (sends : Bool) : SocketChange w input (w.webSocketMessage socketId msg nowMs sends).2 := by
  unfold DeviceControl.webSocketMessage
  split
  · split_ifs
    · exact .stays
    · split
      · exact beginAuth _ _ _ nowMs
      · exact .stays
    · split
      · exact .fades (.handleAccepted w _ _ nowMs)
      · exact .fades (.acceptResult w socketId _ _ _ nowMs sends)
      · exact .fades (.of_eq rfl rfl rfl rfl)
      · exact .stays
  · exact .stays

theorem completeAuth {verif} (hpend : verif ∈ w.verifying)
    (nowMs : Int) (readySends rotateSends : Bool) :
    SocketChange w input ({ w with verifying := w.verifying.erase verif }.completeAuth
      verif nowMs readySends rotateSends).2 := by
  refine .authenticates nowMs hpend ?_
  have hrcl := Fades.reconcile ({ w with
    verifying := w.verifying.erase verif }.authenticateSocket verif nowMs)
    nowMs false
  unfold DeviceControl.completeAuth
  cases readySends with
  | true => exact hrcl.trans (.redeliver _ verif.socket nowMs rotateSends)
  | false => exact hrcl

end SocketChange

theorem socketChange_step (w : DeviceControl) (input : Input) :
    SocketChange w input (w.step input).2 := by
  cases input with
  | enroll ident expd nowMs => exact .enroll ident expd nowMs
  | connect deviceId challenge nowMs => exact .connectDevice deviceId challenge nowMs
  | message sock msg nowMs sends => exact .webSocketMessage sock msg nowMs sends
  | verified verif valid nowMs readySends rotateSends =>
    unfold step
    dsimp only
    split_ifs with hpend
    · exact .completeAuth hpend nowMs readySends rotateSends
    · exact .refuses verif
    · exact .stays
  | heartbeat socketId atMs =>
    refine .fades (.of_map w _ ?_ ?_ ?_)
    · intro sock
      split <;> rfl
    · intro sock
      split <;> rfl
    · intro sock
      split <;> exact id
  | disconnected socketId => exact .disconnects socketId
  | rotate reqId nowMs sends => exact .fades (.dispatchRotation w reqId nowMs sends)
  | waits reqId expd waiter =>
    refine .fades ?_
    show w.Fades (w.waitForStateChange reqId expd waiter)
    unfold waitForStateChange
    dsimp only
    split_ifs <;> exact .of_eq rfl rfl rfl rfl
  | waited reqId waiter reconcileAtMs =>
    have herased : w.Fades { w with waiters := w.waiters.erase (reqId, waiter) } :=
      .of_eq rfl rfl rfl rfl
    cases reconcileAtMs with
    | none => exact .fades herased
    | some nowMs => exact .fades (herased.trans (.reconcile _ nowMs true))
  | proxy reqId waiter nowMs sends =>
    refine .fades ?_
    show w.Fades (w.proxyAndWait reqId waiter nowMs sends).2
    unfold proxyAndWait
    split
    · exact .closeStaleAuthenticatedSockets w nowMs
    · split_ifs
      · exact .of_eq rfl rfl rfl rfl
      · exact .closeStaleAuthenticatedSockets w nowMs
  | proxied reqId waiter => exact .fades (.of_eq rfl rfl rfl rfl)
  | alarm nowMs =>
    have hfired : w.Fades { w with alarm := none } := .of_eq rfl rfl rfl rfl
    unfold step
    split_ifs
    · exact .fades (hfired.trans (.reconcile _ nowMs true))
    · exact .stays

/-! ## One socket at a time -/

/-- The sockets have ids of their own, and at most one of them is authenticated. -/
structure SocketsFit (w : DeviceControl) : Prop where
  below : ∀ socket ∈ w.sockets, socket.id < w.nextSocket
  nodup : (w.sockets.map (·.id)).Nodup
  one : ∀ socket ∈ w.sockets, ∀ other ∈ w.sockets, socket.attachment.authenticated = true →
    other.attachment.authenticated = true → socket.id = other.id

namespace SocketsFit

variable {w after : DeviceControl}

theorem new : SocketsFit .new where
  below := by
    intro sock hmem
    cases hmem
  nodup := nodup_nil
  one := by
    intro sock hmem
    cases hmem

theorem fades (h : SocketsFit w) (hfades : w.Fades after) : SocketsFit after where
  below := by
    intro sock hmem
    have hid : sock.id ∈ w.sockets.map (·.id) := by
      rw [← hfades.ids]
      exact mem_map_of_mem hmem
    obtain ⟨old, hold, heq⟩ := mem_map.mp hid
    rw [← heq, hfades.nextSocket]
    exact h.below old hold
  nodup := by
    rw [hfades.ids]
    exact h.nodup
  one := by
    intro sock hmem other hmem' hauth hauth'
    obtain ⟨old, hold, hauth, hid, -⟩ := hfades.fewer sock hmem hauth
    obtain ⟨old', hold', hauth', hid', -⟩ := hfades.fewer other hmem' hauth'
    rw [← hid, ← hid']
    exact h.one old hold old' hold' hauth hauth'

theorem change (h : SocketsFit w) {input} (hchg : SocketChange w input after) :
    SocketsFit after := by
  cases hchg with
  | fades hfades => exact h.fades hfades
  | verifies hident hdevice | refuses verif | enrolls hnone => exact ⟨h.below, h.nodup, h.one⟩
  | authenticates nowMs hpend hfades =>
    refine fades ⟨?_, ?_, ?_⟩ hfades
    · intro sock hmem
      obtain ⟨old, hold, rfl⟩ := mem_map.mp hmem
      have hlt := h.below old hold
      split_ifs
      · exact hlt
      · exact hlt
    · refine (congrArg Nodup ?_).mpr h.nodup
      rw [authenticateSocket, map_map]
      refine map_congr_left fun sock _ => ?_
      rw [Function.comp_apply]
      split_ifs <;> rfl
    · intro sock hmem other hmem' hauth hauth'
      obtain ⟨old, -, rfl⟩ := mem_map.mp hmem
      obtain ⟨old', -, rfl⟩ := mem_map.mp hmem'
      split_ifs at hauth hauth' ⊢ with heq heq'
      · exact heq.trans heq'.symm
      · cases hauth'
      · cases hauth
      · cases hauth
  | connects hident hsome hverg hid hauth hsockets hnext =>
    rename_i sock
    constructor
    · intro other hmem
      rw [hsockets] at hmem
      rw [hnext]
      rcases mem_append.mp hmem with hmem | hmem
      · exact (h.below other hmem).trans (Nat.lt_succ_self _)
      · rw [mem_singleton.mp hmem, hid]
        exact Nat.lt_succ_self _
    · rw [hsockets, map_append, map_singleton, hid]
      refine nodup_append.mpr ⟨h.nodup, nodup_singleton _, ?_⟩
      intro id hmem other hoth heq
      obtain ⟨old, hold, rfl⟩ := mem_map.mp hmem
      have hlt := h.below old hold
      rw [mem_singleton.mp hoth] at heq
      omega
    · have hold : ∀ other ∈ after.sockets, other.attachment.authenticated = true →
          other ∈ w.sockets := by
        intro other hmem hoth
        rw [hsockets] at hmem
        rcases mem_append.mp hmem with hmem | hmem
        · exact hmem
        · rw [mem_singleton.mp hmem, hauth] at hoth
          cases hoth
      intro first hmem second hmem' hfirst hsec
      exact h.one first (hold first hmem hfirst) second (hold second hmem' hsec) hfirst hsec
  | disconnects socketId =>
    refine ⟨?_, ?_, ?_⟩
    · exact fun sock hmem => h.below sock (mem_of_mem_filter hmem)
    · exact h.nodup.sublist (filter_sublist.map _)
    · intro sock hmem other hmem'
      exact h.one sock (mem_of_mem_filter hmem) other (mem_of_mem_filter hmem')
  | replaces hrep hsome hverg hnext hids hident hnobody =>
    refine ⟨?_, ?_, ?_⟩
    · intro sock hmem
      have hid : sock.id ∈ w.sockets.map (·.id) := by
        rw [← hids]
        exact mem_map_of_mem hmem
      obtain ⟨old, hold, heq⟩ := mem_map.mp hid
      rw [← heq, hnext]
      exact h.below old hold
    · rw [hids]
      exact h.nodup
    · intro sock hmem _ _ hauth
      rw [hnobody sock hmem] at hauth
      cases hauth

theorem unique (h : SocketsFit w) {sock other} (hsocket : sock ∈ w.sockets)
    (hoth : other ∈ w.sockets) (hauth : sock.attachment.authenticated = true)
    (hauth' : other.attachment.authenticated = true) : other = sock :=
  inj_on_of_nodup_map h.nodup hoth hsocket
    (h.one sock hsocket other hoth hauth hauth').symm

end SocketsFit

end DeviceControl

end MishProxy.Worker
