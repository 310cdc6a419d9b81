import MishProxy.Worker.Operations

/-!
# Remote rotations from end to end

The device and the worker talk over one connection at a time. What one side writes reaches the
other in order, and a connection that is lost takes everything in flight with it; the device
notices and connects again. `remote_rotation_once` proves that the device prepares at most one
rotation for a request id and that a result the worker remembers was sent by the device, in every
run in which the control runtime is not shut down. `shutdown_forgets_request` is a run in which it
is: the pending request is dropped while the task still serves its connection, and the worker sends
it a second time.

A request that the device has prepared stays its pending one until the result is acknowledged. The
worker acknowledges a result only when the operation is over, and then it sends the request no
more; on a connection the acknowledgement comes after every delivery of the request.
-/

namespace MishProxy.Worker

open Control Machine List

/-! ## Device and worker -/

/-- The connection of the device: its socket at the worker and what is in flight. -/
structure Link where
  socket : Nat
  toDevice : List ServerControlMessage
  toWorker : List DeviceMessage
  deriving DecidableEq

def Link.hears (link : Link) (sent : Sent) : Link :=
  { link with
    toDevice := link.toDevice ++
      sent.filterMap fun x => if x.1 = link.socket then some x.2 else none }

def Link.carries (link : Link) (message : DeviceMessage) : Link :=
  { link with toWorker := link.toWorker ++ [message] }

structure ControlSystem where
  device : ControlRuntime
  worker : DeviceControl
  link : Option Link
  deriving DecidableEq

def DeviceControl.Input.internal : DeviceControl.Input → Bool
  | .connect _ _ _ | .message _ _ _ _ => false
  | _ => true

inductive SystemInput where
  | connects (challenge : Text) (nowMs : Int)
  | drops
  | notices
  | delivers
  | writes (ok : Bool)
  | receives (nowMs : Int) (sends : Bool)
  | device (input : ControlInput)
  | worker (input : DeviceControl.Input)
  deriving DecidableEq

namespace ControlSystem

def new (deviceId : Text) : ControlSystem where
  device := .new deviceId
  worker := .new
  link := none

variable (s : ControlSystem)

/-- A device that goes offline or stops leaves its connection. -/
def onDevice (input : ControlInput) : ControlEffect × ControlSystem :=
  let (effect, device) := s.device.step input
  (effect, { s with
    device := device
    link := if device.stage = .offline ∨ device.stage = .stopped then none else s.link })

def onWorker (input : DeviceControl.Input) : ControlSystem :=
  let (sent, worker) := s.worker.step input
  { s with worker := worker, link := s.link.map (·.hears sent) }

def step : SystemInput → ControlEffect × ControlSystem
  | .connects challenge nowMs =>
    if s.device.stage = .offline then
      match s.worker.step (.connect s.device.deviceId challenge nowMs) with
      | ((socket, message) :: _, worker) =>
        (.nothing, ⟨(s.device.step .connected).2, worker, some ⟨socket, [message], []⟩⟩)
      | ([], worker) => (.nothing, { s with worker := worker })
    else (.nothing, s)
  | .drops => (.nothing, { s with link := none })
  | .notices => if s.link = none then s.onDevice .disconnected else (.nothing, s)
  | .delivers =>
    match s.link with
    | some ⟨socket, message :: rest, toWorker⟩ =>
      if s.device.stage.reads then
        { s with link := some ⟨socket, rest, toWorker⟩ }.onDevice (.receive message)
      else (.nothing, s)
    | _ => (.nothing, s)
  | .writes ok =>
    match s.device.stage with
    | .writing message _ =>
      -- a write that fails ends the connection
      let link := if ok then s.link.map (·.carries message) else none
      { s with link := link }.onDevice (.written ok)
    | _ => (.nothing, s)
  | .receives nowMs sends =>
    match s.link with
    | some ⟨socket, toDevice, message :: rest⟩ =>
      (.nothing, { s with link := some ⟨socket, toDevice, rest⟩ }.onWorker
        (.message socket (some message) nowMs sends))
    | _ => (.nothing, s)
  | .device input => if input.internal then s.onDevice input else (.nothing, s)
  | .worker input => (.nothing, if input.internal then s.onWorker input else s)

def toDevice : List ServerControlMessage := s.link.elim [] (·.toDevice)

def toWorker : List DeviceMessage := s.link.elim [] (·.toWorker)

end ControlSystem

abbrev SystemEvent := Event ControlSystem SystemInput ControlEffect

def runSystem (deviceId : Text) (inputs : List SystemInput) :
    Recorded ControlSystem SystemInput ControlEffect :=
  run (record ControlSystem.step) (.init (.new deviceId)) inputs

/-! ## What is required -/

def preparedOf : ControlEffect → Option Text
  | .prepared requestId _ => some requestId
  | _ => none

/-- The requests for which a rotation was prepared, the last one first. -/
def preparedRequests (history : List SystemEvent) : List Text :=
  history.filterMap fun x => preparedOf x.output

structure RotatesOnce (history : List SystemEvent) : Prop where
  once : (preparedRequests history).Nodup
  reported : Always (fun e older => ∀ operation ∈ e.after.worker.recent, ∀ result,
    operation.result = some (.definitive result) → ∃ x ∈ e :: older, ∃ operationId,
      x.output = .sent (.result operation.requestId result operationId)) history

/-! ## What the worker sends -/

def Retired (history : List WorkerEvent) (requestId : Text) : Prop :=
  ∃ x ∈ history, x.after.ledger.Over requestId

theorem Retired.cons {hist reqId}
    (h : Retired hist reqId) (e : WorkerEvent) : Retired (e :: hist) reqId := by
  obtain ⟨x, hx, hover⟩ := h
  exact ⟨x, mem_cons_of_mem e hx, hover⟩

theorem Sent.mem_rotations {sent : Sent} {sock : Nat} {reqId : Text}
    (h : (sock, .rotateIp reqId) ∈ sent) : reqId ∈ sent.rotations :=
  mem_filterMap.mpr ⟨_, h, rfl⟩

namespace DeviceControl

variable {w : DeviceControl} {sock : Nat} {reqId : Text} {sends : Bool} {tgt : Nat}

theorem mem_sentIf {msg x} (h : x ∈ sentIf sends tgt msg) : x = (tgt, msg) := by
  cases sends with
  | true => exact mem_singleton.mp h
  | false => cases h

theorem over_remember {terminal} (recent : List Operation) (active : Option Operation)
    (alarm : Option Int) :
    Ledger.Over ⟨active, remember terminal recent, alarm⟩ terminal.requestId :=
  .inr ⟨terminal, .head _, rfl⟩

theorem over_acceptLateResult {reported res opId nowMs} (h : (sock, .resultAck reqId) ∈
      (w.acceptLateResult tgt reported res opId nowMs sends).1) :
    (w.acceptLateResult tgt reported res opId nowMs sends).2.ledger.Over reqId := by
  unfold acceptLateResult at h ⊢
  split at h
  · cases h
  · rename_i known hfound
    have hreqt : known.requestId = reported := by simpa using find?_some hfound
    split_ifs at h ⊢
    · cases h
    · cases mem_sentIf h
      rw [← hreqt]
      exact over_remember w.recent w.active w.alarm
    · cases mem_sentIf h
      exact .inr ⟨known, mem_of_find?_eq_some hfound, hreqt⟩
    · cases h

theorem over_webSocketMessage {msg nowMs}
    (h : (sock, .resultAck reqId) ∈ (w.webSocketMessage tgt msg nowMs sends).1) :
    (w.webSocketMessage tgt msg nowMs sends).2.ledger.Over reqId := by
  unfold webSocketMessage at h ⊢
  split at h
  · split_ifs at h ⊢
    · cases h
    · split at h <;> cases h
    · split at h
      · cases h
      · unfold acceptResult at h ⊢
        split at h
        · exact over_acceptLateResult h
        · rename_i active hact
          split_ifs at h ⊢ with hoth
          · exact over_acceptLateResult h
          · cases h
          · cases h
          · cases mem_sentIf h
            rw [← not_not.mp hoth]
            exact over_remember w.recent none none
      · cases h
      · cases h
  · cases h

theorem mem_redeliver {nowMs x} (h : x ∈ (w.redeliverRecoveredOperation tgt nowMs sends).1) :
    ∃ reqId, x = (tgt, .rotateIp reqId) := by
  unfold redeliverRecoveredOperation at h
  split at h
  · cases h
  · split_ifs at h
    · cases h
    · cases h
    · exact ⟨_, mem_singleton.mp h⟩
    · cases h

/-- A result is acknowledged when its operation is over, and no rotation is sent with it. -/
theorem ack_step {input} (h : (sock, .resultAck reqId) ∈ (w.step input).1) :
    (w.step input).1.rotations = [] ∧ (w.step input).2.ledger.Over reqId := by
  cases input with
  | connect deviceId challenge nowMs =>
    unfold step connectDevice at h
    dsimp only at h
    split at h
    · cases h
    · split at h
      · cases mem_singleton.mp h
      · cases h
  | message tgt msg nowMs sends =>
    exact ⟨w.rotations_webSocketMessage tgt msg nowMs sends, over_webSocketMessage h⟩
  | verified verif valid nowMs readySends rotateSends =>
    unfold step at h
    dsimp only at h
    split_ifs at h
    · unfold completeAuth at h
      cases readySends with
      | true =>
        rcases mem_cons.mp h with h | h
        · cases h
        · obtain ⟨_, heq⟩ := mem_redeliver h
          cases heq
      | false => cases h
    · cases h
    · cases h
  | rotate req nowMs sends =>
    unfold step dispatchRotation at h
    dsimp only at h
    split at h
    · cases h
    · cases h
    · split at h
      · cases h
      · unfold dispatchTo at h
        split_ifs at h
        · cases mem_singleton.mp h
        · cases h
  | proxy req waiter nowMs sends =>
    unfold step proxyAndWait at h
    dsimp only at h
    split at h
    · cases h
    · split at h
      · cases mem_singleton.mp h
      · cases h
  | _ => cases h

end DeviceControl

/-! ## What is in flight -/

/-- The messages on their way to the device, with the requests for which it has prepared a
rotation. -/
structure Tracks (d : ControlRuntime) (queue : List ServerControlMessage)
    (history : List WorkerEvent) (prepared : List Text) : Prop where
  acks : ∀ requestId, .resultAck requestId ∈ queue → Retired history requestId
  order : queue.Pairwise fun earlier later =>
    ∀ requestId, earlier = .resultAck requestId → later ≠ .rotateIp requestId
  held : ∀ requestId ∈ prepared, d.Holds requestId ∨
    Retired history requestId ∧ .rotateIp requestId ∉ queue
  nodup : prepared.Nodup
  preparing : ∀ requestId, d.stage = .preparing requestId → requestId ∉ prepared

namespace Tracks

variable {d : ControlRuntime} {queue shorter new : List ServerControlMessage}
  {hist : List WorkerEvent} {prepared : List Text}

variable (h : Tracks d queue hist prepared)
include h

theorem shorten (hsub : shorter.Sublist queue) : Tracks d shorter hist prepared where
  acks reqId hmem := h.acks reqId (hsub.subset hmem)
  order := h.order.sublist hsub
  held reqId hmem := (h.held reqId hmem).imp_right
    fun hgone => ⟨hgone.1, fun hrotate => hgone.2 (hsub.subset hrotate)⟩
  nodup := h.nodup
  preparing := h.preparing

theorem worker {e} (hsends : Sends e hist) (hnew : ∀ msg ∈ new, ∃ sock, (sock, msg) ∈ e.output)
    (hack : ∀ sock reqId, (sock, .resultAck reqId) ∈ e.output →
      e.output.rotations = [] ∧ e.after.ledger.Over reqId) :
    Tracks d (queue ++ new) (e :: hist) prepared := by
  have hrotates : ∀ reqId, .rotateIp reqId ∈ new → ¬ Retired hist reqId := by
    rintro reqId hmem ⟨x, hx, hover⟩
    obtain ⟨sock, hsent⟩ := hnew _ hmem
    exact (hsends.2 reqId (Sent.mem_rotations hsent)).1 x hx hover
  constructor
  · intro reqId hmem
    rcases mem_append.mp hmem with hmem | hmem
    · exact (h.acks reqId hmem).cons e
    · obtain ⟨sock, hsent⟩ := hnew _ hmem
      exact ⟨e, .head _, (hack sock reqId hsent).2⟩
  · refine pairwise_append.mpr ⟨h.order, ?_, ?_⟩
    · refine pairwise_iff_forall_sublist.mpr ?_
      rintro earlier later hsub reqId rfl rfl
      obtain ⟨sock, hsent⟩ := hnew _ (hsub.subset (.head _))
      obtain ⟨other, hrotate⟩ := hnew _ (hsub.subset (.tail _ (.head _)))
      have hnone := Sent.mem_rotations hrotate
      rw [(hack sock reqId hsent).1] at hnone
      cases hnone
    · rintro earlier hearl later hlater reqId rfl rfl
      exact hrotates reqId hlater (h.acks reqId hearl)
  · intro reqId hmem
    refine (h.held reqId hmem).imp_right fun hgone => ⟨hgone.1.cons e, fun hrotate => ?_⟩
    rcases mem_append.mp hrotate with hrotate | hrotate
    · exact hgone.2 hrotate
    · exact hrotates reqId hrotate hgone.1
  · exact h.nodup
  · exact h.preparing

theorem device {input} (hopen : input ≠ .shutdown)
    (hack : ∀ reqId, input = .receive (.resultAck reqId) →
      Retired hist reqId ∧ .rotateIp reqId ∉ queue)
    (hask : ∀ reqId, input = .receive (.rotateIp reqId) → d.stage = .serving →
      d.control.pending = none → reqId ∉ prepared) :
    Tracks (d.step input).2 queue hist ((preparedOf (d.step input).1).toList ++ prepared) := by
  have hkept : ∀ reqId ∈ prepared, (d.step input).2.Holds reqId ∨
      Retired hist reqId ∧ .rotateIp reqId ∉ queue := by
    intro reqId hmem
    by_cases hacked : input = .receive (.resultAck reqId)
    · exact .inr (hack reqId hacked)
    · exact (h.held reqId hmem).imp_left (·.step hopen hacked)
  cases heffect : (d.step input).1 with
  | prepared reqId opId =>
    obtain ⟨hstg, hafter⟩ := ControlRuntime.prepared_step heffect
    refine ⟨h.acks, h.order, ?_, nodup_cons.mpr ⟨h.preparing reqId hstg, h.nodup⟩, ?_⟩
    · refine forall_mem_cons.mpr ⟨.inl (.inr (.inl ⟨opId, hafter⟩)), hkept⟩
    · intro other hoth
      cases hafter.symm.trans hoth
  | _ =>
    refine ⟨h.acks, h.order, hkept, h.nodup, fun reqId hafter => ?_⟩
    rcases ControlRuntime.preparing_step hafter with ⟨hstg, -⟩ | ⟨hinput, hstg, hfree⟩
    · exact h.preparing reqId hstg
    · exact hask reqId hinput hstg hfree

end Tracks

/-! ## Whole runs -/

/-- The run of the worker stands behind what is tracked. -/
def Synced (w : DeviceControl) (d : ControlRuntime) (queue : List ServerControlMessage)
    (used prepared : List Text) : Prop :=
  ∃ history, ProtocolRun ⟨w, history⟩ ∧ requests history ⊆ used ∧ Tracks d queue history prepared

namespace Synced

variable {w : DeviceControl} {d : ControlRuntime} {queue shorter new : List ServerControlMessage}
  {used prepared : List Text}

theorem new_system (deviceId : Text) : Synced .new (.new deviceId) [] [] [] := by
  refine ⟨[], .init, List.Subset.refl _, ?_, .nil, ?_, .nil, ?_⟩
  · intro reqId hmem
    cases hmem
  · intro reqId hmem
    cases hmem
  · rintro reqId ⟨⟩

variable (h : Synced w d queue used prepared)
include h

theorem shorten (hsub : shorter.Sublist queue) : Synced w d shorter used prepared := by
  obtain ⟨hist, hrun, hused, htracks⟩ := h
  exact ⟨hist, hrun, hused, htracks.shorten hsub⟩

theorem worker {input} (hfresh : ∀ reqId, input.cause.requested = some reqId → reqId ∉ used)
    (hnew : ∀ msg ∈ new, ∃ sock, (sock, msg) ∈ (w.step input).1) :
    Synced (w.step input).2 d (queue ++ new) (input.cause.requested.toList ++ used) prepared := by
  obtain ⟨hist, hrun, hused, htracks⟩ := h
  obtain ⟨hnext, hsends⟩ := hrun.record_step
    fun reqId hreq hmem => hfresh reqId hreq (hused hmem)
  refine ⟨_, hnext, ?_, htracks.worker hsends hnew fun _ _ => DeviceControl.ack_step⟩
  intro reqId hmem
  obtain ⟨x, hx, hreq⟩ := mem_filterMap.mp hmem
  rcases mem_cons.mp hx with rfl | hx
  · exact mem_append_left _ (Option.mem_toList.mpr hreq)
  · exact mem_append_right _ (hused (mem_filterMap.mpr ⟨x, hx, hreq⟩))

theorem device {input} (hopen : input ≠ .shutdown) (hinput : ∀ msg, input ≠ .receive msg) :
    Synced w (d.step input).2 queue used ((preparedOf (d.step input).1).toList ++ prepared) := by
  obtain ⟨hist, hrun, hused, htracks⟩ := h
  refine ⟨hist, hrun, hused, htracks.device hopen ?_ ?_⟩
  · exact fun _ heq => absurd heq (hinput _)
  · exact fun _ heq => absurd heq (hinput _)

omit h

theorem receive {msg rest} (h : Synced w d (msg :: rest) used prepared) :
    Synced w (d.step (.receive msg)).2 rest used
      ((preparedOf (d.step (.receive msg)).1).toList ++ prepared) := by
  obtain ⟨hist, hrun, hused, htracks⟩ := h
  have horder := pairwise_cons.mp htracks.order
  refine ⟨hist, hrun, hused,
    (htracks.shorten (sublist_cons_self msg rest)).device (by simp) ?_ ?_⟩
  · rintro reqId ⟨⟩
    exact ⟨htracks.acks reqId (.head _), fun hrotate => horder.1 _ hrotate reqId rfl rfl⟩
  · rintro reqId ⟨⟩ hstg hfree hmem
    -- a prepared request would still be pending, or its delivery could not be in flight
    rcases htracks.held reqId hmem with (hpend | ⟨_, hreserving⟩ | hstop) | ⟨-, hgone⟩
    · simp [ControlState.pendingRequest, hfree] at hpend
    · cases hstg.symm.trans hreserving
    · cases hstg.symm.trans hstop
    · exact hgone (.head _)

end Synced

theorem requested_message (sock : Nat) (message : Option DeviceMessage) (nowMs : Int)
    (sends : Bool) :
    (DeviceControl.Input.message sock message nowMs sends).cause.requested = none := by
  rcases message with _ | message
  · rfl
  · cases message <;> rfl

def SystemInput.requested : SystemInput → Option Text
  | .worker input => input.cause.requested
  | _ => none

open ControlSystem

namespace ControlSystem

variable {s : ControlSystem}

def InSync (s : ControlSystem) (used prepared : List Text) : Prop :=
  Synced s.worker s.device s.toDevice used prepared

variable {used prepared : List Text}

theorem InSync.onDevice {input} (h : Synced s.worker (s.device.step input).2 s.toDevice used
      ((preparedOf (s.device.step input).1).toList ++ prepared)) :
    (s.onDevice input).2.InSync used ((preparedOf (s.onDevice input).1).toList ++ prepared) := by
  unfold InSync ControlSystem.onDevice toDevice
  dsimp only
  split_ifs
  · exact h.shorten (nil_sublist _)
  · exact h

theorem InSync.onWorker (h : s.InSync used prepared) {input}
    (hfresh : ∀ reqId, input.cause.requested = some reqId → reqId ∉ used) :
    (s.onWorker input).InSync (input.cause.requested.toList ++ used) prepared := by
  unfold InSync ControlSystem.onWorker toDevice at *
  cases hlink : s.link with
  | none =>
    rw [hlink] at h
    exact (h.worker hfresh (by simp) : Synced _ _ ([] ++ []) _ _)
  | some link =>
    rw [hlink] at h
    refine h.worker hfresh fun msg hmem => ?_
    obtain ⟨⟨sock, sent⟩, hsent, heq⟩ := mem_filterMap.mp hmem
    split_ifs at heq
    cases heq
    exact ⟨sock, hsent⟩

theorem InSync.step (h : s.InSync used prepared) {input}
    (hfresh : ∀ reqId, input.requested = some reqId → reqId ∉ used)
    (hopen : input ≠ .device .shutdown) : (s.step input).2.InSync (input.requested.toList ++ used)
      ((preparedOf (s.step input).1).toList ++ prepared) := by
  unfold ControlSystem.step
  cases input with
  | connects challenge nowMs =>
    dsimp only
    split_ifs with hoffline
    · have hidle : Synced s.worker (s.device.step .connected).2 [] used prepared :=
        (h.shorten (nil_sublist _)).device (by simp) (by simp)
      split
      · rename_i sock msg more worker hstep
        have hsynced : Synced (s.worker.step (.connect s.device.deviceId challenge nowMs)).2
            (s.device.step .connected).2 ([] ++ [msg]) used prepared := by
          refine hidle.worker (by rintro _ ⟨⟩) fun other hmem => ⟨sock, ?_⟩
          rw [mem_singleton.mp hmem, hstep]
          exact .head _
        rw [hstep] at hsynced
        exact hsynced
      · rename_i worker hstep
        have hsynced : Synced (s.worker.step (.connect s.device.deviceId challenge nowMs)).2
            s.device (s.toDevice ++ []) used prepared := h.worker (by rintro _ ⟨⟩) (by rintro _ ⟨⟩)
        rw [hstep, append_nil] at hsynced
        exact hsynced
    · exact h
  | drops => exact h.shorten (nil_sublist _)
  | notices =>
    dsimp only
    split_ifs
    · exact .onDevice (h.device (by simp) (by simp))
    · exact h
  | delivers =>
    dsimp only
    split
    · rename_i sock msg rest toWorker hlink
      split_ifs
      · refine .onDevice (Synced.receive ?_)
        unfold InSync toDevice at h
        rw [hlink] at h
        exact h
      · exact h
    · exact h
  | writes ok =>
    dsimp only
    split
    · refine .onDevice (Synced.device ?_ (by simp) (by simp))
      cases ok with
      | true =>
        unfold InSync toDevice at h
        cases hlink : s.link <;> rw [hlink] at h <;> exact h
      | false => exact h.shorten (nil_sublist _)
    · exact h
  | receives nowMs sends =>
    dsimp only
    split
    · rename_i sock toDevice msg rest hlink
      have hrest : InSync { s with link := some ⟨sock, toDevice, rest⟩ } used prepared := by
        unfold InSync ControlSystem.toDevice at h
        rw [hlink] at h
        exact h
      have hnone := requested_message sock (some msg) nowMs sends
      have hreceived : InSync ({ s with link := some ⟨sock, toDevice, rest⟩ }.onWorker
          (.message sock (some msg) nowMs sends))
          ((DeviceControl.Input.message sock (some msg) nowMs sends).cause.requested.toList ++
            used) prepared := by
        refine hrest.onWorker ?_
        rw [hnone]
        simp
      rw [hnone] at hreceived
      exact hreceived
    · exact h
  | device input =>
    dsimp only
    split_ifs with hinternal
    · refine .onDevice (h.device ?_ ?_)
      · rintro rfl
        exact hopen rfl
      · rintro msg rfl
        cases hinternal
    · exact h
  | worker input =>
    dsimp only
    split_ifs with hinternal
    · exact h.onWorker hfresh
    · cases input with
      | connect deviceId challenge nowMs => exact h
      | message sock msg nowMs sends =>
        show InSync s ((DeviceControl.Input.message sock msg nowMs sends).cause.requested.toList
          ++ used) prepared
        rw [requested_message]
        exact h
      | _ => exact absurd rfl hinternal

end ControlSystem

/-! ## Where the results come from -/

/-- The messages that reach the worker and the results it remembers were sent. -/
structure Told (sent : DeviceMessage → Prop) (queue : List DeviceMessage)
    (recent : List Operation) : Prop where
  queue : ∀ message ∈ queue, sent message
  recent : ∀ operation ∈ recent, ∀ result, operation.result = some (.definitive result) →
    ∃ operationId, sent (.result operation.requestId result operationId)

namespace Told

variable {sent more : DeviceMessage → Prop} {queue shorter : List DeviceMessage}
  {recent : List Operation}

theorem mono (h : Told sent queue recent) (hmore : ∀ msg, sent msg → more msg) :
    Told more queue recent where
  queue msg hmem := hmore msg (h.queue msg hmem)
  recent op hmem res hres := by
    obtain ⟨opId, hsent⟩ := h.recent op hmem res hres
    exact ⟨opId, hmore _ hsent⟩

theorem remember (h : Told sent queue recent) {terminal}
    (hterm : ∀ res, terminal.result = some (.definitive res) →
      ∃ opId, sent (.result terminal.requestId res opId)) :
    Told sent queue (Worker.remember terminal recent) where
  queue := h.queue
  recent op hmem := by
    rcases mem_remember hmem with rfl | ⟨hmem, -⟩
    · exact hterm
    · exact h.recent op hmem

theorem change {cause l after rotations}
    (h : Told sent queue l.recent) (hchg : Change cause l rotations after)
    (hrptd : ∀ reqId res, cause.reported = some (reqId, res) →
      ∃ opId, sent (.result reqId res opId)) : Told sent queue after.recent := by
  cases hchg with
  | finishes opId hact hres =>
    refine h.remember fun res heq => ?_
    rcases hres with rfl | ⟨reported, rfl, hcause⟩
    · cases heq
    · cases heq
      exact hrptd _ _ hcause
  | upgrades opId hknown hunknown hcause =>
    refine h.remember fun res heq => ?_
    cases heq
    exact hrptd _ _ hcause
  | _ => exact h

theorem changes {cause l after rotations}
    (h : Told sent queue l.recent) (hchgs : Changes cause l rotations after)
    (hrptd : ∀ reqId res, cause.reported = some (reqId, res) →
      ∃ opId, sent (.result reqId res opId)) : Told sent queue after.recent := by
  induction hchgs with
  | none => exact h
  | more _ hchg ih => exact ih.change hchg hrptd

theorem worker {w : DeviceControl} (h : Told sent queue w.recent) {input}
    (hrptd : ∀ reqId res, input.cause.reported = some (reqId, res) →
      ∃ opId, sent (.result reqId res opId)) : Told sent queue (w.step input).2.recent := by
  have hstep := w.stepChanges_step input
  show Told sent queue (w.step input).2.ledger.recent
  generalize (w.step input).1.rotations = rotations at hstep
  generalize (w.step input).2.ledger = after at hstep ⊢
  cases hstep with
  | settles hchgs => exact changes h hchgs hrptd
  | dispatches hchgs hact hreq hnew =>
    rename_i between
    show Told sent queue between.recent
    exact changes h hchgs hrptd

theorem shorten (h : Told sent queue recent) (hsub : shorter ⊆ queue) : Told sent shorter recent :=
  ⟨fun msg hmem => h.queue msg (hsub hmem), h.recent⟩

end Told

namespace ControlSystem

variable {s : ControlSystem} {sent : DeviceMessage → Prop}

def WasTold (s : ControlSystem) (sent : DeviceMessage → Prop) : Prop :=
  Told sent s.toWorker s.worker.recent

variable (h : s.WasTold sent)
include h

theorem WasTold.onDevice (input : ControlInput) : (s.onDevice input).2.WasTold sent := by
  unfold WasTold ControlSystem.onDevice toWorker
  dsimp only
  split_ifs
  · exact h.shorten (nil_subset _)
  · exact h

theorem WasTold.onWorker {input} (hrptd : ∀ reqId res, input.cause.reported = some (reqId, res) →
      ∃ opId, sent (.result reqId res opId)) : (s.onWorker input).WasTold sent := by
  have hqueue : (s.onWorker input).toWorker = s.toWorker := by
    unfold toWorker ControlSystem.onWorker
    cases s.link <;> rfl
  unfold WasTold
  rw [hqueue]
  exact h.worker hrptd

theorem WasTold.relink {link}
    (hsub : link.elim [] (·.toWorker) ⊆ s.toWorker) : WasTold { s with link := link } sent :=
  h.shorten hsub

theorem WasTold.step (input : SystemInput) :
    (s.step input).2.WasTold fun msg => (s.step input).1 = .sent msg ∨ sent msg := by
  have hmore : ∀ (effect : ControlEffect), s.WasTold fun msg =>
      effect = .sent msg ∨ sent msg := fun _ => h.mono fun _ hsent => .inr hsent
  unfold ControlSystem.step
  cases input with
  | connects challenge nowMs =>
    have hworker : Told sent s.toWorker
        (s.worker.step (.connect s.device.deviceId challenge nowMs)).2.recent :=
      h.worker (by rintro _ _ ⟨⟩)
    dsimp only
    split
    · split
      · rename_i sock msg more worker hstep
        rw [hstep] at hworker
        exact (hworker.shorten (nil_subset _)).mono fun _ hsent => .inr hsent
      · rename_i worker hstep
        rw [hstep] at hworker
        exact hworker.mono fun _ hsent => .inr hsent
    · exact hmore _
  | drops => exact (hmore _).relink (nil_subset _)
  | notices | device input =>
    dsimp only
    split
    · exact (hmore _).onDevice _
    · exact hmore _
  | delivers =>
    dsimp only
    split
    · rename_i sock msg rest queue hlink
      split
      · refine ((hmore _).relink ?_).onDevice _
        rw [toWorker, hlink]
        exact List.Subset.refl _
      · exact hmore _
    · exact hmore _
  | writes ok =>
    dsimp only
    split
    · rename_i msg after hstg
      refine WasTold.onDevice ?_ _
      cases ok with
      | false => exact (hmore _).relink (nil_subset _)
      | true =>
        -- what is added to the queue is sent by this step
        have hsent : (s.device.step (.written true)).1 = .sent msg := by
          unfold ControlRuntime.step
          rw [hstg]
        cases hlink : s.link with
        | none => exact (hmore _).relink (nil_subset _)
        | some link =>
          refine ⟨fun other hmem => ?_, (hmore _).recent⟩
          rcases mem_append.mp hmem with hmem | hmem
          · refine .inr (h.queue other ?_)
            rw [toWorker, hlink]
            exact hmem
          · rw [mem_singleton.mp hmem]
            exact .inl hsent
    · exact hmore _
  | receives nowMs sends =>
    dsimp only
    split
    · rename_i sock toDevice msg rest hlink
      have hqueue : s.toWorker = msg :: rest := by
        rw [toWorker, hlink]
        rfl
      have hrest : WasTold { s with link := some ⟨sock, toDevice, rest⟩ } sent := by
        refine h.relink ?_
        rw [hqueue]
        exact subset_cons_self _ _
      refine (hrest.onWorker ?_).mono fun _ hsent => .inr hsent
      intro reqId res hrptd
      cases msg with
      | result req value opId =>
        cases hrptd
        exact ⟨opId, h.queue _ (hqueue ▸ (.head _))⟩
      | _ => cases hrptd
    · exact hmore _
  | worker input =>
    dsimp only
    split
    · rename_i hinternal
      refine (h.onWorker ?_).mono fun _ hsent => .inr hsent
      intro reqId res hrptd
      cases input <;> first | cases hrptd | cases hinternal
    · exact hmore _

end ControlSystem

/-! ## The theorem -/

structure SystemKept (r : Recorded ControlSystem SystemInput ControlEffect) : Prop where
  sync : r.state.InSync (r.history.filterMap (·.input.requested)) (preparedRequests r.history)
  told : r.state.WasTold fun message => ∃ x ∈ r.history, x.output = .sent message

theorem SystemKept.record_step {r} (h : SystemKept r) {input}
    (hfresh : ∀ reqId, input.requested = some reqId →
      reqId ∉ r.history.filterMap (·.input.requested))
    (hopen : input ≠ .device .shutdown) : SystemKept (record step r input) := by
  have hcons : ∀ {α : Type} (f : SystemEvent → Option α) (e : SystemEvent),
      (e :: r.history).filterMap f = (f e).toList ++ r.history.filterMap f := by
    intro α f e
    rw [filterMap_cons]
    cases f e <;> rfl
  constructor
  · have hsync := h.sync.step hfresh hopen
    show InSync _ ((eventOf step r.state input :: r.history).filterMap _)
      (preparedRequests (eventOf step r.state input :: r.history))
    rw [preparedRequests, hcons, hcons]
    exact hsync
  · refine (h.told.step input).mono ?_
    rintro msg (hsent | ⟨x, hx, hsent⟩)
    · exact ⟨_, .head _, hsent⟩
    · exact ⟨x, .tail _ hx, hsent⟩

theorem remote_rotation_once (deviceId : Text) (inputs : List SystemInput)
    (hfresh : (inputs.filterMap SystemInput.requested).Nodup)
    (hopen : .device .shutdown ∉ inputs) : RotatesOnce (runSystem deviceId inputs).history := by
  have hrun : Always (fun e older => SystemKept ⟨e.after, e :: older⟩)
      (runSystem deviceId inputs).history := by
    have hinit : SystemKept (.init (.new deviceId)) := by
      refine ⟨.new_system deviceId, ?_, ?_⟩
      · intro message hmem
        cases hmem
      · intro operation hmem
        cases hmem
    refine always_record_along (I := SystemKept) ?_ hinit .nil
      (along_fresh (Q := (· ≠ .device .shutdown)) hfresh (fun _ _ hmem => by cases hmem) ?_)
    · rintro r input h ⟨hnew, hinput⟩
      have hnext := h.record_step hnew hinput
      exact ⟨hnext, hnext⟩
    · rintro input hmem rfl
      exact hopen hmem
  constructor
  · generalize (runSystem deviceId inputs).history = history at hrun
    cases history with
    | nil => exact nodup_nil
    | cons e older =>
      obtain ⟨_, -, -, htracks⟩ := (always_cons_iff.mp hrun).1.sync
      exact htracks.nodup
  · intro newer e older heq operation hmem result hresult
    obtain ⟨operationId, x, hx, hsent⟩ :=
      (hrun newer e older heq).told.recent operation hmem result hresult
    exact ⟨x, hx, operationId, hsent⟩

/-! ### Two runs -/

/-- The device connects and proves its identity. -/
def signsOn (socket : Nat) (nowMs : Int) : List SystemInput :=
  [.connects "nonce".toList nowMs, .delivers, .device (.signed (some "signature".toList)),
    .writes true, .receives nowMs true,
    .worker (.verified ⟨socket, sampleIdentity.deviceId, "nonce".toList, sampleIdentity.publicKey,
      "signature".toList⟩ true nowMs true true), .delivers, .device .next]

/-- The acceptance of a rotation cannot be written; the device connects again and sends the result,
and the worker sends the request once more. -/
def unacceptedRotation : List SystemInput :=
  .worker (.enroll sampleIdentity none 0) :: signsOn 0 0 ++
  [.worker (.rotate firstRequest 100 true), .delivers, .device (.prepared (some 7)), .device .next,
    .writes false, .device .next, .device .next, .device .next, .worker (.alarm 2100)] ++
  signsOn 1 3000 ++ [.writes true]

def repeatedRequest : List SystemInput := unacceptedRotation ++ [.delivers, .writes true]

theorem remote_rotation_once_repeated :
    preparedRequests (runSystem sampleIdentity.deviceId repeatedRequest).history = [firstRequest] ∧
      RotatesOnce (runSystem sampleIdentity.deviceId repeatedRequest).history := by
  refine ⟨by decide +kernel, remote_rotation_once sampleIdentity.deviceId repeatedRequest ?_ ?_⟩
  · decide +kernel
  · decide +kernel

/-- The runtime is shut down before the task sees the second delivery, and the rotation owner is
still open. -/
def forgottenRequest : List SystemInput :=
  unacceptedRotation ++ [.device .shutdown, .delivers, .device (.prepared (some 7))]

theorem shutdown_forgets_request :
    (forgottenRequest.filterMap SystemInput.requested).Nodup ∧
      preparedRequests (runSystem sampleIdentity.deviceId forgottenRequest).history =
        [firstRequest, firstRequest] ∧
      ¬ RotatesOnce (runSystem sampleIdentity.deviceId forgottenRequest).history := by
  have htwice : preparedRequests (runSystem sampleIdentity.deviceId forgottenRequest).history =
      [firstRequest, firstRequest] := by decide +kernel
  refine ⟨by decide +kernel, htwice, fun h => ?_⟩
  have hnodup := h.once
  rw [htwice] at hnodup
  exact absurd hnodup (by decide)

end MishProxy.Worker
