import MishProxy.Worker.Ledger
import MishProxy.Worker.Sockets

/-!
# The protocol of an operation

`operation_protocol` proves, for every run of the worker in which the manager uses every request
id once, what holds of the operations: how often a rotation is sent and when, that a fenced
operation stays fenced, that the release of an accepted one stands, what is remembered of those
that ended, and that an alarm is scheduled for the active one.
-/

namespace MishProxy.Worker

open Control Machine List

/-! ## What is required -/

abbrev WorkerEvent := Event DeviceControl DeviceControl.Input Sent

def runWorker (inputs : List DeviceControl.Input) :
    Recorded DeviceControl DeviceControl.Input Sent :=
  run (record DeviceControl.step) (.init .new) inputs

/-- The operation was accepted, fenced or has ended. -/
def Ledger.Over (l : Ledger) (requestId : Text) : Prop :=
  (∃ operation, l.active = some operation ∧ operation.requestId = requestId ∧
    (operation.status = .accepted ∨ operation.status = .fenced)) ∨
  ∃ operation ∈ l.recent, operation.requestId = requestId

/-- A result stays, or it was unknown and is known now. -/
def Improves (result later : Option OperationResult) : Prop :=
  later = result ∨ result = some .unknown ∧ ∃ known, later = some (.definitive known)

/-- The ids of the manager requests. -/
def requests (history : List WorkerEvent) : List Text :=
  history.filterMap fun x => x.input.cause.requested

/-- The ids of the rotations that were sent, the first one first. -/
def deliveries : List WorkerEvent → List Text
  | [] => []
  | e :: history => deliveries history ++ e.output.rotations

/-- The step completes an AUTH and finds the operation recovering when it looks at it. -/
def Redelivers (w : DeviceControl) (input : DeviceControl.Input) (requestId : Text) : Prop :=
  ∃ verification nowMs rotateSends, input = .verified verification true nowMs true rotateSends ∧
    ∃ operation, (w.reconcileActiveOperation nowMs false).active = some operation ∧
      operation.requestId = requestId ∧ operation.status = .recovering

/-- An event sends one rotation at most, for an operation that is not over, and a second time only
by redelivery. -/
def Sends (e : WorkerEvent) (older : List WorkerEvent) : Prop :=
  e.output.rotations.length ≤ 1 ∧
    ∀ requestId ∈ e.output.rotations, (∀ x ∈ older, ¬ x.after.ledger.Over requestId) ∧
      (requestId ∈ deliveries older → Redelivers (lastState .new older) e.input requestId)

structure OperationProtocol (history : List WorkerEvent) : Prop where
  oneSocket : ∀ x ∈ history, ∀ socket ∈ x.after.sockets, ∀ other ∈ x.after.sockets,
    socket.attachment.authenticated = true → other.attachment.authenticated = true →
    other = socket
  twice : ∀ requestId, (deliveries history).count requestId ≤ 2
  sends : Always Sends history
  fenced : Always (fun e older => ∀ x ∈ older, ∀ earlier, x.after.active = some earlier →
    earlier.status = .fenced → ∀ operation, e.after.active = some operation →
    operation.requestId = earlier.requestId → operation.status = .fenced) history
  released : Always (fun e older => ∀ x ∈ older, ∀ earlier, x.after.active = some earlier →
    earlier.status = .accepted → ∀ operation, e.after.active = some operation →
    operation.requestId = earlier.requestId → ∃ acceptedAtMs,
      earlier.acceptedAtMs = some acceptedAtMs ∧ operation.acceptedAtMs = some acceptedAtMs ∧
      e.after.alarm = some (acceptedAtMs + acceptedResultLeaseMs)) history
  recent : ∀ x ∈ history, (x.after.recent.map (·.requestId)).Nodup ∧ x.after.recent.length ≤ 32
  results : Always (fun e older => ∀ x ∈ older, ∀ earlier ∈ x.after.recent,
    ∀ later ∈ e.after.recent, later.requestId = earlier.requestId →
    Improves earlier.result later.result) history
  alarm : ∀ x ∈ history, x.after.active.isSome = true → x.after.alarm.isSome = true

/-- A rotation is sent, stands in the ledger or is answered only if a manager has requested it,
and a running one has no answer yet. -/
structure Requested (e : WorkerEvent) (older : List WorkerEvent) : Prop where
  sent : ∀ requestId ∈ e.output.rotations, requestId ∈ requests (e :: older)
  recent : ∀ operation ∈ e.after.recent, operation.requestId ∈ requests (e :: older)
  active : ∀ operation, e.after.active = some operation → operation.status ≠ .terminal ∧
    operation.requestId ∈ requests (e :: older) ∧
    ∀ other ∈ e.after.recent, other.requestId ≠ operation.requestId

/-! ## The invariant -/

/-- The ids in use, the ledgers after earlier steps and the rotations sent so far stand in these
relations to the ledger. -/
structure Protocol (used : List Text) (seen : List Ledger) (sent : List Text) (l : Ledger) :
    Prop where
  activeUsed : ∀ operation, l.active = some operation → operation.requestId ∈ used
  recentUsed : ∀ operation ∈ l.recent, operation.requestId ∈ used
  sentUsed : ∀ requestId ∈ sent, requestId ∈ used
  seenUsed : ∀ m ∈ seen, ∀ requestId, m.Over requestId → requestId ∈ used
  nodup : (l.recent.map (·.requestId)).Nodup
  length : l.recent.length ≤ maxRecentOperations
  apart : ∀ operation, l.active = some operation → ∀ other ∈ l.recent,
    other.requestId ≠ operation.requestId
  running : ∀ operation, l.active = some operation → operation.status ≠ .terminal
  accepted : ∀ operation, l.active = some operation → operation.status = .accepted →
    ∃ acceptedAtMs, operation.acceptedAtMs = some acceptedAtMs ∧
      l.alarm = some (acceptedAtMs + acceptedResultLeaseMs)
  alarm : l.active.isSome = true → l.alarm.isSome = true
  count : ∀ requestId, sent.count requestId ≤ 2
  recovering : ∀ operation, l.active = some operation → operation.status = .recovering →
    operation.attempts < 2
  single : ∀ operation, l.active = some operation →
    operation.status = .dispatched ∨ operation.status = .recovering →
    operation.attempts < 2 → sent.count operation.requestId ≤ 1
  concluded : ∀ m ∈ seen, ∀ operation, l.active = some operation → m.Over operation.requestId →
    operation.status = .accepted ∨ operation.status = .fenced
  ended : ∀ m ∈ seen, ∀ other ∈ m.recent, ∀ operation, l.active = some operation →
    other.requestId ≠ operation.requestId
  fenced : ∀ m ∈ seen, ∀ earlier, m.active = some earlier → earlier.status = .fenced →
    ∀ operation, l.active = some operation → operation.requestId = earlier.requestId →
    operation.status = .fenced
  released : ∀ m ∈ seen, ∀ earlier, m.active = some earlier → earlier.status = .accepted →
    ∀ operation, l.active = some operation → operation.requestId = earlier.requestId →
    operation.status = .accepted ∧ operation.acceptedAtMs = earlier.acceptedAtMs
  results : ∀ m ∈ seen, ∀ earlier ∈ m.recent, ∀ later ∈ l.recent,
    later.requestId = earlier.requestId → Improves earlier.result later.result

theorem count_append_singleton_of_ne {reqId other : Text} (sent : List Text)
    (h : other ≠ reqId) : (sent ++ [reqId]).count other = sent.count other := by
  rw [count_append, Nat.add_eq_left]
  exact count_eq_zero_of_not_mem (by simpa using h)

section

variable {terminal op : Operation} {recent : List Operation}

theorem mem_remember (h : op ∈ remember terminal recent) :
    op = terminal ∨ op ∈ recent ∧ op.requestId ≠ terminal.requestId := by
  rcases mem_cons.mp (mem_of_mem_take h) with h | h
  · exact .inl h
  · obtain ⟨hmem, hne⟩ := mem_filter.mp h
    exact .inr ⟨hmem, by simpa using hne⟩

theorem length_remember (terminal : Operation) (recent : List Operation) :
    (remember terminal recent).length ≤ maxRecentOperations := by
  rw [remember, length_take]
  exact min_le_left _ _

theorem nodup_remember (h : (recent.map (·.requestId)).Nodup) :
    ((remember terminal recent).map (·.requestId)).Nodup := by
  rw [remember, map_take]
  refine Nodup.sublist (take_sublist _ _) ?_
  rw [map_cons, nodup_cons]
  constructor
  · intro hmem
    obtain ⟨op, hop, heq⟩ := mem_map.mp hmem
    have hne := (mem_filter.mp hop).2
    simp only [ne_eq, decide_eq_true_eq] at hne
    exact hne heq
  · exact h.sublist (filter_sublist.map _)

end

namespace Protocol

variable {used : List Text} {seen : List Ledger} {sent more : List Text} {l : Ledger}
  {cause : Cause}

variable (h : Protocol used seen sent l)
include h

theorem replace {op after alarm}
    (hact : l.active = some op) (hreqt : after.requestId = op.requestId)
    (hrun : after.status ≠ .terminal)
    (hacc : after.status = .accepted → ∃ acceptedAtMs, after.acceptedAtMs = some acceptedAtMs ∧
      alarm = some (acceptedAtMs + acceptedResultLeaseMs))
    (halarm : alarm.isSome = true)
    (hrec : after.status = .recovering → after.attempts < 2)
    (hkept : op.status = .accepted →
      after.status = .accepted ∧ after.acceptedAtMs = op.acceptedAtMs)
    (hfenced : op.status = .fenced → after.status = .fenced)
    (hmore : more = [] ∨ more = [op.requestId] ∧ sent.count op.requestId ≤ 1 ∧ 2 ≤ after.attempts)
    (hsing : after.status = .dispatched ∨ after.status = .recovering → after.attempts < 2 →
      sent.count op.requestId ≤ 1) :
    Protocol used seen (sent ++ more) { l with active := some after, alarm := alarm } := by
  have hof : ∀ {other : Operation}, some after = some other → other = after :=
    fun heq => (Option.some.inj heq).symm
  have hcount : ∀ reqId, (sent ++ more).count reqId ≤ 2 := by
    intro reqId
    rcases hmore with rfl | ⟨rfl, hone, -⟩
    · rw [append_nil]
      exact h.count reqId
    · by_cases heq : reqId = op.requestId
      · rw [heq, count_append, count_singleton_self]
        omega
      · rw [count_append_singleton_of_ne sent heq]
        exact h.count reqId
  constructor
  · intro other heq
    rw [hof heq, hreqt]
    exact h.activeUsed op hact
  · exact h.recentUsed
  · intro reqId hmem
    rcases mem_append.mp hmem with hmem | hmem
    · exact h.sentUsed reqId hmem
    · rcases hmore with rfl | ⟨rfl, -, -⟩
      · cases hmem
      · rw [mem_singleton.mp hmem]
        exact h.activeUsed op hact
  · exact h.seenUsed
  · exact h.nodup
  · exact h.length
  · intro other heq recent hmem
    rw [hof heq, hreqt]
    exact h.apart op hact recent hmem
  · intro other heq
    rw [hof heq]
    exact hrun
  · intro other heq hstat
    rw [hof heq] at hstat ⊢
    exact hacc hstat
  · intro _
    exact halarm
  · exact hcount
  · intro other heq hstat
    rw [hof heq] at hstat ⊢
    exact hrec hstat
  · intro other heq hstat hatts
    rw [hof heq] at hstat hatts ⊢
    rw [hreqt]
    rcases hmore with rfl | ⟨rfl, -, htwo⟩
    · rw [append_nil]
      exact hsing hstat hatts
    · omega
  · intro m hm other heq hover
    rw [hof heq] at hover ⊢
    rw [hreqt] at hover
    rcases h.concluded m hm op hact hover with hstat | hstat
    · exact .inl (hkept hstat).1
    · exact .inr (hfenced hstat)
  · intro m hm recent hmem other heq
    rw [hof heq, hreqt]
    exact h.ended m hm recent hmem op hact
  · intro m hm earlier hearl hstat other heq hsame
    rw [hof heq] at hsame ⊢
    rw [hreqt] at hsame
    exact hfenced (h.fenced m hm earlier hearl hstat op hact hsame)
  · intro m hm earlier hearl hstat other heq hsame
    rw [hof heq] at hsame ⊢
    rw [hreqt] at hsame
    obtain ⟨hacc, hat⟩ := h.released m hm earlier hearl hstat op hact hsame
    obtain ⟨hstatus', hat'⟩ := hkept hacc
    exact ⟨hstatus', hat'.trans hat⟩
  · exact h.results

theorem clear {recent alarm} (hused : ∀ op ∈ recent, op.requestId ∈ used)
    (hnodup : (recent.map (·.requestId)).Nodup) (hlen : recent.length ≤ maxRecentOperations)
    (hresults : ∀ m ∈ seen, ∀ earlier ∈ m.recent, ∀ later ∈ recent,
      later.requestId = earlier.requestId → Improves earlier.result later.result) :
    Protocol used seen sent ⟨none, recent, alarm⟩ where
  activeUsed := by simp
  recentUsed := hused
  sentUsed := h.sentUsed
  seenUsed := h.seenUsed
  nodup := hnodup
  length := hlen
  apart := by simp
  running := by simp
  accepted := by simp
  alarm := by simp
  count := h.count
  recovering := by simp
  single := by simp
  concluded := by simp
  ended := by simp
  fenced := by simp
  released := by simp
  results := hresults

theorem finishes {op terminal}
    (hact : l.active = some op) (hreqt : terminal.requestId = op.requestId) :
    Protocol used seen sent ⟨none, remember terminal l.recent, none⟩ := by
  refine h.clear ?_ (nodup_remember h.nodup) (length_remember _ _) ?_
  · intro other hmem
    rcases mem_remember hmem with rfl | ⟨hmem, -⟩
    · rw [hreqt]
      exact h.activeUsed op hact
    · exact h.recentUsed other hmem
  · intro m hm earlier hearl later hlater hsame
    rcases mem_remember hlater with rfl | ⟨hlater, -⟩
    · -- the operation was active until now, so it was not remembered before
      rw [hreqt] at hsame
      exact absurd hsame.symm (h.ended m hm earlier hearl op hact)
    · exact h.results m hm earlier hearl later hlater hsame

theorem upgrades {known upgraded}
    (hknown : known ∈ l.recent) (hunknown : known.result = some .unknown)
    (hreqt : upgraded.requestId = known.requestId) {res}
    (hres : upgraded.result = some (.definitive res)) :
    Protocol used seen sent { l with recent := remember upgraded l.recent } := by
  have hmem : ∀ {other : Operation}, other ∈ remember upgraded l.recent →
      ∃ old ∈ l.recent, other.requestId = old.requestId := by
    intro other hoth
    rcases mem_remember hoth with rfl | ⟨hoth, -⟩
    · exact ⟨known, hknown, hreqt⟩
    · exact ⟨other, hoth, rfl⟩
  refine { h with recentUsed := ?_, nodup := nodup_remember h.nodup,
                  length := length_remember _ _, apart := ?_, results := ?_ }
  · intro other hoth
    obtain ⟨old, hold, heq⟩ := hmem hoth
    rw [heq]
    exact h.recentUsed old hold
  · intro op hact other hoth
    obtain ⟨old, hold, heq⟩ := hmem hoth
    rw [heq]
    exact h.apart op hact old hold
  · intro m hm earlier hearl later hlater hsame
    rcases mem_remember hlater with rfl | ⟨hlater, -⟩
    · have himproves := h.results m hm earlier hearl known hknown (hreqt.symm.trans hsame)
      rcases himproves with heq | ⟨hearl, -⟩
      · exact .inr ⟨heq.symm.trans hunknown, res, hres⟩
      · exact .inr ⟨hearl, res, hres⟩
    · exact h.results m hm earlier hearl later hlater hsame

theorem change {after}
    (hchg : Change cause l more after) : Protocol used seen (sent ++ more) after := by
  cases hchg with
  | stays =>
    rw [append_nil]
    exact h
  | idles hact =>
    rw [append_nil, hact]
    exact h.clear h.recentUsed h.nodup h.length h.results
  | rests hact hrests halarm =>
    rename_i op after alarmMs
    refine h.replace hact hrests.requestId ?_ ?_ rfl ?_ ?_ ?_ (.inl rfl) ?_
    · rw [hrests.status]
      exact h.running op hact
    · rw [hrests.status, hrests.acceptedAtMs]
      intro hstat
      obtain ⟨acceptedAtMs, hacc, -⟩ := h.accepted op hact hstat
      exact ⟨acceptedAtMs, hacc, by rw [halarm hstat acceptedAtMs hacc]⟩
    · rw [hrests.status, hrests.attempts]
      exact h.recovering op hact
    · rw [hrests.status, hrests.acceptedAtMs]
      exact fun hstat => ⟨hstat, rfl⟩
    · rw [hrests.status]
      exact id
    · rw [hrests.status, hrests.attempts]
      exact h.single op hact
  | dates hact hstat hmissing =>
    obtain ⟨acceptedAtMs, hacc, -⟩ := h.accepted _ hact hstat
    cases hmissing.symm.trans hacc
  | halts hact hstat => exact absurd hstat (h.running _ hact)
  | recovers hact hstat hatts hdue hearly =>
    rename_i op
    refine h.replace hact rfl (by rintro ⟨⟩) (by rintro ⟨⟩) rfl ?_ ?_ ?_ (.inl rfl) ?_
    · exact fun _ => (by decide : (1 : Int) < 2)
    · rw [hstat]
      simp
    · rw [hstat]
      simp
    · exact fun _ _ => h.single op hact (.inl hstat) hatts
  | fences hact hstat =>
    refine h.replace hact rfl (by rintro ⟨⟩) (by rintro ⟨⟩) rfl (by rintro ⟨⟩) ?_ ?_ (.inl rfl) ?_
    · intro hacc
      simp [hacc] at hstat
    · exact fun _ => rfl
    · rintro (⟨⟨⟩⟩ | ⟨⟨⟩⟩)
  | finishes opId hact hres =>
    rw [append_nil]
    exact h.finishes hact rfl
  | redelivers sends hact hstat hearly =>
    rename_i op
    have hone : sent.count op.requestId ≤ 1 :=
      h.single op hact (.inr hstat) (h.recovering op hact hstat)
    refine h.replace hact rfl (by rintro ⟨⟩) (by rintro ⟨⟩) rfl (by rintro ⟨⟩) ?_ ?_ ?_ ?_
    · rw [hstat]
      simp
    · rw [hstat]
      simp
    · cases sends with
      | true => exact .inr ⟨rfl, hone, le_refl (2 : Int)⟩
      | false => exact .inl rfl
    · exact fun _ _ => hone
  | accepts opId hact hstat =>
    refine h.replace hact rfl (by rintro ⟨⟩) ?_ rfl (by rintro ⟨⟩) ?_ ?_ (.inl rfl) ?_
    · exact fun _ => ⟨cause.nowMs, rfl, rfl⟩
    · intro hacc
      simp [hacc] at hstat
    · intro hfenced
      simp [hfenced] at hstat
    · rintro (⟨⟨⟩⟩ | ⟨⟨⟩⟩)
  | names opId hact hstat =>
    rename_i op
    refine h.replace hact rfl (h.running op hact) (h.accepted op hact) ?_
      (h.recovering op hact) (fun hacc => ⟨hacc, rfl⟩) id (.inl rfl)
      (h.single op hact)
    exact h.alarm (by rw [hact]; rfl)
  | upgrades opId hknown hunknown hrptd =>
    rw [append_nil]
    exact h.upgrades hknown hunknown rfl rfl

theorem dispatches {reqId : Text} (hfresh : reqId ∉ used) (nowMs : Int) :
    Protocol (reqId :: used) seen (sent ++ [reqId]) { l with
      active := some (.dispatch reqId nowMs)
      alarm := some (nowMs + deliveryAckMs) } := by
  have hzero : sent.count reqId = 0 :=
    count_eq_zero_of_not_mem fun hmem => hfresh (h.sentUsed reqId hmem)
  have hnew : ∀ m ∈ seen, ¬ m.Over reqId := fun m hm hover => hfresh (h.seenUsed m hm reqId hover)
  have hone : (sent ++ [reqId]).count reqId ≤ 1 := by
    rw [count_append, hzero, count_singleton_self]
  constructor
  · rintro _ ⟨⟩
    exact .head _
  · exact fun op hmem => .tail _ (h.recentUsed op hmem)
  · intro other hmem
    rcases mem_append.mp hmem with hmem | hmem
    · exact .tail _ (h.sentUsed other hmem)
    · rw [mem_singleton.mp hmem]
      exact .head _
  · exact fun m hm other hover => .tail _ (h.seenUsed m hm other hover)
  · exact h.nodup
  · exact h.length
  · rintro _ ⟨⟩ other hmem rfl
    exact hfresh (h.recentUsed other hmem)
  · rintro _ ⟨⟩ ⟨⟩
  · rintro _ ⟨⟩ ⟨⟩
  · exact fun _ => rfl
  · intro other
    by_cases heq : other = reqId
    · rw [heq]
      exact hone.trans (Nat.le_succ 1)
    · rw [count_append_singleton_of_ne sent heq]
      exact h.count other
  · rintro _ ⟨⟩ ⟨⟩
  · rintro _ ⟨⟩ _ _
    exact hone
  · rintro m hm _ ⟨⟩ hover
    exact absurd hover (hnew m hm)
  · rintro m hm other hmem _ ⟨⟩ heq
    exact hnew m hm (.inr ⟨other, hmem, heq⟩)
  · rintro m hm earlier hearl hstat _ ⟨⟩ heq
    exact absurd (.inl ⟨earlier, hearl, heq.symm, .inr hstat⟩) (hnew m hm)
  · rintro m hm earlier hearl hstat _ ⟨⟩ heq
    exact absurd (.inl ⟨earlier, hearl, heq.symm, .inl hstat⟩) (hnew m hm)
  · exact h.results

theorem weaken {more} (hmore : used ⊆ more) : Protocol more seen sent l :=
  { h with
    activeUsed := fun op hact => hmore (h.activeUsed op hact)
    recentUsed := fun op hmem => hmore (h.recentUsed op hmem)
    sentUsed := fun reqId hmem => hmore (h.sentUsed reqId hmem)
    seenUsed := fun m hm reqId hover => hmore (h.seenUsed m hm reqId hover) }

theorem used_of_over {reqId : Text} (hover : l.Over reqId) : reqId ∈ used := by
  rcases hover with ⟨op, hact, rfl, -⟩ | ⟨op, hmem, rfl⟩
  · exact h.activeUsed op hact
  · exact h.recentUsed op hmem

theorem observe : Protocol used (l :: seen) sent l := by
  have hsame : ∀ {op other : Operation}, l.active = some op → l.active = some other → other = op :=
    fun hact hoth => Option.some.inj (hoth.symm.trans hact)
  refine { h with seenUsed := ?_, concluded := ?_, ended := ?_, fenced := ?_, released := ?_,
                  results := ?_ }
  · intro m hm reqId hover
    rcases mem_cons.mp hm with rfl | hm
    · exact h.used_of_over hover
    · exact h.seenUsed m hm reqId hover
  · intro m hm op hact hover
    rcases mem_cons.mp hm with rfl | hm
    · rcases hover with ⟨other, hoth, -, hstat⟩ | ⟨other, hmem, heq⟩
      · rwa [hsame hact hoth] at hstat
      · exact absurd heq (h.apart op hact other hmem)
    · exact h.concluded m hm op hact hover
  · intro m hm other hmem op hact
    rcases mem_cons.mp hm with rfl | hm
    · exact h.apart op hact other hmem
    · exact h.ended m hm other hmem op hact
  · intro m hm earlier hearl hstat op hact heq
    rcases mem_cons.mp hm with rfl | hm
    · rwa [hsame hearl hact]
    · exact h.fenced m hm earlier hearl hstat op hact heq
  · intro m hm earlier hearl hstat op hact heq
    rcases mem_cons.mp hm with rfl | hm
    · rw [hsame hearl hact]
      exact ⟨hstat, rfl⟩
    · exact h.released m hm earlier hearl hstat op hact heq
  · intro m hm earlier hearl later hlater heq
    rcases mem_cons.mp hm with rfl | hm
    · exact .inl (congrArg Operation.result (inj_on_of_nodup_map h.nodup hlater hearl heq))
    · exact h.results m hm earlier hearl later hlater heq

theorem not_over_of_sends {after reqId} (hchg : Change cause l more after) (hmem : reqId ∈ more) :
    ∀ m ∈ seen, ¬ m.Over reqId := by
  intro m hm hover
  cases hchg with
  | redelivers sends hact hstat hearly =>
    cases sends with
    | false => cases hmem
    | true =>
      rw [mem_singleton.mp hmem] at hover
      have hover := h.concluded m hm _ hact hover
      simp [hstat] at hover
  | _ => cases hmem

theorem changes {after} (hchgs : Changes cause l more after) :
    Protocol used seen (sent ++ more) after ∧ ∀ reqId ∈ more, ∀ m ∈ seen, ¬ m.Over reqId := by
  induction hchgs with
  | none =>
    rw [append_nil]
    refine ⟨h, fun reqId hmem => ?_⟩
    cases hmem
  | more _ hchg ih =>
    refine ⟨?_, fun reqId hmem => ?_⟩
    · rw [← append_assoc]
      exact ih.1.change hchg
    · rcases mem_append.mp hmem with hmem | hmem
      · exact ih.2 reqId hmem
      · exact ih.1.not_over_of_sends hchg hmem

theorem stepChanges {after} (hstep : StepChanges cause l more after)
    (hfresh : ∀ reqId, cause.requested = some reqId → reqId ∉ used) :
    Protocol (cause.requested.toList ++ used) (after :: seen) (sent ++ more) after ∧
      ∀ reqId ∈ more, ∀ m ∈ seen, ¬ m.Over reqId := by
  cases hstep with
  | settles hchgs =>
    obtain ⟨hafter, hsends⟩ := h.changes hchgs
    exact ⟨(hafter.weaken (subset_append_right _ _)).observe, hsends⟩
  | dispatches hchgs hact hreq hnew =>
    rename_i reqId between
    have hbetween := (h.changes hchgs).1
    rw [append_nil] at hbetween
    rw [hreq]
    refine ⟨(hbetween.dispatches (hfresh reqId hreq) cause.nowMs).observe, ?_⟩
    intro other hmem m hm hover
    rw [mem_singleton.mp hmem] at hover
    exact hfresh reqId hreq (h.seenUsed m hm reqId hover)

end Protocol

/-! ## Whole runs -/

namespace DeviceControl

/-- What reconciliation makes of the active operation depends on nothing else. -/
theorem reconcile_active_congr {w other : DeviceControl} (h : other.active = w.active)
    (nowMs : Int) (fenceSockets fenceOthers : Bool) :
    (other.reconcileActiveOperation nowMs fenceOthers).active =
      (w.reconcileActiveOperation nowMs fenceSockets).active := by
  have hfence : ∀ (v : DeviceControl) (active : Operation) (fenced : Bool),
      (v.fenceOperation active nowMs fenced).active = some (active.fence nowMs) := by
    intro v active fenced
    cases fenced <;> rfl
  unfold reconcileActiveOperation
  rw [h]
  split
  · rfl
  · split
    · unfold reconcileDispatched
      split_ifs
      · rfl
      · rfl
      · rw [hfence, hfence]
    · unfold reconcileRecovering
      split_ifs
      · rfl
      · rw [hfence, hfence]
    · unfold reconcileAccepted
      split
      · rfl
      · split_ifs <;> rfl
    · unfold reconcileFenced
      split
      · rfl
      · split_ifs <;> rfl
    · exact h

theorem rotations_acceptLateResult (w : DeviceControl) (sock : Nat) (reqId : Text)
    (res : RemoteRotationResult) (opId : Option Nat) (nowMs : Int) (sends : Bool) :
    (w.acceptLateResult sock reqId res opId nowMs sends).1.rotations = [] := by
  unfold acceptLateResult
  split
  · rfl
  · split_ifs
    · rfl
    · exact rotations_sentIf_resultAck sends sock reqId
    · exact rotations_sentIf_resultAck sends sock reqId
    · rfl

theorem rotations_webSocketMessage (w : DeviceControl) (sock : Nat)
    (msg : Option DeviceMessage) (nowMs : Int) (sends : Bool) :
    (w.webSocketMessage sock msg nowMs sends).1.rotations = [] := by
  unfold webSocketMessage
  split
  · split_ifs
    · rfl
    · split <;> rfl
    · split
      · rfl
      · unfold acceptResult
        split
        · exact w.rotations_acceptLateResult sock _ _ _ nowMs sends
        · split_ifs
          · exact w.rotations_acceptLateResult sock _ _ _ nowMs sends
          · rfl
          · rfl
          · exact rotations_sentIf_resultAck sends sock _
      · rfl
      · rfl
  · rfl

theorem rotations_dispatchRotation (w : DeviceControl) (reqId : Text) (nowMs : Int) (sends : Bool) :
    (w.dispatchRotation reqId nowMs sends).2.1.rotations = [] ∨
      (w.dispatchRotation reqId nowMs sends).2.1.rotations = [reqId] := by
  unfold dispatchRotation
  dsimp only
  split
  · exact .inl rfl
  · exact .inl rfl
  · split
    · exact .inl rfl
    · unfold dispatchTo
      split_ifs
      · exact .inr rfl
      · exact .inl rfl

theorem rotations_redeliver (w : DeviceControl) (sock : Nat) (nowMs : Int) (sends : Bool) :
    (w.redeliverRecoveredOperation sock nowMs sends).1.rotations = [] ∨
      ∃ op, w.active = some op ∧ op.status = .recovering ∧
        (w.redeliverRecoveredOperation sock nowMs sends).1.rotations = [op.requestId] := by
  unfold redeliverRecoveredOperation
  split
  · exact .inl rfl
  · rename_i active hact
    split_ifs with hstat
    · exact .inl rfl
    · exact .inl rfl
    · exact .inr ⟨active, hact, not_not.mp hstat, rfl⟩
    · exact .inl rfl

/-- A step sends one rotation at most, for a new request or in the rest of an AUTH handler. -/
theorem rotations_step (w : DeviceControl) (input : Input) :
    (w.step input).1.rotations = [] ∨ ∃ reqId, (w.step input).1.rotations = [reqId] ∧
      (input.cause.requested = some reqId ∨ Redelivers w input reqId) := by
  cases input with
  | connect deviceId challenge nowMs =>
    left
    unfold step connectDevice
    dsimp only
    split
    · rfl
    · split <;> rfl
  | message sock msg nowMs sends => exact .inl (w.rotations_webSocketMessage sock msg nowMs sends)
  | verified verif valid nowMs readySends rotateSends =>
    unfold step
    dsimp only
    split_ifs with hpend hvalid
    · unfold completeAuth
      cases readySends with
      | true =>
        rcases rotations_redeliver _ verif.socket nowMs rotateSends with
          hnone | ⟨op, hact, hstat, hsent⟩
        · exact .inl hnone
        · have hsame : w.active =
              ({ w with verifying := w.verifying.erase verif }.authenticateSocket
                verif nowMs).active := rfl
          refine .inr ⟨op.requestId, hsent, .inr ?_⟩
          rw [hvalid]
          refine ⟨verif, nowMs, rotateSends, rfl, op, ?_, rfl, hstat⟩
          rw [← hact]
          exact reconcile_active_congr hsame nowMs false false
      | false => exact .inl rfl
    · exact .inl rfl
    · exact .inl rfl
  | rotate reqId nowMs sends =>
    rcases w.rotations_dispatchRotation reqId nowMs sends with hnone | hsent
    · exact .inl hnone
    · exact .inr ⟨reqId, hsent, .inl rfl⟩
  | proxy reqId waiter nowMs sends =>
    left
    unfold step proxyAndWait
    dsimp only
    split
    · rfl
    · split <;> rfl
  | _ => exact .inl rfl

end DeviceControl

/-- Every request id is used once. -/
def FreshRequests (inputs : List DeviceControl.Input) : Prop :=
  (inputs.filterMap fun input => input.cause.requested).Nodup

structure ProtocolRun (r : Recorded DeviceControl DeviceControl.Input Sent) : Prop where
  state : r.state = lastState .new r.history
  sockets : r.state.SocketsFit
  protocol : Protocol (requests r.history) (r.history.map (·.after.ledger)) (deliveries r.history)
    r.state.ledger

theorem Protocol.new : Protocol [] [] [] DeviceControl.new.ledger where
  activeUsed := by rintro _ ⟨⟩
  recentUsed := by rintro _ ⟨⟩
  sentUsed := by simp
  seenUsed := by simp
  nodup := nodup_nil
  length := Nat.zero_le _
  apart := by rintro _ ⟨⟩
  running := by rintro _ ⟨⟩
  accepted := by rintro _ ⟨⟩
  alarm := by rintro ⟨⟩
  count := fun _ => Nat.zero_le _
  recovering := by rintro _ ⟨⟩
  single := by simp
  concluded := by simp
  ended := by simp
  fenced := by simp
  released := by simp
  results := by simp

namespace ProtocolRun

theorem init : ProtocolRun (.init .new) := ⟨rfl, .new, .new⟩

variable {r : Recorded DeviceControl DeviceControl.Input Sent}

theorem record_step (h : ProtocolRun r) {input}
    (hfresh : ∀ reqId, input.cause.requested = some reqId → reqId ∉ requests r.history) :
    ProtocolRun (record DeviceControl.step r input) ∧
      Sends (eventOf DeviceControl.step r.state input) r.history := by
  obtain ⟨hprotocol, hsends⟩ := h.protocol.stepChanges (r.state.stepChanges_step input) hfresh
  refine ⟨⟨rfl, h.sockets.change (r.state.socketChange_step input), ?_⟩, ?_⟩
  · have hrequests : requests (eventOf DeviceControl.step r.state input :: r.history) =
        input.cause.requested.toList ++ requests r.history := by
      unfold requests
      rw [filterMap_cons]
      cases hreq : input.cause.requested <;>
        simp [eventOf, hreq]
    show Protocol (requests (eventOf DeviceControl.step r.state input :: r.history)) _ _ _
    rw [hrequests]
    exact hprotocol
  · have hnew : ∀ reqId ∈ (r.state.step input).1.rotations,
        ∀ x ∈ r.history, ¬ x.after.ledger.Over reqId :=
      fun reqId hmem x hx => hsends reqId hmem _ (mem_map_of_mem hx)
    rcases r.state.rotations_step input with hnone | ⟨sent, hsent, hwhy⟩
    · simp [Sends, eventOf, hnone]
    · refine ⟨by simp [eventOf, hsent], fun reqId hmem => ⟨hnew reqId hmem, ?_⟩⟩
      have heq : reqId = sent := by simpa [eventOf, hsent] using hmem
      subst heq
      intro hdelivered
      rcases hwhy with hreq | hredelivers
      · -- a fresh id was not delivered before
        exact absurd (h.protocol.sentUsed reqId hdelivered) (hfresh reqId hreq)
      · rw [← h.state]
        exact hredelivers

end ProtocolRun

theorem always_protocolRun {inputs} (hfresh : FreshRequests inputs) :
    Always (fun e older => ProtocolRun ⟨e.after, e :: older⟩ ∧ Sends e older)
      (runWorker inputs).history := by
  refine always_record_along (I := ProtocolRun) ?_ .init .nil
    (along_fresh (Q := fun _ => True) hfresh (fun _ _ hmem => by cases hmem) fun _ _ => trivial)
  rintro r input h ⟨hnew, -⟩
  obtain ⟨hnext, hsends⟩ := h.record_step hnew
  exact ⟨hnext, hnext, hsends⟩

theorem deliveries_count {inputs} (hfresh : FreshRequests inputs)
    (reqId : Text) : (deliveries (runWorker inputs).history).count reqId ≤ 2 := by
  have hrun := always_protocolRun hfresh
  generalize (runWorker inputs).history = hist at hrun
  cases hist with
  | nil => exact Nat.zero_le _
  | cons e older => exact (always_cons_iff.mp hrun).1.1.protocol.count reqId

theorem operation_protocol (inputs : List DeviceControl.Input) (hfresh : FreshRequests inputs) :
    OperationProtocol (runWorker inputs).history := by
  have hrun := always_protocolRun hfresh
  have hafter : ∀ x ∈ (runWorker inputs).history, ∃ older,
      ProtocolRun ⟨x.after, x :: older⟩ := by
    intro x hx
    obtain ⟨newer, older, heq⟩ := append_of_mem hx
    exact ⟨older, (hrun newer x older heq).1⟩
  constructor
  · intro x hx
    obtain ⟨older, h⟩ := hafter x hx
    exact fun socket hsocket other hother => h.sockets.unique hsocket hother
  · exact deliveries_count hfresh
  · exact fun newer e older heq => (hrun newer e older heq).2
  · intro newer e older heq x hx earlier hearlier hstatus
    have hprotocol := (hrun newer e older heq).1.protocol
    exact hprotocol.fenced _ (mem_map_of_mem (mem_cons_of_mem e hx)) earlier hearlier hstatus
  · intro newer e older heq x hx earlier hearlier hstatus operation hactive hsame
    have hprotocol := (hrun newer e older heq).1.protocol
    obtain ⟨haccepted, hat⟩ := hprotocol.released _
      (mem_map_of_mem (mem_cons_of_mem e hx)) earlier hearlier hstatus operation hactive hsame
    obtain ⟨acceptedAtMs, hacceptedAt, halarm⟩ := hprotocol.accepted operation hactive haccepted
    exact ⟨acceptedAtMs, hat.symm.trans hacceptedAt, hacceptedAt, halarm⟩
  · intro x hx
    obtain ⟨older, h⟩ := hafter x hx
    exact ⟨h.protocol.nodup, h.protocol.length⟩
  · intro newer e older heq x hx
    have hprotocol := (hrun newer e older heq).1.protocol
    exact hprotocol.results _ (mem_map_of_mem (mem_cons_of_mem e hx))
  · intro x hx
    obtain ⟨older, h⟩ := hafter x hx
    exact h.protocol.alarm

theorem always_requested {inputs} (hfresh : FreshRequests inputs) :
    Always Requested (runWorker inputs).history := by
  intro newer e older heq
  have h := (always_protocolRun hfresh newer e older heq).1.protocol
  refine ⟨fun reqId hsent => h.sentUsed reqId (mem_append_right _ hsent), h.recentUsed, ?_⟩
  exact fun op hactive => ⟨h.running op hactive, h.activeUsed op hactive, h.apart op hactive⟩

/-! ### A session -/

def sampleIdentity : DeviceIdentity := ⟨List.replicate 64 'a', "key".toList⟩

/-- A device that connects and proves its identity. -/
def DeviceIdentity.connects (identity : DeviceIdentity) (socket : Nat) (nowMs : Int) :
    List DeviceControl.Input :=
  [.connect identity.deviceId "nonce".toList nowMs,
    .message socket (some (.auth identity.deviceId "signature".toList)) nowMs true,
    .verified ⟨socket, identity.deviceId, "nonce".toList, identity.publicKey, "signature".toList⟩
      true nowMs true true]

def firstRequest : Text := "req_1".toList

/-- A rotation whose first delivery is lost: it is sent again, accepted twice and ends, and another
one follows. -/
def redeliveredSession : List DeviceControl.Input :=
  .enroll sampleIdentity none 0 :: sampleIdentity.connects 0 0 ++
  [.rotate firstRequest 100 true, .alarm 2100] ++ sampleIdentity.connects 1 3000 ++
  [.message 1 (some (.accepted firstRequest 7)) 3100 true,
    .message 1 (some (.accepted firstRequest 7)) 3200 true,
    .message 1 (some (.result firstRequest .changed (some 7))) 4000 true,
    .rotate "req_2".toList 5000 true]

theorem operation_protocol_redelivered :
    deliveries (runWorker redeliveredSession).history =
        [firstRequest, firstRequest, "req_2".toList] ∧
      OperationProtocol (runWorker redeliveredSession).history :=
  ⟨by decide +kernel, operation_protocol redeliveredSession (by
    unfold FreshRequests
    decide +kernel)⟩

theorem always_requested_redelivered :
    Always Requested (runWorker redeliveredSession).history :=
  always_requested (by unfold FreshRequests; decide +kernel)

end MishProxy.Worker
