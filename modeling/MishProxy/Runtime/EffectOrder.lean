import MishProxy.Runtime.StaleJumps

/-!
# The order of effects of a reconcile

For an arbitrary `RootPolicyIo` and arbitrary currentness answers, the trace of
`reconcileIfCurrent` obeys `EffectOrder`:

* the permitting lookup is added at most once, only for an admitted request, only behind
  a snapshot that passed `verifyFailClosedBase` and was read after every change of a
  guard or of the mangle table, and only when the last currentness answer was true;
* a run superseded right after its initial snapshot has issued nothing but deletions of
  stale owner jumps;
* the product chain is flushed or written to only behind a listing of that family
  without a product jump.

`Safe` states the first and the last point for every mutation of a trace at once.
-/

namespace MishProxy.Runtime

open Text Cellular Routing Effects Effects.Exec Session List RootPolicyContract

/-! ## Kinds of commands -/

/-- A change of a guard or of the mangle table. -/
def isBaseChange : PolicyCommand → Bool
  | .ruleAdd _ attributes => attributes.action == .unreachable
  | .ruleDelete _ attributes => attributes.action == .unreachable
  | .mangle _ _ => true
  | _ => false

/-- A flush of the product chain, or a rule appended to it. -/
def writesChain (contract : RootPolicyContract) (family : Family) : PolicyCommand → Bool
  | .mangle other (.flush chain) => other == family && chain == contract.chainName
  | .mangle other (.append rule) =>
      other == family && startsWith rule ("-A ".toList ++ contract.chainName ++ [' '])
  | _ => false

/-! ## Properties of traces -/

def NoLookupAdd (trace : List PolicyEvent) : Prop :=
  ∀ command answer, .mutated command answer ∈ trace → isLookupAdd command = false

def NoBaseChange (trace : List PolicyEvent) : Prop :=
  ∀ command answer, .mutated command answer ∈ trace → isBaseChange command = false

def lastCurrent (trace : List PolicyEvent) : Option Bool :=
  (trace.filterMap fun
    | .current answer => some answer
    | _ => none).getLast?

/-- The four listings of a snapshot, in the order in which they are read. -/
def snapshotEvents (snapshot : RootPolicySnapshot) : List PolicyEvent :=
  [.listed (.ruleShow .ipv4) (.ok snapshot.ipv4Rules),
   .listed (.ruleShow .ipv6) (.ok snapshot.ipv6Rules),
   .listed (.mangleShow .ipv4) (.ok snapshot.ipv4Mangle),
   .listed (.mangleShow .ipv6) (.ok snapshot.ipv6Mangle)]

section

variable (contract : RootPolicyContract) (admitted : Bool)

/-- The trace holds a snapshot that verifies for the identity, with no change of the base
behind it. -/
def Verified (identity : PolicyIdentity) (trace : List PolicyEvent) : Prop :=
  ∃ (hid : identity ∈ contract.ns.candidates) (before after : List PolicyEvent)
    (snapshot : RootPolicySnapshot),
    trace = before ++ snapshotEvents snapshot ++ after ∧
      (contract.withIdentity identity hid).verifyFailClosedBase snapshot = .ok () ∧
      NoBaseChange after

/-- A listing of the family without a product jump was read. -/
def ReadDetached (family : Family) (trace : List PolicyEvent) : Prop :=
  ∃ lines, .listed (.mangleShow family) (.ok lines) ∈ trace ∧ contract.outputJumpCount lines = 0

structure LookupAllowed (past : List PolicyEvent) (command : PolicyCommand) : Prop where
  admitted : admitted = true
  first : NoLookupAdd past
  current : lastCurrent past = some true
  verified : ∃ identity table, command = .ruleAdd .ipv4 (lookupAttributes identity table) ∧
    Verified contract identity past

structure MutationAllowed (past : List PolicyEvent) (command : PolicyCommand) : Prop where
  lookup : isLookupAdd command = true → LookupAllowed contract admitted past command
  chain : ∀ family, writesChain contract family command = true → ReadDetached contract family past

def Safe (trace : List PolicyEvent) : Prop :=
  ∀ past command answer later, trace = past ++ .mutated command answer :: later →
    MutationAllowed contract admitted past command

/-- Every mutation deletes a jump of a former uid that a listing of the run showed. -/
def OnlyBootstrap (trace : List PolicyEvent) : Prop :=
  ∀ command answer, .mutated command answer ∈ trace →
    ∃ family result uid, .raw (.mangleShow family) (.ok result) ∈ trace ∧
      uid ∈ contract.staleOwnerJumpUids (parseLines result.stdout) ∧
      command = staleOwnerJumpDelete contract family uid

structure EffectOrder (trace : List PolicyEvent) : Prop where
  lookup_once : (trace.filter fun
    | .mutated command _ => isLookupAdd command
    | _ => false).length ≤ 1
  lookup_add : ∀ past command answer later, trace = past ++ .mutated command answer :: later →
    isLookupAdd command = true → LookupAllowed contract admitted past command
  superseded : ∀ before snapshot later, NoListing before →
    trace = before ++ snapshotEvents snapshot ++ .current false :: later →
    OnlyBootstrap contract trace
  chain_write : ∀ past command answer later, trace = past ++ .mutated command answer :: later →
    ∀ family, writesChain contract family command = true → ReadDetached contract family past

end

variable {con : RootPolicyContract} {admitted : Bool}

/-! ## Growing traces -/

variable {trace : List PolicyEvent} {ev : PolicyEvent}

theorem Safe.append (h : Safe con admitted trace) (hevent : ∀ cmd ans, ev = .mutated cmd ans →
      MutationAllowed con admitted trace cmd) :
    Safe con admitted (trace ++ [ev]) := EveryMutation.append h hevent

theorem NoLookupAdd.append (h : NoLookupAdd trace)
    (hevent : ∀ cmd ans, ev = .mutated cmd ans → isLookupAdd cmd = false) :
    NoLookupAdd (trace ++ [ev]) := by
  intro cmd ans hmem
  rcases mem_append.mp hmem with hmem | hmem
  · exact h cmd ans hmem
  · exact hevent cmd ans (mem_singleton.mp hmem).symm

theorem NoBaseChange.append (h : NoBaseChange trace)
    (hevent : ∀ cmd ans, ev = .mutated cmd ans → isBaseChange cmd = false) :
    NoBaseChange (trace ++ [ev]) := by
  intro cmd ans hmem
  rcases mem_append.mp hmem with hmem | hmem
  · exact h cmd ans hmem
  · exact hevent cmd ans (mem_singleton.mp hmem).symm

theorem ReadDetached.append {fam} (h : ReadDetached con fam trace)
    (ev) : ReadDetached con fam (trace ++ [ev]) := by
  obtain ⟨lines, hmem, hcount⟩ := h
  exact ⟨lines, mem_append_left _ hmem, hcount⟩

theorem Verified.append {ident} (h : Verified con ident trace)
    (hevent : ∀ cmd ans, ev = .mutated cmd ans → isBaseChange cmd = false) :
    Verified con ident (trace ++ [ev]) := by
  obtain ⟨hid, before, after, snap, rfl, hverify, hafter⟩ := h
  exact ⟨hid, before, after ++ [ev], snap, by simp, hverify, hafter.append hevent⟩

theorem lastCurrent_append_other {ans} (h : lastCurrent trace = ans)
    (hevent : ∀ other, ev ≠ .current other) : lastCurrent (trace ++ [ev]) = ans := by
  rw [← h]
  unfold lastCurrent
  rw [filterMap_append]
  cases ev with
  | current other => exact absurd rfl (hevent other)
  | _ => simp

theorem lastCurrent_append_current (trace ans) :
    lastCurrent (trace ++ [.current ans]) = some ans := by
  unfold lastCurrent
  rw [filterMap_append]
  simp

theorem Safe.lookup_once (h : Safe con admitted trace) : (trace.filter fun
      | .mutated cmd _ => isLookupAdd cmd
      | _ => false).length ≤ 1 := by
  induction trace using reverseRecOn with
  | nil => simp
  | append_singleton trace ev ih =>
    have htrace : Safe con admitted trace := by
      intro past cmd ans later hsplit
      exact h past cmd ans (later ++ [ev]) (by simp [hsplit])
    rw [filter_append, length_append]
    by_cases hevent : ∃ cmd ans, ev = .mutated cmd ans ∧ isLookupAdd cmd = true
    · obtain ⟨cmd, ans, rfl, hadd⟩ := hevent
      have hfirst := ((h trace cmd ans [] rfl).lookup hadd).first
      have hnone : (trace.filter fun
          | .mutated cmd _ => isLookupAdd cmd
          | _ => false) = [] := by
        rw [filter_eq_nil_iff]
        intro other hoth
        cases other with
        | mutated cmd ans => simp [hfirst cmd ans hoth]
        | _ => simp
      rw [hnone]
      simp [hadd]
    · have hnone : ([ev].filter fun
          | .mutated cmd _ => isLookupAdd cmd
          | _ => false) = [] := by
        rw [filter_eq_nil_iff]
        intro other hoth
        rw [mem_singleton.mp hoth]
        cases ev with
        | mutated cmd ans =>
          intro hadd
          exact hevent ⟨cmd, ans, rfl, hadd⟩
        | _ => simp
      rw [hnone]
      simpa using ih htrace

/-! ## Before the lookup is added -/

/-- The run has added no lookup, and its trace extends `start`. -/
structure Underway (contract : RootPolicyContract) (admitted : Bool) (start : List PolicyEvent)
    (trace : List PolicyEvent) : Prop where
  safe : Safe contract admitted trace
  noAdd : NoLookupAdd trace
  starts : start <+: trace

variable {start : List PolicyEvent} {fam : Family}

theorem Underway.append (h : Underway con admitted start trace)
    (hadd : ∀ cmd ans, ev = .mutated cmd ans → isLookupAdd cmd = false)
    (hchain : ∀ cmd ans, ev = .mutated cmd ans → ∀ fam,
      writesChain con fam cmd = true → ReadDetached con fam trace) :
    Underway con admitted start (trace ++ [ev]) := by
  refine ⟨h.safe.append ?_, h.noAdd.append hadd, h.starts.trans (prefix_append _ _)⟩
  intro cmd ans hevent
  refine ⟨?_, hchain cmd ans hevent⟩
  rw [hadd cmd ans hevent]
  simp

theorem underway_observes : Observes (Underway con admitted start) where
  listed _ _ _ h := h.append (by simp) (by simp)
  observed _ _ _ h := h.append (by simp) (by simp)

theorem underway_passes {cmd} (hadd : isLookupAdd cmd = false)
    (hchain : ∀ fam, writesChain con fam cmd = false) :
    Passes (Underway con admitted start) cmd := by
  intro trace ans h
  refine h.append ?_ ?_
  · simp
    exact hadd
  · rintro _ _ ⟨⟩ fam hwrites
    rw [hchain fam] at hwrites
    cases hwrites

section

variable {σ : Type} {io : RootPolicyIo σ} {t : Traced σ}

/-- The listing a state was computed from is in the trace. -/
def Listing (contract : RootPolicyContract) (admitted : Bool) (start : List PolicyEvent)
    (family : Family) (lines : List Text) (t : Traced σ) : Prop :=
  Underway contract admitted start t.trace ∧
    .listed (.mangleShow family) (.ok lines) ∈ t.trace

/-- A state that calls for writing the chain comes from a listing without a jump. -/
def StateRead (contract : RootPolicyContract) (admitted : Bool) (start : List PolicyEvent)
    (family : Family) (state : MangleFamilyState) (t : Traced σ) : Prop :=
  Underway contract admitted start t.trace ∧
    (state = .missing ∨ state = .detachedMismatch → ReadDetached contract family t.trace)

variable {state : MangleFamilyState}

theorem outputJumpCount_of_state {lines} (h : con.mangleFamilyState lines fam = some state)
    (hstate : state = .missing ∨ state = .detachedMismatch) : con.outputJumpCount lines = 0 := by
  obtain ⟨ident, -, rfl⟩ := Option.map_eq_some_iff.mp h
  unfold mangleFamilyStateFor at hstate
  dsimp only at hstate
  split_ifs at hstate
  all_goals first
    | assumption
    | (rcases hstate with hstate | hstate <;> cases hstate; done)
    | omega

theorem ends_readListing (h : Underway con admitted start t.trace) :
    Ends (readLines (traced io) (.mangleShow fam)) (Listing con admitted start fam)
      (fun _ => OnTrace (Underway con admitted start)) t := by
  unfold readLines
  rw [ends_mapError]
  refine ends_record ?_ ?_
  · intro lines world
    exact ⟨underway_observes.listed _ _ _ h, by simp⟩
  · intro failure world
    exact underway_observes.listed _ _ _ h

theorem ends_familyState {lines} (h : Listing con admitted start fam lines t) :
    Ends (familyState con fam lines)
      (fun state t => StateRead con admitted start fam state t ∧
        Listing con admitted start fam lines t)
      (fun _ => OnTrace (Underway con admitted start)) t := by
  unfold familyState
  rw [ends_require]
  refine ⟨fun state hst => ⟨⟨h.1, fun hcase => ?_⟩, h⟩, fun _ => h.1⟩
  exact ⟨lines, h.2, outputJumpCount_of_state hst hcase⟩

theorem ends_readFamilyState (h : Underway con admitted start t.trace) :
    Ends (readFamilyState (traced io) con fam) (StateRead con admitted start fam)
      (fun _ => OnTrace (Underway con admitted start)) t := by
  unfold readFamilyState
  refine .bind (ends_readListing h) ?_
  intro lines t hlines
  exact .imp (ends_familyState hlines) fun _ _ h => h.1

theorem ends_removeDuplicateJump {lines} (h : Listing con admitted start fam lines t) :
    Ends (removeDuplicateJump (traced io) con fam lines)
      (fun res t => match res with
        | .inl lines => Listing con admitted start fam lines t
        | .inr lines => Listing con admitted start fam lines t)
      (fun _ => OnTrace (Underway con admitted start)) t := by
  unfold removeDuplicateJump
  rw [ends_ite]
  refine ⟨fun _ => h, fun _ => ?_⟩
  rw [ends_bind, ends_attempt]
  have hpass : Passes (Underway con admitted start) (outputJumpDelete con fam) :=
    underway_passes rfl fun _ => rfl
  refine ends_mono (hpass.keeps t h.1) ?_ ?_
  · intro _ t ht
    rw [ends_bind]
    exact ends_readListing ht
  · intro failure t ht
    cases failure with
    | mutationUncertain =>
      refine .bind (ends_readListing ht) ?_
      intro fresh t hfresh
      rw [ends_ite]
      exact ⟨fun _ => hfresh, fun _ => hfresh.1⟩
    | observationUnavailable | observationIncomplete | mutationRejected => exact ht

theorem ordered_createChain (h : StateRead con admitted start fam state t) :
    Ends (createChain (traced io) con fam state)
      (StateRead con admitted start fam)
      (fun _ => OnTrace (Underway con admitted start)) t := by
  unfold createChain
  rw [ends_ite]
  refine ⟨fun _ => ?_, fun _ => h⟩
  rw [ends_bind]
  have hpass : Passes (Underway con admitted start) (createChainCommand con fam) :=
    underway_passes rfl fun _ => rfl
  exact .imp (keeps_issue hpass.keeps t h.1) fun _ _ ht => ends_readFamilyState ht

/-- Behind a listing without a jump the chain may be written to. -/
theorem keeps_issue_detached {cmd} (hadd : isLookupAdd cmd = false)
    (hfamily : ∀ other, writesChain con other cmd = true → other = fam) :
    Keeps (OnTrace fun trace => Underway con admitted start trace ∧
      ReadDetached con fam trace) (issue (traced io) cmd) := by
  refine keeps_issue (Passes.keeps fun trace ans h => ⟨h.1.append ?_ ?_, h.2.append _⟩)
  · simp
    exact hadd
  · rintro _ _ ⟨⟩ other hwrites
    rw [hfamily other hwrites]
    exact h.2

theorem ordered_fillChain (h : StateRead con admitted start fam state t) :
    Ends (fillChain (traced io) con fam state)
      (fun _ => OnTrace (Underway con admitted start))
      (fun _ => OnTrace (Underway con admitted start)) t := by
  unfold fillChain
  rw [ends_ite]
  refine ⟨fun hst => ?_, fun _ => h.1⟩
  have hflush : Keeps (OnTrace fun trace => Underway con admitted start trace ∧
      ReadDetached con fam trace)
      (issue (traced io) (flushChainCommand con fam)) := by
    refine keeps_issue_detached rfl fun other hwrites => ?_
    simp only [flushChainCommand, writesChain, Bool.and_eq_true, beq_iff_eq] at hwrites
    exact hwrites.1.symm
  have happend : ∀ rule, Keeps (OnTrace fun trace => Underway con admitted start trace ∧
      ReadDetached con fam trace)
      (issue (traced io) (.mangle fam (.append rule))) := by
    refine fun rule => keeps_issue_detached rfl fun other hwrites => ?_
    simp only [writesChain, Bool.and_eq_true, beq_iff_eq] at hwrites
    exact hwrites.1.symm
  rw [ends_bind]
  refine ends_mono (hflush t ⟨h.1, h.2 (.inr hst)⟩) ?_ fun _ _ h => h.1
  intro _ t ht
  rw [ends_bind, ends_require]
  refine ⟨fun expd _ => ?_, fun _ => ht.1⟩
  rw [ends_bind]
  refine ends_mono (Keeps.forEach (fun rule _ => happend rule) t ht) ?_ fun _ _ h => h.1
  intro _ t ht
  exact .imp (ends_readFamilyState ht.1) fun _ _ h => h.1

theorem writesChain_outputJump (other) : writesChain con other (outputJumpAdd con fam) = false := by
  have hstart : startsWith con.outputJump ("-A ".toList ++ con.chainName ++ [' ']) =
      false := by
    rw [outputJump, chainName]
    generalize con.productUid = uid
    have houtput : ∃ rest, outputJumpOf uid con.ns.chainName =
        '-' :: 'A' :: ' ' :: 'O' :: rest := ⟨_, rfl⟩
    obtain ⟨rest, hrest⟩ := houtput
    rw [hrest]
    cases con.ns <;> rfl
  simp only [outputJumpAdd, writesChain, hstart, Bool.and_false]

theorem keeps_attachChain (state) : Keeps (OnTrace (Underway con admitted start))
      (attachChain (traced io) con fam state) := by
  unfold attachChain
  refine .ite ?_ (.fail _)
  have hpass : Passes (Underway con admitted start) (outputJumpAdd con fam) :=
    underway_passes rfl writesChain_outputJump
  refine .bind (keeps_issue hpass.keeps) fun _ => ?_
  exact .bind (keeps_readLines underway_observes.reads _) fun _ => keeps_ensure _ _

theorem ordered_buildChain (h : StateRead con admitted start fam state t) :
    Ends (buildChain (traced io) con fam state)
      (fun _ => OnTrace (Underway con admitted start))
      (fun _ => OnTrace (Underway con admitted start)) t := by
  unfold buildChain
  rw [ends_ite]
  refine ⟨fun _ => h.1, fun _ => ?_⟩
  refine .bind (ordered_createChain h) ?_
  intro created t ht
  exact .bind (ordered_fillChain ht) fun filled t ht => keeps_attachChain filled t ht

theorem underway_ensureMangleFamily (fuel : Nat) : Keeps (OnTrace (Underway con admitted start))
      (ensureMangleFamily (traced io) con fuel fam) := by
  intro t ht
  unfold ensureMangleFamily
  rw [ends_bind, ends_mapError]
  refine .imp (ends_readListing ht) ?_
  intro snap t hsnap
  rw [ends_bind, ends_mapError]
  refine .imp (ends_familyState hsnap) ?_
  intro state t hst
  rw [ends_ite]
  refine ⟨fun _ => hst.1.1, fun _ => ?_⟩
  rw [ends_ite]
  refine ⟨fun _ => ?_, fun _ => ?_⟩
  · rw [ends_bind]
    -- the loop keeps the listing it holds in the trace
    refine ends_whileFuel (fun _ => Listing con admitted start fam) ?_
      (fun _ _ h => h.1) fuel snap t hst.2
    intro _ lines t hlines
    refine .imp (ends_removeDuplicateJump hlines) ?_
    intro res t hres
    cases res with
    | inr lines => exact hres
    | inl single =>
      dsimp only
      rw [ends_bind, ends_mapError]
      refine .imp (ends_familyState hres) ?_
      intro state t hst
      rw [ends_mapError]
      exact ordered_buildChain hst.1
  · rw [ends_mapError]
    exact ordered_buildChain hst.1

end

/-! ## The transaction -/

section

variable {σ ε : Type} {io : RootPolicyIo σ} {isCurrent : σ → Bool × σ} {t : Traced σ}

theorem passes_guardAdd (fam ident) :
    Passes (Underway con admitted start) (.ruleAdd fam (guardAttributes ident)) :=
  underway_passes rfl fun _ => rfl

theorem passes_lookupDelete (ident tbl) : Passes (Underway con admitted start)
      (.ruleDelete .ipv4 (lookupAttributes ident tbl)) := underway_passes rfl fun _ => rfl

theorem underway_removeLegacySelector : Keeps (OnTrace (Underway con admitted start))
      (removeLegacySelector (traced io) con fam) := by
  have hpass : Passes (Underway con admitted start) (legacySelectorDelete con fam) :=
    underway_passes rfl fun _ => rfl
  exact keeps_removeExactRule underway_observes.reads hpass.keeps

theorem underway_prepareFailClosed (fuel initial) : Keeps (OnTrace (Underway con admitted start))
      (prepareFailClosed (traced io) con fuel initial) := by
  unfold prepareFailClosed
  refine .bind (.skipIf (.mapError _
    (keeps_ensureGuard underway_observes.reads fun _ _ => (passes_guardAdd _ _).keeps))) fun _ => ?_
  refine .bind (.skipIf (.mapError _
    (keeps_ensureGuard underway_observes.reads fun _ _ => (passes_guardAdd _ _).keeps))) fun _ => ?_
  refine .bind (.skipIf (.mapError _ (keeps_removeOwnedIpv4Lookups underway_observes.reads
      fun _ _ _ _ => (passes_lookupDelete _ _).keeps))) fun _ => ?_
  refine .bind (.skipIf (underway_ensureMangleFamily _)) fun _ => ?_
  refine .bind (.skipIf (underway_ensureMangleFamily _)) fun _ => ?_
  refine .bind (.mapError _ underway_removeLegacySelector) fun _ => ?_
  exact .mapError _ underway_removeLegacySelector

theorem ends_tracedCurrent {Q : Bool → Traced σ → Prop} {E : ε → Traced σ → Prop}
    (hQ : ∀ ans world, Q ans ⟨world, t.trace ++ [.current ans]⟩) :
    Ends (lift (tracedCurrent isCurrent)) Q E t := hQ _ _

theorem ends_tracedSnapshot {P} (hobs : Observes P) (h : P t.trace) :
    Ends (readSnapshot (traced io))
      (fun snap t' => P t'.trace ∧ t'.trace = t.trace ++ snapshotEvents snap)
      (fun _ => OnTrace P) t := by
  have hread : ∀ (cmd : PolicyCommand) (t : Traced σ), P t.trace → Ends (readLines (traced io) cmd)
        (fun lines t' => P t'.trace ∧ t'.trace = t.trace ++ [.listed cmd (.ok lines)])
        (fun _ => OnTrace P) t := by
    intro cmd t h
    unfold readLines
    rw [ends_mapError]
    exact ends_record (fun _ _ => ⟨hobs.listed _ _ _ h, rfl⟩) fun _ _ => hobs.listed _ _ _ h
  unfold readSnapshot
  refine .bind (hread _ t h) ?_
  intro ipv4Rules t₁ h₁
  refine .bind (hread _ t₁ h₁.1) ?_
  intro ipv6Rules t₂ h₂
  refine .bind (hread _ t₂ h₂.1) ?_
  intro ipv4Mangle t₃ h₃
  refine .bind (hread _ t₃ h₃.1) ?_
  intro ipv6Mangle t₄ h₄
  refine ⟨h₄.1, ?_⟩
  rw [h₄.2, h₃.2, h₂.2, h₁.2]
  simp [snapshotEvents]

variable {ident : PolicyIdentity}

theorem ends_verifyFailClosed (hact : con.activeIdentity = some ident)
    (h : Underway con admitted start t.trace) : Ends (verifyFailClosed (traced io) con)
      (fun _ t => Underway con admitted start t.trace ∧ Verified con ident t.trace)
      (fun _ => OnTrace (Underway con admitted start)) t := by
  unfold verifyFailClosed
  refine .bind (ends_tracedSnapshot underway_observes h) ?_
  intro snap t' ht'
  cases hverify : con.verifyFailClosedBase snap with
  | error failure => exact ht'.1
  | ok _ =>
    refine ⟨ht'.1, con.active_mem ident hact, t.trace, [], snap, ?_, ?_, by rintro _ _ ⟨⟩⟩
    · rw [ht'.2, append_nil]
    · rwa [con.withIdentity_self hact]

/-- Everything the addition of the lookup needs. -/
structure Ready (contract : RootPolicyContract) (admitted : Bool) (start : List PolicyEvent)
    (identity : PolicyIdentity) (trace : List PolicyEvent) : Prop where
  underway : Underway contract admitted start trace
  verified : Verified contract identity trace
  current : lastCurrent trace = some true

theorem ready_observes : Observes (Ready con admitted start ident) where
  listed _ _ _ h :=
    ⟨underway_observes.listed _ _ _ h.underway, h.verified.append (by simp),
      lastCurrent_append_other h.current (by simp)⟩
  observed _ _ _ h :=
    ⟨underway_observes.observed _ _ _ h.underway, h.verified.append (by simp),
      lastCurrent_append_other h.current (by simp)⟩

theorem ready_passes_lookupDelete (other tbl) : Passes (Ready con admitted start ident)
      (.ruleDelete .ipv4 (lookupAttributes other tbl)) := by
  intro trace ans h
  refine ⟨passes_lookupDelete other tbl _ _ h.underway, h.verified.append ?_,
    lastCurrent_append_other h.current (by simp)⟩
  simp
  rfl

/-- What is left once the lookup may have been added. -/
structure Settled (contract : RootPolicyContract) (admitted : Bool) (start : List PolicyEvent)
    (trace : List PolicyEvent) : Prop where
  safe : Safe contract admitted trace
  starts : start <+: trace

variable {trace : List PolicyEvent}

theorem Underway.settled (h : Underway con admitted start trace) :
    Settled con admitted start trace := ⟨h.safe, h.starts⟩

variable {ev : PolicyEvent}

theorem Settled.append (h : Settled con admitted start trace)
    (hevent : ∀ cmd ans, ev = .mutated cmd ans → MutationAllowed con admitted trace cmd) :
    Settled con admitted start (trace ++ [ev]) :=
  ⟨h.safe.append hevent, h.starts.trans (prefix_append _ _)⟩

theorem settled_observes : Observes (Settled con admitted start) where
  listed _ _ _ h := h.append (by simp)
  observed _ _ _ h := h.append (by simp)

theorem settled_passes_lookupDelete (other tbl) : Passes (Settled con admitted start)
      (.ruleDelete .ipv4 (lookupAttributes other tbl)) := by
  intro trace ans h
  refine h.append ?_
  simp
  exact ⟨by rintro ⟨⟩, fun _ => by rintro ⟨⟩⟩

theorem ends_addLookup (hadm : admitted = true) (hact : con.activeIdentity = some ident) {tbl add}
    (hadd : ipv4LookupAdd con tbl = some add)
    (h : Ready con admitted start ident t.trace) :
    Ends (issue (traced io) add) (fun _ => OnTrace (Settled con admitted start))
      (fun _ => OnTrace (Settled con admitted start)) t := by
  have hcmd : add = .ruleAdd .ipv4 (lookupAttributes ident tbl) := by
    unfold ipv4LookupAdd at hadd
    split_ifs at hadd
    rw [hact] at hadd
    exact (Option.some.inj hadd).symm
  have hallw : MutationAllowed con admitted t.trace add := by
    refine ⟨fun _ => ⟨hadm, h.underway.noAdd, h.current, ident, tbl, hcmd, h.verified⟩, ?_⟩
    rw [hcmd]
    exact fun _ => by rintro ⟨⟩
  unfold issue
  rw [ends_mapError]
  refine ends_record ?_ ?_
  all_goals
    intro _ _
    refine h.underway.settled.append ?_
    simp
    exact hallw

theorem ends_replaceIpv4Lookup (hadm : admitted = true)
    (hact : con.activeIdentity = some ident) (tbl : Text)
    (h : Ready con admitted start ident t.trace) : Ends (replaceIpv4Lookup (traced io) con tbl)
      (fun _ => OnTrace (Settled con admitted start))
      (fun _ => OnTrace (Settled con admitted start)) t := by
  have hstd : ∀ (failure : RootPolicyFailure) (t : Traced σ),
      OnTrace (Ready con admitted start ident) t →
      OnTrace (Settled con admitted start) t := fun _ _ h => h.underway.settled
  unfold replaceIpv4Lookup
  rw [ends_bind]
  refine ends_mono (keeps_readLines ready_observes.reads _ t h) ?_ hstd
  intro rules t ht
  rw [ends_bind]
  refine ends_mono (keeps_deleteLookups
    (fun _ _ _ _ => (ready_passes_lookupDelete _ _).keeps) _ _ t ht) ?_ hstd
  intro _ t ht
  rw [ends_bind]
  refine ends_mono (keeps_readLines ready_observes.reads _ t ht) ?_ hstd
  intro afterDelete t ht
  rw [ends_ite]
  refine ⟨fun _ => ht.underway.settled, fun _ => ?_⟩
  rw [ends_bind, ends_require]
  refine ⟨fun add hadd => ?_, fun _ => ht.underway.settled⟩
  refine .bind (ends_addLookup hadm hact hadd ht) ?_
  exact fun _ t ht => Keeps.bind (keeps_readLines settled_observes.reads _)
    (fun _ => keeps_ensure _ _) t ht

theorem ends_applyAdmitted (hadm : admitted = true)
    (hact : con.activeIdentity = some ident) (tbl interface : Text)
    (h : Ready con admitted start ident t.trace) :
    Ends (applyAdmitted (traced io) con tbl interface)
      (fun _ => OnTrace (Settled con admitted start))
      (fun _ => OnTrace (Settled con admitted start)) t := by
  unfold applyAdmitted
  refine .bind (ends_replaceIpv4Lookup hadm hact tbl h) ?_
  intro _ t ht
  refine keeps_require (fun ident _ => ?_) t ht
  refine .bind (keeps_readResult settled_observes.reads _) fun route => .ite ?_ (.pure _)
  refine .bind (.attempt ?_) fun _ => .fail _
  exact keeps_removeOwnedIpv4Lookups settled_observes.reads
    fun _ _ _ _ => (settled_passes_lookupDelete _ _).keeps

theorem ends_reconcileAdmitted (hact : con.activeIdentity = some ident) (failClosed interface)
    (h : Ready con admitted start ident t.trace) :
    Ends (reconcileAdmitted (traced io) con (tracedCurrent isCurrent) failClosed admitted interface)
      (fun _ => OnTrace (Settled con admitted start))
      (fun _ => OnTrace (Settled con admitted start)) t := by
  unfold reconcileAdmitted
  rw [ends_ite]
  refine ⟨fun hadm => ?_, fun _ => h.underway.settled⟩
  cases interface.filter isSafeInterfaceName with
  | none => exact h.underway.settled
  | some interface =>
    rw [ends_bind, ends_mapError]
    refine ends_mono (keeps_discover ready_observes.reads _ _ t h) ?_
      fun _ _ (h : Ready _ _ _ _ _) => h.underway.settled
    intro tbl t ht
    rw [ends_bind]
    refine ends_tracedCurrent fun ans world => ?_
    have hway : Underway con admitted start (t.trace ++ [.current ans]) :=
      Underway.append (Ready.underway ht) (by simp) (by simp)
    rw [ends_ite]
    refine ⟨fun hansw => ?_, fun _ => hway.settled⟩
    subst hansw
    rw [ends_bind, ends_mapError]
    refine ends_mono (ends_applyAdmitted hadm hact tbl interface ?_)
      (fun _ _ h => h) fun _ _ h => h
    exact ⟨hway, (Ready.verified ht).append (by simp), lastCurrent_append_current _ _⟩

theorem ordered_reconcileSelected (hact : con.activeIdentity = some ident) (fuel initial interface)
    (h : Underway con admitted start t.trace) :
    Ends (reconcileSelected (traced io) con (tracedCurrent isCurrent) fuel initial admitted
        interface)
      (fun _ => OnTrace (Settled con admitted start))
      (fun _ => OnTrace (Settled con admitted start)) t := by
  unfold reconcileSelected
  rw [ends_bind, ends_mapError]
  refine ends_mono (underway_prepareFailClosed fuel initial t h) ?_
    fun _ _ (h : Underway _ _ _ _) => h.settled
  intro _ t ht
  rw [ends_bind, ends_mapError]
  refine ends_mono (ends_verifyFailClosed hact ht) ?_ fun _ _ (h : Underway _ _ _ _) => h.settled
  intro failClosed t ht
  rw [ends_bind]
  refine ends_tracedCurrent fun ans world => ?_
  have hway : Underway con admitted start (t.trace ++ [.current ans]) :=
    ht.1.append (by simp) (by simp)
  rw [ends_ite]
  refine ⟨fun hansw => ?_, fun _ => hway.settled⟩
  subst hansw
  exact ends_reconcileAdmitted hact failClosed interface
    ⟨hway, ht.2.append (by simp), lastCurrent_append_current _ _⟩

/-! ## The probe -/

theorem OnlyBootstrap.append_other (h : OnlyBootstrap con trace)
    (hevent : ∀ cmd ans, ev ≠ .mutated cmd ans) : OnlyBootstrap con (trace ++ [ev]) := by
  intro cmd ans hmem
  rcases mem_append.mp hmem with hmem | hmem
  · obtain ⟨fam, res, uid, hraw, huid, hcmd⟩ := h cmd ans hmem
    exact ⟨fam, res, uid, mem_append_left _ hraw, huid, hcmd⟩
  · exact absurd (mem_singleton.mp hmem).symm (hevent cmd ans)

theorem Probing.only (h : Probing con trace) : OnlyBootstrap con trace := by
  intro cmd ans hmem
  obtain ⟨past, later, hsplit⟩ := append_of_mem hmem
  obtain ⟨fam, uid, older, res, deletes, hpast, -, hcmd, hoth, hlisted, -⟩ :=
    h.deletes past cmd ans later hsplit
  refine ⟨fam, res, uid, ?_, mem_staleOwnerJumpUids.mpr ⟨hoth, hlisted⟩, hcmd⟩
  simp [hsplit, hpast]

theorem probing_probes : Probes (OnTrace (Probing con)) (traced io) where
  raw _ _ ht := ends_record (fun _ _ => ht.append (by simp) (by simp)) fun _ _ =>
    ht.append (by simp) (by simp)
  generation _ ht := ht.append (by simp) (by simp)

/-! ## The whole run -/

theorem OnlyBootstrap.underway (h : OnlyBootstrap con trace) :
    Underway con admitted trace trace := by
  have hkind : ∀ cmd ans, .mutated cmd ans ∈ trace →
      isLookupAdd cmd = false ∧ ∀ fam, writesChain con fam cmd = false := by
    intro cmd ans hmem
    obtain ⟨fam, res, uid, -, -, rfl⟩ := h cmd ans hmem
    exact ⟨rfl, fun _ => rfl⟩
  refine ⟨?_, fun cmd ans hmem => (hkind cmd ans hmem).1, prefix_rfl⟩
  intro past cmd ans later hsplit
  obtain ⟨hadd, hchain⟩ := hkind cmd ans (by simp [hsplit])
  constructor
  · rw [hadd]
    simp
  · intro fam
    rw [hchain fam]
    simp

/-- How a run ends: superseded or failed before it was past its initial snapshot, or with
a trace that goes through a true currentness answer right behind that snapshot. -/
structure RunEnd (contract : RootPolicyContract) (admitted : Bool) (trace : List PolicyEvent) :
    Prop where
  safe : Safe contract admitted trace
  early_or_current : OnlyBootstrap contract trace ∨ ∃ before snapshot, NoListing before ∧
    before ++ snapshotEvents snapshot ++ [.current true] <+: trace

theorem runEnd_of_onlyBootstrap (h : OnlyBootstrap con trace) : RunEnd con admitted trace :=
  ⟨(OnlyBootstrap.underway h).safe, .inl h⟩

theorem onlyBootstrap_observes : Observes (OnlyBootstrap con) where
  listed _ _ _ h := h.append_other (by simp)
  observed _ _ _ h := h.append_other (by simp)

/-- Safety of a trace looks at the uid and the namespace of a contract only. -/
theorem safe_withIdentity {h} :
    Safe (con.withIdentity ident h) admitted trace ↔ Safe con admitted trace := by
  constructor
  all_goals
    intro hsafe past cmd ans later hsplit
    have hallw := hsafe past cmd ans later hsplit
    refine ⟨fun hadd => ?_, hallw.chain⟩
    have hlook := hallw.lookup hadd
    exact ⟨hlook.admitted, hlook.first, hlook.current, hlook.verified⟩

theorem ends_reconcileCollision (other) (h : Underway con admitted start t.trace) :
    Ends (reconcileCollision (traced io) other : Exec (Traced σ) ε _)
      (fun _ => OnTrace (Underway con admitted start)) (fun _ _ => False) t := by
  unfold reconcileCollision
  rw [ends_ite, ends_bind, ends_attempt]
  refine ⟨fun _ => ?_, fun _ => h⟩
  have hkeeps : Keeps (OnTrace (Underway con admitted start))
      (removeOwnedIpv4Lookups (traced io) other) :=
    keeps_removeOwnedIpv4Lookups underway_observes.reads
      fun _ _ _ _ => (passes_lookupDelete _ _).keeps
  exact .imp (hkeeps t h) fun _ _ h => h

theorem ordered_reconcileAuthorized (fuel interface) (h : Probing con t.trace) :
    Ends (reconcileAuthorized (traced io) con (tracedCurrent isCurrent) fuel admitted
        interface : Exec (Traced σ) ε _)
      (fun _ t => RunEnd con admitted t.trace) (fun _ _ => False) t := by
  unfold reconcileAuthorized
  rw [ends_bind, ends_attempt]
  refine ends_mono (ends_tracedSnapshot onlyBootstrap_observes h.only) ?_
    fun _ _ ht => runEnd_of_onlyBootstrap ht
  intro initial t' ht'
  rw [ends_bind]
  refine ends_tracedCurrent fun ans world => ?_
  have hbootstrap : OnlyBootstrap con (t'.trace ++ [.current ans]) := ht'.1.append_other (by simp)
  rw [ends_ite]
  refine ⟨fun hansw => ?_, fun _ => runEnd_of_onlyBootstrap hbootstrap⟩
  subst hansw
  have hway : Underway con admitted (t'.trace ++ [.current true])
      (t'.trace ++ [.current true]) := OnlyBootstrap.underway hbootstrap
  have hend : ∀ trace, Settled con admitted (t'.trace ++ [.current true]) trace →
      RunEnd con admitted trace := by
    intro trace hstd
    refine ⟨hstd.safe, .inr ⟨t.trace, initial, h.noListing, ?_⟩⟩
    rw [← ht'.2]
    exact hstd.starts
  have hcoll : ∀ other : RootPolicyContract, Ends (do
          let failure ← reconcileCollision (traced io) other
          pure (failClosedOutcome (some failure), other) : Exec (Traced σ) ε _)
        (fun _ t => RunEnd con admitted t.trace) (fun _ _ => False)
        ⟨world, t'.trace ++ [.current true]⟩ := by
    intro other
    exact .bind (ends_reconcileCollision other hway)
      fun _ _ (h : Underway _ _ _ _) => hend _ h.settled
  rcases con.resolveIdentity_cases initial with hresv | ⟨ident, hact, -, hresv⟩ |
    ⟨-, ident, hid, -, hresv⟩ | ⟨-, hresv⟩
  · rw [hresv]
    exact hcoll _
  · rw [hresv]
    rw [ends_bind, ends_attempt]
    exact ends_mono (ordered_reconcileSelected hact fuel initial interface hway)
      (fun _ _ h => hend _ h) fun _ _ h => hend _ h
  · rw [hresv]
    rw [ends_bind, ends_attempt]
    have hunderway' : Underway (con.withIdentity ident hid) admitted
        (t'.trace ++ [.current true]) (t'.trace ++ [.current true]) :=
      ⟨safe_withIdentity.mpr hway.safe, hway.noAdd, hway.starts⟩
    exact ends_mono (ordered_reconcileSelected rfl fuel initial interface hunderway')
      (fun _ _ h => hend _ ⟨safe_withIdentity.mp h.safe, h.starts⟩)
      fun _ _ h => hend _ ⟨safe_withIdentity.mp h.safe, h.starts⟩
  · rw [hresv]
    exact hcoll _

theorem ends_reconcileIfCurrent (fuel state interface world) :
    Ends (reconcileIfCurrent (traced io) (tracedCurrent isCurrent) fuel state admitted interface :
        Exec (Traced σ) ε _)
      (fun _ t => RunEnd state.contract admitted t.trace) (fun _ _ => False) ⟨world, []⟩ := by
  have hcur : ∀ {trace : List PolicyEvent} (ans : Bool), Probing state.contract trace →
      Probing state.contract (trace ++ [.current ans]) :=
    fun _ h => h.append (by simp) (by simp)
  unfold reconcileIfCurrent
  rw [ends_bind]
  refine ends_tracedCurrent fun ans world => ?_
  have hstart := hcur ans .nil
  rw [ends_ite]
  refine ⟨fun _ => ?_, fun _ => runEnd_of_onlyBootstrap hstart.only⟩
  refine .bind (ends_probeAuthority_keeps probing_probes
    (fun _ => probing_bootstrapFamily) hstart) ?_
  rintro ⟨auth, probed⟩ t ⟨hprg, hcontr⟩
  rw [ends_ite]
  refine ⟨fun _ => ?_, fun _ => runEnd_of_onlyBootstrap hprg.only⟩
  rw [ends_bind]
  refine ends_tracedCurrent fun ans world => ?_
  rw [ends_ite]
  refine ⟨fun _ => ?_, fun _ => runEnd_of_onlyBootstrap (hcur ans hprg).only⟩
  rw [ends_bind]
  rw [hcontr]
  exact .imp (ordered_reconcileAuthorized fuel interface (hcur ans hprg)) fun _ _ h => h

/-- The first snapshot of a trace is where it is. -/
theorem snapshotEvents_unique {before before' later later' snap snapshot'}
    (h : NoListing before) (h' : NoListing before')
    (heq : before ++ snapshotEvents snap ++ later =
      before' ++ snapshotEvents snapshot' ++ later') : later = later' := by
  have hlen : before.length = before'.length := by
    rw [append_assoc, append_assoc] at heq
    rcases append_eq_append_iff.mp heq with ⟨middle, rfl, hmiddle⟩ | ⟨middle, rfl, hmiddle⟩
    · cases middle with
      | nil => simp
      | cons ev rest =>
        obtain ⟨rfl, -⟩ := cons.inj hmiddle
        exact absurd (mem_append_right _ (.head _)) (h' _ _)
    · cases middle with
      | nil => simp
      | cons ev rest =>
        obtain ⟨rfl, -⟩ := cons.inj hmiddle
        exact absurd (mem_append_right _ (.head _)) (h _ _)
  refine (append_inj heq ?_).2
  simp [snapshotEvents, hlen]

/-- The trace of a reconcile that starts in this world. -/
def reconcileTrace (io : RootPolicyIo σ) (isCurrent : σ → Bool × σ) (fuel : Nat)
    (state : RootPolicyState) (admitted : Bool) (interface : Option Text) (world : σ) :
    List PolicyEvent :=
  let run : Exec (Traced σ) Empty (Option RootPolicyReconcileOutcome × RootPolicyState) :=
    reconcileIfCurrent (traced io) (tracedCurrent isCurrent) fuel state admitted interface
  (run ⟨world, []⟩).2.trace

/-- Every run of a reconcile emits its effects in order, whatever the world answers. -/
theorem reconcile_effect_order (io : RootPolicyIo σ) (isCurrent : σ → Bool × σ) (fuel : Nat)
    (state : RootPolicyState) (admitted : Bool) (interface : Option Text) (world : σ) :
    EffectOrder state.contract admitted
      (reconcileTrace io isCurrent fuel state admitted interface world) := by
  have hend : RunEnd state.contract admitted
      (reconcileTrace io isCurrent fuel state admitted interface world) :=
    Ends.state (ends_mono (ends_reconcileIfCurrent fuel state interface world)
      (fun _ _ h => h) (by simp))
  refine ⟨hend.safe.lookup_once, ?_, ?_, ?_⟩
  · intro past command answer later hsplit
    exact (hend.safe past command answer later hsplit).lookup
  · intro before snapshot later hbefore hsplit
    rcases hend.early_or_current with honly | ⟨before', snapshot', hbefore', rest, hrest⟩
    · exact honly
    · rw [hsplit, append_assoc _ _ rest] at hrest
      cases snapshotEvents_unique hbefore' hbefore hrest
  · intro past command answer later hsplit
    exact (hend.safe past command answer later hsplit).chain

end

end MishProxy.Runtime
