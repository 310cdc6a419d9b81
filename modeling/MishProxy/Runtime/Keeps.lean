import MishProxy.Runtime.Cleanup

/-!
# What the steps of the transaction keep

A property of the world is kept by a step when the observations keep it (`Reads`) and the
mutations the step can issue keep it. The lemmas `keeps_*` say this once for each step,
for every effect interface.
-/

namespace MishProxy.Runtime

open Text Cellular Routing Effects Effects.Exec Session Option

/-- The observations of the interface keep the property. -/
structure Reads {σ : Type} (I : σ → Prop) (io : RootPolicyIo σ) : Prop where
  lines : ∀ command, Keeps I (io.lines command)
  observe : ∀ command, Keeps I (io.observe command)

variable {σ : Type} {I : σ → Prop} {io : RootPolicyIo σ} {con : RootPolicyContract}

theorem keeps_readLines (h : Reads I io) (cmd) : Keeps I (readLines io cmd) :=
  .mapError _ (h.lines cmd)

theorem keeps_readResult (h : Reads I io) (cmd) : Keeps I (readResult io cmd) :=
  .mapError _ (h.observe cmd)

theorem keeps_issue {cmd} (h : Keeps I (io.mutate cmd)) : Keeps I (issue io cmd) := .mapError _ h

theorem keeps_require {α β : Type} {failure : RootPolicyFailure} {value : Option α}
    {f : α → Exec σ RootPolicyFailure β} (hf : ∀ a, value = some a → Keeps I (f a)) :
    Keeps I (require failure value >>= f) := by
  intro s hs
  rw [ends_bind, ends_require]
  exact ⟨fun a ha => hf a ha s hs, fun _ => hs⟩

theorem keeps_ensure (failure) (holds : Bool) :
    Keeps I (ensure failure holds : Exec σ RootPolicyFailure Unit) := .ite (.pure _) (.fail _)

theorem keeps_readSnapshot (h : Reads I io) : Keeps I (readSnapshot io) := by
  refine .bind (keeps_readLines h _) fun _ => ?_
  refine .bind (keeps_readLines h _) fun _ => ?_
  refine .bind (keeps_readLines h _) fun _ => ?_
  exact .bind (keeps_readLines h _) fun _ => .pure _

theorem keeps_ensureGuard (h : Reads I io) {fam} (hadd : ∀ ident, con.activeIdentity = some ident →
      Keeps I (io.mutate (.ruleAdd fam (guardAttributes ident)))) :
    Keeps I (ensureGuard io con fam) := by
  refine .bind (keeps_readLines h _) fun _ => .ite (.pure _) ?_
  refine keeps_require fun add hcmd => ?_
  have hpass : Keeps I (io.mutate add) := by
    cases fam
    all_goals
      obtain ⟨ident, hact, rfl⟩ := map_eq_some_iff.mp hcmd
      exact hadd ident hact
  refine .bind (keeps_issue hpass) fun _ => ?_
  exact .bind (keeps_readLines h _) fun _ => keeps_ensure _ _

theorem keeps_removeExactRule (h : Reads I io) {check delete}
    (hdel : Keeps I (io.mutate delete)) : Keeps I (removeExactRule io check delete) := by
  refine .repeatUntil ?_ ?_ _
  · refine .bind (keeps_readResult h _) fun _ => .ite (.pure _) ?_
    exact .bind (keeps_issue hdel) fun _ => .pure _
  · exact .bind (keeps_readResult h _) fun _ => keeps_ensure _ _

theorem keeps_deleteLookups (hdel : ∀ ident tbl, con.activeIdentity = some ident →
      isSafeTableToken tbl = true →
      Keeps I (io.mutate (.ruleDelete .ipv4 (lookupAttributes ident tbl))))
    (failure tables) : Keeps I (deleteLookups io con failure tables) := by
  refine .forEach fun tbl _ => keeps_require fun delete hcmd => keeps_issue ?_
  unfold ipv4LookupDelete at hcmd
  split_ifs at hcmd with hsafe
  obtain ⟨ident, hact, rfl⟩ := map_eq_some_iff.mp hcmd
  exact hdel ident tbl hact hsafe

theorem keeps_removeOwnedIpv4Lookups (h : Reads I io)
    (hdel : ∀ ident tbl, con.activeIdentity = some ident → isSafeTableToken tbl = true →
      Keeps I (io.mutate (.ruleDelete .ipv4 (lookupAttributes ident tbl)))) :
    Keeps I (removeOwnedIpv4Lookups io con) := by
  refine .repeatUntil ?_ ?_ _
  · refine .bind (keeps_readLines h _) fun _ => .ite (.pure _) ?_
    exact .bind (keeps_deleteLookups hdel _ _) fun _ => .pure _
  · exact .bind (keeps_readLines h _) fun _ => keeps_ensure _ _

theorem keeps_matchingTables (h : Reads I io) (interface tables) :
    Keeps I (matchingTables io interface tables) := by
  induction tables with
  | nil => exact .pure _
  | cons tbl rest ih =>
    refine .bind (keeps_readResult h _) fun _ => .bind ih fun _ => ?_
    exact .ite (.pure _) (.pure _)

theorem keeps_discover (h : Reads I io) (rules interface) :
    Keeps I (discoverValidatedIpv4Table io rules interface) := by
  refine .bind (keeps_matchingTables h _ _) fun matching => ?_
  rcases matching with _ | ⟨tbl, _ | ⟨second, rest⟩⟩
  · exact .fail _
  · exact .pure _
  · exact .fail _

/-! ## The product chain -/

section

variable {fam : Family}

variable (h : Reads I io)
include h

theorem keeps_readFamilyState : Keeps I (readFamilyState io con fam) := by
  refine .bind (keeps_readLines h _) fun snap => ?_
  intro s hs
  rw [familyState, ends_require]
  exact ⟨fun _ _ => hs, fun _ => hs⟩

variable (hmang : ∀ op, Keeps I (io.mutate (.mangle fam op)))
include hmang

theorem keeps_removeDuplicateJump (snap) : Keeps I (removeDuplicateJump io con fam snap) := by
  refine .ite (.pure _) (.bind (.attempt (hmang _)) fun res => ?_)
  cases res with
  | ok _ => exact .bind (keeps_readLines h _) fun _ => .pure _
  | error failure =>
    cases failure with
    | mutationUncertain => exact .bind (keeps_readLines h _) fun _ => .ite (.pure _) (.fail _)
    | observationUnavailable | observationIncomplete | mutationRejected => exact .fail _

theorem keeps_buildChain (state) : Keeps I (buildChain io con fam state) := by
  refine .ite (.pure _) (.bind ?_ fun created => .bind ?_ fun filled => ?_)
  · refine .ite (.bind (keeps_issue (hmang _)) fun _ => ?_) (.pure _)
    exact keeps_readFamilyState h
  · refine .ite (.bind (keeps_issue (hmang _)) fun _ => ?_) (.pure _)
    refine keeps_require fun expd _ => .bind ?_ fun _ => keeps_readFamilyState h
    exact .forEach fun rule _ => keeps_issue (hmang _)
  · refine .ite (.bind (keeps_issue (hmang _)) fun _ => ?_) (.fail _)
    exact .bind (keeps_readLines h _) fun _ => keeps_ensure _ _

theorem keeps_ensureMangleFamily (fuel : Nat) : Keeps I (ensureMangleFamily io con fuel fam) := by
  have hst : ∀ snap, Keeps I (familyState con fam snap :
      Exec σ RootPolicyFailure MangleFamilyState) := by
    intro snap s hs
    rw [familyState, ends_require]
    exact ⟨fun _ _ => hs, fun _ => hs⟩
  have hbuild : ∀ state, Keeps I (buildChain io con fam state) := keeps_buildChain h hmang
  refine .bind (.mapError _ (keeps_readLines h _)) fun snap => ?_
  refine .bind (.mapError _ (hst snap)) fun state => ?_
  refine .ite (.fail _) (.ite ?_ (.mapError _ (hbuild state)))
  refine .bind (.whileFuel (keeps_removeDuplicateJump h hmang) _ _) fun single => ?_
  exact .bind (.mapError _ (hst single)) fun state => .mapError _ (hbuild state)

theorem keeps_removeLegacySelector : Keeps I (removeLegacySelector io con fam) :=
  keeps_removeExactRule h (hmang _)

end

theorem keeps_prepareFailClosed (h : Reads I io)
    (hguard : ∀ fam ident, con.activeIdentity = some ident →
      Keeps I (io.mutate (.ruleAdd fam (guardAttributes ident))))
    (hdel : ∀ ident tbl, con.activeIdentity = some ident → isSafeTableToken tbl = true →
      Keeps I (io.mutate (.ruleDelete .ipv4 (lookupAttributes ident tbl))))
    (hmang : ∀ fam op, Keeps I (io.mutate (.mangle fam op))) (fuel initial) :
    Keeps I (prepareFailClosed io con fuel initial) := by
  unfold prepareFailClosed
  refine .bind (.skipIf (.mapError _ (keeps_ensureGuard h (hguard _)))) fun _ => ?_
  refine .bind (.skipIf (.mapError _ (keeps_ensureGuard h (hguard _)))) fun _ => ?_
  refine .bind (.skipIf (.mapError _ (keeps_removeOwnedIpv4Lookups h hdel))) fun _ => ?_
  refine .bind (.skipIf (keeps_ensureMangleFamily h (hmang _) _)) fun _ => ?_
  refine .bind (.skipIf (keeps_ensureMangleFamily h (hmang _) _)) fun _ => ?_
  refine .bind (.mapError _ (keeps_removeLegacySelector h (hmang _))) fun _ => ?_
  exact .mapError _ (keeps_removeLegacySelector h (hmang _))

/-! ## Cleanup -/

section

variable {fam : Family}

variable (h : Reads I io)
include h

theorem keeps_removeAllOutputJumps (hmang : ∀ op, Keeps I (io.mutate (.mangle fam op))) :
    Keeps I (removeAllOutputJumps io con fam) := by
  refine .repeatUntil ?_ ?_ _
  · refine .bind (keeps_readLines h _) fun _ => .ite (.pure _) ?_
    refine .bind (.attempt (hmang _)) fun res => ?_
    cases res with
    | ok _ => exact .pure _
    | error failure =>
      cases failure with
      | mutationUncertain => exact .bind (keeps_readLines h _) fun _ => .ite (.pure _) (.fail _)
      | observationUnavailable | observationIncomplete | mutationRejected => exact .fail _
  · exact .bind (keeps_readLines h _) fun _ => keeps_ensure _ _

theorem keeps_removeOwnedChain (hmang : ∀ op, Keeps I (io.mutate (.mangle fam op))) :
    Keeps I (removeOwnedChain io con fam) := by
  refine .bind (keeps_readLines h _) fun _ => .ite ?_ (.pure _)
  refine keeps_require fun _ _ => .ite (.fail _) ?_
  refine .bind (keeps_issue (hmang _)) fun _ => ?_
  refine .bind (keeps_issue (hmang _)) fun _ => ?_
  exact .bind (keeps_readLines h _) fun _ => keeps_ensure _ _

variable
  (hguard : ∀ ident, con.activeIdentity = some ident →
    Keeps I (io.mutate (.ruleDelete fam (guardAttributes ident))))
include hguard

theorem keeps_removeGuard : Keeps I (removeGuard io con fam) := by
  refine .repeatUntil (.bind (keeps_readLines h _) fun _ => .ite ?_ (.pure _))
    (.fail _) _
  refine keeps_require fun delete hcmd => ?_
  have hdel : Keeps I (io.mutate delete) := by
    cases fam
    all_goals
      obtain ⟨ident, hact, rfl⟩ := map_eq_some_iff.mp hcmd
      exact hguard ident hact
  exact .bind (keeps_issue hdel) fun _ => .pure _

theorem keeps_cleanupFamily (hmang : ∀ op, Keeps I (io.mutate (.mangle fam op)))
    (chainFailure guardFailure) : Keeps I (cleanupFamily io con fam chainFailure guardFailure) := by
  refine .bind (.attempt (keeps_removeAllOutputJumps h hmang)) fun jump => ?_
  refine .bind (.attempt (keeps_removeLegacySelector h hmang)) fun legacy => ?_
  refine .ite ?_ (.pure _)
  refine .bind (.mapError _ (keeps_removeOwnedChain h hmang)) fun _ => ?_
  exact .bind (.mapError _ (keeps_removeGuard h hguard)) fun _ => .pure _

omit hguard

theorem keeps_cleanupRules (hguard : ∀ fam ident, con.activeIdentity = some ident →
      Keeps I (io.mutate (.ruleDelete fam (guardAttributes ident))))
    (hdel : ∀ ident tbl, con.activeIdentity = some ident → isSafeTableToken tbl = true →
      Keeps I (io.mutate (.ruleDelete .ipv4 (lookupAttributes ident tbl))))
    (hmang : ∀ fam op, Keeps I (io.mutate (.mangle fam op))) : Keeps I (cleanupRules io con) := by
  refine .bind (.mapError _ (keeps_removeOwnedIpv4Lookups h hdel)) fun _ => ?_
  refine .bind (keeps_cleanupFamily h (hguard _) (hmang _) _ _) fun ipv4 => ?_
  refine .bind (keeps_cleanupFamily h (hguard _) (hmang _) _ _) fun ipv6 => ?_
  exact .ite (.fail _) (.ite (.fail _) (.ite (.fail _) (.ite (.fail _) (.pure _))))

end

/-! ## The probe -/

/-- The observations of the probe keep the property. -/
structure Probes {σ : Type} (I : σ → Prop) (io : RootPolicyIo σ) : Prop where
  raw : ∀ command, Keeps I (io.rawObservation command)
  generation : ∀ s, I s → I (io.sessionGeneration s).2

section

variable {ε : Type}

theorem keeps_bootstrapFamily (h : Probes I io) {fam}
    (hmang : ∀ op, Keeps I (io.mutate (.mangle fam op))) :
    Keeps I (bootstrapFamily io con fam) := by
  have hraw : Keeps I (readMangleRaw io fam) :=
    .bind (.mapError _ (h.raw _)) fun _ => .ite (.pure _) (.fail _)
  refine .bind hraw fun before => .ite (.pure _) ?_
  refine .bind (.forEach fun uid _ => .mapError _ (hmang _)) fun _ => ?_
  exact .bind hraw fun after => .ite (.pure _) (.fail _)

/-- The probe keeps the property and does not touch the contract. -/
theorem ends_probeAuthority_keeps (h : Probes I io) {state : RootPolicyState}
    (hboot : ∀ fam, Keeps I (bootstrapFamily io state.contract fam)) {s : σ} (hs : I s) :
    Ends (probeAuthority io state : Exec σ ε (RootAuthorityStatus × RootPolicyState))
      (fun res s => I s ∧ res.2.contract = state.contract) (fun _ _ => False) s := by
  unfold probeAuthority
  split
  · exact ⟨hs, rfl⟩
  rw [ends_bind, ends_lift, ends_ite]
  have hs := h.generation s hs
  refine ⟨fun _ => ⟨hs, rfl⟩, fun _ => ?_⟩
  unfold probeIdentity
  rw [ends_bind, ends_attempt]
  refine ends_mono (h.raw _ _ hs) ?_ fun _ _ hs => ⟨hs, rfl⟩
  intro ident s hs
  rw [ends_ite, ends_ite, ends_ite, ends_ite]
  refine ⟨fun _ => ⟨hs, rfl⟩, fun _ => ⟨fun _ => ⟨hs, rfl⟩, fun _ => ⟨fun _ => ⟨hs, rfl⟩, fun _ =>
    ⟨fun _ => ⟨hs, rfl⟩, fun _ => ?_⟩⟩⟩⟩
  unfold probeRules
  rw [ends_bind, ends_attempt]
  refine ends_mono (h.raw _ _ hs) ?_ fun _ _ hs => ⟨hs, rfl⟩
  intro rules s hs
  rw [ends_ite]
  refine ⟨fun _ => ⟨hs, rfl⟩, fun _ => ?_⟩
  rw [ends_bind, bootstrapStaleOwnerJumps, ends_bind, ends_attempt]
  refine ends_mono (Keeps.bind (hboot _) (fun _ => hboot _) s hs) ?_ fun _ _ hs => ⟨hs, rfl⟩
  intro _ s hs
  rw [ends_pure, ends_ite, ends_bind, ends_lift]
  exact ⟨fun _ => ⟨h.generation s hs, rfl⟩, by simp⟩

end

end MishProxy.Runtime
