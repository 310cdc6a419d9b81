import MishProxy.Cellular.OwnedRules
import MishProxy.Runtime.Kernel

/-!
# The permitting lookup of a failed reconcile

A reconcile runs on a kernel that applies its mutations faithfully, while any observation
may fail. When it adds the permitting lookup and does not end in `enforced`, the lookup
should be gone again, or its removal should at least have been issued.

That holds exactly when three observations behind the addition succeed
(`failed_run_permits_nothing_iff`): the listing that confirms the rule, the route query,
and, when the route is not the expected one, the first listing of the removal. Each of
the three returns early without a removal when it fails.
-/

namespace MishProxy.Runtime

open Text Cellular Routing Netfilter Effects Effects.Exec Session List Option

/-- A reconcile on the kernel, with counters and log from its start. -/
def reconcileKernel (env : KernelEnvironment) (fuel : Nat) (state : RootPolicyState)
    (admitted : Bool) (interface : Option Text) (kernel : Kernel) :
    (Option RootPolicyReconcileOutcome × RootPolicyState) × Kernel :=
  let run : Exec Kernel Empty (Option RootPolicyReconcileOutcome × RootPolicyState) :=
    reconcileIfCurrent (kernelIo env) (kernelCurrent env) fuel state admitted interface
  match run { kernel with observations := 0, checks := 0, log := [] } with
  | (.ok result, after) => (result, after)
  | (.error impossible, _) => by cases impossible

abbrev MutationLog := List (Nat × PolicyCommand)

/-- The addition of a lookup was issued after this many observations. -/
def InstallsLookup (log : MutationLog) (index : Nat) (attributes : RuleAttributes) : Prop :=
  (index, .ruleAdd .ipv4 attributes) ∈ log ∧ ∃ table, attributes.action = .lookup table

/-- The added rule is not there, or its deletion was issued behind the addition. -/
def LookupWithdrawn (after : Kernel) (index : Nat) (attributes : RuleAttributes) : Prop :=
  (∀ rule, attributes.added = some rule → rule ∉ after.rpdb .ipv4) ∨
    ∃ n, (n, .ruleDelete .ipv4 attributes) ∈
      after.log.dropWhile fun entry => entry != (index, .ruleAdd .ipv4 attributes)

def FailedRunPermitsNothing
    (run : (Option RootPolicyReconcileOutcome × RootPolicyState) × Kernel) : Prop :=
  ∀ index attributes, InstallsLookup run.2.log index attributes →
    run.1.1 = some (.completed .enforced) ∨ LookupWithdrawn run.2 index attributes

/-- The answer to the route query goes through the interface. -/
def RouteValidated (env : KernelEnvironment) (index : Nat) (contract : RootPolicyContract)
    (interface : Option Text) : Prop :=
  ∃ identity name, contract.activeIdentity = some identity ∧ interface = some name ∧
    (env.answer index (.routeGet identity.markHex)).exitCode = 0 ∧
    routeGetUsesInterface (env.answer index (.routeGet identity.markHex)).stdout name = true

/-- The observations behind an addition that have to succeed. -/
def ObservedBehindInstall (env : KernelEnvironment) (interface : Option Text)
    (run : (Option RootPolicyReconcileOutcome × RootPolicyState) × Kernel) : Prop :=
  ∀ index attributes, InstallsLookup run.2.log index attributes →
    env.fails index = none ∧ env.fails (index + 1) = none ∧
      (RouteValidated env (index + 1) run.1.2.contract interface ∨ env.fails (index + 2) = none)

/-! ## Before the addition -/

def NoInstall (log : MutationLog) : Prop := ∀ entry ∈ log, isLookupAdd entry.2 = false

variable {cmd : PolicyCommand}

theorem NoInstall.append {log n} (h : NoInstall log)
    (hcmd : isLookupAdd cmd = false) : NoInstall (log ++ [(n, cmd)]) := by
  intro entry hentry
  rcases mem_append.mp hentry with hentry | hentry
  · exact h entry hentry
  · rw [mem_singleton.mp hentry]
    exact hcmd

theorem apply_log {ker after : Kernel} (h : ker.apply cmd = some after) :
    after.log = ker.log ∧ after.observations = ker.observations := by
  cases cmd with
  | ruleAdd fam attributes =>
    obtain ⟨rule, -, rfl⟩ := map_eq_some_iff.mp h
    exact ⟨rfl, rfl⟩
  | ruleDelete fam attributes =>
    obtain ⟨rules, -, rfl⟩ := map_eq_some_iff.mp h
    exact ⟨rfl, rfl⟩
  | mangle fam op =>
    obtain ⟨tbl, -, rfl⟩ := map_eq_some_iff.mp h
    exact ⟨rfl, rfl⟩
  | userId | ruleShow | mangleShow | routeShow | routeGet => cases h

variable {env : KernelEnvironment} {kernel : Kernel} {con : RootPolicyContract}
  {identity : PolicyIdentity}

/-- A property of the log that other mutations keep is kept by their execution. -/
theorem keeps_log {P : MutationLog → Prop} (h : ∀ log n, P log → P (log ++ [(n, cmd)])) :
    Keeps (fun kernel => P kernel.log) ((kernelIo env).mutate cmd) := by
  refine keeps_kernelMutate ?_ fun kernel hlog => h _ _ hlog
  intro kernel after hlog hafter
  obtain ⟨hsame, -⟩ := apply_log hafter
  show P (after.log ++ _)
  rw [hsame]
  exact h _ _ hlog

theorem reads_log {P : MutationLog → Prop} : Reads (fun kernel => P kernel.log) (kernelIo env) :=
  reads_kernelIo fun _ h => h

theorem keeps_noInstall (h : isLookupAdd cmd = false) :
    Keeps (fun kernel => NoInstall kernel.log) ((kernelIo env).mutate cmd) :=
  keeps_log fun _ _ hlog => hlog.append h

/-! ## Behind the addition -/

/-- What the run has done once it issued the only addition of a lookup. -/
structure InstallEnd (env : KernelEnvironment) (name : Text) (identity : PolicyIdentity)
    (enforced : Prop) (after : Kernel) (index : Nat) (attributes : RuleAttributes) : Prop where
  lookup : ∃ table, attributes.action = .lookup table
  issued : (index, .ruleAdd .ipv4 attributes) ∈ after.log
  only : ∀ entry ∈ after.log, isLookupAdd entry.2 = true →
    entry = (index, .ruleAdd .ipv4 attributes)
  verdict : enforced ∨ LookupWithdrawn after index attributes ↔
    env.fails index = none ∧ env.fails (index + 1) = none ∧
      (((env.answer (index + 1) (.routeGet identity.markHex)).exitCode = 0 ∧
        routeGetUsesInterface (env.answer (index + 1) (.routeGet identity.markHex)).stdout name =
          true) ∨ env.fails (index + 2) = none)

def LookupEnd (env : KernelEnvironment) (name : Text) (identity : PolicyIdentity)
    (enforced : Prop) (after : Kernel) : Prop :=
  NoInstall after.log ∨
    ∃ index attributes, InstallEnd env name identity enforced after index attributes

/-- The kernel behind the addition, with nothing issued since. -/
structure Installed (identity : PolicyIdentity) (table : Text) (rule : RpdbRule)
    (before : MutationLog) (index : Nat) (kernel : Kernel) : Prop where
  safe : isSafeTableToken table = true
  added : (lookupAttributes identity table).added = some rule
  noInstall : NoInstall before
  log : kernel.log = before ++ [(index, .ruleAdd .ipv4 (lookupAttributes identity table))]
  mem : rule ∈ kernel.rpdb .ipv4
  tables : RootPolicyContract.ownedLookupTablesFor (kernel.ruleLines .ipv4) identity = [table]

/-- The log once a deletion was issued behind the addition. -/
structure Removed (identity : PolicyIdentity) (table : Text) (before : MutationLog) (index : Nat)
    (log : MutationLog) : Prop where
  noInstall : NoInstall before
  split : ∃ later,
    log = before ++ (index, .ruleAdd .ipv4 (lookupAttributes identity table)) :: later ∧
    NoInstall later ∧ ∃ n, (n, .ruleDelete .ipv4 (lookupAttributes identity table)) ∈ later

variable {tbl name : Text} {rule : RpdbRule} {before : MutationLog} {index : Nat}

theorem Installed.tick (h : Installed identity tbl rule before index kernel) :
    Installed identity tbl rule before index kernel.tick :=
  ⟨h.safe, h.added, h.noInstall, h.log, h.mem, h.tables⟩

theorem NoInstall.only {later} (h : NoInstall before) (hlater : NoInstall later) :
    ∀ entry ∈ before ++ (index, .ruleAdd .ipv4 (lookupAttributes identity tbl)) :: later,
      isLookupAdd entry.2 = true →
        entry = (index, .ruleAdd .ipv4 (lookupAttributes identity tbl)) := by
  intro entry hentry hadd
  rcases mem_append.mp hentry with hentry | hentry
  · rw [h entry hentry] at hadd
    cases hadd
  · rcases mem_cons.mp hentry with rfl | hentry
    · rfl
    · rw [hlater entry hentry] at hadd
      cases hadd

theorem NoInstall.dropWhile (h : NoInstall before) (later : MutationLog) :
    (before ++ (index, .ruleAdd .ipv4 (lookupAttributes identity tbl)) :: later).dropWhile
        (fun entry => entry != (index, .ruleAdd .ipv4 (lookupAttributes identity tbl))) =
      (index, .ruleAdd .ipv4 (lookupAttributes identity tbl)) :: later := by
  rw [dropWhile_append_of_pos, dropWhile_cons, if_neg (by simp)]
  intro entry hentry
  rw [bne_iff_ne]
  rintro rfl
  cases h _ hentry

/-- With the rule in place and nothing behind the addition, it is not withdrawn. -/
theorem Installed.not_withdrawn (h : Installed identity tbl rule before index kernel) :
    ¬ LookupWithdrawn kernel index (lookupAttributes identity tbl) := by
  rintro (hgone | ⟨n, hdel⟩)
  · exact hgone rule h.added h.mem
  · rw [h.log, h.noInstall.dropWhile] at hdel
    simp at hdel

variable {enforced : Prop}

theorem Installed.lookupEnd (h : Installed identity tbl rule before index kernel)
    (hverdict : enforced ↔ env.fails index = none ∧ env.fails (index + 1) = none ∧
      (((env.answer (index + 1) (.routeGet identity.markHex)).exitCode = 0 ∧
        routeGetUsesInterface (env.answer (index + 1) (.routeGet identity.markHex)).stdout name =
          true) ∨ env.fails (index + 2) = none)) : LookupEnd env name identity enforced kernel := by
  refine .inr ⟨index, lookupAttributes identity tbl, ⟨tbl, rfl⟩, ?_, ?_, ?_⟩
  · rw [h.log]
    exact mem_append_right _ (.head _)
  · rw [h.log]
    exact h.noInstall.only (by rintro _ ⟨⟩)
  · rw [← hverdict]
    exact ⟨fun hor => hor.resolve_right h.not_withdrawn, .inl⟩

theorem Removed.lookupEnd (h : Removed identity tbl before index kernel.log)
    (hfails : env.fails index = none) (hfails' : env.fails (index + 1) = none)
    (hfails'' : env.fails (index + 2) = none) : LookupEnd env name identity enforced kernel := by
  obtain ⟨later, hlog, hlater, n, hdel⟩ := h.split
  refine .inr ⟨index, lookupAttributes identity tbl, ⟨tbl, rfl⟩, ?_, ?_, ?_⟩
  · rw [hlog]
    exact mem_append_right _ (.head _)
  · rw [hlog]
    exact h.noInstall.only hlater
  · refine iff_of_true (.inr (.inr ⟨n, ?_⟩)) ⟨hfails, hfails', .inr hfails''⟩
    rw [hlog, h.noInstall.dropWhile]
    exact .tail _ hdel

theorem Removed.append {log} (h : Removed identity tbl before index log) {n : Nat}
    (hcmd : isLookupAdd cmd = false) : Removed identity tbl before index (log ++ [(n, cmd)]) := by
  obtain ⟨later, rfl, hlater, m, hdel⟩ := h.split
  refine ⟨h.noInstall, later ++ [(n, cmd)], ?_, hlater.append hcmd, m, ?_⟩
  · simp
  · exact mem_append_left _ hdel

theorem Installed.removed (h : Installed identity tbl rule before index kernel) {n : Nat} :
    Removed identity tbl before index
      (kernel.log ++ [(n, .ruleDelete .ipv4 (lookupAttributes identity tbl))]) := by
  refine ⟨h.noInstall, [(n, .ruleDelete .ipv4 (lookupAttributes identity tbl))], ?_, ?_, n, ?_⟩
  · rw [h.log, append_assoc]
    rfl
  · intro entry hentry
    rw [mem_singleton.mp hentry]
    rfl
  · exact mem_singleton.mpr rfl

theorem ipv4LookupDelete_eq (hactive : con.activeIdentity = some identity)
    (hsafe : isSafeTableToken tbl = true) : ipv4LookupDelete con tbl =
      some (.ruleDelete .ipv4 (lookupAttributes identity tbl)) := by
  rw [ipv4LookupDelete, if_pos hsafe, hactive]
  rfl

/-- The removal fails at its first listing, or it issues a deletion. -/
theorem ends_removeOwned_installed (hactive : con.activeIdentity = some identity)
    (h : Installed identity tbl rule before index kernel) :
    Ends (removeOwnedIpv4Lookups (kernelIo env) con)
      (fun _ after => env.fails kernel.observations = none ∧
        Removed identity tbl before index after.log)
      (fun _ after =>
        (env.fails kernel.observations ≠ none ∧ Installed identity tbl rule before index after) ∨
        (env.fails kernel.observations = none ∧ Removed identity tbl before index after.log))
      kernel := by
  have hdel : ∀ other table', Keeps
      (fun after => Removed identity tbl before index after.log)
      ((kernelIo env).mutate (.ruleDelete .ipv4 (lookupAttributes other table'))) :=
    fun _ _ => keeps_log fun _ _ hlog => hlog.append rfl
  have hreads : Reads (fun after => Removed identity tbl before index after.log)
      (kernelIo env) := reads_log
  unfold removeOwnedIpv4Lookups
  -- the first pass issues the deletion; the others run behind it
  refine ends_repeatUntil (fun n after => (n = maxReconcilePasses ∧ after = kernel) ∨
      (env.fails kernel.observations = none ∧ Removed identity tbl before index after.log))
    ?_ ?_ _ _ (.inl ⟨rfl, rfl⟩)
  · rintro n after (⟨-, rfl⟩ | hrem)
    · rw [ends_bind, ends_readRules]
      constructor
      · intro hfails
        dsimp only
        rw [con.ownedIpv4LookupTables_of_active hactive, h.tables, isEmpty_cons,
          if_neg Bool.false_ne_true, ends_bind, deleteLookups, forEach, ends_bind, ends_bind,
          ipv4LookupDelete_eq hactive h.safe, require, ends_pure, ends_issue]
        refine ⟨fun after hafter => ?_, fun _ => .inr ⟨hfails, h.tick.removed⟩⟩
        rw [forEach, ends_pure, ends_pure]
        refine .inr ⟨hfails, ?_⟩
        show Removed _ _ _ _ (after.log ++ _)
        rw [(apply_log hafter).1]
        exact h.tick.removed
      · intro failure hfails
        exact .inl ⟨by simp [hfails], h.tick⟩
    · refine ends_mono (Keeps.bind (keeps_readLines hreads _) (fun _ => Keeps.ite (Keeps.pure _)
        (Keeps.bind (keeps_deleteLookups (fun _ _ _ _ => hdel _ _) _ _) fun _ => Keeps.pure _))
        after hrem.2) ?_ fun _ _ h => .inr ⟨hrem.1, h⟩
      intro res s hs
      cases res with
      | none => exact .inr ⟨hrem.1, hs⟩
      | some _ => exact ⟨hrem.1, hs⟩
  · rintro after (⟨hzero, -⟩ | hrem)
    · cases hzero
    · exact ends_mono (Keeps.bind (keeps_readLines hreads _) (fun _ => keeps_ensure _ _)
        after hrem.2) (fun _ _ h => ⟨hrem.1, h⟩) fun _ _ h => .inr ⟨hrem.1, h⟩

/-! ## The addition -/

/-- Nothing was added and no lookup of the identity is listed. -/
structure Unlooked (identity : PolicyIdentity) (kernel : Kernel) : Prop where
  noInstall : NoInstall kernel.log
  tables : RootPolicyContract.ownedLookupTablesFor (kernel.ruleLines .ipv4) identity = []

theorem Unlooked.tick (h : Unlooked identity kernel) : Unlooked identity kernel.tick :=
  ⟨h.noInstall, h.tables⟩

theorem Unlooked.lookupEnd (h : Unlooked identity kernel) :
    LookupEnd env name identity enforced kernel := .inl h.noInstall

/-- The kernel accepts the addition, and the new rule is the only lookup listed. -/
theorem Unlooked.apply_add {ns : RootPolicyNamespace} (hid : identity ∈ ns.candidates)
    (hsafe : isSafeTableToken tbl = true) (h : Unlooked identity kernel) :
    ∃ after rule, kernel.apply (.ruleAdd .ipv4 (lookupAttributes identity tbl)) = some after ∧
      after.observations = kernel.observations ∧
      Installed identity tbl rule kernel.log kernel.observations
        (after.logged (.ruleAdd .ipv4 (lookupAttributes identity tbl))) := by
  obtain ⟨rule, hadded, hline⟩ := lookup_added hid hsafe
  refine ⟨kernel.setRpdb .ipv4 (insertRule rule (kernel.rpdb .ipv4)), rule, ?_, rfl, hsafe, hadded,
    h.noInstall, rfl, ?_, ?_⟩
  · rw [Kernel.apply, hadded]
    rfl
  · exact mem_insertRule.mpr (.inl rfl)
  · refine ownedLookupTablesFor_eq_singleton ?_
      ⟨rule.line, mem_map_of_mem (mem_insertRule.mpr (.inl rfl)), hline⟩
    intro line hmem other hoth
    obtain ⟨listed, hlisted, rfl⟩ := mem_map.mp hmem
    rcases mem_insertRule.mp hlisted with rfl | hlisted
    · exact some.inj (hoth.symm.trans hline)
    · rw [ownedLookupTablesFor_eq_nil_iff.mp h.tables listed.line (mem_map_of_mem hlisted)]
        at hoth
      cases hoth

variable (hactive : con.activeIdentity = some identity)
include hactive

theorem ipv4LookupAdd_eq_some {add} (h : ipv4LookupAdd con tbl = some add) :
    isSafeTableToken tbl = true ∧ add = .ruleAdd .ipv4 (lookupAttributes identity tbl) := by
  unfold ipv4LookupAdd at h
  split_ifs at h with hsafe
  rw [hactive] at h
  exact ⟨hsafe, (some.inj h).symm⟩

theorem replaceIpv4Lookup_installs (h : Unlooked identity kernel) :
    Ends (replaceIpv4Lookup (kernelIo env) con tbl)
      (fun _ after => ∃ rule before index, Installed identity tbl rule before index after ∧
        env.fails index = none ∧ after.observations = index + 1)
      (fun _ => LookupEnd env name identity False) kernel := by
  have hid := con.active_mem identity hactive
  unfold replaceIpv4Lookup
  rw [ends_bind, ends_readRules]
  refine ⟨fun _ => ?_, fun _ _ => h.tick.lookupEnd⟩
  dsimp only
  rw [con.ownedIpv4LookupTables_of_active hactive, h.tables, filter_nil, deleteLookups,
    forEach, ends_bind, ends_pure, ends_bind, ends_readRules]
  refine ⟨fun _ => ?_, fun _ _ => h.tick.tick.lookupEnd⟩
  have htables : con.ownedIpv4LookupTables (kernel.tick.ruleLines .ipv4) = [] :=
    (con.ownedIpv4LookupTables_of_active hactive _).trans h.tables
  rw [htables, contains_nil, if_neg Bool.false_ne_true, ends_bind, ends_require]
  refine ⟨fun add hadd => ?_, fun _ => h.tick.tick.lookupEnd⟩
  obtain ⟨hsafe, rfl⟩ := ipv4LookupAdd_eq_some hactive hadd
  obtain ⟨installed, rule, happly, hcount, hinst⟩ := h.tick.tick.apply_add hid hsafe
  rw [ends_bind, ends_issue, happly]
  refine ⟨?_, by simp⟩
  rintro after ⟨⟩
  rw [ends_bind, ends_readRules]
  have hindex : (installed.logged (.ruleAdd .ipv4 (lookupAttributes identity tbl))).observations =
      kernel.tick.tick.observations := hcount
  rw [hindex]
  constructor
  · intro hfails
    rw [con.ownedIpv4LookupTables_of_active hactive, hinst.tables, ends_ensure]
    refine ⟨fun _ => ⟨rule, _, _, hinst.tick, hfails, ?_⟩, fun hcontains => ?_⟩
    · rw [← hindex]
      rfl
    · simp at hcontains
  · intro failure hfails
    refine hinst.tick.lookupEnd (iff_of_false id ?_)
    rintro ⟨hnone, -⟩
    rw [hnone] at hfails
    cases hfails

theorem applyAdmitted_lookupEnd (h : Unlooked identity kernel) :
    Ends (applyAdmitted (kernelIo env) con tbl name)
      (fun _ => LookupEnd env name identity True) (fun _ => LookupEnd env name identity False)
      kernel := by
  unfold applyAdmitted
  refine Ends.bind (replaceIpv4Lookup_installs hactive h) ?_
  rintro _ kernel ⟨rule, before, index, hinst, hfirst, hcount⟩
  rw [ends_bind, hactive, require, ends_pure, ends_bind, ends_readResult, hcount]
  have hroute : kernel.observation env (.routeGet identity.markHex) =
      env.answer (index + 1) (.routeGet identity.markHex) := by
    rw [← hcount]
    rfl
  rw [hroute]
  generalize henv : env.answer (index + 1) (.routeGet identity.markHex) = route
  constructor
  · intro hsec
    rw [ends_ite]
    constructor
    · intro hbad
      have hinvalid : ¬ (route.exitCode = 0 ∧ routeGetUsesInterface route.stdout name = true) := by
        rintro ⟨hexit, huses⟩
        rcases hbad with hbad | hbad
        · exact hbad hexit
        · rw [huses] at hbad
          cases hbad
      have hthird : kernel.tick.observations = index + 2 := congrArg (· + 1) hcount
      rw [ends_bind, ends_attempt]
      refine ends_mono (ends_removeOwned_installed hactive hinst.tick) ?_ ?_
      · rintro _ after ⟨hnone, hrem⟩
        rw [hthird] at hnone
        exact hrem.lookupEnd hfirst hsec hnone
      · rintro _ after (⟨hsome, hstays⟩ | ⟨hnone, hrem⟩)
        · rw [hthird] at hsome
          refine hstays.lookupEnd (iff_of_false id ?_)
          rw [henv]
          rintro ⟨-, -, hvalid | hnone⟩
          · exact hinvalid hvalid
          · exact hsome hnone
        · rw [hthird] at hnone
          exact hrem.lookupEnd hfirst hsec hnone
    · intro hgood
      rw [not_or, not_not, Bool.not_eq_false] at hgood
      refine hinst.tick.lookupEnd (iff_of_true trivial ⟨hfirst, hsec, .inl ?_⟩)
      rw [henv]
      exact hgood
  · intro failure hfails
    refine hinst.tick.lookupEnd (iff_of_false id ?_)
    rintro ⟨-, hnone, -⟩
    rw [hnone] at hfails
    cases hfails

omit hactive

/-! ## The run -/

/-- How a run ends, over its outcome. -/
def RunLookupEnd (env : KernelEnvironment) (interface : Option Text) (contract : RootPolicyContract)
    (outcome : Option RootPolicyReconcileOutcome) (after : Kernel) : Prop :=
  NoInstall after.log ∨ ∃ identity name, contract.activeIdentity = some identity ∧
    interface = some name ∧
    LookupEnd env name identity (outcome = some (.completed .enforced)) after

variable {interface : Option Text} {admitted : Bool}

theorem reads_unlooked : Reads (Unlooked identity) (kernelIo env) :=
  reads_kernelIo fun _ h => h.tick

theorem reconcileAdmitted_lookupEnd (hactive : con.activeIdentity = some identity)
    (failClosed) (h : Unlooked identity kernel) :
    Ends (reconcileAdmitted (kernelIo env) con (kernelCurrent env) failClosed admitted interface)
      (fun res => RunLookupEnd env interface con (some (.completed res)))
      (fun out => RunLookupEnd env interface con out) kernel := by
  unfold reconcileAdmitted
  rw [ends_ite]
  refine ⟨fun _ => ?_, fun _ => .inl h.noInstall⟩
  cases hname : interface.filter isSafeInterfaceName with
  | none => exact .inl h.noInstall
  | some name =>
    obtain ⟨hintf, -⟩ := filter_eq_some_iff.mp hname
    rw [ends_bind, ends_mapError]
    refine ends_mono (keeps_discover reads_unlooked _ _ _ h) ?_ fun _ _ h => .inl h.noInstall
    intro tbl kernel h
    rw [ends_bind, ends_lift, ends_ite]
    have hchk : Unlooked identity (kernelCurrent env kernel).2 := ⟨h.noInstall, h.tables⟩
    refine ⟨fun _ => ?_, fun _ => .inl hchk.noInstall⟩
    rw [ends_bind, ends_mapError]
    refine ends_mono (applyAdmitted_lookupEnd hactive hchk) ?_ ?_
    · intro _ after hend
      refine .inr ⟨identity, name, hactive, hintf, ?_⟩
      rwa [eq_self]
    · intro failure after hend
      refine .inr ⟨identity, name, hactive, hintf, ?_⟩
      rwa [eq_false (failClosedOutcome_ne_enforced (some failure))]

theorem reconcileSelected_lookupEnd (hactive : con.activeIdentity = some identity)
    (fuel initial) (h : NoInstall kernel.log) :
    Ends (reconcileSelected (kernelIo env) con (kernelCurrent env) fuel initial admitted interface)
      (fun res => RunLookupEnd env interface con (some (.completed res)))
      (fun out => RunLookupEnd env interface con out) kernel := by
  have hprepare : Keeps (fun kernel => NoInstall kernel.log)
      (prepareFailClosed (kernelIo env) con fuel initial) :=
    keeps_prepareFailClosed reads_log (fun _ _ _ => keeps_noInstall rfl)
      (fun _ _ _ _ => keeps_noInstall rfl) (fun _ _ => keeps_noInstall rfl) fuel initial
  unfold reconcileSelected verifyFailClosed
  rw [ends_bind, ends_mapError]
  refine ends_mono (hprepare kernel h) ?_ fun _ _ h => .inl h
  intro _ kernel h
  rw [ends_bind, ends_mapError, ends_bind]
  refine ends_mono (ends_readSnapshot
    (I := fun after => NoInstall after.log ∧ after.ruleLines .ipv4 = kernel.ruleLines .ipv4)
    (fun _ h => h) ⟨h, rfl⟩) ?_ fun _ _ h => .inl h.1
  rintro snap after ⟨rfl, hlog, hsame⟩
  cases hverify : con.verifyFailClosedBase kernel.snapshot with
  | error failure => exact .inl hlog
  | ok _ =>
    obtain ⟨-, -, -, htables⟩ := (con.verifyFailClosedBase_eq_ok_iff hactive).mp hverify
    rw [ends_pure, ends_bind, ends_lift, ends_ite]
    refine ⟨fun _ => reconcileAdmitted_lookupEnd hactive _ ⟨hlog, ?_⟩, fun _ => .inl hlog⟩
    show RootPolicyContract.ownedLookupTablesFor (after.ruleLines .ipv4) identity = []
    rw [hsame]
    exact htables

theorem reconcileAuthorized_lookupEnd {ε : Type} (fuel : Nat) (h : NoInstall kernel.log) :
    Ends (reconcileAuthorized (kernelIo env) con (kernelCurrent env) fuel admitted interface :
        Exec Kernel ε _)
      (fun res => RunLookupEnd env interface res.2 res.1) (fun _ _ => False) kernel := by
  have hcoll : ∀ (other : RootPolicyContract) (kernel : Kernel), NoInstall kernel.log → Ends (do
          let failure ← reconcileCollision (kernelIo env) other
          pure (failClosedOutcome (some failure), other) : Exec Kernel ε _)
        (fun res => RunLookupEnd env interface res.2 res.1) (fun _ _ => False) kernel := by
    intro other kernel h
    rw [ends_bind, reconcileCollision, ends_ite]
    refine ⟨fun _ => ?_, fun _ => .inl h⟩
    rw [ends_bind, ends_attempt]
    have hremove : Keeps (fun kernel => NoInstall kernel.log)
        (removeOwnedIpv4Lookups (kernelIo env) other) :=
      keeps_removeOwnedIpv4Lookups reads_log fun _ _ _ _ => keeps_noInstall rfl
    exact ends_mono (hremove kernel h) (fun _ _ h => .inl h) fun _ _ h => .inl h
  unfold reconcileAuthorized
  rw [ends_bind, ends_attempt]
  refine ends_mono (keeps_readSnapshot reads_log kernel h) ?_ fun _ _ h => .inl h
  intro initial kernel h
  rw [ends_bind, ends_lift, ends_ite]
  refine ⟨fun _ => ?_, fun _ => .inl h⟩
  rcases con.resolveIdentity_cases initial with hresv | ⟨identity, hactive, -, hresv⟩ |
    ⟨-, identity, hid, -, hresv⟩ | ⟨-, hresv⟩
  · rw [hresv]
    exact hcoll _ _ h
  · rw [hresv, ends_bind, ends_attempt]
    exact reconcileSelected_lookupEnd hactive fuel initial h
  · rw [hresv, ends_bind, ends_attempt]
    exact reconcileSelected_lookupEnd rfl fuel initial h
  · rw [hresv]
    exact hcoll _ _ h

theorem reconcileIfCurrent_lookupEnd {ε : Type} (fuel state) (h : NoInstall kernel.log) :
    Ends (reconcileIfCurrent (kernelIo env) (kernelCurrent env) fuel state admitted interface :
        Exec Kernel ε _)
      (fun res => RunLookupEnd env interface res.2.contract res.1) (fun _ _ => False)
      kernel := by
  unfold reconcileIfCurrent
  rw [ends_bind, ends_lift, ends_ite]
  refine ⟨fun _ => ?_, fun _ => .inl h⟩
  rw [ends_bind]
  have hprobes : Probes (fun kernel => NoInstall kernel.log) (kernelIo env) :=
    probes_kernelIo fun _ h => h
  have hboot (fam) : Keeps (fun kernel => NoInstall kernel.log)
      (bootstrapFamily (kernelIo env) state.contract fam) :=
    keeps_bootstrapFamily hprobes fun _ => keeps_noInstall rfl
  refine Ends.imp (ends_probeAuthority_keeps hprobes hboot h) ?_
  rintro ⟨auth, probed⟩ kernel ⟨h, -⟩
  rw [ends_ite]
  refine ⟨fun _ => ?_, fun _ => .inl h⟩
  rw [ends_bind, ends_lift, ends_ite]
  refine ⟨fun _ => ?_, fun _ => .inl h⟩
  exact Ends.bind (reconcileAuthorized_lookupEnd fuel h) fun _ _ h => h

theorem reconcileKernel_ends {state fuel Q}
    (h : Ends (reconcileIfCurrent (kernelIo env) (kernelCurrent env) fuel state admitted interface :
      Exec Kernel Empty _) Q (fun _ _ => False)
      { kernel with observations := 0, checks := 0, log := [] }) :
    Q (reconcileKernel env fuel state admitted interface kernel).1
      (reconcileKernel env fuel state admitted interface kernel).2 := by
  obtain ⟨res, after, hrun, hQ⟩ := h.exists_ok
  unfold reconcileKernel
  dsimp only
  rw [hrun]
  exact hQ

theorem reconcileKernel_lookupEnd (env fuel state admitted interface kernel) :
    RunLookupEnd env interface
      (reconcileKernel env fuel state admitted interface kernel).1.2.contract
      (reconcileKernel env fuel state admitted interface kernel).1.1
      (reconcileKernel env fuel state admitted interface kernel).2 :=
  reconcileKernel_ends (reconcileIfCurrent_lookupEnd fuel state (by rintro _ ⟨⟩))

theorem not_installsLookup {log attributes} (h : NoInstall log) :
    ¬ InstallsLookup log index attributes := by
  rintro ⟨hmem, tbl, htable⟩
  have hadd := h _ hmem
  rw [isLookupAdd, htable] at hadd
  cases hadd

theorem InstallEnd.unique {attributes other index'}
    (h : InstallEnd env name identity enforced kernel index attributes)
    (hoth : InstallsLookup kernel.log index' other) : index' = index ∧ other = attributes := by
  obtain ⟨hmem, tbl, htable⟩ := hoth
  have hadd : isLookupAdd (.ruleAdd .ipv4 other) = true := by rw [isLookupAdd, htable]
  have hsame := h.only _ hmem hadd
  simpa using hsame

theorem routeValidated_iff (hactive : con.activeIdentity = some identity)
    (hintf : interface = some name) : RouteValidated env index con interface ↔
      (env.answer index (.routeGet identity.markHex)).exitCode = 0 ∧
        routeGetUsesInterface (env.answer index (.routeGet identity.markHex)).stdout name =
          true := by
  constructor
  · rintro ⟨identity', name', hactive', hinterface', hroute⟩
    cases hactive.symm.trans hactive'
    cases hintf.symm.trans hinterface'
    exact hroute
  · intro hroute
    exact ⟨identity, name, hactive, hintf, hroute⟩

/-- A lookup that is added and not enforced is withdrawn exactly when the observations
behind its addition succeed. -/
theorem failed_run_permits_nothing_iff (env : KernelEnvironment) (fuel : Nat)
    (state : RootPolicyState) (admitted : Bool) (interface : Option Text) (kernel : Kernel) :
    FailedRunPermitsNothing (reconcileKernel env fuel state admitted interface kernel) ↔
      ObservedBehindInstall env interface
        (reconcileKernel env fuel state admitted interface kernel) := by
  have hend := reconcileKernel_lookupEnd env fuel state admitted interface kernel
  generalize reconcileKernel env fuel state admitted interface kernel = run at hend ⊢
  rcases hend with hnone | ⟨identity, name, hactive, hinterface, hnone | ⟨index, attributes, hend⟩⟩
  · exact iff_of_true (fun _ _ h => (not_installsLookup hnone h).elim)
      fun _ _ h => (not_installsLookup hnone h).elim
  · exact iff_of_true (fun _ _ h => (not_installsLookup hnone h).elim)
      fun _ _ h => (not_installsLookup hnone h).elim
  · have hverdict := hend.verdict
    rw [← routeValidated_iff hactive hinterface] at hverdict
    constructor
    · intro h index' other hinstalls
      obtain ⟨rfl, rfl⟩ := hend.unique hinstalls
      exact hverdict.mp (h _ _ hinstalls)
    · intro h index' other hinstalls
      obtain ⟨rfl, rfl⟩ := hend.unique hinstalls
      exact hverdict.mpr (h _ _ hinstalls)

/-- An admitted run on the sample kernel adds its lookup behind 25 observations. The next
one, the listing that should confirm the lookup, fails, and the lookup stays. -/
theorem lookup_survives_failed_listing :
    ¬ FailedRunPermitsNothing (reconcileKernel (.failingAt 25) 1 ⟨.sample, some 1, none⟩ true
      (some "rmnet0".toList) .sample) := by
  have hlog : (reconcileKernel (.failingAt 25) 1 ⟨.sample, some 1, none⟩ true
      (some "rmnet0".toList) .sample).2.log.any
        (fun entry => entry.1 == 25 && isLookupAdd entry.2) = true := by
    decide +kernel
  have hend := reconcileKernel_lookupEnd (.failingAt 25) 1 ⟨.sample, some 1, none⟩ true
    (some "rmnet0".toList) .sample
  generalize reconcileKernel (.failingAt 25) 1 ⟨.sample, some 1, none⟩ true
    (some "rmnet0".toList) .sample = run at hlog hend ⊢
  obtain ⟨entry, hentry, hadd⟩ := any_eq_true.mp hlog
  rw [Bool.and_eq_true, beq_iff_eq] at hadd
  rcases hend with hnone | ⟨identity, name, -, -, hnone | ⟨index, attributes, hend⟩⟩
  · rw [hnone entry hentry] at hadd
    cases hadd.2
  · rw [hnone entry hentry] at hadd
    cases hadd.2
  · obtain rfl : index = 25 := by
      rw [← hadd.1, hend.only entry hentry hadd.2]
    intro h
    obtain ⟨hfails, -⟩ := hend.verdict.mp (h 25 attributes ⟨hend.issued, hend.lookup⟩)
    cases hfails

end MishProxy.Runtime
