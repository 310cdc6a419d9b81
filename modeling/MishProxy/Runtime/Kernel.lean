import MishProxy.Netfilter.Table
import MishProxy.Runtime.Keeps

/-!
# A kernel that applies the commands

The kernel holds the rules and the mangle table of each family. Mutations are applied
faithfully and logged. Observations answer what the kernel holds, unless the environment
makes them fail; the environment also answers the commands about routes, which the
kernel model knows nothing of.

`kernelIo env` is the effect interface over this kernel. The lemmas `ends_readRules`,
`ends_readMangle` and `ends_issue` give each effect of the transaction on it.
-/

namespace MishProxy.Runtime

open Text Cellular Routing Netfilter Effects Effects.Exec Session List

structure Kernel where
  rpdb : Family → List RpdbRule
  mangle : Family → Table
  observations : Nat
  checks : Nat
  log : List (Nat × PolicyCommand)

/-- What the kernel does not determine, by the number of observations made before, and
the currentness of the request, by the number of earlier checks. -/
structure KernelEnvironment where
  fails : Nat → Option RootPolicyEffectFailure
  raw : Nat → Option (Except RootSessionError RootCommandResult)
  answer : Nat → PolicyCommand → RootCommandResult
  generation : Nat → Option Nat
  current : Nat → Bool

/-- Every observation succeeds, every route leads through one interface. -/
def KernelEnvironment.sample : KernelEnvironment where
  fails _ := none
  raw _ := none
  answer _ _ := ⟨0, "default dev rmnet0".toList, false, true, 0⟩
  generation _ := some 1
  current _ := true

def KernelEnvironment.failingAt (index : Nat) : KernelEnvironment :=
  { KernelEnvironment.sample with
    fails := fun n => if n = index then some .observationUnavailable else none }

namespace Kernel

/-- Empty tables and the rule for the main routing table, in both families. -/
def sample : Kernel :=
  ⟨fun _ => [⟨32766, false, none, [], none, [], .lookup "main".toList, [], by decide,
    ne_of_source_none, ne_of_mem_nil, by simp, by decide⟩], fun _ => .empty, 0, 0, []⟩

variable (kernel : Kernel)

def tick : Kernel := { kernel with observations := kernel.observations + 1 }

def logged (command : PolicyCommand) : Kernel :=
  { kernel with log := kernel.log ++ [(kernel.observations, command)] }

def setRpdb (family : Family) (rules : List RpdbRule) : Kernel :=
  { kernel with rpdb := Function.update kernel.rpdb family rules }

def setMangle (family : Family) (table : Table) : Kernel :=
  { kernel with mangle := Function.update kernel.mangle family table }

section

variable (fam : Family) (rules : List RpdbRule) (tbl : Table) (cmd : PolicyCommand)

@[simp] theorem rpdb_tick : kernel.tick.rpdb = kernel.rpdb := rfl

@[simp] theorem mangle_tick : kernel.tick.mangle = kernel.mangle := rfl

@[simp] theorem rpdb_logged : (kernel.logged cmd).rpdb = kernel.rpdb := rfl

@[simp] theorem mangle_logged : (kernel.logged cmd).mangle = kernel.mangle := rfl

@[simp] theorem rpdb_setRpdb :
    (kernel.setRpdb fam rules).rpdb = Function.update kernel.rpdb fam rules := rfl

@[simp] theorem mangle_setMangle :
    (kernel.setMangle fam tbl).mangle = Function.update kernel.mangle fam tbl := rfl

end

/-- The lines of `ip rule show`. -/
def ruleLines (family : Family) : List Text := (kernel.rpdb family).map RpdbRule.line

def mangleLines (family : Family) : List Text := (kernel.mangle family).listing

def snapshot : RootPolicySnapshot :=
  ⟨kernel.ruleLines .ipv4, kernel.ruleLines .ipv6, kernel.mangleLines .ipv4,
    kernel.mangleLines .ipv6⟩

def applyMangle (table : Table) : MangleOperation → Option Table
  | .create chain => table.createChain chain
  | .flush chain => table.flushChain chain
  | .delete chain => table.deleteChain chain
  | .append rule =>
      match splitWhitespace rule with
      | option :: tokens =>
          if option = "-A".toList then (ChainRule.ofTokens tokens).bind table.appendRule else none
      | [] => none
  | .remove spec => (ChainRule.ofTokens (splitWhitespace spec)).bind table.removeRule
  | .check _ => none

/-- The kernel behind an accepted mutation. -/
def apply : PolicyCommand → Option Kernel
  | .ruleAdd family attributes =>
      attributes.added.map fun rule =>
        kernel.setRpdb family (insertRule rule (kernel.rpdb family))
  | .ruleDelete family attributes =>
      (deleteFirst attributes (kernel.rpdb family)).map (kernel.setRpdb family)
  | .mangle family operation =>
      (applyMangle (kernel.mangle family) operation).map (kernel.setMangle family)
  | _ => none

def hasRule (family : Family) (spec : Text) : Bool :=
  match ChainRule.ofTokens (splitWhitespace spec) with
  | some rule => (kernel.mangle family).rules.contains rule
  | none => false

/-- The result of a command that ran to its end. -/
def result (exitCode : Int) (stdout : Text) : RootCommandResult :=
  ⟨exitCode, stdout, false, true, 0⟩

def observation (env : KernelEnvironment) : PolicyCommand → RootCommandResult
  | .userId => result 0 "0\n".toList
  | .ruleShow family => result 0 (unlines (kernel.ruleLines family))
  | .mangleShow family => result 0 (unlines (kernel.mangleLines family))
  | .mangle family (.check spec) => result (if kernel.hasRule family spec then 0 else 1) []
  | command => env.answer kernel.observations command

end Kernel

def kernelObserve (env : KernelEnvironment) (command : PolicyCommand) :
    Exec Kernel RootPolicyEffectFailure RootCommandResult := fun kernel =>
  match env.fails kernel.observations with
  | some failure => (.error failure, kernel.tick)
  | none => (.ok (kernel.observation env command), kernel.tick)

def kernelIo (env : KernelEnvironment) : RootPolicyIo Kernel where
  sessionGeneration kernel := (env.generation kernel.observations, kernel)
  rawObservation command kernel :=
    ((env.raw kernel.observations).getD (.ok (kernel.observation env command)), kernel.tick)
  observe := kernelObserve env
  lines command := do
    let result ← kernelObserve env command
    if result.exitCode ≠ 0 then fail .observationUnavailable else pure (parseLines result.stdout)
  mutate command kernel :=
    match kernel.apply command with
    | some after => (.ok (), after.logged command)
    | none => (.error .mutationRejected, kernel.logged command)

def kernelCurrent (env : KernelEnvironment) (kernel : Kernel) : Bool × Kernel :=
  (env.current kernel.checks, { kernel with checks := kernel.checks + 1 })

/-! ## Listings are read back -/

theorem parseLines_unlines {rows} (h : ∀ row ∈ rows, IsRow row) :
    parseLines (unlines rows) = rows := by
  have hmap : rows.map trim = rows := by
    conv_rhs => rw [← map_id rows]
    exact map_congr_left fun row hrow => (h row hrow).trimmed
  rw [parseLines, lines_unlines h, hmap, filter_eq_self]
  intro row hrow
  simpa using (h row hrow).ne_nil

theorem Kernel.isRow_of_mem_ruleLines {ker : Kernel} {fam : Family} {line : Text}
    (h : line ∈ ker.ruleLines fam) : IsRow line := by
  obtain ⟨rule, -, rfl⟩ := mem_map.mp h
  exact rule.isRow_line

/-! ## The effects of the transaction -/

section

variable {env : KernelEnvironment} {ker : Kernel} {cmd : PolicyCommand}

theorem ends_kernelObserve {Q E} : Ends (kernelObserve env cmd) Q E ker ↔
      (env.fails ker.observations = none → Q (ker.observation env cmd) ker.tick) ∧
      ∀ failure, env.fails ker.observations = some failure → E failure ker.tick := by
  unfold Ends kernelObserve
  cases env.fails ker.observations <;> simp

variable {E : RootPolicyFailure → Kernel → Prop}

theorem ends_readResult {Q} : Ends (readResult (kernelIo env) cmd) Q E ker ↔
      (env.fails ker.observations = none → Q (ker.observation env cmd) ker.tick) ∧
      ∀ failure, env.fails ker.observations = some failure →
        E (mapEffectFailure failure) ker.tick := by
  unfold readResult
  rw [ends_mapError]
  exact ends_kernelObserve

variable {Q : List Text → Kernel → Prop}

theorem ends_readLines_of_rows {rows}
    (hansw : ker.observation env cmd = Kernel.result 0 (unlines rows))
    (hrows : ∀ row ∈ rows, IsRow row) : Ends (readLines (kernelIo env) cmd) Q E ker ↔
      (env.fails ker.observations = none → Q rows ker.tick) ∧
      ∀ failure, env.fails ker.observations = some failure →
        E (mapEffectFailure failure) ker.tick := by
  unfold readLines
  rw [ends_mapError]
  show Ends (kernelObserve env cmd >>= _) _ _ ker ↔ _
  rw [ends_bind, ends_kernelObserve, hansw]
  simp [Kernel.result, parseLines_unlines hrows]

theorem ends_readRules {fam} : Ends (readLines (kernelIo env) (.ruleShow fam)) Q E ker ↔
      (env.fails ker.observations = none → Q (ker.ruleLines fam) ker.tick) ∧
      ∀ failure, env.fails ker.observations = some failure →
        E (mapEffectFailure failure) ker.tick :=
  ends_readLines_of_rows rfl fun _ => Kernel.isRow_of_mem_ruleLines

theorem ends_readMangle {fam} : Ends (readLines (kernelIo env) (.mangleShow fam)) Q E ker ↔
      (env.fails ker.observations = none → Q (ker.mangleLines fam) ker.tick) ∧
      ∀ failure, env.fails ker.observations = some failure →
        E (mapEffectFailure failure) ker.tick :=
  ends_readLines_of_rows rfl fun _ => Table.isRow_of_mem_listing _

theorem ends_mutate {Q E} : Ends ((kernelIo env).mutate cmd) Q E ker ↔
      (∀ after, ker.apply cmd = some after → Q () (after.logged cmd)) ∧
      (ker.apply cmd = none → E .mutationRejected (ker.logged cmd)) := by
  unfold Ends kernelIo
  cases h : ker.apply cmd <;> simp [h]

theorem ends_issue {Q} : Ends (issue (kernelIo env) cmd) Q E ker ↔
      (∀ after, ker.apply cmd = some after → Q () (after.logged cmd)) ∧
      (ker.apply cmd = none → E .mutationRejected (ker.logged cmd)) := by
  unfold issue
  rw [ends_mapError]
  exact ends_mutate

variable {I : Kernel → Prop}

variable (htick : ∀ ker, I ker → I ker.tick)
include htick

/-- A snapshot shows the kernel; observations that keep `I` are all it makes. -/
theorem ends_readSnapshot (h : I ker) :
    Ends (readSnapshot (kernelIo env)) (fun snap after => snap = ker.snapshot ∧ I after)
      (fun _ => I) ker := by
  unfold readSnapshot
  simp only [ends_bind, ends_readRules, ends_readMangle, ends_pure]
  have h₁ := htick _ h
  have h₂ := htick _ h₁
  have h₃ := htick _ h₂
  have h₄ := htick _ h₃
  exact ⟨fun _ => ⟨fun _ => ⟨fun _ => ⟨fun _ => ⟨rfl, h₄⟩, fun _ _ => h₄⟩, fun _ _ => h₃⟩,
    fun _ _ => h₂⟩, fun _ _ => h₁⟩

theorem reads_kernelIo : Reads I (kernelIo env) := by
  have hobs : ∀ cmd, Keeps I (kernelObserve env cmd) := by
    intro cmd ker h
    rw [ends_kernelObserve]
    exact ⟨fun _ => htick ker h, fun _ _ => htick ker h⟩
  refine ⟨fun cmd => ?_, hobs⟩
  exact Keeps.bind (hobs cmd) fun _ => Keeps.ite (Keeps.fail _) (Keeps.pure _)

theorem probes_kernelIo : Probes I (kernelIo env) := by
  refine ⟨fun cmd ker h => ?_, fun _ h => h⟩
  unfold Ends kernelIo
  dsimp only
  cases (env.raw ker.observations).getD (.ok (ker.observation env cmd)) with
  | ok _ | error _ => exact htick ker h

omit htick

theorem keeps_kernelMutate (happlied : ∀ ker after, I ker → ker.apply cmd = some after →
      I (after.logged cmd)) (hrej : ∀ ker, I ker → I (ker.logged cmd)) :
    Keeps I ((kernelIo env).mutate cmd) := by
  intro ker h
  rw [ends_mutate]
  exact ⟨fun after hafter => happlied ker after h hafter, fun _ => hrej ker h⟩

end

end MishProxy.Runtime
