import MishProxy.Text.Basic

/-!
# Commands of the root session

A root command is one line of shell text, so that the session can write it as one line
and follow it with a line of its own. `RootCommand.new` is the only way to make one.
-/

namespace MishProxy.Session

inductive RootCommandKind where
  | observation
  | mutation
  deriving DecidableEq, Repr

inductive RootSessionError where
  | invalidCommand
  | spawnUnavailable
  | stateUnavailable
  deriving DecidableEq, Repr

structure RootCommand where
  kind : RootCommandKind
  command : Text
  ne_nil : command ≠ []
  one_line : ∀ c ∈ command, c ≠ '\n' ∧ c ≠ '\r' ∧ c ≠ '\x00'
  deriving DecidableEq

def RootCommand.new (kind : RootCommandKind) (command : Text) :
    Except RootSessionError RootCommand :=
  if h : command ≠ [] ∧ ∀ c ∈ command, c ≠ '\n' ∧ c ≠ '\r' ∧ c ≠ '\x00' then
    .ok ⟨kind, command, h.1, h.2⟩
  else .error .invalidCommand

structure RootCommandResult where
  exitCode : Int
  stdout : Text
  timedOut : Bool
  outputComplete : Bool
  sessionGeneration : Nat
  deriving DecidableEq

end MishProxy.Session
