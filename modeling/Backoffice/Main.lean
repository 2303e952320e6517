import Backoffice.App.Startup

/-! # Command line

Starts the back office from the process environment: the settings are read from the variables
of `AppConfig.variableNames`, and starting goes as far as it can on this machine. An abort is
reported with exit status 101, any other failure with status 1. -/

open Backoffice

/-- The settings variables that are set, with their values. -/
def readEnvironment : IO Environment :=
  AppConfig.variableNames.foldlM (fun env name => do
    match ← IO.getEnv name with
    | some value => pure (env ++ [(name, value)])
    | none => pure env) []

/-- Start the service and report why it stopped. -/
def main : IO UInt32 := do
  match startup Host.standard (← readEnvironment) with
  | .abort message =>
    IO.eprintln ("Aborted: " ++ message)
    pure 101
  | .error message =>
    IO.eprintln ("Error: " ++ message)
    pure 1
