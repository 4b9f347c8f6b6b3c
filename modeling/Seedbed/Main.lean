import Seedbed.CommandLine.Program

/-!
# The executable

Reads the environment and the arguments, and writes what the program yields. The executable has no network of its own: no server
can be reached from it.
-/

open Seedbed in
/-- The entry of the executable. -/
def main (arguments : List String) : IO UInt32 := do
  let env : CommandLine.Environment :=
    ⟨← IO.getEnv "MONGODB_CONNECTION_STRING", ← IO.getEnv "MONGODB_CONNECT_TIMEOUT", ← IO.getEnv "RUST_LOG"⟩
  let offline : Client Script := Client.new ⟨[]⟩ ⟨0⟩
  let (completion, _) := Program.run env (fun _ => .unreachable) arguments offline
  (← IO.getStdout).putStr completion.output
  (← IO.getStderr).putStr completion.errors
  return UInt32.ofNat completion.status
