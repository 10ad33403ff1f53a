import Bazaar.Engine

/-!
The command line of the engine. The file of envelopes is the first argument, or the standard input;
answers go to the standard output, and the exit status tells whether there was a failure.
-/

namespace Bazaar

/-- The file of the configuration, where no other is named. -/
def defaultConfigFile : String := "agora-config.yaml"

/-- The text of the configuration file, if there is one. -/
def readConfig : IO (Option String) := do
  let file := (← IO.getEnv "AGORA_CONFIG").getD defaultConfigFile
  try
    return some (← IO.FS.readFile file)
  catch
    | .noFileOrDirectory .. => return none
    | e => throw e

/-- The bytes of the input, if they can be read. -/
def readInput : List String → IO ByteArray
  | [] => do (← IO.getStdin).readBinToEnd
  | file :: _ => IO.FS.readBinFile file

/-- Digests that are counted from a number that is drawn. -/
def drawDigests : IO (Nat → Digest) := do
  let bytes ← IO.getRandomBytes 16
  let start := bytes.foldl (fun n b => 256 * n + b.toNat) 0
  return fun position => .ofNumber (start + position)

/-- Reports a failure. -/
def describe : Engine.Failure → String
  | .config => "the configuration cannot be read"
  | .ledger r => r.message
  | .input => "the input is not text"

end Bazaar

open Bazaar in
def main (args : List String) : IO UInt32 := do
  let overrides : Config.Overrides :=
    ⟨← IO.getEnv "AGORA_LOG_LEVEL", ← IO.getEnv "AGORA_AGENT_NAME"⟩
  let outcome :=
    Engine.run Config.ofText? (← drawDigests) (← readConfig) overrides (some (← readInput args))
  let report := Engine.report outcome
  IO.print report.output
  if let .error f := outcome then IO.eprintln (describe f)
  return report.status
