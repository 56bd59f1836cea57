import Presubmit.Program

/-! The command: one request on standard input, its answer on standard output, and the journal on
standard error, shown from the level that the environment names. -/
namespace Presubmit

partial def readAll (stream : IO.FS.Stream) (acc : ByteArray) : IO ByteArray := do
  let chunk ← stream.read 65536
  if chunk.isEmpty then
    return acc
  else
    readAll stream (acc ++ chunk)

end Presubmit

def main : IO UInt32 := do
  let level ← IO.getEnv "RUST_LOG"
  let input ← Presubmit.readAll (← IO.getStdin) ByteArray.empty
  let response := Presubmit.Response.ofBytes (Presubmit.Level.threshold level) input
  let errors ← IO.getStderr
  for line in response.journal do
    errors.putStr (line ++ "\n")
  let output ← IO.getStdout
  output.putStr response.output
  output.flush
  return response.exitCode.toUInt32
