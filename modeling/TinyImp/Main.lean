import TinyImp.CommandLine
import TinyImp.Job
import TinyImp.Report.Drawing

/-!
# The command

Runs the program in a source file: its input is the standard input, its output
goes to the standard output, and reports and the journal go to the error
stream.  The status of the process tells whether the job has succeeded.
-/

namespace TinyImp

partial def readBytes (stream : IO.FS.Stream) (bytes : ByteArray) :
    IO ByteArray := do
  let chunk ← stream.read 65536
  if chunk.isEmpty then
    return bytes
  else
    readBytes stream (bytes ++ chunk)

def showJournal (stream : IO.FS.Stream) (journal : Journal) : IO Unit :=
  for event in journal.events do
    stream.putStrLn s!"{event.level.name} {event.text}"

/-- Takes the source that the options name through all stages. -/
def runOptions (options : Options) : IO UInt32 := do
  let source ← IO.FS.readFile options.source
  let input ← readBytes (← IO.getStdin) .empty
  let errors ← IO.getStderr
  let job : Job := { source, name := options.source }
  let journal : Journal := { threshold := options.threshold }
  let ending := job.run input.data.toList { journal }
  let output ← IO.getStdout
  output.write ⟨ending.outlet.sink.written⟩
  output.flush
  showJournal errors ending.outlet.journal
  match ending.verdict with
  | .error fault =>
      errors.putStrLn fault.message
      return 101
  | .ok verdict =>
      let colored := options.color.enabled (← errors.isTty)
      errors.putStr
        (Report.render job.name source colored verdict.diagnostics)
      showJournal errors
        (journal.record (.finished job.name verdict.exitCode))
      return verdict.exitCode.toUInt32

end TinyImp

def main (arguments : List String) : IO UInt32 := do
  match TinyImp.Options.parse arguments with
  | .error error =>
      (← IO.getStderr).putStrLn error.message
      return 2
  | .ok options => TinyImp.runOptions options
