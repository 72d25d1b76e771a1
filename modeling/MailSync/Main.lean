import MailSync.Shell.Host

/-!
# The program

Keeps an account's folders and messages in step from the command line.
-/
open MailSync

def main (words : List String) : IO UInt32 := do
  match CommandLine.Arguments.read words with
  | .error refusal =>
    if refusal.isMistake then
      IO.eprintln refusal.message
      return 2
    IO.println refusal.message
    return 0
  | .ok arguments =>
    let desk ← IO.mkRef Shell.Desk.empty
    match ← (CommandLine.run (Shell.host desk) arguments).run with
    | .ok () => return 0
    | .error e =>
      IO.eprintln e.message
      return 1
