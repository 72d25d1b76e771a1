/-!
# Arguments of the command line

One command with its operands, and the option that names the database, which may stand in
front of the command or behind it. Options are known from their hyphen, unless two hyphens
went before.
-/
namespace MailSync.CommandLine

inductive Command where
  | check
  | folders
  | sync (folder : String)
  | download (folder message : String)
  | more (folder : String)
  | send (file : String)
deriving Repr, DecidableEq

structure Arguments where
  database : Option String
  command : Command
deriving Repr, DecidableEq

/-- Why there is no command to run. -/
inductive Refusal where
  | help
  | version
  /-- No arguments at all. -/
  | nothing
  | noCommand
  | unknownCommand (name : String)
  | unexpected (argument : String)
  | missing (operands : List String)
  | noValue (of : String)
  | repeated (option : String)
deriving Repr, DecidableEq

namespace Refusal

def usage : String := "Usage: easync [OPTIONS] <COMMAND>"

def message : Refusal → String
  | help | nothing => usage
  | version => "easync 0.1.0"
  | noCommand => "error: 'easync' requires a subcommand but one was not provided"
  | unknownCommand name => s!"error: unrecognized subcommand '{name}'"
  | unexpected argument => s!"error: unexpected argument '{argument}' found"
  | missing operands =>
    "\n".intercalate ("error: the following required arguments were not provided:" ::
      operands.map ("  " ++ ·))
  | noValue of => s!"error: a value is required for '{of}' but none was supplied"
  | repeated option => s!"error: the argument '{option}' cannot be used multiple times"

/-- Asking for help or for the version is no mistake. -/
def isMistake : Refusal → Bool
  | help | version => false
  | _ => true

end Refusal

/-- The names of a command's operands. -/
def operands? : String → Option (List String)
  | "check" | "folders" => some []
  | "sync" | "more" => some ["<FOLDER>"]
  | "download" => some ["<FOLDER>", "<MESSAGE>"]
  | "send" => some ["<FILE>"]
  | _ => none

def databaseOption : String := "--db <DB>"

/-- What was read so far. -/
structure Reading where
  /-- The command's name and the names of its operands. -/
  command : Option (String × List String)
  words : List String
  /-- The database named in front of the command. -/
  before : Option String
  behind : Option String
  /-- Whether options are still known. -/
  options : Bool

namespace Reading

def start : Reading := ⟨none, [], none, none, true⟩

def setDatabase (r : Reading) (path : String) : Except Refusal Reading :=
  if path = "" then .error (.noValue databaseOption)
  else if r.command.isNone then
    if r.before.isSome then .error (.repeated databaseOption)
    else .ok { r with before := some path }
  else if r.behind.isSome then .error (.repeated databaseOption)
  else .ok { r with behind := some path }

def word (r : Reading) (w : String) : Except Refusal Reading :=
  match r.command with
  | none =>
    match operands? w with
    | some operands => .ok { r with command := some (w, operands) }
    | none => if w = "help" then .error .help else .error (.unknownCommand w)
  | some (_, operands) =>
    if r.words.length < operands.length then .ok { r with words := r.words ++ [w] }
    else .error (.unexpected w)

/-- An option as mistakes name it: without its value, or its first letter alone. -/
def optionName (w : String) : String :=
  if w.startsWith "--" then String.ofList (w.toList.takeWhile (· ≠ '='))
  else String.ofList (w.toList.take 2)

def looksLikeOption (w : String) : Bool := w.startsWith "-" && w ≠ "-"

def option (r : Reading) (w : String) : Except Refusal Reading :=
  if w = "--" then .ok { r with options := false }
  else if w = "-h" ∨ w = "--help" then .error .help
  else if r.command.isNone ∧ (w = "-V" ∨ w = "--version") then .error .version
  else if w.startsWith "--db=" then r.setDatabase (String.ofList (w.toList.drop 5))
  else .error (.unexpected (optionName w))

def read (r : Reading) : List String → Except Refusal Reading
  | [] => .ok r
  | w :: rest =>
    if r.options ∧ looksLikeOption w then
      if w = "--db" then
        match rest with
        | path :: rest =>
          if looksLikeOption path then .error (.noValue databaseOption)
          else do read (← r.setDatabase path) rest
        | [] => .error (.noValue databaseOption)
      else do read (← r.option w) rest
    else do read (← r.word w) rest

def toCommand (r : Reading) (name : String) (operands : List String) : Except Refusal Command :=
  match name, r.words with
  | "check", _ => .ok .check
  | "folders", _ => .ok .folders
  | "sync", [folder] => .ok (.sync folder)
  | "more", [folder] => .ok (.more folder)
  | "download", [folder, message] => .ok (.download folder message)
  | "send", [file] => if file = "" then .error (.noValue "<FILE>") else .ok (.send file)
  | _, words => .error (.missing (operands.drop words.length))

end Reading

/-- Reads the arguments behind the program's name. -/
def Arguments.read (words : List String) : Except Refusal Arguments := do
  if words = [] then .error .nothing
  let r ← Reading.start.read words
  match r.command with
  | none => .error .noCommand
  | some (name, operands) => .ok ⟨r.behind.or r.before, ← r.toCommand name operands⟩

end MailSync.CommandLine
