import MailSync.Http.Request
import MailSync.Text.Blank
import MailSync.Text.Lines

/-!
# Messages over HTTP

A request as it goes over the wire, and the reply as it comes back. The server is asked to
close the connection behind its reply, so a reply is read once all of it is there; what its
head says of the length decides whether it is whole.
-/
namespace MailSync.Http

def lineEnd : String := "\r\n"

/-- The host as requests name it. -/
def hostLine (u : Url) : String := u.host ++ ((u.port.map fun n => ":" ++ toString n).getD "")

def requestHead (u : Url) (headers : List (String × String)) (length : Nat) : String :=
  let all := [("Host", hostLine u)] ++ headers ++
    [("Content-Length", toString length), ("Connection", "close")]
  s!"POST {u.target} HTTP/1.1" ++ lineEnd ++
    String.join (all.map fun (name, value) => name ++ ": " ++ value ++ lineEnd) ++ lineEnd

def requestBytes (u : Url) (headers : List (String × String)) (body : Bytes) : Bytes :=
  Text.toBytes (requestHead u headers body.length) ++ body

/-- Splits behind the first empty line. The head is collected backwards. -/
def splitHead : Bytes → Bytes → Option (Bytes × Bytes)
  | head, 13 :: 10 :: 13 :: 10 :: rest => some (head.reverse, rest)
  | head, b :: rest => splitHead (b :: head) rest
  | _, [] => none

/-- The line in front, and what follows its end. -/
def splitLine : Bytes → Bytes → Option (Bytes × Bytes)
  | line, 13 :: 10 :: rest => some (line.reverse, rest)
  | line, b :: rest => splitLine (b :: line) rest
  | _, [] => none

/-- The status in the first line of a reply. -/
def statusOf (line : List Char) : Option UInt16 := do
  match (String.ofList line).splitOn " " with
  | version :: code :: _ =>
    if version.startsWith "HTTP/1." then Text.uint16? code else none
  | _ => none

/-- The value of a header, whose name is given in lower case. -/
def header? (name : String) (lines : List (List Char)) : Option String :=
  (lines.find? fun line =>
    String.ofList ((line.takeWhile (· ≠ ':')).map Char.toLower) = name).map fun line =>
      Text.trimString (String.ofList ((line.dropWhile (· ≠ ':')).drop 1))

/-- The size in front of a chunk. What follows a semicolon does not count. -/
def chunkSize? (line : Bytes) : Option Nat :=
  let digits := (line.takeWhile (· ≠ 59)).map fun b => Char.ofNat b.toNat
  if digits = [] then none
  else digits.foldlM (fun n c => (Text.hexDigit? c).map (n * 16 + ·)) 0

/-- A body sent in chunks, at most as many as there is fuel for. -/
def dechunk : Nat → Bytes → Option Bytes
  | 0, _ => none
  | fuel + 1, bs => do
    let (line, rest) ← splitLine [] bs
    let size ← chunkSize? line
    if size = 0 then some []
    else if rest.length < size + 2 then none
    else do
      let more ← dechunk fuel (rest.drop (size + 2))
      some (rest.take size ++ more)

/-- The body behind a head. None if the connection was closed too soon. -/
def bodyOf (lines : List (List Char)) (rest : Bytes) : Option Bytes :=
  match header? "transfer-encoding" lines, header? "content-length" lines with
  | some "chunked", _ => dechunk (rest.length + 1) rest
  | _, some text => do
    let length ← Text.natural? text.toList
    if rest.length < length then none else some (rest.take length)
  | _, none => some rest

/-- Reads all that a server sent until it closed the connection. -/
def readReply (received : Bytes) : Option Reply := do
  let (head, rest) ← splitHead [] received
  match Text.lines (Text.lenient head) with
  | [] => none
  | first :: lines =>
    let status ← statusOf first
    some ⟨status, ← bodyOf lines rest⟩

end MailSync.Http
