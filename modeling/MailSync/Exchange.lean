import MailSync.DocumentError
import MailSync.Program
import MailSync.ProtocolSettings
import MailSync.Verdict
import MailSync.Wbxml.Decode

/-!
# Exchanges

One request and what its reply comes to. A reply without a body is no document, which some
commands take for success. Every other failure is judged by a verdict and told in detail.
-/
namespace MailSync

structure Failure where
  verdict : Verdict
  detail : String
deriving Repr, DecidableEq

namespace Failure

def malformed (detail : String) : Failure := ⟨.malformed, detail⟩

def message (f : Failure) : String := s!"{f.verdict.title}: {f.detail}"

/-- The error that a failure surfaces as. The subject names what was being synced. -/
def toError (f : Failure) (subject : String) : SyncError :=
  (f.verdict.errorWith? (some f.detail) subject).getD (.malformedResponse f.detail)

end Failure

/-- What one round of a pass brought: the key for the next one, and whether the server has
more. -/
structure Round (β : Type) where
  key : String
  more : Bool
  batch : β
deriving Repr, DecidableEq

namespace Exchange
open Wbxml (Element)

/-- The document in a reply, if it has a body. -/
def documentOf (command : String) :
    Except TransportError Reply → Except Failure (Option Element)
  | .error e => .error ⟨.network e.fault, e.message⟩
  | .ok reply =>
    match Verdict.ofHttp? reply.status with
    | some verdict => .error ⟨verdict, s!"HTTP {reply.status.toNat} for {command}"⟩
    | none =>
      if reply.body = [] then .ok none
      else match Wbxml.decode reply.body with
        | .ok root => .ok (some root)
        | .error e => .error (.malformed s!"{command} response: {e.message}")

/-- Turns a fault in a document's shape into a failure. -/
def ofDocument {α : Type} : Except DocumentError α → Except Failure α
  | .ok a => .ok a
  | .error e => .error (.malformed e.message)

def required (command : String) : Option Element → Except Failure Element
  | some root => .ok root
  | none => .error (.malformed s!"empty {command} response")

def post (account : Account) (request : Request) : Program (Except Failure (Option Element)) := do
  let result ← Program.effect (.post account request)
  pure (documentOf request.command result)

def request (command : String) (root : Element) (timeout : UInt64) : Request :=
  ⟨command, [], wbxmlContent, root.encode, timeout⟩

end Exchange
end MailSync
