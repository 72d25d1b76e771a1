import MailSync.DevicePolicy.Document
import MailSync.Session

/-!
# The policy handshake

Two exchanges, both without a policy key in force. The first brings a temporary key, unless
the server has no policy; the second acknowledges it and brings the final key, which is the
only one stored. An order to wipe empties the mailbox and denies access.
-/
namespace MailSync.DevicePolicy

def exchange (settings : ProtocolSettings) (account : Account) (root : Wbxml.Element) :
    Program (Except Failure Response) := do
  let command := "Provision"
  let reply ← Exchange.post account (Exchange.request command root settings.commandTimeout)
  pure do
    let root ← Exchange.required command (← reply)
    Exchange.ofDocument (Response.ofDocument root)

def requestPolicy (settings : ProtocolSettings) (account : Account) :
    Program (Except Failure Response) :=
  exchange settings account request

def acknowledge (settings : ProtocolSettings) (account : Account) (temporaryKey : String) :
    Program (Except Failure Response) :=
  exchange settings account (acknowledgement temporaryKey statusOk)

/-- Obeys an order to wipe, and fails unless the status is a success. -/
def obey (r : Response) : Operation Unit := do
  if r.remoteWipe then
    Operation.ask .wipe
    throw .accessDenied
  else if r.status ≠ statusOk then throw (.server r.status)

/-- One leg of the handshake: an accepted response. -/
def leg (p : Program (Except Failure Response)) : Operation Response := do
  match ← Operation.ofProgram p with
  | .error f => throw (f.toError "provisioning")
  | .ok r =>
    obey r
    pure r

def requireKey (what : String) : Option String → Operation String
  | some key => pure key
  | none => throw (.malformedResponse s!"Provision {what} without PolicyKey")

end DevicePolicy

open DevicePolicy in
/-- Runs the handshake and stores the final key, or removes it where there is no policy. -/
def Session.provision (s : Session) : Operation Unit := do
  if s.mayProvision then
    let account := { s.account with policyKey := none }
    let offer ← leg (requestPolicy s.settings account)
    if offer.policyStatus = some statusNoPolicy then Mailbox.setPolicyKey none
    else
      let temporaryKey ← requireKey "response" offer.key
      let final ← leg (acknowledge s.settings account temporaryKey)
      let key ← requireKey "acknowledgement" final.key
      Mailbox.setPolicyKey (some key)
  else throw .provisioningRequired

/-- Runs an exchange that has no key, and once more after the handshake if the server demands
it. Failures of the handshake are the operation's; the last exchange's own is its result. -/
def Session.exchange {α : Type} (s : Session) (op : Account → Program (Except Failure α)) :
    Operation (Except Failure α) := do
  let result ← Operation.ofProgram (op (← s.snapshot))
  match result with
  | .ok _ => pure result
  | .error f =>
    if f.verdict = .provisioningRequired ∧ s.mayProvision then
      s.provision
      Operation.ofProgram (op (← s.snapshot))
    else pure result

end MailSync
