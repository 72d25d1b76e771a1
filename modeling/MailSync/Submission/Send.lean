import MailSync.DevicePolicy.Handshake
import MailSync.Submission.Document

/-!
# Sending mail

Servers from version 14.0 on take mail inside a document, older ones as the body of the
request.
-/
namespace MailSync.Submission

def command : String := "SendMail"

/-- The request of an older server. -/
def bareRequest (settings : ProtocolSettings) (mime : Bytes) (saveInSent : Bool) : Request :=
  ⟨command, if saveInSent then [("SaveInSent", "T")] else [], mailContent, mime,
    settings.commandTimeout⟩

/-- What the document of a reply says about the mail. -/
def accepted (root : Option Wbxml.Element) : Except Failure Unit := do
  match ← Exchange.ofDocument (status? root) with
  | none => .ok ()
  | some code =>
    if code = 1 then .ok () else .error ⟨.ofCommand code, s!"SendMail status {code.toNat}"⟩

def exchange (settings : ProtocolSettings) (mime : Bytes) (saveInSent : Bool)
    (account : Account) : Program (Except Failure Unit) :=
  if account.takesMailDocuments then do
    let clientId ← Program.effect .freshId
    let root := request clientId mime saveInSent
    let reply ← Exchange.post account (Exchange.request command root settings.commandTimeout)
    pure do accepted (← reply)
  else do
    let reply ← Exchange.post account (bareRequest settings mime saveInSent)
    pure (discard reply)

/-- Submits mail and has the server keep a copy. -/
def send (s : Session) (mime : Bytes) : Operation Unit := do
  match ← s.exchange (exchange s.settings mime true) with
  | .ok () => pure ()
  | .error f => throw (f.toError command)

end MailSync.Submission
