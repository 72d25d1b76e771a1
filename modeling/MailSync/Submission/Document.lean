import MailSync.CodePage
import MailSync.DocumentError

/-!
# Documents about outgoing mail

The request carries the message as bytes. Servers answer success with no document at all.
-/
namespace MailSync.Submission
open Wbxml (Element)
open CodePage

def request (clientId : String) (mime : Bytes) (saveInSent : Bool) : Element :=
  .node Compose.sendMail (.text Compose.clientId clientId ::
    ((if saveInSent then [.empty Compose.saveInSentItems] else []) ++
      [.bytes Compose.mime mime]))

/-- The status of a response, if it has one. -/
def status? : Option Element → Except DocumentError (Option UInt32)
  | none => .ok none
  | some root => do
    root.expectRoot Compose.sendMail "SendMail"
    .ok (root.childNumber? Compose.status)

end MailSync.Submission
