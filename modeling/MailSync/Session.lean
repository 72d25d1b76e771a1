import MailSync.Exchange
import MailSync.Mailbox.Marks

/-!
# Sessions

What every operation on one account goes by. The account is kept without a policy key; the
snapshot that goes with a request carries the key stored at that moment.
-/
namespace MailSync

structure Session where
  account : Account
  settings : ProtocolSettings
  /-- The largest window that the device's owner permits. -/
  maxWindow : Window
  /-- Whether the policy handshake may run when the server demands it. -/
  mayProvision : Bool
deriving Repr, DecidableEq

namespace Session

def maxRounds (s : Session) : Nat := s.settings.maxRounds.toNat

/-- The account with the policy key now in force. -/
def snapshot (s : Session) : Operation Account := do
  let key ← Mailbox.policyKey
  pure { s.account with policyKey := key }

end Session

/-- Fails unless the mailbox has a folder. -/
def requireFolder (id : String) : Operation Unit := do
  match ← Operation.ask (.folder id) with
  | some _ => pure ()
  | none => throw (.folderNotFound id)

end MailSync
