import MailSync.Network
import MailSync.Text.Quoted

/-!
# Errors

Why a stored value cannot be read or written, and why an operation fails. The message of a
storage error is the outermost text only.
-/
namespace MailSync

inductive StorageError where
  | unknownFolder (folder : String)
  | unreadableRole (role folder : String)
  | unreadableDate (text : String)
  | unreadableState (text : String)
  | windowNotStored (folder : String) (cause : StorageError)
  /-- The storage medium failed with a text of its own. -/
  | medium (text : String)
deriving Repr, DecidableEq

def StorageError.message : StorageError → String
  | unknownFolder folder => s!"Unknown folder {folder}"
  | unreadableRole role folder => s!"Invalid role {Text.quote role} for folder {folder}"
  | unreadableDate text => s!"Invalid date_received {Text.quote text}"
  | unreadableState text => s!"Invalid download_state {Text.quote text}"
  | windowNotStored folder _ => s!"Failed to store sync window for folder {folder}"
  | medium text => text

inductive SyncError where
  | accessDenied
  | authenticationFailed
  | network (fault : NetworkFault) (detail : String)
  | unknownHost (host : String)
  /-- The server refused a key again after the one restart. -/
  | keyInvalidated (subject : String)
  | malformedResponse (detail : String)
  | unsupported (operation : String)
  | invalidArgument (detail : String)
  | provisioningRequired
  | folderNotFound (folder : String)
  | syncInProgress (lock : String)
  | cancelled
  | server (status : UInt32)
  | storage (cause : StorageError)
deriving Repr, DecidableEq

namespace SyncError

def message : SyncError → String
  | accessDenied => "access denied by server"
  | authenticationFailed => "authentication failed"
  | network fault detail => s!"network error ({fault.text}): {detail}"
  | unknownHost host => s!"unknown host: {host}"
  | keyInvalidated subject => s!"sync key rejected after full resync of {subject}"
  | malformedResponse detail => s!"malformed server response: {detail}"
  | unsupported operation => s!"operation not supported by ActiveSync backend: {operation}"
  | invalidArgument detail => s!"invalid argument: {detail}"
  | provisioningRequired => "device provisioning required"
  | folderNotFound folder => s!"folder not found: {folder}"
  | syncInProgress lock => s!"sync already in progress for {lock}"
  | cancelled => "sync cancelled"
  | server status => s!"server error: status {status.toNat}"
  | storage cause => cause.message

/-- The name of the kind of an error. -/
def title : SyncError → String
  | accessDenied => "AccessDenied"
  | authenticationFailed => "AuthenticationFailed"
  | network .. => "Network"
  | unknownHost _ => "UnknownHost"
  | keyInvalidated _ => "KeyInvalidated"
  | malformedResponse _ => "MalformedResponse"
  | unsupported _ => "Unsupported"
  | invalidArgument _ => "InvalidArgument"
  | provisioningRequired => "ProvisioningRequired"
  | folderNotFound _ => "FolderNotFound"
  | syncInProgress _ => "SyncInProgress"
  | cancelled => "Cancelled"
  | server _ => "Server"
  | storage _ => "Storage"

/-- Only failures of the network may pass by themselves. -/
def isRetryable : SyncError → Bool
  | network .. => true
  | _ => false

/-- Failures that only the user can mend. -/
def isAuthentication : SyncError → Bool
  | accessDenied | authenticationFailed => true
  | _ => false

end SyncError
end MailSync
