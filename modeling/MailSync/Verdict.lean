import MailSync.Error

/-!
# Verdicts

What one exchange came to, judged by its HTTP status or by the status code in its document.
Some codes mean the same for every command; the rest are the commands' own.
-/
namespace MailSync

inductive Verdict where
  | ok
  /-- Accepted, and the server holds more. -/
  | moreAvailable
  /-- The server refused the sync key. -/
  | keyInvalid
  | forbidden
  | authenticationFailed
  | network (fault : NetworkFault)
  | malformed
  /-- The folder hierarchy changed underneath. -/
  | hierarchyChanged
  | provisioningRequired
  | serverError (code : UInt32)
deriving Repr, DecidableEq

namespace Verdict

def isOk : Verdict → Bool
  | ok | moreAvailable => true
  | _ => false

def title : Verdict → String
  | ok => "Ok"
  | moreAvailable => "OkMoreAvailable"
  | keyInvalid => "KeyInvalid"
  | forbidden => "Forbidden"
  | authenticationFailed => "AuthenticationFailed"
  | network fault => s!"NetworkError({fault.title})"
  | malformed => "MalformedResponse"
  | hierarchyChanged => "FolderSyncRequired"
  | provisioningRequired => "ProvisioningRequired"
  | serverError code => s!"ServerError({code.toNat})"

/-- None for the one HTTP status that lets the body decide. -/
def ofHttp? (status : UInt16) : Option Verdict :=
  if status = 200 then none
  else if status = 401 then some authenticationFailed
  else if status = 403 then some forbidden
  else if status = 449 then some provisioningRequired
  else if 502 ≤ status ∧ status ≤ 504 then some (network .serverUnavailable)
  else some (serverError status.toUInt32)

/-- The codes that mean the same for every command. -/
def ofGlobal? (code : UInt32) : Option Verdict :=
  if code = 110 ∨ code = 111 then some (network .serverUnavailable)
  else if (126 ≤ code ∧ code ≤ 131) ∨ code = 177 then some forbidden
  else if code = 140 ∨ (142 ≤ code ∧ code ≤ 144) then some provisioningRequired
  else none

def ofCommand (code : UInt32) : Verdict := (ofGlobal? code).getD (serverError code)

/-- The error that a verdict surfaces as. The subject names what was being synced. -/
def error? (v : Verdict) (subject : String) : Option SyncError :=
  match v with
  | ok | moreAvailable => none
  | keyInvalid => some (.keyInvalidated subject)
  | forbidden => some .accessDenied
  | authenticationFailed => some .authenticationFailed
  | network fault => some (.network fault s!"while syncing {subject}")
  | malformed => some (.malformedResponse subject)
  | hierarchyChanged => some (.folderNotFound subject)
  | provisioningRequired => some .provisioningRequired
  | serverError code => some (.server code)

/-- As `error?`, with a detail in place of the subject where the error has room for one. -/
def errorWith? (v : Verdict) (detail : Option String) (subject : String) : Option SyncError :=
  (v.error? subject).map fun e =>
    match e, detail with
    | .network fault _, some d => .network fault d
    | .malformedResponse _, some d => .malformedResponse d
    | e, _ => e

theorem error?_eq_none_iff {v : Verdict} {subject : String} :
    v.error? subject = none ↔ v.isOk = true := by
  cases v <;> simp [error?, isOk]

end Verdict
end MailSync
