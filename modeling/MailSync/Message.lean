import MailSync.Address
import MailSync.Calendar.Instant
import MailSync.Text.Utf8

/-!
# Messages

A message as the server delivers it, with the flags that are kept for it. Whether its body
was cut short decides its download state.
-/
namespace MailSync

/-- Deletion is asked for like a flag but never kept as one. -/
inductive Flag where
  | seen | flagged | answered | forwarded | deleted
deriving Repr, DecidableEq

structure Flags where
  seen : Bool
  flagged : Bool
  answered : Bool
  forwarded : Bool
deriving Repr, DecidableEq, Inhabited

namespace Flags

def none : Flags := ⟨false, false, false, false⟩

def has (fs : Flags) : Flag → Bool
  | .seen => fs.seen
  | .flagged => fs.flagged
  | .answered => fs.answered
  | .forwarded => fs.forwarded
  | .deleted => false

def set (fs : Flags) (state : Bool) : Flag → Flags
  | .seen => { fs with seen := state }
  | .flagged => { fs with flagged := state }
  | .answered => { fs with answered := state }
  | .forwarded => { fs with forwarded := state }
  | .deleted => fs

/-- Whether a flag can be kept. -/
def keeps (flag : Flag) : Bool := flag ≠ .deleted

theorem has_set (fs : Flags) (state : Bool) (f g : Flag) :
    (fs.set state f).has g = if f = g ∧ keeps f then state else fs.has g := by
  cases f <;> cases g <;> simp [set, has, keeps]

theorem ext_has {a b : Flags} (h : ∀ f, a.has f = b.has f) : a = b := by
  have h1 := h .seen
  have h2 := h .flagged
  have h3 := h .answered
  have h4 := h .forwarded
  cases a
  cases b
  simp_all [has]

end Flags

inductive DownloadState where
  /-- The server cut the body short. -/
  | truncated
  | complete
deriving Repr, DecidableEq

namespace DownloadState

def name : DownloadState → String
  | truncated => "partial"
  | complete => "complete"

def ofName? (s : String) : Option DownloadState :=
  [truncated, complete].find? (·.name = s)

theorem ofName?_name (s : DownloadState) : ofName? s.name = some s := by
  cases s <;> decide

end DownloadState

structure Message where
  id : String
  subject : Option String
  sender : List Address
  recipients : List Address
  cc : List Address
  replyTo : List Address
  received : Option Instant
  messageClass : Option String
  threadTopic : Option String
  flags : Flags
  /-- The whole message as sent over the internet, or the part of it that was delivered. -/
  mime : Option Bytes
  truncated : Bool
deriving Repr, DecidableEq

namespace Message

def blank (id : String) : Message :=
  ⟨id, none, [], [], [], [], none, none, none, .none, none, false⟩

def downloadState (m : Message) : DownloadState := if m.truncated then .truncated else .complete

end Message

structure StoredMessage where
  message : Message
  state : DownloadState
deriving Repr, DecidableEq

end MailSync
