/-!
# Sync keys

The server hands out a key with every round and takes it back in the next one. The key "0"
asks for a fresh start; a key that is absent or empty means the same.
-/
namespace MailSync.SyncKey

def initial : String := "0"

def isInitial : Option String → Bool
  | none => true
  | some key => key = "" || key = initial

/-- The key to send for a stored one. -/
def sent (stored : Option String) : String :=
  if isInitial stored then initial else stored.getD initial

theorem sent_of_isInitial {stored : Option String} (h : isInitial stored = true) :
    sent stored = initial := by
  simp [sent, h]

theorem sent_some {key : String} (h : isInitial (some key) = false) : sent (some key) = key := by
  simp [sent, h]

end MailSync.SyncKey
