import MailSync.World

/-!
# Scripted surroundings

Surroundings that are fixed beforehand: replies in the order of the requests, and what else
happens while a request is in flight. A request beyond the last reply does not get through.
The user never cancels unless the script does it, and every fresh id is the same.
-/
namespace MailSync

structure Script (σ : Type) where
  replies : List (Except TransportError Reply)
  /-- What happens while a request is in flight, by its number, which counts from one. -/
  meanwhile : List (Nat × (World σ → World σ))
  id : String

namespace Script

variable {σ : Type}

def silent (command : String) : TransportError :=
  ⟨.connectionFailed, s!"no scripted reply for {command}"⟩

def surroundings (s : Script σ) : Surroundings σ where
  reply w _ request := s.replies[w.requests.length - 1]?.getD (.error (silent request.command))
  inFlight w :=
    (s.meanwhile.filter (·.1 = w.requests.length)).foldl (fun w entry => entry.2 w) w
  cancels _ := false
  newId _ := s.id

/-- The replies that are left after the requests of a world. -/
def left (s : Script σ) (w : World σ) : List (Except TransportError Reply) :=
  s.replies.drop w.requests.length

end Script
end MailSync
