import MailSync.CodePage
import MailSync.Calendar.Rfc3339
import MailSync.Collection.Delta

/-!
# The data of a message

How the application data of an Add, a Change or a fetched item states a message or its
flags. Nothing in it can make a response unreadable: what does not read is left out.
-/
namespace MailSync.Collection
open Wbxml (Tag Element)
open CodePage

def statusOk : UInt32 := 1

/-- The date of reception: an instant, or a date alone for its first moment. -/
def receivedOf? (text : String) : Option Instant :=
  let cs := Text.trim text.toList
  match Rfc3339.read? cs with
  | some i => some i
  | none => (Rfc3339.readDate? cs).map .midnight

/-- The last verb that the user executed on a message: answered (1 to the sender, 2 to all)
or forwarded (3). -/
def verbFlag? : Option UInt32 → Option (Flag × Bool)
  | some v =>
    if v = 1 ∨ v = 2 then some (.answered, true)
    else if v = 3 then some (.forwarded, true)
    else none
  | none => none

/-- The flags that the data states. One that it does not mention keeps its state. -/
def flagsStated (data : Element) : List (Flag × Bool) :=
  ((data.childNumber? Email.read).map fun n => (Flag.seen, decide (n = 1))).toList ++
  ((data.find? Email.flag).map fun e =>
    (Flag.flagged, decide (e.childNumber? Email.flagStatus = some 2))).toList ++
  (verbFlag? (data.childNumber? Email.lastVerbExecuted)).toList

def addresses (data : Element) (tag : Tag) : List Address :=
  match data.childText? tag with
  | some s => Address.parseList s.toList
  | none => []

/-- The body and whether it was cut short. Protocol 2.5 has the body among the mail
properties. -/
def bodyOf (data : Element) : Option Bytes × Bool :=
  match data.find? Body.body with
  | some body =>
    ((body.find? Body.data).bind Element.bytes?, body.childNumber? Body.truncated = some 1)
  | none =>
    match data.find? Email.mimeData with
    | some mime => (mime.bytes?, data.childNumber? Email.mimeTruncated = some 1)
    | none => (none, false)

def messageOf (id : String) (data : Element) : Message where
  id := id
  subject := data.childText? Email.subject
  sender := addresses data Email.sender
  recipients := addresses data Email.recipients
  cc := addresses data Email.cc
  replyTo := addresses data Email.replyTo
  received := (data.childText? Email.dateReceived).bind receivedOf?
  messageClass := data.childText? Email.messageClass
  threadTopic := data.childText? Email.threadTopic
  flags := (flagsStated data).foldl (fun fs (flag, state) => fs.set state flag) Flags.none
  mime := (bodyOf data).1
  truncated := (bodyOf data).2

def bit (b : Bool) : String := if b then "1" else "0"

/-- The element that sets or clears a flag; none for flags that cannot be sent. An empty
flag element clears. -/
def flagElement? (flag : Flag) (state : Bool) : Option Element :=
  match flag with
  | .seen => some (.text Email.read (bit state))
  | .flagged =>
    if state then
      some (.node Email.flag [.text Email.flagStatus "2", .text Email.flagType "for Follow Up"])
    else some (.empty Email.flag)
  | .answered | .forwarded | .deleted => none

def flagData (flag : Flag) (state : Bool) : Element :=
  .node AirSync.applicationData (flagElement? flag state).toList

def addressElement (tag : Tag) (as : List Address) : List Element :=
  if as.isEmpty then [] else [.text tag (Address.joinList as)]

/-- The data of a message as a scripted server states it. -/
def messageData (m : Message) : Element :=
  .node AirSync.applicationData
    ((m.subject.map (.text Email.subject)).toList ++
      addressElement Email.sender m.sender ++ addressElement Email.recipients m.recipients ++
      addressElement Email.cc m.cc ++ addressElement Email.replyTo m.replyTo ++
      (m.received.map fun i => .text Email.dateReceived (Rfc3339.writeMillis i)).toList ++
      (m.messageClass.map (.text Email.messageClass)).toList ++
      [.text Email.read (bit m.flags.seen)] ++
      (if m.flags.flagged then [.node Email.flag [.text Email.flagStatus "2"]] else []) ++
      (m.mime.map fun mime => .node Body.body [.text Body.type "4",
        .text Body.truncated (bit m.truncated), .bytes Body.data mime]).toList)

end MailSync.Collection
