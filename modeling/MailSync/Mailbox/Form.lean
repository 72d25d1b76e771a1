import MailSync.Calendar.Rfc3339
import MailSync.Json.Form
import MailSync.Mailbox.Tables

/-!
# The JSON form of a mailbox

Messages and folders by themselves, and a whole mailbox in tables as it is kept in a file.
-/
namespace MailSync
open Json (Encode Decode encode decode? field fieldIfSome fieldIfAny)

namespace Flag

def name : Flag → String
  | seen => "seen"
  | flagged => "flagged"
  | answered => "answered"
  | forwarded => "forwarded"
  | deleted => "deleted"

def all : List Flag := [seen, flagged, answered, forwarded, deleted]

def ofName? (s : String) : Option Flag := all.find? (·.name = s)

end Flag

instance : Encode Flag := ⟨fun f => .string f.name⟩
instance : Decode Flag := ⟨fun j => (decode? j).bind Flag.ofName?⟩
instance : Encode FolderRole := ⟨fun r => .string r.name⟩
instance : Decode FolderRole := ⟨fun j => (decode? j).bind FolderRole.ofName?⟩
instance : Encode DownloadState := ⟨fun s => .string s.name⟩
instance : Decode DownloadState := ⟨fun j => (decode? j).bind DownloadState.ofName?⟩
instance : Encode Instant := ⟨fun i => .string (Rfc3339.write i)⟩
instance : Decode Instant := ⟨fun j => (decode? j).bind fun s : String => Rfc3339.read? s.toList⟩
instance : Encode Address := ⟨fun a => .object [field "name" a.name, field "email" a.email]⟩
instance : Decode Address := ⟨fun j => return ⟨← j.optional? "name", ← j.get? "email"⟩⟩

/-- The flags that are set. -/
instance : Encode Flags := ⟨fun fs => encode (Flag.all.filter fs.has)⟩
instance : Decode Flags :=
  ⟨fun j => (decode? j).map fun flags : List Flag => flags.foldl (fun fs f => fs.set true f) .none⟩

def Message.fields (m : Message) : List (String × Json) :=
  [field "id" m.id] ++ fieldIfSome "subject" m.subject ++ fieldIfAny "from" m.sender ++
    fieldIfAny "to" m.recipients ++ fieldIfAny "cc" m.cc ++ fieldIfAny "reply_to" m.replyTo ++
    fieldIfSome "date" m.received ++ fieldIfSome "message_class" m.messageClass ++
    fieldIfSome "thread_topic" m.threadTopic ++ [field "flags" m.flags] ++
    fieldIfSome "mime" m.mime ++ [field "truncated" m.truncated]

instance : Encode Message := ⟨fun m => .object m.fields⟩
instance : Decode Message :=
  ⟨fun j => return ⟨← j.get? "id", ← j.optional? "subject", ← j.getD? "from" [],
    ← j.getD? "to" [], ← j.getD? "cc" [], ← j.getD? "reply_to" [], ← j.optional? "date",
    ← j.optional? "message_class", ← j.optional? "thread_topic", ← j.getD? "flags" .none,
    ← j.optional? "mime", ← j.getD? "truncated" false⟩⟩

instance : Encode StoredMessage :=
  ⟨fun m => .object (m.message.fields ++ [field "state" m.state])⟩
instance : Decode StoredMessage :=
  ⟨fun j => do
    let message ← decode? j
    return ⟨message, ← j.getD? "state" message.downloadState⟩⟩

def FolderRecord.fields (f : FolderRecord) : List (String × Json) :=
  [field "id" f.id, field "name" f.name, field "role" f.role, field "parent" f.parent]

instance : Encode FolderRecord := ⟨fun f => .object f.fields⟩
instance : Decode FolderRecord :=
  ⟨fun j => return ⟨← j.get? "id", ← j.get? "name", ← j.get? "role", ← j.optional? "parent"⟩⟩

namespace Mailbox

instance : Encode ExtraRow := ⟨fun r => .object [field "key" r.key, field "value" r.value]⟩
instance : Decode ExtraRow := ⟨fun j => return ⟨← j.get? "key", ← j.get? "value"⟩⟩

instance : Encode FolderRow :=
  ⟨fun r => .object [field "id" r.id, field "name" r.name, field "role" r.role,
    field "parent" r.parent]⟩
instance : Decode FolderRow :=
  ⟨fun j => return ⟨← j.get? "id", ← j.get? "name", ← j.get? "role", ← j.optional? "parent"⟩⟩

instance : Encode FolderExtraRow :=
  ⟨fun r => .object [field "folder" r.folder, field "key" r.key, field "value" r.value]⟩
instance : Decode FolderExtraRow :=
  ⟨fun j => return ⟨← j.get? "folder", ← j.get? "key", ← j.get? "value"⟩⟩

instance : Encode MessageRow :=
  ⟨fun r => .object [field "folder" r.folder, field "id" r.id, field "subject" r.subject,
    field "from" r.sender, field "to" r.recipients, field "cc" r.cc, field "reply_to" r.replyTo,
    field "date" r.received, field "message_class" r.messageClass,
    field "thread_topic" r.threadTopic, field "flags" r.flags, field "mime" r.mime,
    field "truncated" r.truncated, field "state" r.state]⟩
instance : Decode MessageRow :=
  ⟨fun j => return ⟨← j.get? "folder", ← j.get? "id", ← j.optional? "subject",
    ← j.get? "from", ← j.get? "to", ← j.get? "cc", ← j.get? "reply_to", ← j.optional? "date",
    ← j.optional? "message_class", ← j.optional? "thread_topic", ← j.get? "flags",
    ← j.optional? "mime", ← j.get? "truncated", ← j.get? "state"⟩⟩

instance : Encode Tables :=
  ⟨fun t => .object [field "extras" t.extras, field "folders" t.folders,
    field "folder_extras" t.folderExtras, field "messages" t.messages]⟩
instance : Decode Tables :=
  ⟨fun j => return ⟨← j.get? "extras", ← j.get? "folders", ← j.get? "folder_extras",
    ← j.get? "messages"⟩⟩

end Mailbox
end MailSync
