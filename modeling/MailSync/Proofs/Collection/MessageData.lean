import MailSync.Collection.MessageData
import MailSync.Proofs.Address
import MailSync.Proofs.Calendar.Rfc3339
import MailSync.Proofs.Wbxml.Parts

/-!
# Messages as data, read back

The data that a scripted server states for a message says nothing of its topic and of answers to it,
and an absent body is not cut short. All else comes back as it was, if no text has a NUL character,
the addresses are in canonical form and the date is one of whole milliseconds.
-/
namespace MailSync
open Text (NoNul noNul_append)

/-! ### What can be sent -/

/-- Read back from a list of addresses that crossed the wire. -/
def Address.Sendable (a : Address) : Prop :=
  a.Canonical ∧ (∀ name ∈ a.name, NoNul name) ∧ NoNul a.email

instance (a : Address) : Decidable a.Sendable := inferInstanceAs (Decidable (_ ∧ _))

/-- An instant of whole milliseconds, in a year of four digits. -/
def Instant.Sendable (i : Instant) : Prop :=
  i.IsValid ∧ (0 ≤ i.date.year ∧ i.date.year ≤ 9999) ∧ i.nano % 1000000 = 0

instance (i : Instant) : Decidable i.Sendable := inferInstanceAs (Decidable (_ ∧ _))

/-- A message whose parts all come back from the wire as they were. -/
structure Message.Sendable (m : Message) : Prop where
  id : NoNul m.id
  subject : ∀ s ∈ m.subject, NoNul s
  addresses : ∀ as ∈ [m.sender, m.recipients, m.cc, m.replyTo], ∀ a ∈ as, a.Sendable
  received : ∀ i ∈ m.received, i.Sendable
  messageClass : ∀ s ∈ m.messageClass, NoNul s
  mime : ∀ bs ∈ m.mime, bs.length < 2 ^ 32

instance (m : Message) : Decidable m.Sendable :=
  decidable_of_iff (NoNul m.id ∧ (∀ s ∈ m.subject, NoNul s) ∧
      (∀ as ∈ [m.sender, m.recipients, m.cc, m.replyTo], ∀ a ∈ as, a.Sendable) ∧
      (∀ i ∈ m.received, i.Sendable) ∧ (∀ s ∈ m.messageClass, NoNul s) ∧
      ∀ bs ∈ m.mime, bs.length < 2 ^ 32)
    ⟨fun ⟨hid, hsubject, haddresses, hreceived, hclass, hmime⟩ =>
      ⟨hid, hsubject, haddresses, hreceived, hclass, hmime⟩,
      fun h => ⟨h.id, h.subject, h.addresses, h.received, h.messageClass, h.mime⟩⟩

/-- What the data of a message says of it. There is no place for the topic and for the flags that
record an answer, and only a body can be cut short. -/
def Message.image (m : Message) : Message :=
  { m with
    threadTopic := none
    flags := ⟨m.flags.seen, m.flags.flagged, false, false⟩
    truncated := m.truncated && m.mime.isSome }

theorem Instant.Sendable.noNul_writeMillis {i : Instant} (h : i.Sendable) :
    NoNul (Rfc3339.writeMillis i) := by
  intro hnul
  rcases Rfc3339.mem_writeMillis h.2.1 hnul with hdigit | hmark
  · exact absurd hdigit (by decide)
  · exact absurd hmark (by decide)

theorem Address.Sendable.noNul_quoted {a : Address} (h : a.Sendable) : NoNul a.quoted := by
  obtain ⟨-, hname, hemail⟩ := h
  obtain ⟨_ | name, email⟩ := a
  · exact hemail
  · rw [Address.quoted_some]
    simp only [noNul_append]
    exact ⟨⟨⟨⟨by decide, hname name rfl⟩, by decide⟩, hemail⟩, by decide⟩

theorem Address.noNul_joinList {as : List Address} (h : ∀ a ∈ as, a.Sendable) :
    NoNul (Address.joinList as) := by
  induction as with
  | nil => decide
  | cons a as ih =>
    have ha : NoNul a.quoted := (h a List.mem_cons_self).noNul_quoted
    cases as with
    | nil => rwa [Address.joinList_singleton]
    | cons b bs =>
      rw [Address.joinList_cons_cons, noNul_append, noNul_append]
      exact ⟨⟨ha, by decide⟩, ih fun c hc => h c (List.mem_cons_of_mem a hc)⟩

namespace Collection
open Wbxml (Tag Element Part)
open Wbxml.Element (find? childText? childNumber?)
open CodePage

/-! ### The data of a message -/

/-- The text for a list of addresses; none for an empty one. -/
def written? (as : List Address) : Option String :=
  if as.isEmpty then none else some (Address.joinList as)

def bodyElement (m : Message) (mime : Bytes) : Element :=
  .node Body.body [.text Body.type "4", .text Body.truncated (bit m.truncated),
    .bytes Body.data mime]

/-- The parts that the data of a message can have. -/
def messageParts (m : Message) : List Part :=
  [.text Email.subject m.subject, .text Email.sender (written? m.sender),
    .text Email.recipients (written? m.recipients), .text Email.cc (written? m.cc),
    .text Email.replyTo (written? m.replyTo),
    .text Email.dateReceived (m.received.map Rfc3339.writeMillis),
    .text Email.messageClass m.messageClass, .text Email.read (some (bit m.flags.seen)),
    ⟨Email.flag, if m.flags.flagged then some (.node Email.flag [.text Email.flagStatus "2"])
      else none⟩,
    ⟨Body.body, m.mime.map (bodyElement m)⟩]

theorem addressElement_eq (tag : Tag) (as : List Address) :
    addressElement tag as = ((written? as).map (.text tag)).toList := by
  unfold addressElement written?
  split_ifs <;> rfl

theorem messageData_eq (m : Message) :
    messageData m = .node AirSync.applicationData (Part.children (messageParts m)) := by
  simp only [messageData, addressElement_eq, messageParts, Part.children_cons, Part.children_nil,
    Part.text, apply_ite Option.toList, List.append_assoc, List.append_nil, Option.map_map]
  rfl

theorem proper_messageParts (m : Message) : Part.Proper (messageParts m) := by
  refine ⟨?_, (by decide : List.Nodup [Email.subject, Email.sender, Email.recipients, Email.cc,
    Email.replyTo, Email.dateReceived, Email.messageClass, Email.read, Email.flag, Body.body])⟩
  have htext := Part.tag_of_mem_text
  simp only [messageParts, List.forall_mem_cons]
  refine ⟨htext _ _, htext _ _, htext _ _, htext _ _, htext _ _, htext _ _, htext _ _, htext _ _,
    ?_, ?_, nofun⟩
  · split_ifs <;> rintro _ ⟨⟩
    rfl
  · exact Option.forall_mem_map.mpr fun _ _ => rfl

/-- What is found in the data of a message is the part under the tag. -/
theorem find?_messageData (m : Message) (tag : Tag) :
    (messageData m).find? tag = Part.under? (messageParts m) tag := by
  rw [messageData_eq, (proper_messageParts m).find?_node]

theorem addresses_messageData {m : Message} {tag : Tag} {as : List Address}
    (h : (messageData m).find? tag = (written? as).map (.text tag)) (has : ∀ a ∈ as, a.Canonical) :
    addresses (messageData m) tag = as := by
  rw [addresses, Element.childText?_of_find? h, written?]
  cases as with
  | nil => rfl
  | cons a as => exact Address.parseList_joinList has

/-- A date of whole milliseconds is read back: no blanks stand around it. -/
theorem receivedOf?_writeMillis {i : Instant} (h : i.Sendable) :
    receivedOf? (Rfc3339.writeMillis i) = some i := by
  have htrim : Text.trim (Rfc3339.writeMillis i).toList = (Rfc3339.writeMillis i).toList := by
    refine Text.stripEnds_of_forall fun c hc => ?_
    rcases Rfc3339.mem_writeMillis h.2.1 hc with hdigit | hmark
    · exact Text.isBlank_of_isDigit hdigit
    · simp only [List.mem_cons, List.not_mem_nil, or_false] at hmark
      rcases hmark with rfl | rfl | rfl | rfl | rfl <;> rfl
  simp only [receivedOf?, htrim, Rfc3339.read?_writeMillis h.1 h.2.1 h.2.2]

theorem text_bit (tag : Tag) (b : Bool) :
    Element.text tag (bit b) = .number tag (if b then 1 else 0) := by
  cases b <;> rfl

theorem bodyOf_messageData (m : Message) :
    bodyOf (messageData m) = (m.mime, m.truncated && m.mime.isSome) := by
  have hbody : (messageData m).find? Body.body = m.mime.map (bodyElement m) := find?_messageData m _
  have hmime : (messageData m).find? Email.mimeData = none := find?_messageData m _
  rw [bodyOf, hbody, hmime]
  cases m.mime with
  | none => rw [Option.isSome_none, Bool.and_false]; rfl
  | some mime =>
    have hbytes : (bodyElement m mime).find? Body.data = some (.bytes Body.data mime) := rfl
    have htruncated : (bodyElement m mime).childNumber? Body.truncated =
        some (if m.truncated then 1 else 0) :=
      Element.childNumber?_of_find? (congrArg some (text_bit _ _))
    simp only [Option.map_some, hbytes, htruncated]
    cases m.truncated <;> rfl

theorem flagsStated_messageData (m : Message) :
    flagsStated (messageData m) =
      (.seen, m.flags.seen) :: (if m.flags.flagged then [(.flagged, true)] else []) := by
  have hread : (messageData m).childNumber? Email.read = some (if m.flags.seen then 1 else 0) :=
    Element.childNumber?_of_find? ((find?_messageData m _).trans (congrArg some (text_bit _ _)))
  have hflag : (messageData m).find? Email.flag =
      if m.flags.flagged then some (.node Email.flag [.text Email.flagStatus "2"]) else none :=
    find?_messageData m _
  have hverb : (messageData m).childNumber? Email.lastVerbExecuted = none := by
    rw [childNumber?, childText?, find?_messageData]
    rfl
  have hstatus : (Element.node Email.flag [.text Email.flagStatus "2"]).childNumber?
      Email.flagStatus = some 2 := Element.childNumber?_of_find? rfl
  rw [flagsStated, hread, hflag, hverb]
  cases m.flags.flagged
  · cases m.flags.seen <;> rfl
  · simp only [if_true, Option.map_some, hstatus]
    cases m.flags.seen <;> rfl

/-- A message is read back from its data as what these say of it. -/
theorem messageOf_messageData {m : Message} (h : m.Sendable) :
    messageOf m.id (messageData m) = m.image := by
  have hfind (tag : Tag) := find?_messageData m tag
  have hsender : addresses (messageData m) Email.sender = m.sender :=
    addresses_messageData (hfind _) fun a ha => (h.addresses _ (by simp) a ha).1
  have hrecipients : addresses (messageData m) Email.recipients = m.recipients :=
    addresses_messageData (hfind _) fun a ha => (h.addresses _ (by simp) a ha).1
  have hcc : addresses (messageData m) Email.cc = m.cc :=
    addresses_messageData (hfind _) fun a ha => (h.addresses _ (by simp) a ha).1
  have hreplyTo : addresses (messageData m) Email.replyTo = m.replyTo :=
    addresses_messageData (hfind _) fun a ha => (h.addresses _ (by simp) a ha).1
  have hsubject : (messageData m).childText? Email.subject = m.subject :=
    Element.childText?_of_find? (hfind _)
  have hclass : (messageData m).childText? Email.messageClass = m.messageClass :=
    Element.childText?_of_find? (hfind _)
  have htopic : (messageData m).childText? Email.threadTopic = none := by
    rw [childText?, hfind]
    rfl
  have hdate : (messageData m).childText? Email.dateReceived =
      m.received.map Rfc3339.writeMillis := Element.childText?_of_find? (hfind _)
  have hreceived :
      ((messageData m).childText? Email.dateReceived).bind receivedOf? = m.received := by
    rw [hdate]
    cases hm : m.received with
    | none => rfl
    | some i => rw [Option.map_some, Option.bind_some, receivedOf?_writeMillis (h.received i hm)]
  -- The flags are set one after the other, so they are what was stated of each.
  rw [messageOf, hsubject, hsender, hrecipients, hcc, hreplyTo, hclass, htopic, hreceived,
    bodyOf_messageData, flagsStated_messageData, Message.image]
  cases m.flags.seen <;> cases m.flags.flagged <;> rfl

theorem noNul_of_mem_written? {as : List Address} (h : ∀ a ∈ as, a.Sendable) :
    ∀ s ∈ written? as, NoNul s := by
  unfold written?
  split_ifs <;> rintro s ⟨⟩
  exact Address.noNul_joinList h

/-- The data of a message comes back from the wire as it was. -/
theorem faithful_messageData {m : Message} (h : m.Sendable) : (messageData m).Faithful 2 := by
  have haddresses : ∀ as ∈ [m.sender, m.recipients, m.cc, m.replyTo],
      ∀ s ∈ written? as, NoNul s := fun as has => noNul_of_mem_written? (h.addresses as has)
  have hbit (b : Bool) : NoNul (bit b) := by cases b <;> decide
  rw [messageData_eq]
  refine Part.faithful_node (by decide) ?_
  simp only [messageParts, List.forall_mem_cons]
  refine ⟨Part.faithful_text (by decide) h.subject,
    Part.faithful_text (by decide) (haddresses _ (by simp)),
    Part.faithful_text (by decide) (haddresses _ (by simp)),
    Part.faithful_text (by decide) (haddresses _ (by simp)),
    Part.faithful_text (by decide) (haddresses _ (by simp)),
    Part.faithful_text (by decide) ?_, Part.faithful_text (by decide) h.messageClass,
    Part.faithful_text (by decide) ?_, ?_, ?_, nofun⟩
  · exact Option.forall_mem_map.mpr fun i hi => (h.received i hi).noNul_writeMillis
  · rintro _ ⟨⟩
    exact hbit _
  · split_ifs <;> rintro _ ⟨⟩
    refine Element.faithful_node (by decide) (List.forall_mem_singleton.mpr ?_)
    exact Element.faithful_text (by decide) (by decide)
  · refine Option.forall_mem_map.mpr fun mime hm => Element.faithful_node (by decide) ?_
    simp only [List.forall_mem_cons]
    exact ⟨Element.faithful_text (by decide) (by decide),
      Element.faithful_text (by decide) (hbit _),
      Element.faithful_bytes (by decide) (h.mime mime hm), nofun⟩

end Collection
end MailSync
