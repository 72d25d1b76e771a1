import MailSync.Collection.Document
import MailSync.Proofs.Mailbox.Mirror
import MailSync.Proofs.Wbxml.Framing

/-!
# Delivered messages, stored and read back

Whatever a response states as a date is a moment that the calendar and the clock have, but its year
need not have four digits: an offset may carry the first or the last hours of these years over, and
a date alone may have any year. A row for such a message can be written and not be read back. Every
other message that a server delivers comes back from the tables as it was.
-/
namespace MailSync

/-! ### Dates that are delivered -/

namespace Collection
open Wbxml (Element)

/-- The message that a change adds, if any, has a date that there is, or none. -/
def Delta.Timed (d : Delta) : Prop := ∀ m, d = .add m → ∀ i ∈ m.received, i.IsValid

theorem isValid_of_receivedOf? {text : String} {i : Instant} (h : receivedOf? text = some i) :
    i.IsValid := by
  rw [receivedOf?] at h
  split at h
  · next hread =>
    cases h
    exact Rfc3339.isValid_of_read? hread
  · obtain ⟨d, hd, rfl⟩ := Option.map_eq_some_iff.mp h
    have hday : 0 < Instant.secondsPerDay := by decide
    have hsecond : 0 < Instant.leap := by decide
    exact ⟨Rfc3339.isValid_of_readDate? hd, hday, .inl hsecond⟩

theorem timed_messageOf (id : String) (data : Element) : (Delta.add (messageOf id data)).Timed := by
  intro m hm i hi
  cases hm
  obtain ⟨text, -, htext⟩ := Option.bind_eq_some_iff.mp hi
  exact isValid_of_receivedOf? htext

theorem timed_of_deltasOf {e : Element} {ds : List Delta} (h : deltasOf e = .ok ds) :
    ∀ d ∈ ds, d.Timed := by
  unfold deltasOf at h
  split_ifs at h
  · obtain ⟨id, -, h⟩ := bind_eq_ok_iff.mp h
    cases hdata : e.find? CodePage.AirSync.applicationData with
    | none =>
      rw [hdata] at h
      cases h
      intro d hd m hm i hi
      rw [List.mem_singleton.mp hd] at hm
      cases hm
      cases hi
    | some data =>
      rw [hdata] at h
      cases h
      intro d hd
      rw [List.mem_singleton.mp hd]
      exact timed_messageOf id data
  · obtain ⟨id, -, h⟩ := bind_eq_ok_iff.mp h
    cases hdata : e.find? CodePage.AirSync.applicationData with
    | none =>
      rw [hdata] at h
      cases h
      exact fun d hd => nomatch hd
    | some data =>
      rw [hdata] at h
      cases h
      intro d hd m hm
      obtain ⟨_, -, rfl⟩ := List.mem_map.mp hd
      cases hm
  · obtain ⟨id, -, h⟩ := bind_eq_ok_iff.mp h
    cases h
    intro d hd m hm
    rw [List.mem_singleton.mp hd] at hm
    cases hm
  · cases h
    exact fun d hd => nomatch hd

theorem timed_of_fetched? {e : Element} {d : Delta} (h : fetched? e = some d) : d.Timed := by
  obtain ⟨r, -, h⟩ := Option.bind_eq_some_iff.mp h
  obtain ⟨data, -, h⟩ := Option.bind_eq_some_iff.mp h
  split_ifs at h
  cases h
  exact timed_messageOf r.id data

theorem timed_of_mapM {es : List Element} {dss : List (List Delta)}
    (h : es.mapM deltasOf = .ok dss) : ∀ d ∈ dss.flatten, d.Timed := by
  induction es generalizing dss with
  | nil =>
    cases h
    exact fun d hd => nomatch hd
  | cons e es ih =>
    rw [List.mapM_cons] at h
    obtain ⟨ds, hds, h⟩ := bind_eq_ok_iff.mp h
    obtain ⟨others, hothers, h⟩ := bind_eq_ok_iff.mp h
    cases h
    intro d hd
    rw [List.flatten_cons, List.mem_append] at hd
    cases hd with
    | inl hd => exact timed_of_deltasOf hds d hd
    | inr hd => exact ih hothers d hd

/-- Every date in a response is one that there is. -/
theorem timed_of_ofDocument {doc : Element} {collection : String} {r : Response}
    (h : Response.ofDocument doc collection = .ok r) : ∀ d ∈ r.deltas, d.Timed := by
  obtain ⟨-, -, h⟩ := bind_eq_ok_iff.mp h
  cases hchoose : choose? doc collection with
  | none =>
    rw [hchoose] at h
    obtain ⟨status, -, h⟩ := bind_eq_ok_iff.mp h
    cases h
    exact fun d hd => nomatch hd
  | some e =>
    rw [hchoose] at h
    obtain ⟨status, -, h⟩ := bind_eq_ok_iff.mp h
    obtain ⟨changes, hchanges, h⟩ := bind_eq_ok_iff.mp h
    cases h
    intro d hd
    rw [List.mem_append] at hd
    cases hd with
    | inl hd => exact timed_of_mapM hchanges d hd
    | inr hd =>
      obtain ⟨e, -, he⟩ := List.mem_filterMap.mp hd
      exact timed_of_fetched? he

end Collection

/-! ### Rows that were written -/

namespace Mailbox
open Collection (Delta Response)

/-- A date whose year has no four digits makes a row that is not read back. -/
theorem MessageRow.stored_ofMessage_of_year {folder : String} {m : Message} {state : DownloadState}
    {i : Instant} (hi : m.received = some i) (hy : ¬(0 ≤ i.date.year ∧ i.date.year ≤ 9999)) :
    (ofMessage folder m state).stored = .error (.unreadableDate (Rfc3339.write i)) := by
  simp only [stored, ofMessage, hi, Option.map_some, instant?, Rfc3339.read?_write_eq_none hy]
  rfl

theorem Tables.row?_save (t : Tables) (folder : String) (m : Message) (state : DownloadState) :
    (t.save folder m state).row? folder m.id = some (.ofMessage folder m state) := by
  have hkey : (MessageRow.ofMessage folder m state).key = (folder, m.id) := rfl
  have hfind := find?_upsert MessageRow.key (.ofMessage folder m state) t.messages (folder, m.id)
  rw [if_pos hkey] at hfind
  simpa only [row?, save, MessageRow.key, Prod.mk.injEq] using hfind

theorem Tables.answer_message_save (t : Tables) (folder : String) (m : Message)
    (state : DownloadState) :
    (t.save folder m state).answer (.message folder m.id) =
      (some <$> (MessageRow.ofMessage folder m state).stored, t.save folder m state) := by
  simp only [answer, row?_save]

/-- Every message of a response that is read can be saved in a folder that is there. It is read back
with all that it says and its state, if it has no date or one in the years 0 to 9999. With any other
date it is there and cannot be read. -/
theorem delivered_reads_back {doc : Wbxml.Element} {collection : String} {r : Response}
    (h : Response.ofDocument doc collection = .ok r) {m : Message} (hm : .add m ∈ r.deltas)
    {t : Tables} {folder : String} (hf : t.hasFolder folder = true) :
    ∃ t', t.answer (.saveMessage folder m m.downloadState) = (.ok (), t') ∧
      ((∀ i ∈ m.received, 0 ≤ i.date.year ∧ i.date.year ≤ 9999) →
        t'.answer (.message folder m.id) = (.ok (some ⟨m, m.downloadState⟩), t')) ∧
      ∀ i ∈ m.received, ¬(0 ≤ i.date.year ∧ i.date.year ≤ 9999) →
        t'.answer (.message folder m.id) = (.error (.unreadableDate (Rfc3339.write i)), t') := by
  refine ⟨t.save folder m m.downloadState, if_pos hf, fun hyears => ?_, fun i hi hy => ?_⟩
  · have hdated : StoredMessage.Dated ⟨m, m.downloadState⟩ := fun i hi =>
      ⟨Collection.timed_of_ofDocument h _ hm m rfl i hi, hyears i hi⟩
    rw [Tables.answer_message_save, MessageRow.stored_ofMessage folder hdated]
    rfl
  · rw [Tables.answer_message_save, MessageRow.stored_ofMessage_of_year hi hy]
    rfl

/-- A response with messages that have only an id and a date. -/
def dating (dates : List (String × String)) : Wbxml.Element :=
  Collection.wrap [.text CodePage.AirSync.syncKey "5", .text CodePage.AirSync.status "1",
    .node CodePage.AirSync.commands (dates.map fun (id, date) =>
      .node CodePage.AirSync.add [.text CodePage.AirSync.serverId id,
        .node CodePage.AirSync.applicationData [.text CodePage.Email.dateReceived date]])]

/-- The last half hour of the year 9999, once by a clock of universal time and once by one that is
an hour behind. -/
def millennium : Wbxml.Element :=
  dating [("m1", "9999-12-31T23:30:00Z"), ("m2", "9999-12-31T23:30:00-01:00")]

def lastOfYear : Message :=
  { Message.blank "m1" with received := some ⟨⟨9999, 12, 31⟩, 84600, 0⟩ }

def firstOfNext : Message :=
  { Message.blank "m2" with received := some ⟨⟨10000, 1, 1⟩, 1800, 0⟩ }

def millenniumRead : Response := ⟨1, some "5", false, [.add lastOfYear, .add firstOfNext], []⟩

theorem ofDocument_millennium : Response.ofDocument millennium "5" = .ok millenniumRead := by
  decide +kernel

/-- Tables with one folder and nothing in it. -/
def inboxTables : Tables := Tables.empty.create ⟨"5", "Inbox", .inbox, none⟩

theorem millennium_reads_back :
    Response.ofDocument millennium "5" = .ok millenniumRead ∧
    .add lastOfYear ∈ millenniumRead.deltas ∧ .add firstOfNext ∈ millenniumRead.deltas ∧
    inboxTables.hasFolder "5" = true ∧
    (∃ t, inboxTables.answer (.saveMessage "5" lastOfYear .complete) = (.ok (), t) ∧
      t.answer (.message "5" "m1") = (.ok (some ⟨lastOfYear, .complete⟩), t)) ∧
    ∃ t, inboxTables.answer (.saveMessage "5" firstOfNext .complete) = (.ok (), t) ∧
      t.answer (.message "5" "m2") =
        (.error (.unreadableDate "+10000-01-01T00:30:00+00:00"), t) := by
  have hlast : .add lastOfYear ∈ millenniumRead.deltas := by decide
  have hfirst : .add firstOfNext ∈ millenniumRead.deltas := by decide
  have hfolder : inboxTables.hasFolder "5" = true := by decide
  refine ⟨ofDocument_millennium, hlast, hfirst, hfolder, ?_, ?_⟩
  · obtain ⟨t, hsave, hread, -⟩ := delivered_reads_back ofDocument_millennium hlast hfolder
    refine ⟨t, hsave, hread fun i hi => ?_⟩
    cases hi
    decide
  · obtain ⟨t, hsave, -, hread⟩ := delivered_reads_back ofDocument_millennium hfirst hfolder
    exact ⟨t, hsave, hread _ rfl (by decide)⟩

/-- Not everything that a server can deliver is read back. -/
theorem not_all_delivered_read_back :
    ¬∀ (doc : Wbxml.Element) (collection : String) (r : Response) (m : Message) (t : Tables)
      (folder : String), Response.ofDocument doc collection = .ok r → .add m ∈ r.deltas →
      t.hasFolder folder = true →
      ∃ t', t.answer (.saveMessage folder m m.downloadState) = (.ok (), t') ∧
        t'.answer (.message folder m.id) = (.ok (some ⟨m, m.downloadState⟩), t') := by
  intro hall
  obtain ⟨t, hsave, hread⟩ := hall millennium "5" millenniumRead firstOfNext inboxTables "5"
    ofDocument_millennium (by decide) (by decide)
  obtain rfl : inboxTables.save "5" firstOfNext firstOfNext.downloadState = t :=
    (Prod.mk.inj hsave).2
  rw [Tables.answer_message_save, MessageRow.stored_ofMessage_of_year rfl (by decide)] at hread
  cases hread

end Mailbox
end MailSync
