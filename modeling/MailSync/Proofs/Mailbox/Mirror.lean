import MailSync.Proofs.Calendar.Rfc3339
import MailSync.Proofs.Collection.Writing
import MailSync.Proofs.Mailbox.Rows
import MailSync.Proofs.Mailbox.Sound

/-!
# A mailbox in memory and one in tables

The two storages keep the same things under the same keys: a row of a table is what the mailbox in
memory holds under the key of the row. Every call keeps it so, and then both give the same answer,
as long as what a row was made from can be read back from it. For that no parent may be written as
the root, and dates must lie in the years that are written with four digits.
-/
namespace MailSync

/-- The date of the message, if it has one, can be read back from its text. -/
def StoredMessage.Dated (m : StoredMessage) : Prop :=
  ∀ i ∈ m.message.received, i.IsValid ∧ 0 ≤ i.date.year ∧ i.date.year ≤ 9999

instance (m : StoredMessage) : Decidable m.Dated :=
  inferInstanceAs (Decidable (∀ i ∈ m.message.received, _))

theorem StoredMessage.ignoresFlags_dated : IgnoresFlags Dated := fun _ _ h => h

namespace Mailbox

theorem FolderRow.record_ofRecord {r : FolderRecord} (h : r.Normal) :
    (ofRecord r).record = .ok r := by
  simp only [record, ofRecord, FolderRole.ofName?_name, FolderRecord.under,
    FolderRecord.normal_iff.mp h]

theorem MessageRow.stored_ofMessage (folder : String) {m : StoredMessage} (h : m.Dated) :
    (ofMessage folder m.message m.state).stored = .ok m := by
  have hdate : instant? (m.message.received.map Rfc3339.write) = .ok m.message.received := by
    cases hr : m.message.received with
    | none => rfl
    | some i =>
      have hread : Rfc3339.read? (Rfc3339.write i).toList = some i :=
        Rfc3339.read?_write (h i hr).1 (h i hr).2
      simp only [instant?, Option.map_some, hread]
  simp only [stored, ofMessage, hdate, DownloadState.ofName?_name]
  rfl

namespace Memory
variable {m : Memory} {t : Tables}

/-- The row of an extra. -/
def extraRow? (m : Memory) (key : String) : Option ExtraRow := m.extras[key]?.map (.mk key)

/-- The row of a folder. -/
def folderRow? (m : Memory) (id : String) : Option FolderRow :=
  m.folders[id]?.bind fun f => some (.ofRecord f.record)

/-- The row of an extra of a folder. -/
def folderExtraRow? (m : Memory) (k : String × String) : Option FolderExtraRow :=
  m.folders[k.1]?.bind fun f => f.extras[k.2]?.map (.mk k.1 k.2)

/-- The row of a message. -/
def messageRow? (m : Memory) (k : String × String) : Option MessageRow :=
  m.folders[k.1]?.bind fun f => f.messages[k.2]?.map fun s => .ofMessage k.1 s.message s.state

/-- The tables hold what the mailbox in memory holds. -/
structure Mirrors (m : Memory) (t : Tables) : Prop where
  extras : Tabulates ExtraRow.key t.extras m.extraRow?
  folders : Tabulates FolderRow.id t.folders m.folderRow?
  folderExtras : Tabulates (fun r => (r.folder, r.key)) t.folderExtras m.folderExtraRow?
  messages : Tabulates MessageRow.key t.messages m.messageRow?

/-- What is made of a folder that was changed. -/
theorem bind_modify {β : Type} (m : Memory) (id : String) (change : Folder → Folder)
    (q : Folder → Option β) (k : String) :
    (m.modify id change).folders[k]?.bind q =
      m.folders[k]?.bind fun f => if id = k then q (change f) else q f := by
  rw [getElem?_modify]
  split_ifs
  · rw [Option.bind_map]
    rfl
  · rfl

theorem bind_modify_of_eq {β : Type} (m : Memory) (id : String) {change : Folder → Folder}
    {q : Folder → Option β} (h : ∀ f, q (change f) = q f) (k : String) :
    (m.modify id change).folders[k]?.bind q = m.folders[k]?.bind q := by
  simp only [bind_modify, h, ite_self]

theorem folderRow?_modify (m : Memory) (id : String) {change : Folder → Folder}
    (h : ∀ f, (change f).record = f.record) (k : String) :
    (m.modify id change).folderRow? k = m.folderRow? k :=
  bind_modify_of_eq m id (fun f => by rw [h]) k

theorem folderExtraRow?_modify (m : Memory) (id : String) {change : Folder → Folder}
    (h : ∀ f, (change f).extras = f.extras) (k : String × String) :
    (m.modify id change).folderExtraRow? k = m.folderExtraRow? k :=
  bind_modify_of_eq m id (fun f => by rw [h]) k.1

theorem messageRow?_modify (m : Memory) (id : String) {change : Folder → Folder}
    (h : ∀ f, (change f).messages = f.messages) (k : String × String) :
    (m.modify id change).messageRow? k = m.messageRow? k :=
  bind_modify_of_eq m id (fun f => by rw [h]) k.1

/-- A folder that is put in is empty or keeps what it holds. -/
theorem bind_create_of_eq {β : Type} (m : Memory) (r : FolderRecord) {q : Folder → Option β}
    (hnew : q (.new r) = none) (hold : ∀ f, q { f with record := r } = q f) (k : String) :
    (m.create r).folders[k]?.bind q = m.folders[k]?.bind q := by
  rw [getElem?_create]
  split_ifs
  · cases m.folders[k]? with
    | none => exact hnew
    | some f => exact hold f
  · rfl

namespace Mirrors

theorem empty : Memory.empty.Mirrors Tables.empty where
  extras := (Tabulates.nil _).congr fun k => by simp [extraRow?, Memory.empty]
  folders := (Tabulates.nil _).congr fun k => by simp [folderRow?, Memory.empty]
  folderExtras := (Tabulates.nil _).congr fun k => by simp [folderExtraRow?, Memory.empty]
  messages := (Tabulates.nil _).congr fun k => by simp [messageRow?, Memory.empty]

theorem setExtra (h : m.Mirrors t) (key : String) (value : Option String) :
    Mirrors { m with extras := place m.extras key value } (t.setExtra key value) := by
  cases value with
  | none =>
    refine ⟨(h.extras.filter (· ≠ key)).congr fun k => ?_, h.folders, h.folderExtras, h.messages⟩
    by_cases hk : k = key
    · simp [extraRow?, hk, getElem?_place_self]
    · simp [extraRow?, hk, getElem?_place_of_ne hk]
  | some v =>
    refine ⟨(h.extras.upsert ⟨key, v⟩).congr fun k => ?_, h.folders, h.folderExtras, h.messages⟩
    by_cases hk : k = key
    · simp [extraRow?, hk, getElem?_place_self]
    · simp [extraRow?, Ne.symm hk, getElem?_place_of_ne hk]

theorem create (h : m.Mirrors t) (r : FolderRecord) : (m.create r).Mirrors (t.create r) where
  extras := h.extras
  folders := (h.folders.upsert (.ofRecord r)).congr fun k => by
    rw [folderRow?, getElem?_create]
    split_ifs with hk hk' hk'
    · cases m.folders[k]? <;> rfl
    · exact absurd hk hk'
    · exact absurd hk' hk
    · rfl
  folderExtras := h.folderExtras.congr fun k =>
    bind_create_of_eq m r (by simp [Folder.new]) (fun _ => rfl) k.1
  messages := h.messages.congr fun k =>
    bind_create_of_eq m r (by simp [Folder.new]) (fun _ => rfl) k.1

theorem foldl_create (h : m.Mirrors t) (rs : List FolderRecord) :
    (rs.foldl Memory.create m).Mirrors (rs.foldl Tables.create t) := by
  induction rs generalizing m t with
  | nil => exact h
  | cons r rs ih => exact ih (h.create r)

theorem delete (h : m.Mirrors t) (id : String) : (m.delete id).Mirrors (t.delete id) := by
  have hbind {β : Type} (q : Folder → Option β) (k : String) :
      (m.delete id).folders[k]?.bind q =
        if decide (k ≠ id) then m.folders[k]?.bind q else none := by
    rw [show m.delete id = [id].foldl Memory.delete m from rfl, getElem?_foldl_delete]
    by_cases hk : k = id <;> simp [hk]
  exact ⟨h.extras, (h.folders.filter (· ≠ id)).congr fun k => hbind _ k,
    (h.folderExtras.filter (·.1 ≠ id)).congr fun k => hbind _ k.1,
    (h.messages.filter (·.1 ≠ id)).congr fun k => hbind _ k.1⟩

theorem foldl_delete (h : m.Mirrors t) (ids : List String) :
    (ids.foldl Memory.delete m).Mirrors (ids.foldl Tables.delete t) := by
  induction ids generalizing m t with
  | nil => exact h
  | cons id ids ih => exact ih (h.delete id)

/-- A row of a folder is filed under the id of its record. -/
theorem own (h : m.Mirrors t) {id : String} {f : Folder} (hf : m.folders[id]? = some f) :
    f.record.id = id := by
  have hrow : m.folderRow? id = some (.ofRecord f.record) := by
    rw [folderRow?, hf, Option.bind_some]
  exact ((h.folders.find_eq_some id _).mp hrow).2

/-- A row of a message is filed under the id of the message. -/
theorem own_message (h : m.Mirrors t) {folder id : String} {f : Folder} {s : StoredMessage}
    (hf : m.folders[folder]? = some f) (hs : f.messages[id]? = some s) : s.message.id = id := by
  have hrow : m.messageRow? (folder, id) = some (.ofMessage folder s.message s.state) := by
    rw [messageRow?, hf, Option.bind_some, hs, Option.map_some]
  exact (Prod.mk.inj ((h.messages.find_eq_some _ _).mp hrow).2).2

theorem rename (h : m.Mirrors t) (id name : String) (role : FolderRole) :
    (m.rename id name role).Mirrors (t.rename id name role) where
  extras := h.extras
  folders := (h.folders.map fun r => by split_ifs <;> rfl).congr fun k => by
    rw [folderRow?, Memory.rename, bind_modify, folderRow?]
    cases hf : m.folders[k]? with
    | none => rfl
    | some f =>
      have hid : (FolderRow.ofRecord f.record).id = k := h.own hf
      simp only [Option.bind_some, Option.map_some, hid, eq_comm (a := k)]
      split_ifs
      · rw [← hid]
        rfl
      · rfl
  folderExtras := h.folderExtras.congr (folderExtraRow?_modify m id fun _ => rfl)
  messages := h.messages.congr (messageRow?_modify m id fun _ => rfl)

theorem hasFolder_iff (h : m.Mirrors t) (id : String) : t.hasFolder id = true ↔ id ∈ m.folders := by
  have hfind : (t.folders.find? fun r => decide (r.id = id)) = m.folderRow? id :=
    h.folders.find?_eq id
  rw [Std.ExtTreeMap.mem_iff_isSome_getElem?, Tables.hasFolder, List.any_eq_true,
    ← List.find?_isSome, hfind, folderRow?]
  cases m.folders[id]? <;> simp

theorem setFolderExtra (h : m.Mirrors t) {folder : String} (hf : folder ∈ m.folders) (key : String)
    (value : Option String) :
    (m.modify folder (·.setExtra key value)).Mirrors (t.setFolderExtra folder key value) := by
  obtain ⟨f, hf⟩ := Option.isSome_iff_exists.mp (Std.ExtTreeMap.mem_iff_isSome_getElem?.mp hf)
  have hfolders : Tabulates FolderRow.id t.folders
      (m.modify folder (·.setExtra key value)).folderRow? :=
    h.folders.congr (folderRow?_modify m folder fun _ => rfl)
  have hmessages : Tabulates MessageRow.key t.messages
      (m.modify folder (·.setExtra key value)).messageRow? :=
    h.messages.congr (messageRow?_modify m folder fun _ => rfl)
  have hfind (k : String × String) : (m.modify folder (·.setExtra key value)).folderExtraRow? k =
      if (folder, key) = k then value.map (.mk folder key) else m.folderExtraRow? k := by
    obtain ⟨id, k⟩ := k
    rw [folderExtraRow?, bind_modify, folderExtraRow?]
    by_cases hid : folder = id
    · subst hid
      by_cases hk : k = key
      · simp [hf, hk, Folder.setExtra, getElem?_place_self]
      · simp [hf, Ne.symm hk, Folder.setExtra, getElem?_place_of_ne hk]
    · simp [hid]
  cases value with
  | none =>
    refine ⟨h.extras, hfolders, (h.folderExtras.filter fun k => ¬(k.1 = folder ∧ k.2 = key)).congr
      fun k => (hfind k).trans ?_, hmessages⟩
    by_cases hk : (folder, key) = k
    · simp [← hk]
    · have hne : ¬(k.1 = folder ∧ k.2 = key) := fun he => hk (Prod.ext he.1.symm he.2.symm)
      simp only [if_neg hk, decide_eq_true hne, if_true]
  | some v =>
    exact ⟨h.extras, hfolders, (h.folderExtras.upsert ⟨folder, key, v⟩).congr hfind, hmessages⟩

/-- A change of the messages of a folder. -/
theorem of_edits (h : m.Mirrors t) {folder : String} {call : Call} (hc : call.Edits folder)
    {rows : List MessageRow} (hrows : Tabulates MessageRow.key rows fun k =>
      m.folders[k.1]?.bind fun f =>
        (if folder = k.1 then call.editOf k.2 f.messages[k.2]? else f.messages[k.2]?).map fun s =>
          .ofMessage k.1 s.message s.state) :
    (m.next call).Mirrors { t with messages := rows } := by
  rw [next_of_edits hc]
  refine ⟨h.extras, h.folders.congr (folderRow?_modify m folder fun _ => rfl),
    h.folderExtras.congr (folderExtraRow?_modify m folder fun _ => rfl), hrows.congr fun k => ?_⟩
  rw [messageRow?, bind_modify]
  simp only [Call.getElem?_edit]
  congr 1
  funext f
  split_ifs <;> rfl

theorem save (h : m.Mirrors t) {folder : String} (hf : folder ∈ m.folders) (message : Message)
    (state : DownloadState) :
    (m.modify folder (·.save message state)).Mirrors (t.save folder message state) := by
  have hnext : m.next (.saveMessage folder message state) =
      m.modify folder (·.save message state) := by
    simp only [Memory.next, Memory.answer, Memory.require, if_pos hf]
  obtain ⟨f, hf⟩ := Option.isSome_iff_exists.mp (Std.ExtTreeMap.mem_iff_isSome_getElem?.mp hf)
  rw [← hnext]
  refine h.of_edits (.save message state) ?_
  refine (h.messages.upsert (.ofMessage folder message state)).congr fun k => ?_
  obtain ⟨id, k⟩ := k
  rw [messageRow?]
  by_cases hid : folder = id
  · subst hid
    by_cases hk : message.id = k
    · simp [hf, hk, Call.editOf, MessageRow.key, MessageRow.ofMessage]
    · simp [hk, Call.editOf, MessageRow.key, MessageRow.ofMessage]
  · simp [hid, MessageRow.key, MessageRow.ofMessage]

theorem foldl_destroy (t : Tables) (folder : String) (ids : List String) :
    ids.foldl (fun t id => t.destroy folder id) t =
      { t with messages := t.messages.filter fun r => ¬(r.folder = folder ∧ r.id ∈ ids) } := by
  induction ids generalizing t with
  | nil => simp
  | cons id ids ih =>
    rw [List.foldl_cons, ih, Tables.destroy, List.filter_filter]
    congr 1
    refine List.filter_congr fun r _ => ?_
    by_cases hf : r.folder = folder <;> by_cases hid : r.id = id <;> simp [hf, hid]

theorem destroy (h : m.Mirrors t) (folder : String) (ids : List String) :
    (m.next (.destroyMessages folder ids)).Mirrors
      (ids.foldl (fun t id => t.destroy folder id) t) := by
  rw [foldl_destroy]
  refine h.of_edits (.destroy ids) ?_
  refine (h.messages.filter fun k => ¬(k.1 = folder ∧ k.2 ∈ ids)).congr fun k => ?_
  obtain ⟨id, k⟩ := k
  rw [messageRow?]
  by_cases hid : folder = id
  · subst hid
    by_cases hk : k ∈ ids <;> simp [hk, Call.editOf]
  · simp [hid, Ne.symm hid]

theorem setFlag (h : m.Mirrors t) (folder id : String) (flag : Flag) (state : Bool) :
    (m.next (.setFlag folder id flag state)).Mirrors (t.setFlag folder id flag state) := by
  refine h.of_edits (.flag id flag state) ?_
  refine (h.messages.map fun r => by split_ifs <;> rfl).congr fun k => ?_
  obtain ⟨x, k⟩ := k
  rw [messageRow?]
  cases hf : m.folders[x]? with
  | none => rfl
  | some f =>
    cases hm : f.messages[k]? with
    | none => simp [hm, Call.editOf]
    | some s =>
      have hid : s.message.id = k := h.own_message hf hm
      by_cases hx : folder = x
      · by_cases hk : id = k
        · simp [hm, hid, hx, hk, Call.editOf, MessageRow.ofMessage, StoredMessage.mapFlags]
        · simp [hm, hid, hk, Ne.symm hk, Call.editOf, MessageRow.ofMessage]
      · simp [hm, hid, hx, Ne.symm hx, MessageRow.ofMessage]

theorem clear (h : m.Mirrors t) (folder : String) :
    (m.next (.removeAllMessages folder)).Mirrors
      { t with messages := t.messages.filter (·.folder ≠ folder) } := by
  refine h.of_edits .clear ?_
  refine (h.messages.filter fun k => k.1 ≠ folder).congr fun k => ?_
  obtain ⟨id, k⟩ := k
  rw [messageRow?]
  by_cases hid : folder = id
  · simp [hid, Call.editOf]
  · simp [hid, Ne.symm hid]

/-- A change that needs its folder is made in both or in neither. -/
theorem require (h : m.Mirrors t) {folder : String} {change : Folder → Folder} {changed : Tables}
    (hc : folder ∈ m.folders → (m.modify folder change).Mirrors changed) :
    (t.require folder changed).1 = (m.require folder change).1 ∧
      (m.require folder change).2.Mirrors (t.require folder changed).2 := by
  by_cases hf : folder ∈ m.folders
  · rw [Memory.require, if_pos hf, Tables.require, if_pos ((h.hasFolder_iff folder).mpr hf)]
    exact ⟨rfl, hc hf⟩
  · rw [Memory.require, if_neg hf, Tables.require, if_neg (mt (h.hasFolder_iff folder).mp hf)]
    exact ⟨rfl, h⟩

/-- Every call keeps the tables a mirror of the mailbox. -/
theorem next (h : m.Mirrors t) (call : Call) :
    (m.next call).Mirrors (Tables.answer call t).2 := by
  cases call with
  | setExtra key value => exact h.setExtra key value
  | createFolders rs => exact h.foldl_create rs
  | deleteFolders ids => exact h.foldl_delete ids
  | changeFolder id name role => exact h.rename id name role
  | folder id =>
    simp only [Tables.answer]
    split <;> exact h
  | setFolderExtra folder key value => exact (h.require fun hf => h.setFolderExtra hf key value).2
  | saveMessage folder message state => exact (h.require fun hf => h.save hf message state).2
  | message folder id =>
    simp only [Tables.answer]
    split <;> exact h
  | destroyMessages folder ids => exact h.destroy folder ids
  | setFlag folder id flag state => exact h.setFlag folder id flag state
  | removeAllMessages folder => exact h.clear folder
  | wipe => exact .empty
  | _ => exact h

end Mirrors
end Memory
end Mailbox
end MailSync
