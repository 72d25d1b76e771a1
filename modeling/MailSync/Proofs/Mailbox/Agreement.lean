import MailSync.Proofs.Mailbox.Mirror

/-!
# The storages agree

Starting from nothing, the mailbox in memory and the one in tables give the same answers to the same
calls, errors and the order of lists included, and after each call they show the same contents. The
calls may come in any order and fail or not. They put in no folder whose parent is written as the
root, and no message whose date cannot be read back from its text.
-/
namespace MailSync.Mailbox

/-- A call that puts in only records and messages that can be read back from their rows. -/
def Call.Proper : Call → Prop := Call.Orderly StoredMessage.Dated

instance (call : Call) : Decidable call.Proper :=
  inferInstanceAs (Decidable (call.Orderly StoredMessage.Dated))

section
variable {σ τ : Type} [Medium σ] [Medium τ]

/-- Two storages show the same contents: to whatever is read they give the same answer. -/
def SameContents (s : σ) (t : τ) : Prop :=
  ∀ call : Call, call.isWrite = false → (Medium.answer call s).1 = (Medium.answer call t).1

/-- Two storages that are in step along some calls: they show the same contents all along and give
the same answer to each call. -/
def InStep (s : σ) (t : τ) : List Call → Prop
  | [] => SameContents s t
  | call :: calls =>
    SameContents s t ∧ (Medium.answer call s).1 = (Medium.answer call t).1 ∧
      InStep (Medium.answer call s).2 (Medium.answer call t).2 calls

end

theorem mapM_map_of_ok {α β γ ε : Type} {f : β → Except ε γ} {row : α → β} {value : α → γ}
    {l : List α} (h : ∀ a ∈ l, f (row a) = .ok (value a)) :
    (l.map row).mapM f = .ok (l.map value) := by
  induction l with
  | nil => rfl
  | cons a l ih =>
    rw [List.map_cons, List.mapM_cons, h a List.mem_cons_self,
      ih fun b hb => h b (List.mem_cons_of_mem a hb)]
    rfl

theorem pairwise_toList {β : Type} (t : Std.ExtTreeMap String β) :
    t.toList.Pairwise fun a b => a.1 < b.1 :=
  Std.ExtTreeMap.ordered_keys_toList.imp fun {a b} (h : compare a.1 b.1 = .lt) =>
    compareOfLessAndEq_eq_lt.mp h

namespace Memory.Mirrors
variable {m : Memory} {t : Tables}

/-- The folders of both in the order of their ids. -/
theorem sortedBy_folders (h : m.Mirrors t) :
    sortedBy FolderRow.id t.folders = m.folders.toList.map fun e => .ofRecord e.2.record := by
  have hown : ∀ e ∈ m.folders.toList, (FolderRow.ofRecord e.2.record).id = e.1 := fun e he =>
    h.own (Std.ExtTreeMap.mem_toList_iff_getElem?_eq_some.mp he)
  refine h.folders.sortedBy_eq ?_ fun r => ?_
  · rw [List.pairwise_map]
    refine (pairwise_toList m.folders).imp_of_mem fun {a b} ha hb hlt => ?_
    rw [hown a ha, hown b hb]
    exact hlt
  · rw [List.mem_map, folderRow?, Option.bind_eq_some_iff]
    constructor
    · rintro ⟨e, he, rfl⟩
      refine ⟨e.2, ?_, rfl⟩
      rw [hown e he]
      exact Std.ExtTreeMap.mem_toList_iff_getElem?_eq_some.mp he
    · rintro ⟨f, hf, hr⟩
      exact ⟨(r.id, f), Std.ExtTreeMap.mem_toList_iff_getElem?_eq_some.mpr hf, Option.some.inj hr⟩

/-- The ids of the messages that pass a test, in order. -/
theorem idsWhere_eq (h : m.Mirrors t) (folder : String) {p : MessageRow → Bool}
    {q : StoredMessage → Bool}
    (hpq : ∀ s, p (.ofMessage folder s.message s.state) = q s) :
    t.idsWhere folder p =
      (m.folders[folder]?.map fun f =>
        (f.messages.toList.filter fun e => q e.2).map (·.1)).getD [] := by
  have hrows : Tabulates MessageRow.id (t.messages.filter fun r => r.folder = folder ∧ p r)
      fun k => (m.messageRow? (folder, k)).filter p := h.messages.part folder p
  unfold Tables.idsWhere
  cases hf : m.folders[folder]? with
  | none =>
    rw [hrows.sortedBy_eq List.Pairwise.nil fun r => by simp [messageRow?, hf]]
    rfl
  | some f =>
    let l := (f.messages.toList.filter fun e => q e.2).map fun e =>
      MessageRow.ofMessage folder e.2.message e.2.state
    have hown : ∀ e ∈ f.messages.toList, e.2.message.id = e.1 := fun e he =>
      h.own_message hf (Std.ExtTreeMap.mem_toList_iff_getElem?_eq_some.mp he)
    have hl : l.Pairwise fun a b => a.id < b.id := by
      rw [List.pairwise_map]
      refine ((pairwise_toList f.messages).filter _).imp_of_mem fun {a b} ha hb hlt => ?_
      have ha' := hown a (List.mem_of_mem_filter ha)
      have hb' := hown b (List.mem_of_mem_filter hb)
      simpa only [MessageRow.ofMessage, ha', hb'] using hlt
    have hmem (r : MessageRow) : r ∈ l ↔ (m.messageRow? (folder, r.id)).filter p = some r := by
      rw [List.mem_map, Option.filter_eq_some_iff, messageRow?, hf, Option.bind_some,
        Option.map_eq_some_iff]
      constructor
      · rintro ⟨e, he, rfl⟩
        obtain ⟨he, hq⟩ := List.mem_filter.mp he
        have hfound := Std.ExtTreeMap.mem_toList_iff_getElem?_eq_some.mp he
        rw [← hown e he] at hfound
        exact ⟨⟨e.2, hfound, rfl⟩, (hpq e.2).trans hq⟩
      · rintro ⟨⟨s, hs, hr⟩, hp⟩
        rw [← hr] at hp
        have hlisted := Std.ExtTreeMap.mem_toList_iff_getElem?_eq_some.mpr hs
        exact ⟨(r.id, s), List.mem_filter.mpr ⟨hlisted, (hpq s).symm.trans hp⟩, hr⟩
    rw [hrows.sortedBy_eq hl hmem, List.map_map]
    refine List.map_congr_left fun e he => hown e (List.mem_of_mem_filter he)

theorem row?_eq (h : m.Mirrors t) (folder id : String) :
    t.row? folder id = (m.message? folder id).map fun s => .ofMessage folder s.message s.state := by
  have hfind : t.row? folder id = m.messageRow? (folder, id) := by
    simpa only [MessageRow.key, Prod.mk.injEq, Tables.row?] using h.messages.find?_eq (folder, id)
  rw [hfind, messageRow?, message?, Option.map_bind]
  rfl

/-- Every call has the same answer in both, if what they hold can be read back from rows. -/
theorem answer_eq (h : m.Mirrors t) (hs : m.Sound StoredMessage.Dated) (call : Call) :
    (Memory.answer call m).1 = (Tables.answer call t).1 := by
  cases call with
  | extra key =>
    have hfind : (t.extras.find? fun r => decide (r.key = key)) = m.extraRow? key :=
      h.extras.find?_eq key
    simp only [Memory.answer, Tables.answer, hfind, extraRow?, Option.map_map]
    cases m.extras[key]? <;> rfl
  | folderIds =>
    have hown : ∀ e ∈ m.folders.toList, e.2.record.id = e.1 := fun e he =>
      h.own (Std.ExtTreeMap.mem_toList_iff_getElem?_eq_some.mp he)
    simp only [Memory.answer, Tables.answer, h.sortedBy_folders, List.map_map,
      ← Std.ExtTreeMap.map_fst_toList_eq_keys]
    exact congrArg Except.ok (List.map_congr_left fun e he => (hown e he).symm)
  | folder id =>
    have hfind : (t.folders.find? fun r => decide (r.id = id)) = m.folderRow? id :=
      h.folders.find?_eq id
    simp only [Memory.answer, Tables.answer, hfind, folderRow?]
    cases hf : m.folders[id]? with
    | none => rfl
    | some f =>
      have hread := FolderRow.record_ofRecord (hs id f hf).normal
      simp only [Option.bind_some, hread]
      rfl
  | folders =>
    have hread : ∀ e ∈ m.folders.toList, (FolderRow.ofRecord e.2.record).record = .ok e.2.record :=
      fun e he => FolderRow.record_ofRecord
        (hs e.1 e.2 (Std.ExtTreeMap.mem_toList_iff_getElem?_eq_some.mp he)).normal
    simp only [Memory.answer, Tables.answer, h.sortedBy_folders, mapM_map_of_ok hread]
    rfl
  | folderExtra folder key =>
    have hfind : (t.folderExtras.find? fun r => decide (r.folder = folder ∧ r.key = key)) =
        m.folderExtraRow? (folder, key) := by
      simpa only [Prod.mk.injEq] using h.folderExtras.find?_eq (folder, key)
    simp only [Memory.answer, Tables.answer, hfind, folderExtraRow?]
    cases m.folders[folder]? with
    | none => rfl
    | some f => cases hk : f.extras[key]? <;> simp [hk]
  | setFolderExtra folder key value =>
    exact (h.require fun hf => h.setFolderExtra hf key value).1.symm
  | saveMessage folder message state => exact (h.require fun hf => h.save hf message state).1.symm
  | message folder id =>
    simp only [Memory.answer, Tables.answer, h.row?_eq]
    cases hm : m.message? folder id with
    | none => rfl
    | some stored =>
      have hread := MessageRow.stored_ofMessage folder (hs.message? hm).2
      simp only [Option.map_some, hread]
      rfl
  | messageIds folder =>
    have hids : t.idsWhere folder (fun _ => true) = _ :=
      h.idsWhere_eq folder (q := fun _ => true) fun _ => rfl
    simp only [Memory.answer, Tables.answer, hids, List.filter_true,
      Std.ExtTreeMap.map_fst_toList_eq_keys]
  | setFlag folder id flag state =>
    simp only [Memory.answer, Tables.answer, h.row?_eq, Option.isSome_map]
  | truncatedIds folder =>
    have hids : t.idsWhere folder (fun r => decide (r.state = DownloadState.truncated.name)) = _ :=
      h.idsWhere_eq folder (q := fun s => decide (s.state = .truncated)) fun s => by
        cases s.state <;> rfl
    simp only [Memory.answer, Tables.answer, hids]
    rfl
  | _ => rfl

theorem sameContents (h : m.Mirrors t) (hs : m.Sound StoredMessage.Dated) : SameContents m t :=
  fun call _ => h.answer_eq hs call

/-- From a mailbox that the tables mirror, proper calls go in step. -/
theorem inStep (h : m.Mirrors t) (hs : m.Sound StoredMessage.Dated) {calls : List Call}
    (hc : ∀ call ∈ calls, call.Proper) : InStep m t calls := by
  induction calls generalizing m t with
  | nil => exact h.sameContents hs
  | cons call calls ih =>
    have hsound : (m.next call).Sound StoredMessage.Dated :=
      hs.next StoredMessage.ignoresFlags_dated (hc call List.mem_cons_self)
    have hrest : InStep (m.next call) (Tables.answer call t).2 calls :=
      ih (h.next call) hsound fun c hmem => hc c (List.mem_cons_of_mem call hmem)
    exact ⟨h.sameContents hs, h.answer_eq hs call, hrest⟩

end Memory.Mirrors

/-- From nothing, the storages go in step along all proper calls. -/
theorem storages_in_step {calls : List Call} (h : ∀ call ∈ calls, call.Proper) :
    InStep Memory.empty Tables.empty calls :=
  Memory.Mirrors.empty.inStep .empty h

/-- A message that came in a leap second, cut short. -/
def leapMessage : Message where
  __ := Message.blank "5:1"
  received := some ⟨⟨2016, 12, 31⟩, 86399, 1250000000⟩
  truncated := true

/-- Two folders, a message in one of them and one for a folder that is not there. The flag is set,
the ids are listed, and the folder is taken out with its message. -/
def rounds : List Call :=
  [.createFolders [⟨"5", "Inbox", .inbox, none⟩, ⟨"10", "Old", .regular, some "5"⟩],
    .setFolderExtra "5" "syncKey" (some "1"), .saveMessage "5" leapMessage .truncated,
    .saveMessage "9" leapMessage .truncated, .setFlag "5" "5:1" .seen true, .truncatedIds "5",
    .deleteFolders ["5"], .message "5" "5:1", .folderIds]

theorem rounds_in_step :
    (∀ call ∈ rounds, call.Proper) ∧ InStep Memory.empty Tables.empty rounds := by
  have h : ∀ call ∈ rounds, call.Proper := by decide
  exact ⟨h, storages_in_step h⟩

end MailSync.Mailbox
