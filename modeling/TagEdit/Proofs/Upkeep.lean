import TagEdit.Proofs.Tags

/-!
# Tags that can be written and read back

In the tag of a file every frame is kept, and no two of them occupy the same slot; so each field is
a single frame there. Edits leave it so.
-/

namespace TagEdit.Id3

open Script (exists_of_bind_eq_ok)

/-! ## Frames of files -/

/-- A frame as it is read in a version. -/
structure Frame.FromFile (v : Version) (f : Frame) : Prop where
  head : f.id.head? ≠ some '\x00'
  /-- A frame that has a name in the version to write is kept in it. -/
  kept : (Utf8.encode f.id).length = 4 → f.Kept v.written
  reread : ∀ t, f.content = .text t → v.written.reread f.id t = t

section

variable {v : Version} {bs : Bytes} {h : FrameHead} {f : Frame}

theorem readHead_inv (hread : readHead v bs = some h) :
    h.id.head? ≠ some 0 ∧ (v = .v22 → h.id.length = 3) := by
  unfold readHead at hread
  split at hread
  · cases hread
  · rename_i hhead
    split at hread
    · cases hread; exact ⟨hhead, fun _ => rfl⟩
    · cases hread; exact ⟨hhead, nofun⟩
    · cases hread; exact ⟨hhead, nofun⟩
    · cases hread

theorem read_inv {framesFit : Bytes → Bool} (hread : h.read framesFit v = .ok f) :
    ∃ name data, Utf8.decode? h.id = some name ∧
      f.id = (if v = .v22 then modernId name else name) ∧
      readContent framesFit v f.id data = some (f.content, f.charset) := by
  rw [read_eq] at hread
  cases hname : Utf8.decode? h.id with
  | none =>
    rw [hname] at hread
    cases hread
  | some name =>
    rw [hname] at hread
    obtain ⟨data, -, hread⟩ := exists_of_bind_eq_ok hread
    cases hcontent : readContent framesFit v (if v = .v22 then modernId name else name) data with
    | none =>
      rw [hcontent] at hread
      cases hread
    | some r =>
      rw [hcontent] at hread
      cases hread
      exact ⟨name, data, rfl, rfl, hcontent⟩

theorem modernId_cases (id : Text) :
    modernId id = id ∨ ∃ r ∈ renamed, modernId id = r.2.toList := by
  unfold modernId
  split
  · rename_i r hr
    exact .inr ⟨r, List.mem_of_find?_eq_some hr, rfl⟩
  · exact .inl rfl

def Kind.hasFrames : Kind → Bool
  | .record l => l.hasFrames
  | _ => false

/-- No frame of version 2.2 has frames inside. -/
theorem renamed_hasFrames :
    ∀ r ∈ renamed, (Kind.ofId r.2.toList).hasFrames = false ∧ r.2.toList.head? ≠ some '\x00' := by
  decide +kernel

theorem fromFile_of_read (hhead : readHead v bs = some h)
    (hread : h.read (framesFit v maxNested) v = .ok f) : f.FromFile v := by
  obtain ⟨hzero, hshort⟩ := readHead_inv hhead
  obtain ⟨name, data, hname, hid, hcontent⟩ := read_inv hread
  have hcontent := readAs_of_readContent hcontent
  have hbytes := Utf8.encode_of_decode? hname
  have hnul : name.head? ≠ some '\x00' := by
    intro hnul
    cases name with
    | nil => cases hnul
    | cons c name =>
      cases hnul
      rw [← hbytes] at hzero
      exact hzero rfl
  refine ⟨?_, fun hfour => ?_, fun t ht => ReadAs.reread (ht ▸ hcontent)⟩
  · rw [hid]
    split
    · rcases modernId_cases name with heq | ⟨r, hr, heq⟩
      · rwa [heq]
      · rw [heq]
        exact (renamed_hasFrames r hr).2
    · exact hnul
  · refine hcontent.kept fun hv l hl => ?_
    rw [if_pos hv] at hid
    rcases modernId_cases name with heq | ⟨r, hr, heq⟩
    · rw [hid, heq, hbytes, hshort hv] at hfour
      cases hfour
    · have hframes := (renamed_hasFrames r hr).1
      rw [← heq, ← hid, hl] at hframes
      exact hframes

end

/-! ## Tags of files -/

/-- A tag as it is read from a file. -/
structure Tag.FromFile (t : Tag) : Prop where
  frames : ∀ f ∈ t.frames, f.FromFile t.version
  distinct : Distinct t.frames

theorem Tag.forall_mem_add {t : Tag} {f : Frame} {P : Frame → Prop} (h : ∀ g ∈ t.frames, P g)
    (hf : P f) : ∀ g ∈ (t.add f).frames, P g := by
  intro g hg
  rcases List.mem_append.mp hg with hg | hg
  · exact h g (List.mem_of_mem_eraseP hg)
  · exact List.mem_singleton.mp hg ▸ hf

theorem Tag.FromFile.add {t : Tag} {f : Frame} (h : t.FromFile) (hf : f.FromFile t.version) :
    (t.add f).FromFile := ⟨Tag.forall_mem_add h.frames hf, h.distinct.add f⟩

theorem fromFile_of_readFrames {v : Version} {left : Nat} {t u : Tag} {bs : Bytes}
    (hv : t.version = v) (h : t.FromFile) (hread : readFrames v left t bs = .ok u) :
    u.FromFile ∧ u.version = v := by
  induction hn : bs.length using Nat.strongRecOn generalizing bs left t with
  | ind n ih =>
    by_cases hleft : left = 0
    · rw [hleft, readFrames_zero] at hread
      cases hread
      exact ⟨h, hv⟩
    cases hhead : readHead v bs with
    | none =>
      rw [readFrames_of_none hhead] at hread
      cases hread
      exact ⟨h, hv⟩
    | some fh =>
      rw [readFrames_of_some hleft hhead] at hread
      obtain ⟨f, hf, hread⟩ := exists_of_bind_eq_ok hread
      have hlength := length_readHead hhead
      have hfile : f.FromFile t.version := hv ▸ fromFile_of_read hhead hf
      have hv : (t.add f).version = v := hv
      refine ih _ ?_ hv (h.add hfile) hread rfl
      rw [List.length_drop]
      omega

theorem fromFile_of_read_tag {bs : Bytes} {t : Tag} (h : read bs = .ok t) : t.FromFile := by
  obtain ⟨header, -, h⟩ := exists_of_bind_eq_ok h
  obtain ⟨⟨left, frames⟩, -, h⟩ := exists_of_bind_eq_ok h
  have hempty : Tag.FromFile { version := header.version } :=
    ⟨List.forall_mem_nil _, List.nodup_nil⟩
  exact (fromFile_of_readFrames rfl hempty h).1

/-! ## Fields of files -/

theorem Content.slot_of_isText {c : Content} (h : c.isText = true) : c.slot = (0, []) := by
  cases c with
  | text value => rfl
  | _ => cases h

theorem Frame.Kept.isText {v : Version} {f : Frame} (h : f.Kept v)
    (hkind : Kind.ofId f.id = .text) : f.content.isText = true := by
  cases h with
  | text => rfl
  | link hlink =>
    rw [hlink] at hkind
    cases hkind
  | comment => cases hkind
  | record hrecord =>
    rw [hrecord] at hkind
    cases hkind

namespace Tag

/-- The frames that hold the text of a field are texts, and are written under their own names. -/
theorem textIds_kind : ∀ id ∈ textIds,
    Kind.ofId id = .text ∧ id.head? ≠ some '\x00' ∧ (Utf8.encode id).length = 4 := by
  decide

variable {t : Tag}

/-- All texts of one name occupy the same slot, so there is one of them at most. -/
theorem asRead_of_kept {v : Version}
    (hkept : ∀ f ∈ t.frames, (Utf8.encode f.id).length = 4 → f.Kept v)
    (hdistinct : Distinct t.frames) : t.AsRead := by
  intro id hid
  obtain ⟨hkind, -, hfour⟩ := textIds_kind id hid
  have htext : ∀ f ∈ t.select (· == id), f.id = id ∧ f.content.isText = true := by
    intro f hf
    obtain ⟨hmem, hfid⟩ := mem_select.mp hf
    have hfid : f.id = id := beq_iff_eq.mp hfid
    exact ⟨hfid, (hkept f hmem (by rw [hfid, hfour])).isText (by rw [hfid, hkind])⟩
  have hnodup : ((t.select (· == id)).map Frame.slot).Nodup := hdistinct.filter _
  refine ⟨?_, fun f hf => (htext f hf).2⟩
  have hslot : ∀ f ∈ t.select (· == id), f.slot = (id, 0, []) := fun f hf =>
    congrArg₂ Prod.mk (htext f hf).1 (Content.slot_of_isText (htext f hf).2)
  have hconst := List.eq_replicate_of_mem fun s hs => by
    obtain ⟨f, hf, rfl⟩ := List.mem_map.mp hs
    exact hslot f hf
  rw [hconst, List.nodup_replicate] at hnodup
  simpa using hnodup

theorem FromFile.asRead (h : t.FromFile) : t.AsRead :=
  asRead_of_kept (fun f hf => (h.frames f hf).kept) h.distinct

/-- A tag that is read has one frame at most of each name that holds a field's text. -/
theorem asRead_of_read {bs : Bytes} (h : read bs = .ok t) : t.AsRead :=
  (fromFile_of_read_tag h).asRead

/-! ## Edits -/

/-- A tag of which all frames can be written and read back, each in its own slot. -/
structure Sound (t : Tag) : Prop where
  head : ∀ f ∈ t.frames, f.id.head? ≠ some '\x00'
  kept : ∀ f ∈ t.frames, (Utf8.encode f.id).length = 4 → f.Kept t.version.written
  distinct : Distinct t.frames

theorem FromFile.sound (h : t.FromFile) : t.Sound where
  head f hf := (h.frames f hf).head
  kept f hf := (h.frames f hf).kept
  distinct := h.distinct

theorem Sound.asRead (h : t.Sound) : t.AsRead := asRead_of_kept h.kept h.distinct

theorem Sound.remove (h : t.Sound) (id : Text) : (t.remove id).Sound where
  head f hf := h.head f (List.mem_filter.mp hf).1
  kept f hf := h.kept f (List.mem_filter.mp hf).1
  distinct := h.distinct.filter _

theorem Sound.add {f : Frame} (h : t.Sound) (hhead : f.id.head? ≠ some '\x00')
    (hkept : f.Kept t.version.written) : (t.add f).Sound :=
  ⟨forall_mem_add h.head hhead, forall_mem_add h.kept fun _ => hkept, h.distinct.add f⟩

/-- New frames are not written in Latin-1. -/
theorem has_charset (v : Version) (t : Text) : v.charset.Has t := by
  intro h
  cases v <;> cases h

theorem Sound.setText (h : t.Sound) {id : Text} (hid : id ∈ textIds) (value : Text) :
    (t.setText id value).Sound :=
  h.add (textIds_kind id hid).2.1 (.text (textIds_kind id hid).1 (has_charset _ value))

theorem Sound.setComment (h : t.Sound) (value : Text) : (t.setComment value).Sound := by
  simp only [Tag.setComment]
  split
  · exact h.remove commentId
  · have hhead : commentId.head? ≠ some '\x00' := by decide
    have hkept : Frame.Kept t.version.written
        ⟨commentId, .comment (ofBytes [101, 110, 103]) [] value, none⟩ :=
      .comment (has_charset _ []) List.not_mem_nil (has_charset _ value)
    exact (h.remove commentId).add hhead hkept

theorem Sound.set (h : t.Sound) (f : Field) (value : Text) : (t.set f value).Sound := by
  rcases textual_or f with ⟨id, hid⟩ | rfl | rfl
  · have hmem : id ∈ textIds :=
      List.mem_append_left _ (List.mem_filterMap.mpr ⟨f, Field.mem_all f, hid⟩)
    rw [set_of_textId? hid, setOrRemove]
    split
    · exact h.remove id
    · exact h.setText hmem value
  · exact h.setComment value
  · show (t.setYear value).Sound
    unfold setYear
    split
    · exact (h.remove recordedId).remove yearId
    · refine h.setText ?_ value
      rcases t.yearFrame_eq with heq | heq
      · rw [heq]; decide
      · rw [heq]; decide

theorem version_set (t : Tag) (f : Field) (value : Text) : (t.set f value).version = t.version := by
  rcases textual_or f with ⟨id, hid⟩ | rfl | rfl
  · rw [set_of_textId? hid, setOrRemove]
    split <;> rfl
  · show (t.setComment value).version = _
    simp only [Tag.setComment]
    split <;> rfl
  · show (t.setYear value).version = _
    unfold setYear
    split <;> rfl

/-- Edits add no records. -/
theorem forall_mem_set {P : Frame → Prop} (h : ∀ g ∈ t.frames, P g)
    (hnew : ∀ id c, (∀ key data, c ≠ .record key data) → P ⟨id, c, none⟩) (f : Field)
    (value : Text) : ∀ g ∈ (t.set f value).frames, P g := by
  have hremove : ∀ {t : Tag}, (∀ g ∈ t.frames, P g) → ∀ id, ∀ g ∈ (t.remove id).frames, P g :=
    fun h id g hg => h g (List.mem_filter.mp hg).1
  have htext : ∀ id, ∀ g ∈ (t.setText id value).frames, P g := fun id =>
    forall_mem_add h (hnew id _ fun _ _ h => by cases h)
  rcases textual_or f with ⟨id, hid⟩ | rfl | rfl
  · rw [set_of_textId? hid, setOrRemove]
    split
    · exact hremove h id
    · exact htext id
  · show ∀ g ∈ (t.setComment value).frames, P g
    simp only [Tag.setComment]
    split
    · exact hremove h commentId
    · exact forall_mem_add (hremove h commentId) (hnew _ _ fun _ _ h => by cases h)
  · show ∀ g ∈ (t.setYear value).frames, P g
    unfold setYear
    split
    · exact hremove (hremove h recordedId) yearId
    · exact htext t.yearFrame

end Tag

/-! ## Fields of what is read back -/

/-- What the value of a field other than the comment is after it was written in a version and read
back. Below version 2.4 the artist is a list of values. -/
def Version.readBack (v : Version) (f : Field) (value : Text) : Text :=
  match v with
  | .v24 => value
  | _ => if f = .artist then splitValues value else joinValues value

theorem Version.reread_eq_readBack {f : Field} {id : Text} (hid : id ∈ Tag.frameIds f)
    (hne : f ≠ .comment) (v : Version) (t : Text) : v.reread id t = v.readBack f t := by
  have hlist : listsValues id = decide (f = .artist) := by
    revert id
    cases f <;> first | exact absurd rfl hne | decide
  cases v <;> simp only [reread, readBack, hlist, decide_eq_true_eq]

@[simp] theorem Version.readBack_nil (v : Version) (f : Field) : v.readBack f [] = [] := by
  cases v
  · show (if f = .artist then _ else _) = _
    split <;> rfl
  · show (if f = .artist then _ else _) = _
    split <;> rfl
  · rfl

/-- What a field is that was set to a value and saved. -/
def Version.storedValue (v : Version) (f : Field) (value : Text) : Text :=
  if v ≠ .v24 ∧ f = .artist then splitValues value else value

theorem Version.readBack_of_not_mem {value : Text} (h : '\x00' ∉ value) (v : Version) (f : Field) :
    v.written.readBack f value = v.storedValue f value := by
  have hold : (if f = .artist then splitValues value else joinValues value) =
      if f = .artist then splitValues value else value := by
    rw [joinValues_of_not_mem h]
  cases v with
  | v22 => exact hold.trans (by simp [storedValue])
  | v23 => exact hold.trans (by simp [storedValue])
  | v24 => simp [storedValue, readBack, written]

theorem Version.storedValue_comment (v : Version) (value : Text) :
    v.storedValue .comment value = value := if_neg (fun h => nomatch h.2)

theorem Frame.reread_id (v : Version) (f : Frame) : (f.reread v).id = f.id := by
  unfold Frame.reread
  split <;> rfl

namespace Tag

variable {t : Tag} {v : Version} {id : Text}

theorem find?_reread (t : Tag) (v : Version) (id : Text) :
    (t.reread v).find? id = (t.find? id).map (Frame.reread v) := by
  show (t.frames.map (Frame.reread v)).find? _ = _
  rw [List.find?_map]
  refine congrArg (Option.map (Frame.reread v)) ?_
  exact congrArg (List.find? · t.frames) (funext fun f => by rw [Function.comp, Frame.reread_id])

theorem AsRead.isText_of_find? (h : t.AsRead) (hid : id ∈ textIds) {f : Frame}
    (hf : t.find? id = some f) : ∃ value, f.content = .text value := by
  have hmem : f ∈ t.select (· == id) := by
    rw [find?_eq_head?] at hf
    exact List.mem_of_head? hf
  have htext := (h id hid).2 f hmem
  cases hcontent : f.content <;> simp_all [Content.isText]

theorem AsRead.text?_reread (h : t.AsRead) (hframes : ∀ f ∈ t.frames, f.Reread v (f.reread v))
    (hid : id ∈ textIds)
    (hend : v = .v24 → ∀ value, t.text? id = some value → value.getLast? ≠ some '\x00') :
    (t.reread v).text? id = (t.text? id).map (v.reread id) := by
  unfold text? at hend ⊢
  rw [find?_reread]
  cases hf : t.find? id with
  | none => rfl
  | some f =>
    obtain ⟨value, hvalue⟩ := h.isText_of_find? hid hf
    have htext : f.text? = some value := by rw [Frame.text?, hvalue]
    have hfid : f.id = id := by
      have := List.find?_some (p := fun f : Frame => f.id == id) hf
      exact beq_iff_eq.mp this
    have hback := (hframes f (List.mem_of_find?_eq_some hf)).text value hvalue fun hv =>
      hend hv value (by rw [hf]; exact htext)
    rw [hfid] at hback
    show (f.reread v).text? = f.text?.map (v.reread id)
    rw [htext, Frame.text?, hback]
    rfl

theorem commentText?_reread {f : Frame} (h : f.Reread v (f.reread v)) :
    commentText? (f.reread v) = commentText? f := by
  unfold commentText?
  rw [h.id]
  by_cases htext : ∃ value, f.content = .text value
  · obtain ⟨value, hvalue⟩ := htext
    have hslot := h.slot
    rw [hvalue] at hslot ⊢
    cases hcontent : (f.reread v).content <;> simp_all [Content.slot]
  · rw [h.other fun value hvalue => htext ⟨value, hvalue⟩]

theorem get?_comment_reread (hframes : ∀ f ∈ t.frames, f.Reread v (f.reread v)) :
    (t.reread v).get? .comment = t.get? .comment := by
  show (t.frames.map (Frame.reread v)).findSome? commentText? = t.frames.findSome? commentText?
  rw [List.findSome?_map]
  generalize t.frames = frames at hframes
  induction frames with
  | nil => rfl
  | cons f frames ih =>
    rw [List.forall_mem_cons] at hframes
    rw [List.findSome?_cons, List.findSome?_cons, ih hframes.2, Function.comp,
      commentText?_reread hframes.1]

theorem frameIds_text {f : Field} (hne : f ≠ .comment) : ∀ id ∈ frameIds f, id ∈ textIds := by
  revert hne
  cases f <;> decide

/-- A field is the text of the first of its frames that a tag has. -/
theorem get_eq_findSome? (t : Tag) {f : Field} (hne : f ≠ .comment) :
    t.get f = ((frameIds f).findSome? t.text?).getD [] := by
  rcases textual_or f with ⟨id, hid⟩ | rfl | rfl
  · have hids : frameIds f = [id] := by simp only [frameIds, hid]
    rw [hids, List.findSome?_cons]
    simp only [get, get?, hid]
    cases t.text? id <;> rfl
  · exact absurd rfl hne
  · show ((t.text? recordedId).or (t.text? yearId)).getD [] =
      ([recordedId, yearId].findSome? t.text?).getD []
    rw [List.findSome?_cons, List.findSome?_cons]
    cases t.text? recordedId <;> cases t.text? yearId <;> rfl

theorem AsRead.findSome?_reread (h : t.AsRead) (hframes : ∀ f ∈ t.frames, f.Reread v (f.reread v))
    {f : Field} (hne : f ≠ .comment) {ids : List Text} (hids : ∀ id ∈ ids, id ∈ frameIds f)
    (hend : v = .v24 → ((ids.findSome? t.text?).getD []).getLast? ≠ some '\x00') :
    (ids.findSome? (t.reread v).text?).getD [] =
      v.readBack f ((ids.findSome? t.text?).getD []) := by
  induction ids with
  | nil => exact (Version.readBack_nil v f).symm
  | cons id ids ih =>
    obtain ⟨hid, hids⟩ := List.forall_mem_cons.mp hids
    rw [List.findSome?_cons] at hend
    have htext : (t.reread v).text? id = (t.text? id).map (v.reread id) := by
      refine h.text?_reread hframes (frameIds_text hne id hid) fun hv value hvalue => ?_
      rw [hvalue] at hend
      exact hend hv
    rw [List.findSome?_cons, List.findSome?_cons, htext]
    cases hvalue : t.text? id with
    | none =>
      rw [hvalue] at hend
      exact ih hids hend
    | some value => exact Version.reread_eq_readBack hid hne v value

/-- A field of what is read back. -/
theorem AsRead.get_reread (h : t.AsRead) (hframes : ∀ f ∈ t.frames, f.Reread v (f.reread v))
    {f : Field} (hne : f ≠ .comment) (hend : v = .v24 → (t.get f).getLast? ≠ some '\x00') :
    (t.reread v).get f = v.readBack f (t.get f) := by
  rw [get_eq_findSome? t hne] at hend
  rw [get_eq_findSome? _ hne, get_eq_findSome? t hne]
  exact h.findSome?_reread hframes hne (fun _ hid => hid) hend

/-- A field that is not empty is the text of a frame of its own. -/
theorem get_cases (t : Tag) {f : Field} (hne : f ≠ .comment) :
    t.get f = [] ∨ ∃ id ∈ frameIds f, t.text? id = some (t.get f) := by
  rw [get_eq_findSome? t hne]
  cases hvalue : (frameIds f).findSome? t.text? with
  | none => exact .inl rfl
  | some value => exact .inr (List.exists_of_findSome?_eq_some hvalue)

/-- A field of a tag as it was read is as it will be read back. -/
theorem FromFile.readBack_get (h : t.FromFile) {f : Field} (hne : f ≠ .comment) :
    t.version.written.readBack f (t.get f) = t.get f := by
  rcases t.get_cases hne with hnil | ⟨id, hframe, hvalue⟩
  · rw [hnil, Version.readBack_nil]
  · obtain ⟨e, he, hetext⟩ := Option.bind_eq_some_iff.mp hvalue
    have heid := List.find?_some (p := fun f : Frame => f.id == id) he
    obtain ⟨value, hcontent⟩ := h.asRead.isText_of_find? (frameIds_text hne id hframe) he
    rw [Frame.text?, hcontent] at hetext
    have hreread := (h.frames e (List.mem_of_find?_eq_some he)).reread value hcontent
    rw [beq_iff_eq.mp heid, Version.reread_eq_readBack hframe hne, Option.some.inj hetext] at hreread
    exact hreread

end Tag

end TagEdit.Id3
