import TagEdit.Proofs.Probing
import TagEdit.Proofs.Upkeep

/-!
# Edits survive the disk

An audio file that was opened, edited and saved is opened again if a frame is left in its tag, and
every field has the value that it was set to last, or its old one. Below version 2.4 the slashes of an
artist are an exception: there they divide the artists of a list.
-/

namespace TagEdit

open TagEdit.Path

/-! ## Files that take the place of files -/

namespace Disk

variable {d : Disk} {loc : Location} {content : Bytes}

theorem item?_put_file (h : d.item? loc = some (.file content)) (new : Bytes) :
    (d.put loc (.file new)).item? loc = some (.file new) := by
  have hne : loc ≠ [] := by
    rintro rfl
    cases h
  rw [item?_put d loc (.file new) loc hne, if_pos rfl]

/-- A file in place of a file changes no step along a path. -/
theorem step_put_file (h : d.item? loc = some (.file content)) (new : Bytes) :
    (d.put loc (.file new)).step = d.step := by
  have hitem : ∀ other, (d.put loc (.file new)).item? other =
      if other = loc then some (.file new) else d.item? other := by
    intro other
    by_cases hroot : other = []
    · subst hroot
      have hne : [] ≠ loc := by
        rintro rfl
        cases h
      rw [if_neg hne]
      rfl
    · exact item?_put d loc (.file new) other hroot
  have hdir : ∀ other, ((d.put loc (.file new)).item? other != some .directory) =
      (d.item? other != some .directory) := by
    intro other
    rw [hitem]
    split
    · rename_i heq
      rw [heq, h]
      rfl
    · rfl
  have hsome : ∀ other, ((d.put loc (.file new)).item? other).isSome = (d.item? other).isSome := by
    intro other
    rw [hitem]
    split
    · rename_i heq
      rw [heq, h]
      rfl
    · rfl
  funext other piece
  unfold step stepInto
  rw [hdir]
  simp only [hsome]

theorem resolve_put_file (h : d.item? loc = some (.file content)) (new : Bytes) (path : FilePath) :
    (d.put loc (.file new)).resolve path = d.resolve path := by
  unfold resolve
  rw [step_put_file h]
  rfl

end Disk

namespace AudioFile

open Id3 Mpeg
open Script (exists_of_bind_eq_ok)

/-! ## Opening and saving -/

section

variable {path : FilePath} {d d' : Disk} {a : AudioFile} {content : Bytes}

theorem ofContent_inv (h : ofContent path content = .ok a) :
    a.path = path ∧ readTag content = .ok a.tag ∧ ∃ f, findStream content = .ok f := by
  obtain ⟨tag, htag, h⟩ := exists_of_bind_eq_ok h
  unfold probe at h
  cases hstream : findStream content with
  | error e =>
    rw [hstream] at h
    cases h
  | ok f =>
    rw [hstream] at h
    cases h
    exact ⟨rfl, htag, f, rfl⟩

theorem ofContent_of_ok {tag : Tag} {f : Mpeg.Frame} (htag : readTag content = .ok tag)
    (hstream : findStream content = .ok f) :
    ofContent path content =
      .ok ⟨path, tag, f.duration?, (f.duration?.or tag.length?).getD .zero⟩ := by
  unfold ofContent probe
  rw [htag, hstream]
  rfl

theorem ofContent_of_error {e : Mpeg.Fault} (hstream : findStream content = .error e) :
    ∃ e, ofContent path content = .error e := by
  cases h : ofContent path content with
  | error e => exact ⟨e, rfl⟩
  | ok a =>
    obtain ⟨-, -, f, hf⟩ := ofContent_inv h
    rw [hstream] at hf
    cases hf

theorem openFile_inv (h : openFile path d = .ok a) :
    ∃ loc content, d.resolve path = .ok loc ∧ d.item? loc = some (.file content) ∧
      ofContent path content = .ok a := by
  unfold openFile at h
  split at h
  · cases h
  · rename_i loc hloc
    split at h
    · rename_i content hitem
      exact ⟨loc, content, hloc, hitem, h⟩
    · cases h

theorem openFile_of_item {loc : Location} (hloc : d.resolve path = .ok loc)
    (hitem : d.item? loc = some (.file content)) : openFile path d = ofContent path content := by
  rw [openFile, hloc]
  simp only [hitem]

theorem save_inv (h : a.save d = .ok d') :
    ∃ loc content new, d.resolve a.path = .ok loc ∧ d.item? loc = some (.file content) ∧
      replace a.tag content = .ok new ∧ d' = d.put loc (.file new) := by
  unfold save at h
  split at h
  · cases h
  · rename_i loc hloc
    split at h
    · rename_i content hitem
      split at h
      · cases h
      · rename_i new hnew
        cases h
        exact ⟨loc, content, new, hloc, hitem, hnew, rfl⟩
    · cases h

theorem replace_inv {t : Tag} {new : Bytes} (h : replace t content = .ok new) :
    ∃ bytes audio, write t.version.written t = .ok bytes ∧ Id3.audio content = .ok audio ∧
      new = bytes ++ audio := by
  obtain ⟨audio, haudio, h⟩ := exists_of_bind_eq_ok h
  obtain ⟨bytes, hwrite, h⟩ := exists_of_bind_eq_ok h
  cases h
  exact ⟨bytes, audio, hwrite, haudio, rfl⟩

theorem fromFile_of_readTag {t : Tag} (h : readTag content = .ok t) : t.FromFile := by
  unfold readTag at h
  split at h
  · rename_i hread
    cases h
    exact fromFile_of_read_tag hread
  · cases h
    exact ⟨List.forall_mem_nil _, List.Pairwise.nil⟩
  · cases h

/-- A file without a tag has no frames, and the frames of any other one are those that were read. -/
theorem fromFile_of_openFile (h : openFile path d = .ok a) : a.tag.FromFile := by
  obtain ⟨loc, content, -, -, hcontent⟩ := openFile_inv h
  exact fromFile_of_readTag (ofContent_inv hcontent).2.1

/-- A file that is opened, edited and saved has the tag that was written if it is opened again. It is
not if the tag has no frame, and it is if the tag has one and all records are as the search for the
stream demands. -/
theorem reopen_save {u : AudioFile} (hopen : openFile path d = .ok a) (hpath : u.path = path)
    (hsound : u.tag.Sound) (hsave : u.save d = .ok d') :
    (u.tag.frames = [] → ∃ e, openFile path d' = .error e) ∧
      (u.tag.frames ≠ [] → (∀ f ∈ u.tag.frames, meetsDemand f = true) →
        ∃ b, openFile path d' = .ok b) ∧
      ∀ b, openFile path d' = .ok b → b.tag = u.tag.reread u.tag.version.written ∧
        ∀ f ∈ u.tag.frames, f.Reread u.tag.version.written (f.reread u.tag.version.written) := by
  obtain ⟨loc, content, hloc, hitem, hcontent⟩ := openFile_inv hopen
  obtain ⟨-, -, f, hstream⟩ := ofContent_inv hcontent
  obtain ⟨loc', content', new, hloc', hitem', hnew, rfl⟩ := save_inv hsave
  rw [hpath, hloc] at hloc'
  cases hloc'
  rw [hitem] at hitem'
  cases hitem'
  obtain ⟨bytes, audio, hwrite, haudio, rfl⟩ := replace_inv hnew
  have hreopen : openFile path (d.put loc (.file (bytes ++ audio))) =
      ofContent path (bytes ++ audio) :=
    openFile_of_item ((Disk.resolve_put_file hitem _ path).trans hloc)
      (Disk.item?_put_file hitem _)
  have hv : u.tag.version.written ≠ .v22 := by cases u.tag.version <;> decide
  have hkept : ∀ f ∈ u.tag.frames, f.Kept u.tag.version.written := fun f hf => by
    obtain ⟨body, hbody, -⟩ := write_inv hwrite
    exact hsound.kept f hf (length_of_writeFrames hbody f hf)
  have hframes : ∀ f ∈ u.tag.frames, f.Reread u.tag.version.written
      (f.reread u.tag.version.written) := fun f hf => (hkept f hf).reread hv
  rw [hreopen]
  have hread : u.tag.frames ≠ [] →
      readTag (bytes ++ audio) = .ok (u.tag.reread u.tag.version.written) := fun hne => by
    rw [readTag, read_write hv hwrite hne hsound.head hframes hsound.distinct]
  have hnone : u.tag.frames = [] → ∃ e, ofContent path (bytes ++ audio) = .error e := fun hnil =>
    (findStream_write_nil hwrite hnil audio).elim fun _ => ofContent_of_error
  refine ⟨hnone, fun hne hrecords => ?_, fun b hb => ⟨?_, hframes⟩⟩
  · have hfound : findStream (bytes ++ audio) = .ok f := by
      rw [findStream_write hv hwrite hne hsound.head hkept hrecords]
      exact findStream_audio haudio hstream
    exact ⟨_, ofContent_of_ok (hread hne) hfound⟩
  · have hne : u.tag.frames ≠ [] := fun hnil => by
      obtain ⟨e, he⟩ := hnone hnil
      rw [hb] at he
      cases he
    have htag := (ofContent_inv hb).2.1
    rw [hread hne] at htag
    exact (Except.ok.inj htag).symm

/-- What edits leave of an open file. -/
theorem after_sets {ops : List Op} (hsound : a.tag.Sound)
    (hops : ∀ op ∈ ops, ∃ f value, op = .set f value) :
    let u := backend.after a ops
    u.path = a.path ∧ u.tag.version = a.tag.version ∧ u.tag.Sound ∧
      ((∀ f ∈ a.tag.frames, meetsDemand f = true) → ∀ f ∈ u.tag.frames, meetsDemand f = true) := by
  induction ops generalizing a with
  | nil => exact ⟨rfl, rfl, hsound, id⟩
  | cons op ops ih =>
    obtain ⟨⟨f, value, rfl⟩, hrest⟩ := List.forall_mem_cons.mp hops
    have hnew : ∀ id c, (∀ key data, c ≠ .record key data) → meetsDemand ⟨id, c, none⟩ = true := by
      intro id c hc
      cases c with
      | record key data => exact absurd rfl (hc key data)
      | _ => rfl
    have hset : (a.set f value).tag.Sound := hsound.set f value
    obtain ⟨hpath, hversion, hleft, hrecords⟩ := ih hset hrest
    exact ⟨hpath, hversion.trans (Tag.version_set a.tag f value), hleft,
      fun h => hrecords (Tag.forall_mem_set h hnew f value)⟩

end

theorem mem_of_lastValue? {f : Field} {value : Text} {ops : List Op}
    (h : lastValue? f ops = some value) : .set f value ∈ ops := by
  obtain ⟨op, hop, hvalue⟩ := List.mem_filterMap.mp (List.mem_of_getLast? h)
  cases op with
  | set g value' =>
    by_cases hg : g = f
    · rw [Op.valueOf?, if_pos hg] at hvalue
      cases hvalue
      exact hg ▸ hop
    · rw [Op.valueOf?, if_neg hg] at hvalue
      cases hvalue
  | _ => cases hvalue

/-- What a field of an edited tag is after the tag was written and read back. -/
theorem get_reread_after {a : AudioFile} {ops : List Op} (hfile : a.tag.FromFile)
    (hsound : (backend.after a ops).tag.Sound)
    (hframes : ∀ f ∈ (backend.after a ops).tag.frames,
      f.Reread a.tag.version.written (f.reread a.tag.version.written))
    (hvalues : ∀ f value, lastValue? f ops = some value → '\x00' ∉ value) (f : Field)
    (hend : a.tag.version = .v24 → f ≠ .comment → lastValue? f ops = none →
      (a.get f).getLast? ≠ some '\x00') :
    ((backend.after a ops).tag.reread a.tag.version.written).get f =
      ((lastValue? f ops).map (a.tag.version.storedValue f)).getD (a.get f) := by
  have hget : (backend.after a ops).tag.get f = (lastValue? f ops).getD (a.get f) :=
    get_after hfile.asRead ops f
  by_cases hcomment : f = .comment
  · subst hcomment
    have hkept : ((backend.after a ops).tag.reread a.tag.version.written).get .comment =
        (backend.after a ops).tag.get .comment :=
      congrArg (Option.getD · []) (Tag.get?_comment_reread hframes)
    rw [hkept, hget]
    cases lastValue? .comment ops with
    | none => rfl
    | some value => exact (Id3.Version.storedValue_comment _ value).symm
  · have hlast : a.tag.version.written = .v24 →
        ((backend.after a ops).tag.get f).getLast? ≠ some '\x00' := by
      intro hwritten
      have hv : a.tag.version = .v24 := by
        revert hwritten
        cases a.tag.version <;> decide
      rw [hget]
      cases hlastf : lastValue? f ops with
      | none => exact hend hv hcomment hlastf
      | some value => exact fun h => hvalues f value hlastf (List.mem_of_getLast? h)
    rw [hsound.asRead.get_reread hframes hcomment hlast, hget]
    cases hlastf : lastValue? f ops with
    | none => exact hfile.readBack_get hcomment
    | some value => exact Id3.Version.readBack_of_not_mem (hvalues f value hlastf) _ f

/-- Edits survive a save. After fields were set, a file is opened again if a frame is left in its tag
and its records are as the search for the stream demands, and it is not if no frame is left. Each
field then reads as it was set last, or as before; only a text of version 2.4 that was not set and
ends in NUL may lose its end, and below version 2.4 an artist is read as the list that its slashes
make of it. -/
theorem edits_survive_save {path : FilePath} {d d' : Disk} {a : AudioFile} {ops : List Op}
    (hopen : openFile path d = .ok a)
    (hops : ∀ op ∈ ops, ∃ f value, op = .set f value ∧ '\x00' ∉ value)
    (hsave : (backend.after a ops).save d = .ok d') :
    ((backend.after a ops).tag.frames = [] → ∃ e, openFile path d' = .error e) ∧
      ((backend.after a ops).tag.frames ≠ [] → (∀ f ∈ a.tag.frames, meetsDemand f = true) →
        ∃ b, openFile path d' = .ok b) ∧
      ∀ b, openFile path d' = .ok b → ∀ f,
        (a.tag.version = .v24 → f ≠ .comment → lastValue? f ops = none →
          (a.get f).getLast? ≠ some '\x00') →
        b.get f = ((lastValue? f ops).map (a.tag.version.storedValue f)).getD (a.get f) := by
  have hfile : a.tag.FromFile := fromFile_of_openFile hopen
  obtain ⟨loc, content, -, -, hcontent⟩ := openFile_inv hopen
  have hpath : a.path = path := (ofContent_inv hcontent).1
  have hsets : ∀ op ∈ ops, ∃ f value, op = .set f value := fun op hop => by
    obtain ⟨f, value, heq, -⟩ := hops op hop
    exact ⟨f, value, heq⟩
  have hvalues : ∀ f value, lastValue? f ops = some value → '\x00' ∉ value := by
    intro f value hvalue
    obtain ⟨g, value', heq, hnul⟩ := hops _ (mem_of_lastValue? hvalue)
    cases heq
    exact hnul
  obtain ⟨hpath', hversion, hsound, hrecords⟩ := after_sets hfile.sound hsets
  obtain ⟨hnil, hsome, htag⟩ := reopen_save hopen (hpath'.trans hpath) hsound hsave
  refine ⟨hnil, fun hne hdemand => hsome hne (hrecords hdemand), fun b hb f hend => ?_⟩
  obtain ⟨hbtag, hframes⟩ := htag b hb
  rw [hversion] at hframes hbtag
  show b.tag.get f = _
  rw [hbtag]
  exact get_reread_after hfile hsound hframes hvalues f hend

/-! ## Samples -/

/-- A disk with one audio file: a frame of audio behind a tag of a version, of which the frames are
given. -/
def sample (major : UInt8) (frames : Bytes) : Disk :=
  { items := [([[97]], .file ([0x49, 0x44, 0x33, major, 0, 0] ++
      Binary.encode 128 4 frames.length ++ frames ++
      ([0xFF, 0xF3, 0x14, 0xC0] ++ List.replicate 20 0)))] }

/-- A title, two artists, a comment, an identifier and a second title, in another character set, in
version 2.2. -/
def oldFrames : Bytes :=
  Utf8.ofString "TT2" ++ [0, 0, 5, 0] ++ Utf8.ofString "Song" ++
    (Utf8.ofString "TP1" ++ [0, 0, 4, 0] ++ Utf8.ofString "A/B") ++
    (Utf8.ofString "COM" ++ [0, 0, 8, 0] ++ Utf8.ofString "eng" ++ [0] ++ Utf8.ofString "old") ++
    (Utf8.ofString "UFI" ++ [0, 0, 3, 0x6F, 0, 1]) ++
    (Utf8.ofString "TT2" ++ [0, 0, 5, 1, 0xFF, 0xFE, 0x41, 0])

def oldFile : AudioFile :=
  ⟨[97], ⟨.v22, [⟨"TPE1".toList, .text ['A', '\x00', 'B'], some .latin1⟩,
    ⟨"COMM".toList, .comment "eng".toList [] "old".toList, some .latin1⟩,
    ⟨"UFID".toList, .record [['o']] [0x6F, 0, 1], none⟩,
    ⟨"TIT2".toList, .text ['A'], some .utf16⟩]⟩, none, .zero⟩

/-- A tag of version 2.2, which is saved as one of version 2.3: the second title has taken the place of
the first and is set twice, the comment is removed, and the list of artists stays as it is. -/
theorem edits_survive_save_upgraded :
    let ops := [Op.set .title ['x'], .set .comment [], .set .year ['9'], .set .title ['y']]
    ∃ d' b, openFile [97] (sample 2 oldFrames) = .ok oldFile ∧
      (backend.after oldFile ops).save (sample 2 oldFrames) = .ok d' ∧
      openFile [97] d' = .ok b ∧ b.get .title = ['y'] ∧ b.get .artist = ['A', '\x00', 'B'] ∧
      b.get .comment = [] ∧ b.get .year = ['9'] := by
  intro ops
  have hopen : openFile [97] (sample 2 oldFrames) = .ok oldFile := by decide +kernel
  have hok : ((backend.after oldFile ops).save (sample 2 oldFrames)).isOk = true := by
    decide +kernel
  have hops : ∀ op ∈ ops, ∃ f value, op = .set f value ∧ '\x00' ∉ value := by
    simp [ops]
  have hend : ∀ f, oldFile.tag.version = .v24 → f ≠ .comment → lastValue? f ops = none →
      (oldFile.get f).getLast? ≠ some '\x00' := fun _ => nofun
  have hsome : (backend.after oldFile ops).tag.frames ≠ [] := by decide +kernel
  cases hsave : (backend.after oldFile ops).save (sample 2 oldFrames) with
  | error e =>
    rw [hsave] at hok
    cases hok
  | ok d' =>
    obtain ⟨-, hreopen, hget⟩ := edits_survive_save hopen hops hsave
    obtain ⟨b, hb⟩ := hreopen hsome (by decide +kernel)
    have hget := fun f => hget b hb f (hend f)
    refine ⟨d', b, hopen, rfl, hb, (hget .title).trans ?_, (hget .artist).trans ?_,
      (hget .comment).trans ?_, (hget .year).trans ?_⟩
    all_goals decide +kernel

/-- An artist with a slash comes back changed from a tag of version 2.3. -/
theorem artist_with_slash_changes :
    let d := sample 3 (Utf8.ofString "TIT2" ++ [0, 0, 0, 5, 0, 0, 0] ++ Utf8.ofString "Song" ++
      (Utf8.ofString "TPE1" ++ [0, 0, 0, 5, 0, 0, 0] ++ Utf8.ofString "Band"))
    ((openFile [97] d).toOption.bind fun a =>
      ((backend.after a [.set .artist "AC/DC".toList]).save d).toOption.bind fun d' =>
        (openFile [97] d').toOption.map fun b => b.get .artist) =
      some ['A', 'C', '\x00', 'D', 'C'] := by
  decide +kernel

end AudioFile

end TagEdit
