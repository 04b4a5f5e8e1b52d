import Mathlib.Data.List.Nodup
import TagEdit.Proofs.Contents
import TagEdit.Proofs.FieldMap
import TagEdit.Proofs.Reading

/-!
# Tags that are written read back

The bytes of a frame read back as that frame, those of a tag as all of its frames in order: no two
of them occupy the same slot, however frames are added to a tag, so that none takes the place of
another one.
-/

namespace TagEdit.Id3

open Binary
open Script (exists_of_bind_eq_ok)

/-! ## Heads of frames -/

theorem head?_encode_ne {id : Text} (h : id.head? ≠ some '\x00') :
    (Utf8.encode id).head? ≠ some 0 := by
  cases id with
  | nil => simp
  | cons c id =>
    obtain ⟨b, bs, hc, -⟩ := Utf8.readPiece_encodeChar c []
    rw [Utf8.encode, List.flatMap_cons, hc]
    intro hb
    have hmem : 0 ∈ String.utf8EncodeChar c := by
      rw [hc]
      exact List.mem_cons.mpr (.inl (Option.some.inj hb).symm)
    exact h (congrArg some (Utf8.zero_mem_encodeChar.mp hmem))

section

variable {v : Version} {f : Frame} {bytes : Bytes}

theorem writeFrame_inv (h : writeFrame v f = .ok bytes) :
    (Utf8.encode f.id).length = 4 ∧ (f.data v).length < sizeLimit ∧
      bytes = Utf8.encode f.id ++ encode v.sizeBase 4 (f.data v).length ++ [0, 0] ++ f.data v := by
  unfold writeFrame at h
  dsimp only at h
  split at h
  · cases h
  · rename_i hid
    split at h
    · cases h
    · rename_i hsize
      exact ⟨by simpa using hid, Nat.not_le.mp hsize, (Except.ok.inj h).symm⟩

/-- The head of a frame that was written, with the bytes from its content on. -/
def Frame.head (v : Version) (f : Frame) (rest : Bytes) : FrameHead :=
  ⟨Utf8.encode f.id, (f.data v).length, 0, f.data v ++ rest⟩

theorem exists_of_length_four {bs : Bytes} (h : bs.length = 4) : ∃ a b c d, bs = [a, b, c, d] := by
  match bs with
  | [a, b, c, d] => exact ⟨a, b, c, d, rfl⟩

theorem decode_encode_size (hv : v ≠ .v22) {n : Nat} (hn : n < sizeLimit) :
    decode v.sizeBase (encode v.sizeBase 4 n) = n := by
  cases v with
  | v22 => exact absurd rfl hv
  | v23 => exact decode_encode (by decide) (by decide) (Nat.lt_trans hn (by decide))
  | v24 => exact decode_encode (by decide) (by decide) hn

theorem readHead_writeFrame (hv : v ≠ .v22) (h : writeFrame v f = .ok bytes)
    (hhead : f.id.head? ≠ some '\x00') (rest : Bytes) :
    readHead v (bytes ++ rest) = some (f.head v rest) := by
  obtain ⟨hid, hsize, rfl⟩ := writeFrame_inv h
  have hhead := head?_encode_ne hhead
  have hdecode := decode_encode_size hv hsize
  obtain ⟨a, b, c, d, hbytes⟩ := exists_of_length_four hid
  obtain ⟨s₁, s₂, s₃, s₄, hs⟩ := exists_of_length_four (length_encode v.sizeBase 4 (f.data v).length)
  rw [hs] at hdecode ⊢
  rw [Frame.head, ← hdecode]
  rw [hbytes] at hhead ⊢
  cases v with
  | v22 => exact absurd rfl hv
  | v23 => exact if_neg hhead
  | v24 => exact if_neg hhead

theorem length_writeFrame (h : writeFrame v f = .ok bytes) :
    bytes.length = 10 + (f.data v).length := by
  obtain ⟨hid, -, rfl⟩ := writeFrame_inv h
  simp only [List.length_append, hid, length_encode, List.length_cons, List.length_nil]

theorem headSize_eq (hv : v ≠ .v22) : headSize v = 10 := by
  cases v with
  | v22 => exact absurd rfl hv
  | v23 => rfl
  | v24 => rfl

theorem unpack_zero (v : Version) (data : Bytes) : unpack v 0 data = .ok data := by
  cases v <;> rfl

theorem read_eq (framesFit : Bytes → Bool) (h : FrameHead) (v : Version) :
    h.read framesFit v = (Utf8.decode? h.id).elim (.error .frameId) fun name =>
      let id := if v = .v22 then modernId name else name
      (unpack v h.flags (h.rest.take h.size)).bind fun data =>
        (readContent framesFit v id data).elim (.error (.content id)) fun r =>
          .ok ⟨id, r.1, r.2⟩ := by
  unfold FrameHead.read
  cases Utf8.decode? h.id with
  | none => rfl
  | some name =>
    cases unpack v h.flags (h.rest.take h.size) with
    | error e => rfl
    | ok data =>
      cases hcontent : readContent framesFit v (if v = .v22 then modernId name else name) data with
      | none => simp [bind, Except.bind, hcontent]
      | some r => simp [bind, Except.bind, hcontent, pure, Except.pure]

theorem read_head (hv : v ≠ .v22) {g : Frame} (h : f.Reread v g) (rest : Bytes) :
    (f.head v rest).read (framesFit v maxNested) v = .ok g := by
  have hid : Utf8.decode? (f.head v rest).id = some f.id := Utf8.decode?_encode_text f.id
  have hdata : (f.head v rest).rest.take (f.head v rest).size = f.data v := List.take_left
  have hflags : (f.head v rest).flags = 0 := rfl
  rw [read_eq, hid, hdata, hflags, unpack_zero]
  simp only [Option.elim_some, if_neg hv, Except.bind, h.content]
  rw [← h.id]

end

/-! ## Reading frame by frame -/

section

variable {v : Version} {left : Nat} {t : Tag} {bs : Bytes}

theorem readFrames_zero (v : Version) (t : Tag) (bs : Bytes) : readFrames v 0 t bs = .ok t := by
  rw [readFrames, if_pos rfl]

theorem readFrames_of_none (h : readHead v bs = none) : readFrames v left t bs = .ok t := by
  rw [readFrames]
  split
  · rfl
  · split
    · rfl
    · rename_i e
      rw [h] at e
      cases e

theorem readFrames_of_some {h : FrameHead} (hleft : left ≠ 0) (hh : readHead v bs = some h) :
    readFrames v left t bs = (h.read (framesFit v maxNested) v).bind fun f =>
      readFrames v (left - (headSize v + h.size)) (t.add f) (h.rest.drop h.size) := by
  rw [readFrames, if_neg hleft]
  split
  · rename_i e
    rw [hh] at e
    cases e
  · rename_i h' e
    rw [hh] at e
    cases e
    rfl

end

/-! ## Frames that keep their slots -/

section

variable {v : Version} {f f' g g' : Frame}

/-- No two frames of a list occupy the same slot. -/
def Distinct (fs : List Frame) : Prop := (fs.map Frame.slot).Nodup

theorem Distinct.map_reread {fs : List Frame} (h : Distinct fs)
    (hfs : ∀ f ∈ fs, f.Reread v (f.reread v)) : Distinct (fs.map (Frame.reread v)) := by
  have hslots : (fs.map (Frame.reread v)).map Frame.slot = fs.map Frame.slot := by
    rw [List.map_map]
    exact List.map_congr_left fun f hf => congrArg₂ Prod.mk (hfs f hf).id (hfs f hf).slot
  rw [Distinct, hslots]
  exact h

theorem Distinct.filter {fs : List Frame} (h : Distinct fs) (p : Frame → Bool) :
    Distinct (fs.filter p) := List.Nodup.sublist (List.filter_sublist.map _) h

/-- A frame that is added takes the place of the one in its slot. -/
theorem slots_add (t : Tag) (f : Frame) :
    (t.add f).frames.map Frame.slot = (t.frames.map Frame.slot).erase f.slot ++ [f.slot] := by
  have hslot : f.sameSlot = (f.slot == ·) ∘ Frame.slot := funext fun g => by
    rw [Bool.eq_iff_iff, Frame.sameSlot_iff, Function.comp, beq_iff_eq]
  rw [Tag.add, List.map_append, hslot, ← List.eraseP_map, ← List.erase_eq_eraseP]
  rfl

/-- So adding a frame leaves each slot with one frame at most, whatever the frame holds. -/
theorem Distinct.add {t : Tag} (h : Distinct t.frames) (f : Frame) : Distinct (t.add f).frames := by
  rw [Distinct, slots_add, ← List.concat_eq_append]
  exact List.Nodup.concat (List.Nodup.not_mem_erase h) (List.Nodup.erase f.slot h)

theorem foldl_add {t : Tag} {gs : List Frame} (h : Distinct (t.frames ++ gs)) :
    gs.foldl Tag.add t = { t with frames := t.frames ++ gs } := by
  induction gs generalizing t with
  | nil => rw [List.append_nil]; rfl
  | cons g gs ih =>
    have hadd : t.add g = { t with frames := t.frames ++ [g] } := by
      have hnone : ∀ f ∈ t.frames, ¬ g.sameSlot f = true := fun f hf hslot => by
        rw [Distinct, List.map_append, List.nodup_append] at h
        exact h.2.2 f.slot (List.mem_map_of_mem hf) g.slot (List.mem_cons_self)
          (Frame.sameSlot_iff.mp hslot).symm
      rw [Tag.add, List.eraseP_of_forall_not hnone]
    rw [List.foldl_cons, hadd, ih (by simpa using h)]
    simp

end

/-! ## Reading what was written -/

section

variable {v : Version} {fs : List Frame} {body : Bytes}

theorem writeFrames_cons_inv {f : Frame} (h : writeFrames v (f :: fs) = .ok body) :
    ∃ bytes body', writeFrame v f = .ok bytes ∧ writeFrames v fs = .ok body' ∧
      body = bytes ++ body' := by
  obtain ⟨bytes, hf, h⟩ := exists_of_bind_eq_ok h
  obtain ⟨body', hfs, h⟩ := exists_of_bind_eq_ok h
  cases h
  exact ⟨bytes, body', hf, hfs, rfl⟩

theorem length_of_writeFrames (h : writeFrames v fs = .ok body) :
    ∀ f ∈ fs, (Utf8.encode f.id).length = 4 := by
  induction fs generalizing body with
  | nil => exact List.forall_mem_nil _
  | cons f fs ih =>
    obtain ⟨bytes, body', hf, hfs, -⟩ := writeFrames_cons_inv h
    exact List.forall_mem_cons.mpr ⟨(writeFrame_inv hf).1, ih hfs⟩

theorem readFrames_writeFrames (hv : v ≠ .v22) (h : writeFrames v fs = .ok body)
    (hhead : ∀ f ∈ fs, f.id.head? ≠ some '\x00') (hfs : ∀ f ∈ fs, f.Reread v (f.reread v))
    (t : Tag) (rest : Bytes) :
    readFrames v body.length t (body ++ rest) =
      .ok ((fs.map (Frame.reread v)).foldl Tag.add t) := by
  induction fs generalizing body t with
  | nil =>
    cases h
    exact readFrames_zero v t _
  | cons f fs ih =>
    obtain ⟨bytes, body', hf, hrest, rfl⟩ := writeFrames_cons_inv h
    rw [List.forall_mem_cons] at hhead hfs
    have hlength := length_writeFrame hf
    have hleft : (bytes ++ body').length - (headSize v + (f.data v).length) = body'.length := by
      rw [List.length_append, headSize_eq hv, hlength]
      omega
    have hread := readHead_writeFrame hv hf hhead.1 (body' ++ rest)
    rw [← List.append_assoc] at hread
    rw [readFrames_of_some (by rw [List.length_append]; omega) hread, read_head hv hfs.1]
    show readFrames v ((bytes ++ body').length - (headSize v + (f.data v).length))
      (t.add (f.reread v)) ((f.data v ++ (body' ++ rest)).drop (f.data v).length) = _
    rw [hleft, List.drop_left, ih hrest hhead.2 hfs.2]
    rfl

theorem length_writeFrames (h : writeFrames v fs = .ok body) (hne : fs ≠ []) : 10 ≤ body.length := by
  cases fs with
  | nil => exact absurd rfl hne
  | cons f fs =>
    obtain ⟨bytes, body', hf, -, rfl⟩ := writeFrames_cons_inv h
    have hlength := length_writeFrame hf
    rw [List.length_append]
    omega

end

/-! ## Whole tags -/

section

variable {v : Version} {t : Tag} {bytes : Bytes}

/-- The header of a tag of a given version and size. -/
def writeHeader (v : Version) (size : Nat) : Bytes :=
  [0x49, 0x44, 0x33, UInt8.ofNat v.minor, 0, 0] ++ encode 128 4 size

theorem write_inv (h : write v t = .ok bytes) :
    ∃ body, writeFrames v t.frames = .ok body ∧ body.length < sizeLimit ∧
      bytes = writeHeader v body.length ++ body := by
  obtain ⟨body, hbody, h⟩ := exists_of_bind_eq_ok h
  split at h
  · cases h
  · rename_i hsize
    exact ⟨body, hbody, Nat.not_le.mp hsize, (Except.ok.inj h).symm⟩

/-- The header of a tag that was written, in front of ten bytes or more. -/
theorem readHeader_writeHeader (v : Version) {size : Nat} (hsize : size < sizeLimit)
    {rest : Bytes} (hrest : 2 ≤ rest.length) :
    readHeader (writeHeader v size ++ rest) = .ok ⟨v, 0, size, rest⟩ := by
  have hdecode : decode 128 (encode 128 4 size) = size :=
    decode_encode (by decide) (by decide) hsize
  have hlength : ¬ (writeHeader v size ++ rest).length < minFile := by
    rw [List.length_append, writeHeader, List.length_append, length_encode]
    simp only [minFile, List.length_cons, List.length_nil]
    omega
  obtain ⟨s₁, s₂, s₃, s₄, hs⟩ := exists_of_length_four (length_encode 128 4 size)
  unfold readHeader
  rw [if_neg hlength, writeHeader]
  rw [hs] at hdecode ⊢
  rw [← hdecode]
  cases v <;> rfl

theorem skipExtension_of_flags {h : Header} (hflags : h.flags = 0) (bs : Bytes) :
    h.skipExtension bs = .ok (h.size, bs) := by
  have hbit : (h.version != .v22 && hasBit h.flags 0x40) = false := by
    rw [hflags, Bool.and_eq_false_iff]
    exact .inr (by decide)
  rw [Header.skipExtension, hbit]
  rfl

theorem body_of_flags {h : Header} (hv : h.version ≠ .v22) (hflags : h.flags = 0) :
    h.body = h.rest := by
  unfold Header.body
  split
  · contradiction
  · rw [hflags]; rfl
  · rfl

/-- A tag after it was written in a version and read back. -/
def Tag.reread (v : Version) (t : Tag) : Tag := ⟨v, t.frames.map (Frame.reread v)⟩

theorem read_write (hv : v ≠ .v22) (h : write v t = .ok bytes) (hne : t.frames ≠ [])
    (hhead : ∀ f ∈ t.frames, f.id.head? ≠ some '\x00')
    (hframes : ∀ f ∈ t.frames, f.Reread v (f.reread v)) (hdistinct : Distinct t.frames)
    (audio : Bytes) : read (bytes ++ audio) = .ok (t.reread v) := by
  obtain ⟨body, hbody, hsize, rfl⟩ := write_inv h
  have hlength := length_writeFrames hbody hne
  have hheader : readHeader (writeHeader v body.length ++ body ++ audio) =
      .ok ⟨v, 0, body.length, body ++ audio⟩ := by
    rw [List.append_assoc]
    exact readHeader_writeHeader v hsize (by rw [List.length_append]; omega)
  have hadd : (t.frames.map (Frame.reread v)).foldl Tag.add { version := v } = t.reread v :=
    foldl_add (t := { version := v }) (hdistinct.map_reread hframes)
  have hframes := readFrames_writeFrames hv hbody hhead hframes { version := v } audio
  unfold read
  rw [hheader]
  show Except.bind (Header.skipExtension ⟨v, 0, body.length, body ++ audio⟩ _) _ = _
  rw [skipExtension_of_flags rfl, body_of_flags hv rfl, ← hadd]
  exact hframes

end

end TagEdit.Id3
