import TagEdit.Mpeg.Probe
import TagEdit.Proofs.Tags

/-!
# The stream behind a tag that was written

On the way to the stream, a tag that was written is passed over if it has a frame, and if its records
are as the search wants them to be: texts, links and comments always are. The stream that is found is
the one that was found behind the old tag.
-/

namespace TagEdit.Mpeg

open Binary Id3

/-! ## Demands on contents -/

@[simp] theorem hasBit_zero (mask : Nat) : hasBit 0 mask = false := by
  rw [hasBit, Nat.zero_and]
  rfl

theorem eq_toList {id : Text} {s : String} (h : String.ofList id = s) : id = s.toList := by
  rw [← h, String.toList_ofList]

/-- Whether a frame has what the search for the stream wants of a record of its name. -/
def meetsDemand (f : Id3.Frame) : Bool :=
  match f.content with
  | .record _ data => data.isEmpty || (demand? f.id).all fun d => d.holds data
  | _ => true

section

variable {id : Text} {d : Demand}

/-- The names that a demand is made of. -/
theorem demand?_inv (h : demand? id = some d) :
    (d = .charset ∧ ∃ s ∈ charsetIds, id = s.toList) ∨ d = .nothing ∨
      ∃ s ∈ ["COMM", "USLT", "APIC", "POPM", "PCNT"], id = s.toList := by
  unfold demand? at h
  dsimp only at h
  split at h
  · rename_i hs
    cases h
    exact .inl ⟨rfl, _, List.contains_iff_mem.mp hs, eq_toList rfl⟩
  split at h
  · cases h
    exact .inr (.inl rfl)
  have hmem : ∀ s, String.ofList id = s → s ∈ ["COMM", "USLT", "APIC", "POPM", "PCNT"] →
      ∃ s ∈ ["COMM", "USLT", "APIC", "POPM", "PCNT"], id = s.toList :=
    fun s hs hmem => ⟨s, hmem, eq_toList hs⟩
  split at h
  · rename_i hs
    have hs := List.contains_iff_mem.mp hs
    exact .inr (.inr (hmem _ rfl (List.mem_append_left ["APIC", "POPM", "PCNT"] hs)))
  split at h
  · rename_i hs
    exact .inr (.inr (hmem "APIC" (beq_iff_eq.mp hs) (by decide)))
  split at h
  · rename_i hs
    exact .inr (.inr (hmem "POPM" (beq_iff_eq.mp hs) (by decide)))
  split at h
  · rename_i hs
    exact .inr (.inr (hmem "PCNT" (beq_iff_eq.mp hs) (by decide)))
  · cases h

theorem demand?_of_text (hkind : Kind.ofId id = .text) (h : demand? id = some d) :
    d = .charset ∨ d = .nothing := by
  have hother : ∀ s ∈ ["COMM", "USLT", "APIC", "POPM", "PCNT"], Kind.ofId s.toList ≠ .text := by
    decide
  rcases demand?_inv h with ⟨rfl, -⟩ | rfl | ⟨s, hs, rfl⟩
  · exact .inl rfl
  · exact .inr rfl
  · exact absurd hkind (hother s hs)

theorem demand?_of_link (hkind : Kind.ofId id = .link) (h : demand? id = some d) :
    d = .nothing := by
  have hcharset : ∀ s ∈ charsetIds, Kind.ofId s.toList ≠ .link := by decide +kernel
  have hother : ∀ s ∈ ["COMM", "USLT", "APIC", "POPM", "PCNT"], Kind.ofId s.toList ≠ .link := by
    decide
  rcases demand?_inv h with ⟨-, s, hs, rfl⟩ | rfl | ⟨s, hs, rfl⟩
  · exact absurd hkind (hcharset s hs)
  · rfl
  · exact absurd hkind (hother s hs)

theorem holds_of_kept {v : Id3.Version} {f : Id3.Frame} (h : f.Kept v) (hf : meetsDemand f = true)
    (hd : demand? f.id = some d) : ((f.data v).isEmpty || d.holds (f.data v)) = true := by
  cases h with
  | @text id t cs hkind _ =>
    have hhead : Id3.Charset.ofByte? (cs.getD v.charset).toByte = some _ := ofByte?_toByte _
    rcases demand?_of_text hkind hd with rfl | rfl
    · show (Id3.Charset.ofByte? (cs.getD v.charset).toByte).isSome = true
      rw [hhead]
      rfl
    · rfl
  | @link id t hkind =>
    obtain rfl := demand?_of_link hkind hd
    exact Bool.or_true _
  | @comment l₁ l₂ l₃ e t cs _ _ _ =>
    have hlanguage : demand? commentId = some .language := by decide +kernel
    obtain rfl := Option.some.inj (hlanguage.symm.trans hd)
    rw [Id3.Frame.data, writeContent_comment]
    simp [Demand.holds, ofByte?_toByte]
  | @record id l key data cs hkind _ =>
    have hf : (data.isEmpty || (demand? id).all fun d => d.holds data) = true := hf
    have hd : demand? id = some d := hd
    rw [hd] at hf
    exact hf

end

/-! ## Frames -/

/-- A name of capital letters and digits is read as such. -/
theorem ofBytes_encode {id : Text} (h : isFrameId (Utf8.encode id) = true) :
    ofBytes (Utf8.encode id) = id := by
  have hascii : ∀ c ∈ ofBytes (Utf8.encode id), Utf8.IsAscii c := by
    intro c hc
    obtain ⟨b, hb, rfl⟩ := List.mem_map.mp hc
    have hb := List.all_eq_true.mp h b hb
    simp only [Bool.or_eq_true, Bool.and_eq_true, decide_eq_true_eq] at hb
    show 0 < (Char.ofNat b.toNat).toNat ∧ (Char.ofNat b.toNat).toNat < 128
    rw [toNat_charOf]
    omega
  have hbytes : Utf8.encode (ofBytes (Utf8.encode id)) = Utf8.encode id := by
    rw [Utf8.encode_eq_map hascii]
    show ((Utf8.encode id).map _).map _ = _
    rw [List.map_map]
    refine (List.map_congr_left fun b _ => ?_).trans (List.map_id _)
    show UInt8.ofNat (Char.ofNat b.toNat).toNat = b
    rw [toNat_charOf, UInt8.ofNat_toNat]
  have hread := Utf8.decode?_encode_text (ofBytes (Utf8.encode id))
  rw [hbytes, Utf8.decode?_encode_text] at hread
  exact (Option.some.inj hread).symm

section

variable {v : Id3.Version} {f : Id3.Frame} {bs : Bytes}

theorem content?_zero (v : Id3.Version) (data : Bytes) : content? v 0 data = some data := by
  cases v <;> simp [content?]

theorem frameFits_head (hv : v ≠ .v22) (hid : isFrameId (Utf8.encode f.id) = true)
    (hkept : f.Kept v) (hf : meetsDemand f = true) (rest : Bytes) :
    frameFits v (f.head v rest) = true := by
  have hlength : ¬ (f.data v ++ rest).length < (f.data v).length := by
    rw [List.length_append]
    omega
  have htake : (f.data v ++ rest).take (f.data v).length = f.data v := List.take_left
  unfold frameFits Id3.Frame.head
  simp only [hasBit_zero, Bool.false_or, decide_eq_true_eq, if_neg hlength, if_neg hv,
    ofBytes_encode hid, htake, content?_zero, Option.any_some]
  split
  · rfl
  · rename_i d hd
    exact holds_of_kept hkept hf hd

theorem framesFit_of_head (hv : v ≠ .v22) (hlength : 4 ≤ bs.length) {h : FrameHead}
    (hhead : Id3.readHead v bs = some h)
    (hfits : isFrameId (bs.take 4) = true → frameFits v h = true)
    (hrest : headSize v ≤ (h.rest.drop h.size).length → framesFit v (h.rest.drop h.size) = true) :
    framesFit v bs = true := by
  rw [framesFit]
  simp only [if_neg hv, if_neg (Nat.not_lt.mpr hlength)]
  split
  · rfl
  · rename_i hid
    have hid : isFrameId (bs.take 4) = true := by simpa using hid
    split
    · rename_i e
      rw [hhead] at e
      cases e
    · rename_i h' e
      rw [hhead] at e
      cases e
      rw [hfits hid]
      simp only [Bool.not_true, Bool.false_eq_true, if_false]
      split
      · rfl
      · rename_i hlong
        exact hrest (Nat.not_lt.mp hlong)

theorem framesFit_writeFrames (hv : v ≠ .v22) {fs : List Id3.Frame} {body : Bytes}
    (h : writeFrames v fs = .ok body) (hne : fs ≠ []) (hhead : ∀ f ∈ fs, f.id.head? ≠ some '\x00')
    (hkept : ∀ f ∈ fs, f.Kept v) (hfs : ∀ f ∈ fs, meetsDemand f = true) :
    framesFit v body = true := by
  induction fs generalizing body with
  | nil => exact absurd rfl hne
  | cons f fs ih =>
    obtain ⟨bytes, body', hf, hrest, rfl⟩ := writeFrames_cons_inv h
    rw [List.forall_mem_cons] at hhead hkept hfs
    have hlength := length_writeFrame hf
    have htake : (bytes ++ body').take 4 = Utf8.encode f.id := by
      obtain ⟨hid, -, rfl⟩ := writeFrame_inv hf
      simp only [List.append_assoc]
      exact List.take_left' hid
    have hdrop : ((f.head v body').rest).drop (f.head v body').size = body' := List.drop_left
    refine framesFit_of_head hv (by rw [List.length_append]; omega)
      (readHead_writeFrame hv hf hhead.1 body')
      (fun hid => frameFits_head hv (htake ▸ hid) hkept.1 hfs.1 body') fun hlong => ?_
    rw [hdrop] at hlong ⊢
    cases fs with
    | nil =>
      cases hrest
      rw [headSize_eq hv] at hlong
      cases hlong
    | cons g fs => exact ih hrest (List.cons_ne_nil g fs) hhead.2 hkept.2 hfs.2

end

/-! ## Tags -/

section

variable {v : Id3.Version}

theorem bodyFits_zero (v : Id3.Version) (body : Bytes) : bodyFits v 0 body = framesFit v body := by
  unfold bodyFits
  simp only [hasBit_zero, Bool.and_false, Bool.false_eq_true, if_false]

/-- A tag of which only the header was written is not passed over. -/
theorem framesFit_nil (v : Id3.Version) : framesFit v [] = false := by
  rw [framesFit]
  cases v <;> rfl

theorem skipTag_writeHeader (v : Id3.Version) {body : Bytes} (hsize : body.length < sizeLimit)
    (audio : Bytes) :
    skipTag (writeHeader v body.length ++ body ++ audio) =
      if framesFit v body then some audio else none := by
  have hdecode : decode 128 (encode 128 4 body.length) = body.length :=
    decode_encode (by decide) (by decide) hsize
  have hle : body.length ≤ (body ++ audio).length := by
    rw [List.length_append]
    omega
  have hmajor : Id3.Version.ofMajor? (UInt8.ofNat v.minor).toNat = some v := by cases v <;> rfl
  obtain ⟨s₁, s₂, s₃, s₄, hs⟩ := exists_of_length_four (length_encode 128 4 body.length)
  rw [List.append_assoc, writeHeader]
  rw [hs] at hdecode ⊢
  show skipTag (0x49 :: 0x44 :: 0x33 :: UInt8.ofNat v.minor :: 0 :: 0 :: s₁ :: s₂ :: s₃ :: s₄ ::
    (body ++ audio)) = _
  have hrevision : ((0 : UInt8) != 0xFF) = true := by decide
  have hflags : (0 : UInt8).toNat = 0 := rfl
  rw [skipTag]
  simp only [hmajor, hdecode, hflags, hrevision, bodyFits_zero, List.take_left, List.drop_left,
    decide_eq_true hle, Bool.true_and]

end

/-! ## Streams -/

section

variable {bs rest : Bytes}

theorem nextMark_of_mark {m : Mark} (h : mark? bs = some m) :
    nextMark maxPlaces bs = if bs.length < 16 then none else some (m, bs) := by
  cases bs with
  | nil => cases h
  | cons b bs =>
    show nextMark (0xFFFFE + 1) (b :: bs) = _
    rw [nextMark, h]
    have hdrop : (bs.drop (markContext - 2)).isEmpty = decide ((b :: bs).length < 16) := by
      rw [Bool.eq_iff_iff, List.isEmpty_iff, List.drop_eq_nil_iff, decide_eq_true_eq,
        List.length_cons]
      exact Nat.lt_succ_iff.symm.trans Nat.succ_lt_succ_iff.symm
    simp only [hdrop, decide_eq_true_eq]

theorem findStream_of_short (h : nextMark maxPlaces bs = none) :
    findStream bs = .error .noStream := by
  rw [findStream]
  split
  · rfl
  all_goals rename_i e; rw [h] at e; cases e

theorem findStream_of_tag (h : nextMark maxPlaces bs = some (.tag, bs)) :
    findStream bs = (skipTag bs).elim (.error .malformedTag) findStream := by
  rw [findStream]
  split
  · rename_i e; rw [h] at e; cases e
  · rename_i e; rw [h] at e; cases e
  · rename_i e
    rw [h] at e
    cases e
    split
    · rename_i e
      exact (congrArg (Option.elim · (.error .malformedTag) findStream) e).symm
    · rename_i e
      exact (congrArg (Option.elim · (.error .malformedTag) findStream) e).symm

theorem mark?_tag (rest : Bytes) : mark? (0x49 :: 0x44 :: 0x33 :: rest) = some .tag := rfl

section

variable {v : Id3.Version} {t : Tag} {bytes : Bytes}

/-- The stream behind a tag that was written. -/
theorem findStream_write (hv : v ≠ .v22) (h : write v t = .ok bytes) (hne : t.frames ≠ [])
    (hhead : ∀ f ∈ t.frames, f.id.head? ≠ some '\x00') (hkept : ∀ f ∈ t.frames, f.Kept v)
    (hfs : ∀ f ∈ t.frames, meetsDemand f = true) (audio : Bytes) :
    findStream (bytes ++ audio) = findStream audio := by
  obtain ⟨body, hbody, hsize, rfl⟩ := write_inv h
  have hlength := length_writeFrames hbody hne
  have hlong : ¬ (writeHeader v body.length ++ body ++ audio).length < 16 := by
    rw [List.length_append, List.length_append, writeHeader, List.length_append, length_encode]
    simp only [List.length_cons, List.length_nil]
    omega
  have hmark : nextMark maxPlaces (writeHeader v body.length ++ body ++ audio) = _ :=
    nextMark_of_mark (mark?_tag _)
  rw [if_neg hlong] at hmark
  rw [findStream_of_tag hmark, skipTag_writeHeader v hsize,
    if_pos (framesFit_writeFrames hv hbody hne hhead hkept hfs)]
  rfl

/-- A file with a tag that has no frame is no audio file. -/
theorem findStream_write_nil (h : write v t = .ok bytes) (hnil : t.frames = []) (audio : Bytes) :
    ∃ e, findStream (bytes ++ audio) = .error e := by
  obtain ⟨body, hbody, hsize, rfl⟩ := write_inv h
  rw [hnil] at hbody
  cases hbody
  have hmark : nextMark maxPlaces (writeHeader v 0 ++ [] ++ audio) = _ :=
    nextMark_of_mark (mark?_tag _)
  by_cases hshort : (writeHeader v 0 ++ [] ++ audio).length < 16
  · rw [if_pos hshort] at hmark
    exact ⟨.noStream, findStream_of_short hmark⟩
  · rw [if_neg hshort] at hmark
    have hskip : skipTag (writeHeader v 0 ++ [] ++ audio) = _ := skipTag_writeHeader v hsize audio
    rw [framesFit_nil] at hskip
    refine ⟨.malformedTag, (findStream_of_tag hmark).trans ?_⟩
    rw [hskip]
    rfl

end

theorem readHeader_inv {h : Id3.Header} (hread : readHeader bs = .ok h) :
    ∃ major revision flags s₁ s₂ s₃ s₄, bs = 0x49 :: 0x44 :: 0x33 :: major :: revision :: flags ::
      s₁ :: s₂ :: s₃ :: s₄ :: h.rest ∧ h.size = decode 128 [s₁, s₂, s₃, s₄] := by
  unfold readHeader at hread
  split at hread
  · cases hread
  split at hread
  · rename_i major revision flags s₁ s₂ s₃ s₄ rest _
    split at hread
    · cases hread
    split at hread
    · cases hread
    split at hread
    · cases hread
    · cases hread
      exact ⟨major, revision, flags, s₁, s₂, s₃, s₄, rfl, rfl⟩
  · cases hread

theorem eq_drop_of_skipTag {a b c major revision flags s₁ s₂ s₃ s₄ : UInt8} {rest : Bytes}
    (h : skipTag (a :: b :: c :: major :: revision :: flags :: s₁ :: s₂ :: s₃ :: s₄ :: bs) =
      some rest) : rest = bs.drop (decode 128 [s₁, s₂, s₃, s₄]) := by
  rw [skipTag] at h
  split at h
  · cases h
  · split at h
    · cases h; rfl
    · cases h

/-- The stream of a file is found in what follows its tag. -/
theorem findStream_audio {content audio : Bytes} (h : Id3.audio content = .ok audio) {f : Frame}
    (hf : findStream content = .ok f) : findStream audio = .ok f := by
  unfold Id3.audio at h
  split at h
  · rename_i header hheader
    cases h
    obtain ⟨major, revision, flags, s₁, s₂, s₃, s₄, hbytes, hsize⟩ := readHeader_inv hheader
    have hmark : nextMark maxPlaces content = if content.length < 16 then none else
        some (.tag, content) := by
      rw [hbytes]
      exact nextMark_of_mark (mark?_tag _)
    split at hmark
    · rw [findStream_of_short hmark] at hf
      cases hf
    · rw [findStream_of_tag hmark] at hf
      cases hskip : skipTag content with
      | none => rw [hskip] at hf; cases hf
      | some rest =>
        rw [hskip] at hf
        have hrest : rest = header.rest.drop header.size := by
          rw [hbytes] at hskip
          rw [hsize]
          exact eq_drop_of_skipTag hskip
        exact hrest ▸ hf
  · cases h
    exact hf
  · cases h

end

end TagEdit.Mpeg
