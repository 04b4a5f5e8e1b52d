import TagEdit.Id3.Writer
import TagEdit.Proofs.Charsets

/-!
# Contents that are written read back

The name of a frame fixes what it holds. A frame that was read, or that an edit added, is `Kept` by
its tag, and a frame that is kept reads back from its own content as another one in the same slot:
a comment, a link or a record as it was, and a text up to the marks that divide its values.
-/

namespace TagEdit.Id3

/-! ## What frames hold -/

/-- What the frames of a name hold. -/
inductive Kind where
  | comment
  | text
  | link
  | record (layout : Layout)
  deriving DecidableEq

namespace Kind

def ofId (id : Text) : Kind :=
  if id = commentId then .comment
  else if id = groupingId then .text
  else
    match Layout.ofId? id with
    | some l => .record l
    | none =>
      if id.head? = some 'T' then .text
      else if id.head? = some 'W' then .link
      else .record .plain

end Kind

theorem readContent_eq (framesFit : Bytes → Bool) (v : Version) (id : Text) (data : Bytes) :
    readContent framesFit v id data =
      match Kind.ofId id with
      | .comment => readComment data
      | .text => readText v id data
      | .link => (Utf8.decode? data).map fun t => (.link t, none)
      | .record l =>
        readRecord framesFit l (if id = pictureId ∧ v = .v22 then modernPicture data else data) := by
  unfold readContent Kind.ofId
  by_cases hcomment : id = commentId
  · rw [if_pos hcomment, if_pos hcomment]
  rw [if_neg hcomment, if_neg hcomment]
  by_cases hgrouping : id = groupingId
  · rw [if_pos hgrouping, if_pos hgrouping]
  rw [if_neg hgrouping, if_neg hgrouping]
  by_cases hpicture : id = pictureId ∧ v = .v22
  · have hlayout : ∃ l, Layout.ofId? pictureId = some l := ⟨_, rfl⟩
    obtain ⟨l, hl⟩ := hlayout
    rw [if_pos (by simpa using hpicture), hpicture.1, hl, hpicture.2]
    rfl
  · rw [if_neg (by simpa using hpicture)]
    simp only [if_neg hpicture]
    cases Layout.ofId? id with
    | some l => rfl
    | none =>
      by_cases htext : id.head? = some 'T'
      · simp only [htext, if_true]
      by_cases hlink : id.head? = some 'W'
      · simp only [hlink, if_true, if_neg (show ¬ some 'W' = some 'T' by decide)]
      · simp only [if_neg htext, if_neg hlink]

/-! ## Slots -/

/-- What tells the contents of one name apart. -/
def Content.slot : Content → Nat × List Text
  | .text _ => (0, [])
  | .link _ => (1, [])
  | .comment l d _ => (2, [l, d])
  | .record key _ => (3, key)

theorem Content.sameSlot_iff {c d : Content} : c.sameSlot d = true ↔ c.slot = d.slot := by
  cases c <;> cases d <;> simp [sameSlot, slot]

/-- What tells the frames of a tag apart. -/
def Frame.slot (f : Frame) : Text × Nat × List Text := (f.id, f.content.slot)

theorem Frame.sameSlot_iff {f g : Frame} : f.sameSlot g = true ↔ f.slot = g.slot := by
  simp only [Frame.sameSlot, Bool.and_eq_true, beq_iff_eq, Content.sameSlot_iff, Frame.slot,
    Prod.mk.injEq]

/-! ## Frames in memory -/

/-- A frame as a tag keeps it that is going to be written in a version. -/
inductive Frame.Kept (v : Version) : Frame → Prop where
  | text {id t : Text} {cs : Option Charset} : Kind.ofId id = .text →
      (cs.getD v.charset).Has t → Kept v ⟨id, .text t, cs⟩
  | link {id t : Text} : Kind.ofId id = .link → Kept v ⟨id, .link t, none⟩
  | comment {l₁ l₂ l₃ : UInt8} {d t : Text} {cs : Option Charset} :
      (cs.getD v.charset).Has d → '\x00' ∉ d → (cs.getD v.charset).Has t →
      Kept v ⟨commentId, .comment (ofBytes [l₁, l₂, l₃]) d t, cs⟩
  | record {id : Text} {l : Layout} {key : List Text} {data : Bytes} {cs : Option Charset} :
      Kind.ofId id = .record l →
      readRecord (framesFit v maxNested) l data = some (.record key data, cs) →
      Kept v ⟨id, .record key data, cs⟩

/-- Several values as versions below 2.4 divide them. -/
def joinValues (t : Text) : Text := t.map fun c => if c = '\x00' then '/' else c

/-- The values between slashes. -/
def splitValues (t : Text) : Text := t.map fun c => if c = '/' then '\x00' else c

theorem splitValues_joinValues (t : Text) : splitValues (joinValues t) = splitValues t := by
  unfold splitValues joinValues
  rw [List.map_map]
  refine List.map_congr_left fun c _ => ?_
  by_cases hc : c = '\x00'
  · simp [hc]
  · simp [hc]

theorem splitValues_of_not_mem {t : Text} (h : '/' ∉ t) : splitValues t = t := by
  refine (List.map_congr_left fun c hc => ?_).trans (List.map_id t)
  have hne : c ≠ '/' := fun heq => h (heq ▸ hc)
  exact if_neg hne

theorem joinValues_of_not_mem {t : Text} (h : '\x00' ∉ t) : joinValues t = t := by
  refine (List.map_congr_left fun c hc => ?_).trans (List.map_id t)
  have hne : c ≠ '\x00' := fun heq => h (heq ▸ hc)
  exact if_neg hne

theorem not_mem_splitValues (t : Text) : '/' ∉ splitValues t := by
  intro h
  obtain ⟨c, -, hc⟩ := List.mem_map.mp h
  split at hc
  · cases hc
  · contradiction

theorem not_mem_joinValues (t : Text) : '\x00' ∉ joinValues t := by
  intro h
  obtain ⟨c, -, hc⟩ := List.mem_map.mp h
  split at hc
  · cases hc
  · contradiction

theorem Charset.Has.map {cs : Charset} {t : Text} {f : Char → Char}
    (hf : ∀ c, c.toNat < 256 → (f c).toNat < 256) (h : cs.Has t) : cs.Has (t.map f) := by
  rintro hcs c hc
  obtain ⟨d, hd, rfl⟩ := List.mem_map.mp hc
  exact hf d (h hcs d hd)

theorem has_splitValues {cs : Charset} {t : Text} (h : cs.Has t) : cs.Has (splitValues t) := by
  refine h.map fun c hc => ?_
  split
  · decide
  · exact hc

theorem has_joinValues {cs : Charset} {t : Text} (h : cs.Has t) : cs.Has (joinValues t) := by
  refine h.map fun c hc => ?_
  split
  · decide
  · exact hc

/-- What a text of some name is after it was written in a version and read back. -/
def Version.reread (v : Version) (id t : Text) : Text :=
  match v with
  | .v24 => t
  | _ => if listsValues id then splitValues t else joinValues t

/-- The bytes of a frame behind its head. -/
def Frame.data (v : Version) (f : Frame) : Bytes :=
  writeContent v (f.charset.getD v.charset) f.content

/-- A frame reads back as another one after it was written in a version. -/
structure Frame.Reread (v : Version) (f g : Frame) : Prop where
  id : g.id = f.id
  content : readContent (framesFit v maxNested) v f.id (f.data v) = some (g.content, g.charset)
  slot : g.content.slot = f.content.slot
  /-- In version 2.4, characters NUL at the end of a text are lost. -/
  text : ∀ t, f.content = .text t → (v = .v24 → t.getLast? ≠ some '\x00') →
    g.content = .text (v.reread f.id t)
  other : (∀ t, f.content ≠ .text t) → g.content = f.content

theorem ofByte?_toByte (cs : Charset) : Charset.ofByte? cs.toByte = some cs := by
  cases cs <;> rfl

theorem toNat_charOf (b : UInt8) : (Char.ofNat b.toNat).toNat = b.toNat :=
  Utf8.toNat_ofNat (.inl (by have := b.toNat_lt; omega))

theorem encode_ofBytes (bs : Bytes) : Charset.latin1.encode (ofBytes bs) = bs := by
  show (bs.map _).map _ = bs
  rw [List.map_map]
  refine (List.map_congr_left fun b _ => ?_).trans (List.map_id bs)
  show (if (Char.ofNat b.toNat).toNat < 256 then _ else _) = b
  rw [toNat_charOf, if_pos b.toNat_lt, UInt8.ofNat_toNat]

/-! ## Reading what was written -/

section

variable {v : Version} {t : Text} {cs : Charset}

theorem readText_writeContent (hv : v ≠ .v22) (id : Text) (h : cs.Has t) :
    ∃ s, readText v id (writeContent v cs (.text t)) = some (.text s, some cs) ∧
      ((v = .v24 → t.getLast? ≠ some '\x00') → s = v.reread id t) := by
  cases v with
  | v22 => exact absurd rfl hv
  | v23 =>
    have hhas := has_joinValues h
    have hread : cs.decode? (cs.untilTerminator (cs.encode (joinValues t))) =
        some (joinValues t) := by
      rw [Charset.untilTerminator_encode hhas (not_mem_joinValues t), Charset.decode?_encode hhas]
    have hback : (if listsValues id then splitValues (joinValues t) else joinValues t) =
        Version.v23.reread id t := by
      rw [splitValues_joinValues]
      rfl
    refine ⟨Version.v23.reread id t, ?_, fun _ => rfl⟩
    show (Charset.ofByte? cs.toByte).bind (fun cs' =>
      (cs'.decode? (cs'.untilTerminator (cs.encode (joinValues t)))).bind _) = _
    rw [ofByte?_toByte, Option.bind_some, hread, Option.bind_some, ← hback]
    rfl
  | v24 =>
    obtain ⟨s, hs, hlast⟩ := Charset.decode?_trimTerminators h
    refine ⟨s, ?_, fun hend => hlast (hend rfl)⟩
    show (Charset.ofByte? cs.toByte).bind _ = _
    rw [ofByte?_toByte, Option.bind_some]
    show Option.bind (cs.decode? (cs.trimTerminators (cs.encode t))) _ = _
    rw [hs]
    rfl

theorem writeContent_comment (v : Version) (cs : Charset) (l₁ l₂ l₃ : UInt8) (d t : Text) :
    writeContent v cs (.comment (ofBytes [l₁, l₂, l₃]) d t) =
      cs.toByte :: l₁ :: l₂ :: l₃ :: (cs.encode d ++ cs.terminator ++ cs.encode t) := by
  rw [writeContent, encode_ofBytes]
  rfl

theorem readComment_writeContent {l₁ l₂ l₃ : UInt8} {d : Text} (hd : cs.Has d)
    (hnul : '\x00' ∉ d) (h : cs.Has t) :
    readComment (writeContent v cs (.comment (ofBytes [l₁, l₂, l₃]) d t)) =
      some (.comment (ofBytes [l₁, l₂, l₃]) d t, some cs) := by
  have hcaption : readCaption? cs (cs.encode d ++ cs.terminator ++ cs.encode t) =
      some (d, cs.encode t) := by
    rw [readCaption?, Charset.split_encode_append hd hnul]
    show Option.bind (cs.decode? (cs.encode d)) _ = _
    rw [Charset.decode?_encode hd]
    rfl
  rw [writeContent_comment]
  show (Charset.ofByte? cs.toByte).bind (fun cs' =>
    (readCaption? cs' (cs.encode d ++ cs.terminator ++ cs.encode t)).bind fun r =>
      (cs'.decode? r.2).bind _) = _
  rw [ofByte?_toByte, Option.bind_some, hcaption, Option.bind_some, Charset.decode?_encode h]
  rfl

end

theorem Frame.exists_reread_of_ne {v : Version} {f : Frame} (cs : Option Charset)
    (hne : ∀ t, f.content ≠ .text t)
    (hread : readContent (framesFit v maxNested) v f.id (f.data v) = some (f.content, cs)) :
    ∃ g, f.Reread v g :=
  ⟨{ f with charset := cs }, rfl, hread, rfl, fun t ht => absurd ht (hne t), fun _ => rfl⟩

theorem Frame.Kept.exists_reread {v : Version} {f : Frame} (hv : v ≠ .v22) (h : f.Kept v) :
    ∃ g, f.Reread v g := by
  cases h with
  | @text id t cs hkind hhas =>
    obtain ⟨s, hread, hs⟩ := readText_writeContent hv id hhas
    refine ⟨⟨id, .text s, some (cs.getD v.charset)⟩, rfl, ?_, rfl, ?_, ?_⟩
    · rw [readContent_eq, hkind]
      exact hread
    · rintro t' ht' hend
      cases ht'
      exact congrArg Content.text (hs hend)
    · exact fun hne => absurd rfl (hne t)
  | @link id t hkind =>
    refine Frame.exists_reread_of_ne none (fun _ => nofun) ?_
    rw [readContent_eq, hkind]
    show (Utf8.decode? (Utf8.encode t)).map _ = _
    rw [Utf8.decode?_encode_text]
    rfl
  | @comment l₁ l₂ l₃ d t cs hd hnul ht =>
    refine Frame.exists_reread_of_ne (some (cs.getD v.charset)) (fun _ => nofun) ?_
    rw [readContent_eq]
    exact readComment_writeContent hd hnul ht
  | @record id l key data cs hkind hread =>
    refine Frame.exists_reread_of_ne cs (fun _ => nofun) ?_
    rw [readContent_eq, hkind]
    simp only [if_neg (fun hpicture : id = pictureId ∧ v = .v22 => hv hpicture.2)]
    exact hread

/-- A frame after it was written in a version and read back. -/
def Frame.reread (v : Version) (f : Frame) : Frame :=
  match readContent (framesFit v maxNested) v f.id (f.data v) with
  | some (c, cs) => ⟨f.id, c, cs⟩
  | none => f

/-- What is kept reads back. -/
theorem Frame.Kept.reread {v : Version} {f : Frame} (hv : v ≠ .v22) (h : f.Kept v) :
    f.Reread v (f.reread v) := by
  obtain ⟨g, hg⟩ := h.exists_reread hv
  have heq : f.reread v = g := by
    rw [Frame.reread, hg.content, ← hg.id]
  exact heq ▸ hg

/-! ## Reading keeps -/

/-- Whether a record has frames inside. -/
def Layout.hasFrames (l : Layout) : Bool := l.parts.any fun p => p.1 == .frames

theorem readKey?_congr {fits fits' : Bytes → Bool} {cs : Charset} {ps : List (Part × Bool)}
    (h : (ps.any fun p => p.1 == .frames) = false) (bs : Bytes) :
    readKey? fits cs ps bs = readKey? fits' cs ps bs := by
  induction ps generalizing bs with
  | nil => rfl
  | cons p ps ih =>
    rw [List.any_cons, Bool.or_eq_false_iff] at h
    have hpart : p.1.read? fits cs bs = p.1.read? fits' cs bs := by
      obtain ⟨part, inKey⟩ := p
      cases part with
      | frames => cases h.1
      | _ => rfl
    obtain ⟨part, inKey⟩ := p
    show (part.read? fits cs bs).bind _ = (part.read? fits' cs bs).bind _
    rw [hpart]
    refine congrArg (Option.bind _) (funext fun r => ?_)
    exact congrArg (Option.bind · _) (ih h.2 r.2)

theorem readRecord_congr {fits fits' : Bytes → Bool} {l : Layout} (h : l.hasFrames = false)
    (data : Bytes) : readRecord fits l data = readRecord fits' l data := by
  unfold readRecord Layout.read?
  refine congrArg (Option.map _) ?_
  split
  · split
    · rfl
    · refine congrArg (Option.bind _) (funext fun cs => ?_)
      rw [readKey?_congr h]
  · rw [readKey?_congr h]

section

variable {v : Version} {id : Text} {data : Bytes} {c : Content} {cs : Option Charset}

theorem readText_inv (h : readText v id data = some (c, cs)) :
    ∃ t cs', c = .text t ∧ cs = some cs' ∧ cs'.Has t ∧ v.written.reread id t = t := by
  cases data with
  | nil => cases h
  | cons b body =>
    obtain ⟨cs', -, h⟩ := Option.bind_eq_some_iff.mp h
    have hold : ∀ t, cs'.decode? (cs'.untilTerminator body) = some t →
        cs'.Has (if listsValues id then splitValues t else t) ∧
        Version.v23.reread id (if listsValues id then splitValues t else t) =
          if listsValues id then splitValues t else t := by
      intro t ht
      have hhas := Charset.has_of_decode? ht
      have hnul := Charset.not_mem_of_untilTerminator ht
      show _ ∧ (if listsValues id then _ else _) = _
      split
      · exact ⟨has_splitValues hhas, splitValues_of_not_mem (not_mem_splitValues t)⟩
      · exact ⟨hhas, joinValues_of_not_mem hnul⟩
    cases v with
    | v24 =>
      obtain ⟨t, ht, h⟩ := Option.bind_eq_some_iff.mp h
      cases h
      exact ⟨t, cs', rfl, rfl, Charset.has_of_decode? ht, rfl⟩
    | v23 =>
      obtain ⟨t, ht, h⟩ := Option.bind_eq_some_iff.mp h
      cases h
      exact ⟨_, cs', rfl, rfl, (hold t ht).1, (hold t ht).2⟩
    | v22 =>
      obtain ⟨t, ht, h⟩ := Option.bind_eq_some_iff.mp h
      cases h
      exact ⟨_, cs', rfl, rfl, (hold t ht).1, (hold t ht).2⟩

theorem readComment_inv (h : readComment data = some (c, cs)) :
    ∃ l₁ l₂ l₃ d t cs', c = .comment (ofBytes [l₁, l₂, l₃]) d t ∧ cs = some cs' ∧ cs'.Has d ∧
      '\x00' ∉ d ∧ cs'.Has t := by
  match data with
  | [] | [_] | [_, _] | [_, _, _] => cases h
  | b :: l₁ :: l₂ :: l₃ :: body =>
    obtain ⟨cs', -, h⟩ := Option.bind_eq_some_iff.mp h
    obtain ⟨⟨d, rest⟩, hcaption, h⟩ := Option.bind_eq_some_iff.mp h
    obtain ⟨t, ht, h⟩ := Option.bind_eq_some_iff.mp h
    obtain ⟨⟨p, rest'⟩, hsplit, hcaption⟩ := Option.bind_eq_some_iff.mp hcaption
    obtain ⟨d', hd, hcaption⟩ := Option.bind_eq_some_iff.mp hcaption
    cases hcaption
    cases h
    exact ⟨l₁, l₂, l₃, d, t, cs', rfl, rfl, Charset.has_of_decode? hd,
      Charset.not_mem_of_split (Charset.split_fst hsplit) hd, Charset.has_of_decode? ht⟩

theorem readRecord_inv {fits : Bytes → Bool} {l : Layout}
    (h : readRecord fits l data = some (c, cs)) : ∃ key, c = .record key data := by
  obtain ⟨⟨cs', key⟩, -, h⟩ := Option.map_eq_some_iff.mp h
  cases h
  exact ⟨key, rfl⟩

theorem Kind.eq_commentId (h : Kind.ofId id = .comment) : id = commentId := by
  refine Decidable.byContradiction fun hne => ?_
  rw [Kind.ofId, if_neg hne] at h
  split at h
  · cases h
  · split at h
    · cases h
    · split_ifs at h

/-- What a frame of some name may hold after it was read. -/
inductive ReadAs (framesFit : Bytes → Bool) (v : Version) (id : Text) :
    Content → Option Charset → Prop where
  | text {t : Text} {cs : Charset} : Kind.ofId id = .text → cs.Has t →
      v.written.reread id t = t → ReadAs framesFit v id (.text t) (some cs)
  | link {t : Text} : Kind.ofId id = .link → ReadAs framesFit v id (.link t) none
  | comment {l₁ l₂ l₃ : UInt8} {d t : Text} {cs : Charset} : Kind.ofId id = .comment → cs.Has d →
      '\x00' ∉ d → cs.Has t →
      ReadAs framesFit v id (.comment (ofBytes [l₁, l₂, l₃]) d t) (some cs)
  | record {l : Layout} {key : List Text} {data : Bytes} {cs : Option Charset} :
      Kind.ofId id = .record l → readRecord framesFit l data = some (.record key data, cs) →
      ReadAs framesFit v id (.record key data) cs

variable {fits : Bytes → Bool}

theorem readAs_of_readContent (hread : readContent fits v id data = some (c, cs)) :
    ReadAs fits v id c cs := by
  rw [readContent_eq] at hread
  cases hkind : Kind.ofId id with
  | comment =>
    rw [hkind] at hread
    obtain ⟨l₁, l₂, l₃, d, t, cs', rfl, rfl, hd, hnul, ht⟩ := readComment_inv hread
    exact .comment hkind hd hnul ht
  | text =>
    rw [hkind] at hread
    obtain ⟨t, cs', rfl, rfl, hhas, hreread⟩ := readText_inv hread
    exact .text hkind hhas hreread
  | link =>
    rw [hkind] at hread
    obtain ⟨t, -, h⟩ := Option.map_eq_some_iff.mp hread
    cases h
    exact .link hkind
  | record l =>
    rw [hkind] at hread
    obtain ⟨key, rfl⟩ := readRecord_inv hread
    exact .record hkind hread

/-- What is read stays as it is when it is written and read again. -/
theorem ReadAs.reread {t : Text} (h : ReadAs fits v id (.text t) cs) :
    v.written.reread id t = t := by
  cases h with
  | text _ _ hreread => exact hreread

/-- What is read is kept by the version in which it will be written, if no record of version 2.2 has
frames inside, which this version would read in another way. -/
theorem ReadAs.kept (h : ReadAs (framesFit v maxNested) v id c cs)
    (hinside : v = .v22 → ∀ l, Kind.ofId id = .record l → l.hasFrames = false) :
    Frame.Kept v.written ⟨id, c, cs⟩ := by
  cases h with
  | text hkind hhas => exact .text hkind hhas
  | link hkind => exact .link hkind
  | comment hkind hd hnul ht =>
    obtain rfl := Kind.eq_commentId hkind
    exact .comment hd hnul ht
  | @record l key data cs hkind hread =>
    refine .record hkind ?_
    cases v with
    | v22 => exact (readRecord_congr (hinside rfl l hkind) _).trans hread
    | v23 => exact hread
    | v24 => exact hread

end

end TagEdit.Id3
