import TagEdit.AudioFile
import TagEdit.Proofs.Trace

/-!
# A tag as a map from fields to texts

Every field has frame names of its own. An operation on a field changes frames of these names
only, and a field is read from frames of these names only, so that fields do not disturb each
other. What was set last is read back, whatever other operations came in between.
-/

namespace TagEdit.Id3

def Content.isText : Content → Bool
  | .text _ => true
  | _ => false

theorem Content.sameSlot_of_isText {c : Content} (h : c.isText = true) (value : Text) :
    (Content.text value).sameSlot c = true := by
  cases c <;> simp_all [isText, sameSlot]

namespace Tag

/-! ## Frames by their names -/

/-- The frames of which the name is wanted, in order. -/
def select (t : Tag) (wanted : Text → Bool) : List Frame := t.frames.filter fun f => wanted f.id

/-- The names of the frames of a field. -/
def frameIds (f : Field) : List Text :=
  match textId? f with
  | some id => [id]
  | none => if f = .comment then [commentId] else [recordedId, yearId]

/-- The names of the frames that hold the text of a field as their own. -/
def textIds : List Text := (Field.all.filterMap textId?) ++ [recordedId, yearId]

/-- The names of the frames that edits may change. -/
def editedIds : List Text := lengthId :: Field.all.flatMap frameIds

example : editedIds.map String.ofList =
    ["TLEN", "TIT2", "TPE1", "TALB", "TCON", "TRCK", "COMM", "TDRC", "TYER"] := by decide

/-- A tag as it is read: at most one frame of each name that holds a field's text, and what it
holds is a text. -/
def AsRead (t : Tag) : Prop :=
  ∀ id ∈ textIds, (t.select (· == id)).length ≤ 1 ∧
    ∀ f ∈ t.select (· == id), f.content.isText = true

instance (t : Tag) : Decidable t.AsRead :=
  inferInstanceAs (Decidable (∀ id ∈ textIds, _ ∧ ∀ f ∈ t.select (· == id), _))

/-- A field is one text frame, or it is the comment or the year. -/
theorem textual_or (f : Field) : (∃ id, textId? f = some id) ∨ f = .comment ∨ f = .year := by
  cases f <;> simp [textId?]

theorem set_of_textId? {f : Field} {id : Text} (h : textId? f = some id) (t : Tag)
    (value : Text) : t.set f value = t.setOrRemove id value := by
  simp only [set, h]

theorem frameIds_disjoint {f g : Field} (h : f ≠ g) :
    ∀ id ∈ frameIds f, (frameIds g).contains id = false := by
  revert h
  cases f <;> cases g <;> decide

section

variable {t : Tag} {wanted : Text → Bool} {id : Text}

@[simp] theorem mem_select {f : Frame} : f ∈ t.select wanted ↔ f ∈ t.frames ∧ wanted f.id = true :=
  List.mem_filter

theorem find?_eq_head? (t : Tag) (id : Text) : t.find? id = (t.select (· == id)).head? := by
  rw [select, List.head?_filter]
  rfl

/-! ## What operations leave -/

theorem select_remove (h : wanted id = false) : (t.remove id).select wanted = t.select wanted := by
  unfold remove select
  rw [List.filter_filter]
  refine List.filter_congr fun f _ => ?_
  by_cases hf : f.id = id
  · simp [hf, h]
  · simp [hf]

theorem select_remove_self : (t.remove id).select (· == id) = [] := by
  simp [remove, select, List.filter_filter]

theorem select_add {f : Frame} (h : wanted f.id = false) :
    (t.add f).select wanted = t.select wanted := by
  have herase : ∀ frames : List Frame, (frames.eraseP f.sameSlot).filter (fun g => wanted g.id) =
      frames.filter fun g => wanted g.id := by
    intro frames
    induction frames with
    | nil => rfl
    | cons g frames ih =>
      by_cases hslot : f.sameSlot g = true
      · have hid : f.id = g.id := by
          simp only [Frame.sameSlot, Bool.and_eq_true, beq_iff_eq] at hslot
          exact hslot.1
        rw [List.eraseP_cons_of_pos hslot, List.filter_cons_of_neg (by simp [← hid, h])]
      · rw [List.eraseP_cons_of_neg hslot, List.filter_cons, List.filter_cons, ih]
  simp [add, select, herase, h]

theorem select_setText (h : wanted id = false) (value : Text) :
    (t.setText id value).select wanted = t.select wanted := select_add h

theorem select_setOrRemove (h : wanted id = false) (value : Text) :
    (t.setOrRemove id value).select wanted = t.select wanted := by
  unfold setOrRemove
  split
  · exact select_remove h
  · exact select_setText h value

theorem yearFrame_eq (t : Tag) : t.yearFrame = recordedId ∨ t.yearFrame = yearId := by
  unfold yearFrame
  split
  · exact .inl rfl
  split
  · exact .inr rfl
  · exact .inl rfl

theorem select_setComment (h : wanted commentId = false) (value : Text) :
    (t.setComment value).select wanted = t.select wanted := by
  simp only [setComment]
  split
  · exact select_remove h
  · exact (select_add h).trans (select_remove h)

theorem select_setYear (hrecorded : wanted recordedId = false) (hyear : wanted yearId = false)
    (value : Text) : (t.setYear value).select wanted = t.select wanted := by
  unfold setYear
  split
  · exact (select_remove hyear).trans (select_remove hrecorded)
  · rcases t.yearFrame_eq with heq | heq
    · rw [heq]
      exact select_setText hrecorded value
    · rw [heq]
      exact select_setText hyear value

/-- Setting a field leaves the frames of all other names. -/
theorem select_set {f : Field} (h : ∀ id ∈ frameIds f, wanted id = false) (t : Tag)
    (value : Text) : (t.set f value).select wanted = t.select wanted := by
  rcases textual_or f with ⟨id, hid⟩ | rfl | rfl
  · rw [set_of_textId? hid]
    exact select_setOrRemove (h id (by simp [frameIds, hid])) value
  · exact select_setComment (h commentId (by decide)) value
  · exact select_setYear (h recordedId (by decide)) (h yearId (by decide)) value

theorem select_setLength (h : wanted lengthId = false) (d : Duration) :
    (t.setLength d).select wanted = t.select wanted := select_setText h _

/-! ## What is read back -/

/-- A comment is read from the first frame of its name that holds one. -/
theorem get?_comment (t : Tag) :
    t.get? .comment = (t.select (· == commentId)).findSome? commentText? := by
  show t.frames.findSome? commentText? = _
  unfold select
  induction t.frames with
  | nil => rfl
  | cons g frames ih =>
    by_cases hg : g.id = commentId
    · rw [List.filter_cons_of_pos (by simp [hg]), List.findSome?_cons, List.findSome?_cons, ih]
    · have hnone : commentText? g = none := if_neg hg
      rw [List.filter_cons_of_neg (by simp [hg]), List.findSome?_cons, hnone]
      exact ih

/-- A field is read from its own frames. -/
theorem get_congr {u : Tag} {f : Field}
    (h : t.select (frameIds f).contains = u.select (frameIds f).contains) : t.get f = u.get f := by
  have hselect : ∀ id ∈ frameIds f, t.select (· == id) = u.select (· == id) := by
    intro id hid
    have hfilter : ∀ t : Tag, t.select (· == id) =
        (t.select (frameIds f).contains).filter fun g => g.id == id := by
      intro t
      rw [select, select, List.filter_filter]
      refine List.filter_congr fun g _ => ?_
      by_cases hg : g.id = id
      · simp [hg, hid]
      · simp [hg]
    rw [hfilter t, hfilter u, h]
  have hfind : ∀ id ∈ frameIds f, t.find? id = u.find? id := fun id hid => by
    rw [find?_eq_head?, find?_eq_head?, hselect id hid]
  rcases textual_or f with ⟨id, hid⟩ | rfl | rfl
  · have hget := hfind id (by simp [frameIds, hid])
    simp only [get, get?, hid, text?, hget]
  · rw [get, get, get?_comment, get?_comment, hselect commentId (by decide)]
  · have hrecorded := hfind recordedId (by decide)
    have hyear := hfind yearId (by decide)
    show ((t.text? recordedId).or (t.text? yearId)).getD [] = _
    unfold text?
    rw [hrecorded, hyear]
    rfl

/-- Setting a field does not disturb another one. -/
theorem get_set_of_ne {f g : Field} (h : f ≠ g) (t : Tag) (value : Text) :
    (t.set f value).get g = t.get g :=
  get_congr (select_set (frameIds_disjoint h) t value)

theorem get_setLength (t : Tag) (f : Field) (d : Duration) : (t.setLength d).get f = t.get f :=
  get_congr (select_setLength (by cases f <;> decide) d)

/-- A text takes the place of the one that its frame held. -/
theorem select_setText_self (hone : (t.select (· == id)).length ≤ 1)
    (htext : ∀ f ∈ t.select (· == id), f.content.isText = true) (value : Text) :
    (t.setText id value).select (· == id) = [{ id, content := .text value }] := by
  have herase : ∀ frames : List Frame, (frames.filter fun f => f.id == id).length ≤ 1 →
      (∀ f ∈ frames.filter (fun f => f.id == id), f.content.isText = true) →
      (frames.eraseP ({ id, content := .text value : Frame }).sameSlot).filter
        (fun f => f.id == id) = [] := by
    intro frames hone htext
    induction frames with
    | nil => rfl
    | cons f frames ih =>
      by_cases hid : f.id = id
      · simp only [List.filter_cons, hid, beq_self_eq_true, if_true] at hone htext
        have hcontent := Content.sameSlot_of_isText (htext f List.mem_cons_self) value
        have hslot : ({ id, content := .text value : Frame }).sameSlot f = true := by
          simp [Frame.sameSlot, hid, hcontent]
        rw [List.eraseP_cons_of_pos hslot]
        exact List.eq_nil_of_length_eq_zero (by simpa using hone)
      · have hneg : (f.id == id) = false := by simp [hid]
        have hslot : ¬ ({ id, content := .text value : Frame }).sameSlot f = true := by
          simp [Frame.sameSlot, Ne.symm hid]
        simp only [List.filter_cons, hneg, Bool.false_eq_true, if_false] at hone htext
        simp only [List.eraseP_cons_of_neg hslot, List.filter_cons, hneg, Bool.false_eq_true,
          if_false]
        exact ih hone htext
  unfold setText add select
  rw [List.filter_append, herase t.frames hone htext]
  simp

/-- All comments go before one is added, so nothing is in its slot. -/
theorem select_setComment_self {value : Text} (hvalue : value ≠ []) :
    (t.setComment value).select (· == commentId) =
      [{ id := commentId, content := .comment "eng".toList [] value }] := by
  have hslot : ∀ g ∈ (t.remove commentId).frames,
      ¬ ({ id := commentId, content := .comment "eng".toList [] value : Frame }).sameSlot g =
        true := by
    intro g hg hslot
    simp only [Frame.sameSlot, Bool.and_eq_true, beq_iff_eq] at hslot
    have hid : ¬ g.id = commentId := by simpa using (List.mem_filter.mp hg).2
    exact hid hslot.1.symm
  have hnone : (t.remove commentId).select (· == commentId) = [] := select_remove_self
  simp only [setComment, if_neg (mt List.isEmpty_iff.mp hvalue), add,
    List.eraseP_of_forall_not hslot]
  rw [select] at hnone ⊢
  rw [List.filter_append, hnone]
  rfl

theorem text?_of_select {f : Frame} (h : t.select (· == id) = [f]) : t.text? id = f.text? := by
  rw [text?, find?_eq_head?, h]
  rfl

theorem text?_of_select_nil (h : t.select (· == id) = []) : t.text? id = none := by
  rw [text?, find?_eq_head?, h]
  rfl

end

theorem AsRead.text?_setText {t : Tag} (h : t.AsRead) {id : Text} (hid : id ∈ textIds)
    (value : Text) : (t.setText id value).text? id = some value :=
  text?_of_select (select_setText_self (h id hid).1 (h id hid).2 value)

theorem AsRead.text?_setOrRemove {t : Tag} (h : t.AsRead) {id : Text} (hid : id ∈ textIds)
    (value : Text) : ((t.setOrRemove id value).text? id).getD [] = value := by
  unfold setOrRemove
  split
  · rename_i hempty
    rw [text?_of_select_nil select_remove_self]
    exact (List.isEmpty_iff.mp hempty).symm
  · rw [h.text?_setText hid]
    rfl

theorem get_setComment (t : Tag) (value : Text) : (t.setComment value).get .comment = value := by
  rw [get, get?_comment]
  by_cases hvalue : value = []
  · have hnone : (t.setComment value).select (· == commentId) = [] := by
      rw [hvalue]
      exact select_remove_self
    rw [hnone, hvalue]
    rfl
  · rw [select_setComment_self hvalue]
    rfl

/-- The year is in the frame of the later versions if there is one, and else in the other one. -/
theorem yearFrame_of_recorded {t : Tag} (h : t.select (· == recordedId) ≠ []) :
    t.yearFrame = recordedId := by
  rw [yearFrame, find?_eq_head?, if_pos (List.isSome_head?.mpr h)]

theorem yearFrame_of_year {t : Tag} (hrecorded : t.select (· == recordedId) = [])
    (h : t.select (· == yearId) ≠ []) : t.yearFrame = yearId := by
  simp [yearFrame, find?_eq_head?, hrecorded, List.isSome_head?, h]

/-- The year is read from the frame in which it was set. -/
theorem AsRead.get_setYear {t : Tag} (h : t.AsRead) (value : Text) :
    (t.setYear value).get .year = value := by
  show (((t.setYear value).text? recordedId).or ((t.setYear value).text? yearId)).getD [] = value
  unfold setYear
  split
  · rename_i hempty
    have hrecorded : ((t.remove recordedId).remove yearId).text? recordedId = none :=
      text?_of_select_nil ((select_remove (by decide)).trans select_remove_self)
    rw [hrecorded, text?_of_select_nil select_remove_self]
    exact (List.isEmpty_iff.mp hempty).symm
  · have hread : ∀ id ∈ textIds, (t.setText id value).text? id = some value :=
      fun id hid => h.text?_setText hid value
    by_cases hrecorded : t.select (· == recordedId) = []
    · have hnone : (t.setText yearId value).text? recordedId = none :=
        text?_of_select_nil ((select_setText (by decide) value).trans hrecorded)
      rcases t.yearFrame_eq with heq | heq
      · rw [heq, hread _ (by decide)]
        rfl
      · rw [heq, hnone, hread _ (by decide)]
        rfl
    · rw [yearFrame_of_recorded hrecorded, hread _ (by decide)]
      rfl

theorem mem_textIds_of_textId? {f : Field} {id : Text} (hid : textId? f = some id) : id ∈ textIds :=
  List.mem_append_left _ (List.mem_filterMap.mpr ⟨f, Field.mem_all f, hid⟩)

/-- What a field was set to is read back. -/
theorem AsRead.get_set {t : Tag} (h : t.AsRead) (f : Field) (value : Text) :
    (t.set f value).get f = value := by
  rcases textual_or f with ⟨id, hid⟩ | rfl | rfl
  · have hget : ∀ t : Tag, t.get? f = t.text? id := fun t => by simp only [get?, hid]
    rw [set_of_textId? hid, get, hget]
    exact h.text?_setOrRemove (mem_textIds_of_textId? hid) value
  · exact get_setComment t value
  · exact h.get_setYear value

/-! ## Tags stay as they are read -/

theorem AsRead.of_select {t u : Tag} (h : t.AsRead) {id : Text}
    (hother : ∀ id' ∈ textIds, id' ≠ id → u.select (· == id') = t.select (· == id'))
    (hsame : id ∈ textIds → u.select (· == id) = [] ∨
      ∃ value, u.select (· == id) = [{ id, content := .text value }]) : u.AsRead := by
  intro id' hid'
  by_cases heq : id' = id
  · subst heq
    rcases hsame hid' with hnil | ⟨value, hone⟩
    · simp [hnil]
    · simp [hone, Content.isText]
  · rw [hother id' hid' heq]
    exact h id' hid'

theorem AsRead.remove {t : Tag} (h : t.AsRead) (id : Text) : (t.remove id).AsRead :=
  h.of_select (fun _ _ hne => select_remove (by simpa using Ne.symm hne))
    fun _ => .inl select_remove_self

theorem AsRead.add {t : Tag} (h : t.AsRead) {f : Frame} (hid : f.id ∉ textIds) :
    (t.add f).AsRead :=
  h.of_select (fun _ _ hne => select_add (by simpa using Ne.symm hne)) fun hmem => absurd hmem hid

theorem AsRead.setText {t : Tag} (h : t.AsRead) (id value : Text) : (t.setText id value).AsRead :=
  h.of_select (fun _ _ hne => select_setText (by simpa using Ne.symm hne) value)
    fun hid => .inr ⟨value, select_setText_self (h id hid).1 (h id hid).2 value⟩

theorem AsRead.set {t : Tag} (h : t.AsRead) (f : Field) (value : Text) :
    (t.set f value).AsRead := by
  rcases textual_or f with ⟨id, hid⟩ | rfl | rfl
  · rw [set_of_textId? hid, setOrRemove]
    split
    · exact h.remove id
    · exact h.setText id value
  · show (t.setComment value).AsRead
    simp only [setComment]
    split
    · exact h.remove commentId
    · exact (h.remove commentId).add (show commentId ∉ textIds by decide)
  · show (t.setYear value).AsRead
    unfold setYear
    split
    · exact (h.remove recordedId).remove yearId
    · exact h.setText _ value

theorem AsRead.setLength {t : Tag} (h : t.AsRead) (d : Duration) : (t.setLength d).AsRead :=
  h.setText lengthId _

end Tag

end TagEdit.Id3

/-! ## Operations on an open file -/

namespace TagEdit

open Id3 Id3.Tag

/-- The value that an operation sets a field to. -/
def Op.valueOf? (f : Field) : Op → Option Text
  | .set g value => if g = f then some value else none
  | _ => none

/-- The value that a field was set to last. -/
def lastValue? (f : Field) (ops : List Op) : Option Text := (ops.filterMap (Op.valueOf? f)).getLast?

theorem lastValue?_cons (f : Field) (op : Op) (ops : List Op) :
    lastValue? f (op :: ops) = (lastValue? f ops).or (op.valueOf? f) := by
  unfold lastValue?
  rcases hop : op.valueOf? f with _ | value
  · rw [List.filterMap_cons_none hop, Option.or_none]
  · rw [List.filterMap_cons_some hop, List.getLast?_cons]
    cases (ops.filterMap (Op.valueOf? f)).getLast? <;> rfl

namespace AudioFile

variable {a : AudioFile}

/-- What an operation does to the tag of a file. -/
theorem perform_cases (a : AudioFile) (op : Op) :
    (∃ f value, op = .set f value ∧ backend.perform a op = a.set f value) ∨
      (∀ f, op.valueOf? f = none) ∧ ((backend.perform a op).tag = a.tag ∨
        ∃ d, (backend.perform a op).tag = a.tag.setLength d) := by
  cases op with
  | set f value => exact .inl ⟨f, value, rfl, rfl⟩
  | updateLength =>
    refine .inr ⟨fun f => rfl, ?_⟩
    show a.updateLength.tag = a.tag ∨ ∃ d, a.updateLength.tag = a.tag.setLength d
    unfold updateLength
    split
    · exact .inr ⟨_, rfl⟩
    · exact .inl rfl
  | opened p => exact .inr ⟨fun f => rfl, .inl rfl⟩
  | get f => exact .inr ⟨fun f => rfl, .inl rfl⟩
  | save => exact .inr ⟨fun f => rfl, .inl rfl⟩
  | close p => exact .inr ⟨fun f => rfl, .inl rfl⟩

theorem asRead_perform (h : a.tag.AsRead) (op : Op) : (backend.perform a op).tag.AsRead := by
  rcases perform_cases a op with ⟨f, value, -, hset⟩ | ⟨-, htag | ⟨d, htag⟩⟩
  · rw [hset]
    exact h.set f value
  · rw [htag]
    exact h
  · rw [htag]
    exact h.setLength d

/-- A field that an operation does not set keeps its value. -/
theorem get_perform (h : a.tag.AsRead) (op : Op) (f : Field) :
    (backend.perform a op).get f = (op.valueOf? f).getD (a.get f) := by
  rcases perform_cases a op with ⟨g, value, rfl, hset⟩ | ⟨hnone, htag | ⟨d, htag⟩⟩
  · have hvalue : (Op.set g value).valueOf? f = if g = f then some value else none := rfl
    rw [hset, hvalue]
    by_cases hg : g = f
    · subst hg
      rw [if_pos rfl]
      exact h.get_set g value
    · rw [if_neg hg]
      exact get_set_of_ne hg a.tag value
  · rw [hnone, AudioFile.get, htag]
    rfl
  · rw [hnone, AudioFile.get, htag]
    exact get_setLength a.tag f d

theorem select_perform {wanted : Text → Bool} (hlength : wanted lengthId = false) (op : Op)
    (hset : ∀ f value, op = .set f value → ∀ id ∈ frameIds f, wanted id = false) :
    (backend.perform a op).tag.select wanted = a.tag.select wanted := by
  rcases perform_cases a op with ⟨f, value, hop, htag⟩ | ⟨-, htag | ⟨d, htag⟩⟩
  · rw [htag]
    exact select_set (hset f value hop) a.tag value
  · rw [htag]
  · rw [htag]
    exact select_setLength hlength d

theorem get_after (h : a.tag.AsRead) (ops : List Op) (f : Field) :
    (backend.after a ops).get f = (lastValue? f ops).getD (a.get f) := by
  induction ops generalizing a with
  | nil => rfl
  | cons op ops ih =>
    rw [Backend.after_cons, ih (asRead_perform h op), get_perform h, lastValue?_cons]
    cases lastValue? f ops <;> rfl

theorem select_after {wanted : Text → Bool} (hlength : wanted lengthId = false) (ops : List Op)
    (hset : ∀ f value, .set f value ∈ ops → ∀ id ∈ frameIds f, wanted id = false) :
    (backend.after a ops).tag.select wanted = a.tag.select wanted := by
  induction ops generalizing a with
  | nil => rfl
  | cons op ops ih =>
    rw [Backend.after_cons, ih fun f value hmem => hset f value (List.mem_cons_of_mem _ hmem)]
    exact select_perform hlength op fun f value hop => hset f value (hop ▸ List.mem_cons_self)

theorem ne_of_lastValue?_eq_none {f g : Field} {ops : List Op} (h : lastValue? f ops = none)
    {value : Text} (hmem : .set g value ∈ ops) : g ≠ f := by
  rintro rfl
  have hnil := List.getLast?_eq_none_iff.mp h
  have hnone := List.filterMap_eq_nil_iff.mp hnil _ hmem
  simp [Op.valueOf?] at hnone

/-- After any operations on an open file, a field has the value that it was set to last, or its
first one; frames that belong to no field are in place, and so are those of a field that was
never set. -/
theorem operations_edit_field_map (a : AudioFile) (h : a.tag.AsRead) (ops : List Op) :
    let u := backend.after a ops
    (∀ f, u.get f = (lastValue? f ops).getD (a.get f)) ∧
    u.tag.select (fun id => !editedIds.contains id) =
      a.tag.select (fun id => !editedIds.contains id) ∧
    ∀ f, lastValue? f ops = none →
      u.tag.select (frameIds f).contains = a.tag.select (frameIds f).contains := by
  intro u
  refine ⟨get_after h ops, select_after (by decide) ops fun f _ _ id hid => ?_, fun f hnever => ?_⟩
  · have hmem : id ∈ editedIds :=
      List.mem_cons_of_mem _ (List.mem_flatMap.mpr ⟨f, Field.mem_all f, hid⟩)
    simp [hmem]
  · refine select_after (by cases f <;> decide) ops fun g value hmem => ?_
    exact frameIds_disjoint (ne_of_lastValue?_eq_none hnever hmem)

/-- A tag of version 2.3 with both frames of a year, two comments and a picture: the year is set
twice, the comments are removed and the length is stored. -/
theorem operations_edit_field_map_year :
    let frame := fun (id : String) (content : Id3.Content) =>
      (⟨id.toList, content, none⟩ : Id3.Frame)
    let tag : Id3.Tag := ⟨.v23, [frame "COMM" (.comment ['e'] ['a'] ['1']),
      frame "TYER" (.text ['8']), frame "APIC" (.record [] [1]), frame "TDRC" (.text ['9']),
      frame "COMM" (.comment ['d'] ['b'] ['2']), frame "TIT2" (.text ['t'])]⟩
    let a : AudioFile := ⟨[97], tag, some (.ofMillis 5), .ofMillis 5⟩
    let u := backend.after a [.set .year ['x'], .set .comment [], .updateLength, .set .year ['y']]
    a.tag.AsRead ∧ u.get .year = ['y'] ∧ u.get .comment = [] ∧ u.get .title = ['t'] ∧
      u.tag.select (fun id => !editedIds.contains id) = [frame "APIC" (.record [] [1])] := by
  intro frame tag a u
  have hread : a.tag.AsRead := by decide
  obtain ⟨hget, hother, -⟩ := operations_edit_field_map a hread
    [.set .year ['x'], .set .comment [], .updateLength, .set .year ['y']]
  exact ⟨hread, hget .year, hget .comment, (hget .title).trans rfl, hother.trans rfl⟩

end AudioFile

end TagEdit
