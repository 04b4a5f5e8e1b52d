import TagEdit.Proofs.FieldMap

/-!
# What a set leaves of a field

After a field has been set, every frame that it could be read from holds the new value, and there is
none if the value is empty. Only the year has two such frames beside each other: a tag that has both
keeps the second one as it was.
-/

namespace TagEdit.Id3

/-- The text that a content holds, if it holds one. -/
def Content.text? : Content → Option Text
  | .text value => some value
  | .link url => some url
  | .comment _ _ value => some value
  | .record _ _ => none

namespace Tag

/-- The frames of a field agree with a value: there is none if it is empty, and else there is one at
least and all of them hold it. -/
def Agrees (t : Tag) (f : Field) (value : Text) : Prop :=
  if value = [] then ∀ id ∈ frameIds f, t.select (· == id) = []
  else (∃ id ∈ frameIds f, t.select (· == id) ≠ []) ∧
    ∀ id ∈ frameIds f, ∀ g ∈ t.select (· == id), g.content.text? = some value

/-- A tag has both frames of a year, and the second does not hold a value. -/
def KeepsYear (t : Tag) (value : Text) : Prop :=
  t.select (· == recordedId) ≠ [] ∧ ∃ g ∈ t.select (· == yearId), g.content.text? ≠ some value

variable {t : Tag} {f : Field} {id value : Text}

/-! ## Fields of one frame -/

/-- A field of one name agrees with a value that the only frame of the name holds. -/
theorem agrees_of_select {g : Frame} (hid : frameIds f = [id]) (hg : g.content.text? = some value)
    (hnone : value = [] → t.select (· == id) = [])
    (hsome : value ≠ [] → t.select (· == id) = [g]) : t.Agrees f value := by
  unfold Agrees
  simp only [hid, List.mem_singleton, forall_eq, exists_eq_left]
  split
  · rename_i hvalue
    exact hnone hvalue
  · rename_i hvalue
    rw [hsome hvalue]
    exact ⟨List.cons_ne_nil _ _, by simpa using hg⟩

theorem AsRead.agrees_setOrRemove (h : t.AsRead) (hid : frameIds f = [id]) (hmem : id ∈ textIds)
    (value : Text) : (t.setOrRemove id value).Agrees f value := by
  refine agrees_of_select (g := { id, content := .text value }) hid rfl (fun hvalue => ?_)
    fun hvalue => ?_
  · rw [hvalue]
    exact select_remove_self
  · rw [setOrRemove, if_neg (by simpa using hvalue)]
    exact select_setText_self (h id hmem).1 (h id hmem).2 value

theorem agrees_setComment (t : Tag) (value : Text) :
    (t.setComment value).Agrees .comment value := by
  refine agrees_of_select rfl (g := { id := commentId, content := .comment "eng".toList [] value })
    rfl (fun hvalue => ?_) select_setComment_self
  rw [hvalue]
  exact select_remove_self

/-! ## The year -/

theorem agrees_setYear_nil (t : Tag) : (t.setYear []).Agrees .year [] := by
  have hrecorded : (t.setYear []).select (· == recordedId) = [] :=
    (select_remove (by decide)).trans select_remove_self
  have hyear : (t.setYear []).select (· == yearId) = [] := select_remove_self
  rw [Agrees, if_pos rfl]
  exact List.forall_mem_cons.mpr ⟨hrecorded, List.forall_mem_singleton.mpr hyear⟩

theorem agrees_year_iff (hvalue : value ≠ []) : t.Agrees .year value ↔
    (t.select (· == recordedId) ≠ [] ∨ t.select (· == yearId) ≠ []) ∧
      (∀ g ∈ t.select (· == recordedId), g.content.text? = some value) ∧
      ∀ g ∈ t.select (· == yearId), g.content.text? = some value := by
  have hids : frameIds .year = [recordedId, yearId] := rfl
  rw [Agrees, if_neg hvalue, hids]
  simp

/-- The year is written to the first of its frames that is there. The other one is as it was. -/
theorem AsRead.agrees_setYear_iff (h : t.AsRead) (hvalue : value ≠ []) :
    (t.setYear value).Agrees .year value ↔ ¬ t.KeepsYear value := by
  have hset : t.setYear value = t.setText t.yearFrame value :=
    if_neg (by simpa using hvalue)
  have hself : ∀ id ∈ textIds,
      (t.setText id value).select (· == id) = [{ id, content := .text value }] :=
    fun id hid => select_setText_self (h id hid).1 (h id hid).2 value
  have hother : (t.setText recordedId value).select (· == yearId) = t.select (· == yearId) :=
    select_setText (by decide) value
  have hother' : (t.setText yearId value).select (· == recordedId) = t.select (· == recordedId) :=
    select_setText (by decide) value
  rw [hset, agrees_year_iff hvalue]
  by_cases hrecorded : t.select (· == recordedId) = []
  · have hkeeps : ¬ t.KeepsYear value := fun hkeeps => hkeeps.1 hrecorded
    refine iff_of_true ?_ hkeeps
    by_cases hyear : t.yearFrame = yearId
    · rw [hyear, hother', hself yearId (by decide), hrecorded]
      simp [Content.text?]
    · have hnone : t.select (· == yearId) = [] := by
        by_contra hne
        exact hyear (yearFrame_of_year hrecorded hne)
      rw [t.yearFrame_eq.resolve_right hyear, hother, hself recordedId (by decide), hnone]
      simp [Content.text?]
  · rw [yearFrame_of_recorded hrecorded, hother, hself recordedId (by decide)]
    simp [KeepsYear, hrecorded, Content.text?]

/-! ## Every field -/

/-- After a field has been set, all frames that it could be read from agree with the value. The one
exception is a year that is not empty, in a tag with both frames of a year: the second frame stays,
and it agrees only if it did before. -/
theorem AsRead.agrees_set_iff (h : t.AsRead) (f : Field) (value : Text) :
    (t.set f value).Agrees f value ↔ ¬ (f = .year ∧ value ≠ [] ∧ t.KeepsYear value) := by
  rcases textual_or f with ⟨id, hid⟩ | rfl | rfl
  · have hne : f ≠ .year := by
      rintro rfl
      cases hid
    rw [set_of_textId? hid]
    exact iff_of_true
      (h.agrees_setOrRemove (by simp only [frameIds, hid]) (mem_textIds_of_textId? hid) value)
      fun hyear => hne hyear.1
  · exact iff_of_true (agrees_setComment t value) fun hyear => by cases hyear.1
  · by_cases hvalue : value = []
    · subst hvalue
      exact iff_of_true (agrees_setYear_nil t) fun hyear => hyear.2.1 rfl
    · rw [show t.set .year value = t.setYear value from rfl, h.agrees_setYear_iff hvalue]
      simp [hvalue]

/-- A tag of version 2.4 with the older frame of a year, two comments and a title: each field agrees
with what it is set to. -/
theorem agrees_set_iff_mixed :
    let t : Tag := ⟨.v24, [⟨commentId, .comment ['d'] ['b'] ['2'], none⟩,
      ⟨yearId, .text ['8'], some .latin1⟩, ⟨"TIT2".toList, .text ['t'], some .utf8⟩,
      ⟨commentId, .comment ['e'] ['a'] ['1'], none⟩]⟩
    t.AsRead ∧ (t.set .year ['x']).Agrees .year ['x'] ∧
      (t.set .comment ['y']).Agrees .comment ['y'] ∧ (t.set .title []).Agrees .title [] := by
  intro t
  have h : t.AsRead := by decide
  have hkeeps : ¬ t.KeepsYear ['x'] := fun hkeeps => hkeeps.1 rfl
  exact ⟨h, (h.agrees_set_iff .year ['x']).mpr fun hyear => hkeeps hyear.2.2,
    (h.agrees_set_iff .comment ['y']).mpr (by simp), (h.agrees_set_iff .title []).mpr (by simp)⟩

/-- A tag with both frames of a year: the year is set and read back, and the second frame still says
what it said before. -/
theorem set_leaves_old_year :
    let t : Tag := ⟨.v24, [⟨recordedId, .text "2001".toList, some .utf8⟩,
      ⟨yearId, .text "1998".toList, some .utf8⟩]⟩
    let u := t.set .year "2020".toList
    t.AsRead ∧ u.get .year = "2020".toList ∧
      u.select (· == yearId) = [⟨yearId, .text "1998".toList, some .utf8⟩] ∧
      ¬ u.Agrees .year "2020".toList := by
  intro t u
  refine ⟨by decide, by decide, by decide, fun hagrees => ?_⟩
  have htext := ((agrees_year_iff (by decide)).mp hagrees).2.2
    ⟨yearId, .text "1998".toList, some .utf8⟩ (by decide)
  exact absurd htext (by decide)

end Tag

end TagEdit.Id3
