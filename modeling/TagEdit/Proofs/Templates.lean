import Mathlib.Data.List.Chain
import TagEdit.Proofs.Decimals
import TagEdit.Proofs.Spelling

/-!
# Templates in normal form

A body is read piece by piece, and characters that stand for themselves are gathered into texts. So
what is read is in normal form: no text is empty, and no two texts are neighbours. Every template in
normal form can be spelled, and is read back from its spelling. Outside of replacements a dollar
sign that names a group is a fault, wherever it stands, unless a backslash takes it.
-/

namespace TagEdit.Script

open Text Unicode

/-! ## Normal forms and their spelling -/

def Part.isText : Part → Bool
  | .text _ => true
  | _ => false

/-- No text is empty, and no two texts are neighbours. -/
structure Template.IsNormal (ps : Template) : Prop where
  no_empty : .text [] ∉ ps
  apart : ps.IsChain fun p q => p.isText = true → q.isText = false

/-- Groups occur only where they are allowed, and their numbers fit into 64 bits. -/
def Template.Admits (groups : Bool) (ps : Template) : Prop :=
  ∀ n, .group n ∈ ps → groups = true ∧ n ≤ 18446744073709551615

/-- The letter that a backslash makes a change of case. -/
def Modifier.letter : Modifier → Char
  | .next .upper => 'u'
  | .next .lower => 'l'
  | .span .upper => 'U'
  | .span .lower => 'L'
  | .endSpan => 'E'

/-- A piece as it is spelled: names and numbers in braces, and in a text a backslash before each
backslash and each dollar sign. -/
def Part.spell : Part → Text
  | .text t => backslashed ['\\', '$'] t
  | .var v => '$' :: '{' :: (v.name ++ ['}'])
  | .group n => '$' :: '{' :: (decimal n ++ ['}'])
  | .modifier m => ['\\', m.letter]

/-- A template as it is spelled. -/
def Template.spell (ps : Template) : Text := ps.flatMap Part.spell

variable {groups : Bool} {ps : Template} {p : Part} {c : Char} {t cs body front rest name : Text}

/-! ## Names behind a dollar sign -/

theorem readName_braced (hname : '}' ∉ name) (rest : Text) :
    readName ('{' :: (name ++ '}' :: rest)) = .ok (some (name, rest)) := by
  have hne : ∀ c ∈ name, (c != '}') = true := fun c hc => bne_iff_ne.mpr fun h => hname (h ▸ hc)
  obtain ⟨htake, hdrop⟩ := span_append (m := '}' :: rest) hne (by simp)
  simp only [readName, htake, hdrop]

/-- What is read as a name stands in front of the rest, perhaps in braces. The sign of the whole
match is read as the name of the first group. -/
theorem exists_of_readName (h : readName cs = .ok (some (name, rest))) :
    ∃ front, cs = front ++ rest ∧ ∀ c ∈ front, c ∈ name ∨ c ∈ ['{', '}', '&'] := by
  unfold readName at h
  split at h
  · cases h
  · rename_i inner
    split at h
    · cases h
    · rename_i d after hdrop
      cases h
      have hd : d = '}' := by
        have hstop := not_of_mem_head?_dropWhile (p := (· != '}')) (l := inner) (by rw [hdrop]; rfl)
        simpa using hstop
      have hinner := List.takeWhile_append_dropWhile (p := (· != '}')) (l := inner)
      rw [hdrop, hd] at hinner
      refine ⟨'{' :: (inner.takeWhile (· != '}') ++ ['}']), by simp [hinner], fun c hc => ?_⟩
      simp only [List.mem_cons, List.mem_append, List.not_mem_nil, or_false] at hc ⊢
      tauto
  · cases h
    exact ⟨['&'], rfl, by simp⟩
  · split at h
    · cases h
      exact ⟨_, List.takeWhile_append_dropWhile.symm, fun c hc => .inl hc⟩
    · split at h
      · cases h
        exact ⟨_, List.takeWhile_append_dropWhile.symm, fun c hc => .inl hc⟩
      · cases h

/-- A name made of digits is that of a group. -/
theorem reference_digits (hne : name ≠ []) (hdigits : ∀ c ∈ name, c.isDigit = true) :
    reference groups name =
      if !groups then .error (.groupOutsideSubstitution name)
      else if maxGroup < ofDigits name then .error (.groupTooLarge name)
      else .ok (.group (ofDigits name)) := by
  have hname : (!name.isEmpty && name.all Char.isDigit) = true := by
    rw [List.all_eq_true.mpr hdigits, List.isEmpty_eq_false_iff.mpr hne]
    rfl
  rw [reference, if_pos hname]

theorem reference_eq_ok (h : reference groups name = .ok p) :
    (∃ v, p = .var v ∧ name = v.name) ∨
      groups = true ∧ ∃ n, p = .group n ∧ n ≤ maxGroup := by
  unfold reference at h
  split at h
  · split at h
    · cases h
    · rename_i hgroups
      split at h
      · cases h
      · rename_i hsize
        cases h
        exact .inr ⟨by simpa using hgroups, _, rfl, Nat.not_lt.mp hsize⟩
  · split at h
    · rename_i v hv
      cases h
      exact .inl ⟨v, rfl, Var.name_of_ofName? hv⟩
    · cases h

/-! ## What is read is normal -/

namespace Template

theorem isNormal_nil : IsNormal [] := ⟨List.not_mem_nil, .nil⟩

theorem isNormal_cons : IsNormal (p :: ps) ↔
    p ≠ .text [] ∧ (∀ q ∈ ps.head?, p.isText = true → q.isText = false) ∧ IsNormal ps := by
  constructor
  · rintro ⟨hempty, hapart⟩
    obtain ⟨hhead, hapart⟩ := List.isChain_cons.mp hapart
    exact ⟨fun h => hempty (h ▸ List.mem_cons_self), hhead,
      fun h => hempty (List.mem_cons_of_mem _ h), hapart⟩
  · rintro ⟨hp, hhead, hempty, hapart⟩
    refine ⟨fun h => ?_, List.isChain_cons.mpr ⟨hhead, hapart⟩⟩
    rcases List.mem_cons.mp h with h | h
    · exact hp h.symm
    · exact hempty h

/-- A character in front joins the text that follows it, or makes a text of its own. -/
theorem isNormal_consChar (c : Char) (h : IsNormal ps) : IsNormal (consChar c ps) := by
  rcases ps with _ | ⟨p, ps⟩
  · exact isNormal_cons.mpr ⟨nofun, nofun, h⟩
  obtain ⟨-, hhead, hps⟩ := isNormal_cons.mp h
  cases p with
  | text t => exact isNormal_cons.mpr ⟨nofun, hhead, hps⟩
  | var _ | group _ | modifier _ =>
    refine isNormal_cons.mpr ⟨nofun, ?_, h⟩
    rintro q ⟨⟩ -
    rfl

theorem isNormal_cons_of_not_isText (hp : p.isText = false) (h : IsNormal ps) :
    IsNormal (p :: ps) := by
  refine isNormal_cons.mpr ⟨?_, fun q _ htext => ?_, h⟩
  · rintro rfl
    cases hp
  · rw [hp] at htext
    cases htext

theorem admits_cons : Admits groups (p :: ps) ↔ Admits groups [p] ∧ Admits groups ps := by
  constructor
  · exact fun h => ⟨fun n hn => h n (List.mem_cons.mpr (.inl (List.mem_singleton.mp hn))),
      fun n hn => h n (List.mem_cons_of_mem p hn)⟩
  · rintro ⟨hp, hps⟩ n hn
    rcases List.mem_cons.mp hn with rfl | hn
    · exact hp n List.mem_cons_self
    · exact hps n hn

theorem admits_singleton (h : ∀ n, p ≠ .group n) : Admits groups [p] := fun n hn =>
  absurd (List.mem_singleton.mp hn).symm (h n)

theorem admits_consChar (c : Char) (h : Admits groups ps) : Admits groups (consChar c ps) := by
  rcases ps with _ | ⟨p, ps⟩
  · exact admits_singleton nofun
  cases p with
  | text t => exact admits_cons.mpr ⟨admits_singleton nofun, (admits_cons.mp h).2⟩
  | var _ | group _ | modifier _ => exact admits_cons.mpr ⟨admits_singleton nofun, h⟩

/-- What a name refers to is no text, and no group that is not admitted. -/
theorem normal_of_reference (h : reference groups name = .ok p) :
    p.isText = false ∧ Admits groups [p] := by
  rcases reference_eq_ok h with ⟨v, rfl, -⟩ | ⟨hgroups, n, rfl, hn⟩
  · exact ⟨rfl, admits_singleton nofun⟩
  · refine ⟨rfl, fun m hm => ?_⟩
    cases List.mem_singleton.mp hm
    exact ⟨hgroups, hn⟩

/-- Whatever a result is, if it is a template, is normal and has no group that is not admitted. -/
def NormalResult (groups : Bool) (r : Except Cause Template) : Prop :=
  ∀ ps, r = .ok ps → IsNormal ps ∧ Admits groups ps

namespace NormalResult

variable {r : Except Cause Template}

theorem error (cause : Cause) : NormalResult groups (.error cause) := nofun

theorem char (c : Char) (h : NormalResult groups r) : NormalResult groups (r.map (consChar c)) := by
  intro ps hps
  obtain ⟨qs, hqs, rfl⟩ := exists_of_map_eq_ok hps
  obtain ⟨hnormal, hadmits⟩ := h qs hqs
  exact ⟨isNormal_consChar c hnormal, admits_consChar c hadmits⟩

theorem part (htext : p.isText = false) (hp : Admits groups [p]) (h : NormalResult groups r) :
    NormalResult groups (r.map (p :: ·)) := by
  intro ps hps
  obtain ⟨qs, hqs, rfl⟩ := exists_of_map_eq_ok hps
  obtain ⟨hnormal, hadmits⟩ := h qs hqs
  exact ⟨isNormal_cons_of_not_isText htext hnormal, admits_cons.mpr ⟨hp, hadmits⟩⟩

end NormalResult

/-- Each piece of a body is a character, which joins what follows it, or stands for something that
is no text. -/
theorem normalResult_parse (groups : Bool) (body : Text) :
    NormalResult groups (Template.parse groups body) := by
  fun_induction Template.parse groups body with
  | case1 =>
    rintro ps ⟨⟩
    exact ⟨isNormal_nil, nofun⟩
  | case2 =>
    rintro ps ⟨⟩
    exact ⟨isNormal_consChar '\\' isNormal_nil, admits_singleton nofun⟩
  | case3 => exact .error _
  | case4 e cs m hm ih => exact .part rfl (admits_singleton nofun) ih
  | case5 e cs d hd ih => exact .char d ih
  | case6 => exact .error _
  | case7 cs hname _ ih => exact .char '$' ih
  | case8 => exact .error _
  | case9 cs r hname _ p href _ ih =>
    obtain ⟨htext, hadmits⟩ := normal_of_reference href
    exact .part htext hadmits ih
  | case10 c cs _ _ ih => exact .char c ih

/-! ## Spellings are read back -/

/-- A text in front of no other text is a piece of its own. -/
theorem foldr_consChar (ht : t ≠ []) (hps : ∀ q ∈ ps.head?, q.isText = false) :
    t.foldr consChar ps = .text t :: ps := by
  induction t with
  | nil => exact absurd rfl ht
  | cons c t ih =>
    rcases t with _ | ⟨d, t⟩
    · rcases ps with _ | ⟨q, ps⟩
      · rfl
      · have hq : q.isText = false := hps q rfl
        cases q with
        | text _ => cases hq
        | var _ | group _ | modifier _ => rfl
    · rw [List.foldr_cons, ih (List.cons_ne_nil d t)]
      rfl

theorem parse_modifier (m : Modifier) (groups : Bool) (cs : Text) :
    Template.parse groups ('\\' :: m.letter :: cs) =
      (Template.parse groups cs).map (.modifier m :: ·) := by
  have hescape : escape m.letter = .ok (.inl m) := by
    rcases m with (_ | _) | (_ | _) | _ <;> rfl
  rw [Template.parse]
  simp only [hescape, if_true]

theorem parse_group {n : Nat} (hgroups : groups = true) (hn : n ≤ maxGroup) (cs : Text) :
    Template.parse groups ('$' :: '{' :: (decimal n ++ '}' :: cs)) =
      (Template.parse groups cs).map (.group n :: ·) := by
  have hbrace : '}' ∉ decimal n := not_mem_of_digits (by decide) fun c => isDigit_of_mem_decimal
  have href : reference groups (decimal n) = .ok (.group n) := by
    rw [reference_digits (decimal_ne_nil n) fun c => isDigit_of_mem_decimal, hgroups,
      ofDigits_decimal, if_neg (by decide), if_neg (Nat.not_lt.mpr hn)]
  exact parse_reference (readName_braced hbrace cs) href

/-- A normal template is read back from its spelling. -/
theorem parse_spell (hnormal : IsNormal ps) (hadmits : Admits groups ps) :
    Template.parse groups ps.spell = .ok ps := by
  induction ps with
  | nil => rw [spell, List.flatMap_nil, Template.parse]
  | cons p ps ih =>
    obtain ⟨hp, hhead, hnormal⟩ := isNormal_cons.mp hnormal
    obtain ⟨hfirst, hadmits⟩ := admits_cons.mp hadmits
    have hrest := ih hnormal hadmits
    rw [spell, List.flatMap_cons, ← spell]
    cases p with
    | text t =>
      have hspecial : ∀ c ∈ ['\\', '$'], isAlphanumeric c = false := by
        simp only [List.mem_cons, List.not_mem_nil, or_false]
        rintro c (rfl | rfl) <;> decide
      have ht : t ≠ [] := fun h => hp (h ▸ rfl)
      -- What follows is no text, so no character of this one joins it.
      rw [Part.spell, parse_backslashed hspecial (by simp) (by simp), hrest]
      exact congrArg Except.ok (foldr_consChar ht fun q hq => hhead q hq rfl)
    | var v =>
      have hspell : Part.spell (.var v) ++ spell ps = '$' :: '{' :: (v.name ++ '}' :: spell ps) := by
        simp [Part.spell]
      rw [hspell, parse_braced, hrest]
      rfl
    | group n =>
      obtain ⟨hgroups, hn⟩ := hfirst n List.mem_cons_self
      have hspell : Part.spell (.group n) ++ spell ps =
          '$' :: '{' :: (decimal n ++ '}' :: spell ps) := by simp [Part.spell]
      rw [hspell, parse_group hgroups hn, hrest]
      rfl
    | modifier m =>
      have hmodifier := parse_modifier m groups (spell ps)
      rw [hrest] at hmodifier
      exact hmodifier

end Template

/-! ## References to groups -/

/-- The text behind a dollar sign names a group: by its number, with braces or without, or as the
whole match. -/
inductive NamesGroup : Text → Prop where
  | number {c : Char} (hc : c.isDigit = true) (rest : Text) : NamesGroup (c :: rest)
  | braced {ds : Text} (hne : ds ≠ []) (hds : ∀ c ∈ ds, c.isDigit = true) (rest : Text) :
      NamesGroup ('{' :: (ds ++ '}' :: rest))
  | whole (rest : Text) : NamesGroup ('&' :: rest)

/-- A body refers to a group by a dollar sign that no backslash takes. -/
inductive RefersToGroup : Text → Prop where
  | here {cs : Text} (h : NamesGroup cs) : RefersToGroup ('$' :: cs)
  | escape (c : Char) {cs : Text} (h : RefersToGroup cs) : RefersToGroup ('\\' :: c :: cs)
  | char {c : Char} {cs : Text} (hc : c ≠ '\\') (h : RefersToGroup cs) : RefersToGroup (c :: cs)

theorem readName_digit (hc : c.isDigit = true) (rest : Text) :
    readName (c :: rest) = .ok (some ((c :: rest).takeWhile Char.isDigit,
      (c :: rest).dropWhile Char.isDigit)) := by
  unfold readName
  split
  case h_4 heq =>
    cases heq
    rw [if_pos hc]
  case h_1 heq => cases heq
  all_goals
    rename_i heq
    cases heq
    cases hc

/-- The name of a group is made of digits. -/
theorem NamesGroup.exists_readName (h : NamesGroup cs) :
    ∃ name rest, readName cs = .ok (some (name, rest)) ∧ name ≠ [] ∧
      ∀ c ∈ name, c.isDigit = true := by
  cases h with
  | number hc rest =>
    refine ⟨_, _, readName_digit hc rest, ?_, fun d hd => List.mem_takeWhile_imp hd⟩
    rw [List.takeWhile_cons_of_pos hc]
    exact List.cons_ne_nil _ _
  | braced hne hds rest =>
    exact ⟨_, rest, readName_braced (not_mem_of_digits (by decide) hds) rest, hne, hds⟩
  | whole rest => exact ⟨['0'], rest, rfl, List.cons_ne_nil _ _, by simp⟩

theorem NamesGroup.not_reference (h : NamesGroup cs)
    (hname : readName cs = .ok (some (name, rest))) : reference false name ≠ .ok p := by
  obtain ⟨ds, after, hread, hne, hds⟩ := h.exists_readName
  rw [hname] at hread
  cases hread
  rw [reference_digits hne hds]
  nofun

/-- The text of a variable has neither a dollar sign nor a backslash. -/
theorem front_of_reference (hname : readName cs = .ok (some (name, rest)))
    (href : reference false name = .ok p) :
    ∃ front, cs = front ++ rest ∧ ∀ c ∈ front, c ≠ '$' ∧ c ≠ '\\' := by
  obtain ⟨front, hcs, hfront⟩ := exists_of_readName hname
  rcases reference_eq_ok href with ⟨v, -, rfl⟩ | ⟨hfalse, -⟩
  · have hall : (v.name ++ ['{', '}', '&']).all (fun c => c != '$' && c != '\\') = true := by
      cases v <;> decide
    refine ⟨front, hcs, fun c hc => ?_⟩
    have hmem : c ∈ v.name ++ ['{', '}', '&'] := List.mem_append.mpr (hfront c hc)
    simpa using List.all_eq_true.mp hall c hmem
  · cases hfalse

namespace RefersToGroup

theorem of_cons (hdollar : c ≠ '$') (hbackslash : c ≠ '\\') (h : RefersToGroup (c :: cs)) :
    RefersToGroup cs := by
  cases h with
  | here => exact absurd rfl hdollar
  | escape => exact absurd rfl hbackslash
  | char _ h => exact h

/-- A reference to a group lies behind whatever has neither a dollar sign nor a backslash. -/
theorem of_append (hfront : ∀ c ∈ front, c ≠ '$' ∧ c ≠ '\\')
    (h : RefersToGroup (front ++ rest)) : RefersToGroup rest := by
  induction front with
  | nil => exact h
  | cons c front ih =>
    obtain ⟨⟨hdollar, hbackslash⟩, hfront⟩ := List.forall_mem_cons.mp hfront
    exact ih hfront (of_cons hdollar hbackslash h)

/-- Where groups are not allowed, no body that refers to one is read. Whatever is read of it in
front of the reference leaves the reference in what is still to be read. -/
theorem not_parse (h : RefersToGroup body) : Template.parse false body ≠ .ok ps := by
  intro hparse
  fun_induction Template.parse false body generalizing ps with
  | case1 => cases h
  | case2 =>
    cases h with
    | char hc => exact hc rfl
  | case3 => cases hparse
  | case4 e cs m hm ih | case5 e cs d hd ih =>
    obtain ⟨qs, hqs, -⟩ := exists_of_map_eq_ok hparse
    cases h with
    | escape _ h => exact ih h hqs
    | char hc => exact hc rfl
  | case6 => cases hparse
  | case7 cs hname _ ih =>
    obtain ⟨qs, hqs, -⟩ := exists_of_map_eq_ok hparse
    cases h with
    | here hgroup =>
      obtain ⟨name, rest, hread, -⟩ := hgroup.exists_readName
      rw [hname] at hread
      cases hread
    | char _ h => exact ih h hqs
  | case8 => cases hparse
  | case9 cs r hname _ p href _ ih =>
    obtain ⟨qs, hqs, -⟩ := exists_of_map_eq_ok hparse
    cases h with
    | here hgroup => exact hgroup.not_reference hname href
    | char _ h =>
      -- The name is passed over, so the reference has to lie behind it.
      obtain ⟨front, rfl, hfront⟩ := front_of_reference hname href
      exact ih (of_append hfront h) hqs
  | case10 c cs hbackslash hdollar ih =>
    obtain ⟨qs, hqs, -⟩ := exists_of_map_eq_ok hparse
    exact ih (of_cons hdollar hbackslash h) hqs

end RefersToGroup

/-- What is read is in normal form, and every template in normal form is read back from its
spelling, with groups of any number up to 64 bits where groups are allowed. Where they are not, no
body is accepted that refers to a group by a dollar sign that no backslash takes. -/
theorem templates_are_read_back :
    (∀ (groups : Bool) (body : Text) (ps : Template), Template.parse groups body = .ok ps →
      ps.IsNormal ∧ ps.Admits groups) ∧
    (∀ (groups : Bool) (ps : Template), ps.IsNormal → ps.Admits groups →
      Template.parse groups ps.spell = .ok ps) ∧
    ∀ body : Text, RefersToGroup body → ∃ cause, Template.parse false body = .error cause := by
  refine ⟨fun groups body => Template.normalResult_parse groups body,
    fun groups ps => Template.parse_spell, fun body h => ?_⟩
  rcases hparse : Template.parse false body with cause | ps
  · exact ⟨cause, rfl⟩
  · exact absurd hparse h.not_parse

/-- A dollar sign that stands for itself and the whole match in front of a digit; a text with all
special characters, the largest group and pieces of each kind; and a group behind a dollar sign that
stands for itself, which an escaped one precedes. -/
theorem templates_are_read_back_mixed :
    Template.IsNormal [.text "x$ ".toList, .group 0, .text ['1']] ∧
    Template.parse true
        "\\\\\\$\x7b1\x7d$\x7b18446744073709551615\x7d0\\u$\x7bfile\x7dé".toList =
      .ok [.text "\\$\x7b1\x7d".toList, .group 18446744073709551615, .text ['0'],
        .modifier (.next .upper), .var .file, .text ['é']] ∧
    ∃ cause, Template.parse false "\\$1$$1".toList = .error cause := by
  obtain ⟨hnormal, hspell, hgroup⟩ := templates_are_read_back
  have hbody : Template.parse true "x$ $&1".toList =
      .ok [.text "x$ ".toList, .group 0, .text ['1']] := by decide +kernel
  refine ⟨(hnormal true _ _ hbody).1, ?_, hgroup _ ?_⟩
  · refine hspell true [.text "\\$\x7b1\x7d".toList, .group 18446744073709551615, .text ['0'],
      .modifier (.next .upper), .var .file, .text ['é']] ⟨by decide, by decide⟩ fun n hn => ?_
    have hlargest : n = 18446744073709551615 := by simpa using hn
    exact ⟨rfl, Nat.le_of_eq hlargest⟩
  · exact .escape '$' (.char (by decide) (.char (by decide) (.here (.number (by decide) []))))

end TagEdit.Script
