import TagEdit.Proofs.Pipeline
import TagEdit.Proofs.Substitution

/-!
# Prefixes that are there once

The fragment that puts a text in front of a value, unless the value begins with it. The text is
written twice, as a pattern and as a replacement, with the backslashes that each of them needs; both
are read back as the text itself.
-/

namespace TagEdit

open Script

/-! ## Texts as patterns -/

namespace Regex

/-- The characters that mean something in patterns. -/
def metaCharacters : List Char := "\\.+*?()|[]\x7b\x7d^$#&-~".toList

/-- A text as a pattern between slashes. -/
def quoted (t : Text) : Text := backslashed ('/' :: metaCharacters) t

/-- The pattern of a text at the front. -/
def anchored (t : Text) : Text := '^' :: quoted t

variable {r : Reading} {t : Text} {c : Char} {cs : Text}

theorem readEscape_special (x : Bool) (h : c ∈ '/' :: metaCharacters) (cs : Text) :
    readEscape x (c :: cs) = .ok (.literal ⟨c, false⟩, cs) := by
  have hall : ('/' :: metaCharacters).all (fun c => !c.isDigit && isEscapable c) = true := by decide
  have hc := List.all_eq_true.mp hall c h
  rw [Bool.and_eq_true, Bool.not_eq_true'] at hc
  rw [readEscape.eq_def]
  simp only [hc.1, hc.2, Bool.false_eq_true, if_false, if_true]

namespace Reading

theorem step_special (h : c ∈ '/' :: metaCharacters) :
    r.step '\\' (c :: cs) = .ok (r.push (.literal ⟨c, false⟩), cs) := by
  show (readEscape r.blanks (c :: cs)).map _ = _
  rw [readEscape_special _ h]
  rfl

theorem step_plain (h : c ∉ '/' :: metaCharacters) :
    r.step c cs = .ok (r.push (.literal ⟨c, false⟩), cs) := by
  unfold step
  split
  all_goals first | rfl | exact absurd (by decide) h

theorem run_nil (hgroups : r.groups = []) {fuel : Nat} : run (fuel + 1) r [] = .ok r.close := by
  have hblanks : skipBlanks r.blanks [] = [] := by cases r.blanks <;> rfl
  rw [run, hblanks]
  simp only [hgroups, List.isEmpty_nil, if_true]

theorem run_cons (hblanks : r.blanks = false) {fuel : Nat} {r' : Reading} {rest : Text}
    (h : r.step c cs = .ok (r', rest)) : run (fuel + 1) r (c :: cs) = run fuel r' rest := by
  have hskip : skipBlanks r.blanks (c :: cs) = c :: cs := by
    rw [hblanks]
    rfl
  rw [run, hskip]
  simp only [h]

theorem quoted_cons (c : Char) (t : Text) : quoted (c :: t) =
    (if c ∈ '/' :: metaCharacters then ['\\', c] else [c]) ++ quoted t := rfl

theorem run_quoted_cons (hblanks : r.blanks = false) (fuel : Nat) (c : Char) (t : Text) :
    run (fuel + 1) r (quoted (c :: t)) = run fuel (r.push (.literal ⟨c, false⟩)) (quoted t) := by
  rw [quoted_cons]
  split
  · rename_i hc
    exact run_cons hblanks (step_special hc)
  · rename_i hc
    exact run_cons hblanks (step_plain hc)

theorem length_quoted_lt (c : Char) (t : Text) : (quoted t).length < (quoted (c :: t)).length := by
  rw [quoted_cons, List.length_append]
  split <;> simp only [List.length_cons, List.length_nil] <;> omega

/-- The characters of a text as they are written without switches. -/
def literals (t : Text) : List Pattern := t.map fun c => .literal ⟨c, false⟩

/-- The characters of a text are read one by one. -/
theorem run_quoted (hgroups : r.groups = []) (hblanks : r.blanks = false) {fuel : Nat}
    (hfuel : (quoted t).length < fuel) : run fuel r (quoted t) =
      .ok ({ r with parts := (literals t).reverse ++ r.parts } : Reading).close := by
  induction t generalizing r fuel with
  | nil =>
    obtain ⟨fuel, rfl⟩ := Nat.exists_eq_succ_of_ne_zero (Nat.ne_zero_of_lt hfuel)
    exact run_nil hgroups
  | cons c t ih =>
    have hparts : (literals (c :: t)).reverse ++ r.parts =
        (literals t).reverse ++ (r.push (.literal ⟨c, false⟩)).parts := by
      simp [literals, push]
    obtain ⟨fuel, rfl⟩ := Nat.exists_eq_succ_of_ne_zero (Nat.ne_zero_of_lt hfuel)
    have hlength := length_quoted_lt c t
    have hrest := @ih (r.push (.literal ⟨c, false⟩)) hgroups hblanks fuel (by omega)
    rw [run_quoted_cons hblanks, hparts]
    exact hrest

end Reading

theorem maxDepth_literals (t : Text) : Pattern.maxDepth (Reading.literals t) = 0 := by
  induction t with
  | nil => rfl
  | cons c t ih =>
    rw [Reading.literals, List.map_cons, Pattern.maxDepth, ← Reading.literals, ih]
    rfl

theorem parse_anchored (t : Text) : Pattern.parse false (anchored t) =
    .ok (Pattern.ofParts (.anchor .startLine :: Reading.literals t)) := by
  have hrun : Reading.run ((anchored t).length + 1) { blanks := false } (anchored t) =
      .ok (Pattern.ofParts (.anchor .startLine :: Reading.literals t)) := by
    have hstep : Reading.step { blanks := false } '^' (quoted t) =
        .ok (Reading.push { blanks := false } (.anchor .startLine), quoted t) := rfl
    rw [anchored, Reading.run_cons rfl hstep, Reading.run_quoted rfl rfl (by simp)]
    simp [Reading.close, Reading.push, Pattern.ofBranches]
  have hdepth : (Pattern.ofParts (.anchor .startLine :: Reading.literals t)).depth ≤ 1 := by
    rcases t with _ | ⟨c, t⟩
    · exact Nat.zero_le 1
    · show max 0 (Pattern.maxDepth (Reading.literals (c :: t))) + 1 ≤ 1
      rw [maxDepth_literals]
      decide
  rw [Pattern.parse, hrun]
  show (if nestLimit < _ then _ else _) = _
  rw [if_neg (Nat.not_lt.mpr (Nat.le_trans hdepth (by decide)))]
  rfl

/-- What the pattern matches: the text, where a value begins. -/
def anchoredNode : Text → Node
  | [] => .look .start
  | c :: t => .seq [.look .start, .text (c :: t)]

theorem literal_node (c : Char) : Literal.node {} ⟨c, false⟩ = .ok (.text [c]) := by
  show Except.ok (Node.ofSet ⟨[(c.toNat, c.toNat)]⟩) = _
  rw [Node.ofSet]
  simp

theorem interpretAll_literals (t : Text) : Node.interpretAll {} (Reading.literals t) =
    .ok (t.map fun c => .text [c], {}) := by
  induction t with
  | nil => rfl
  | cons c t ih =>
    rw [Reading.literals, List.map_cons, Node.interpretAll, Node.interpret, literal_node]
    show (Node.interpretAll {} (Reading.literals t)).bind _ = _
    rw [ih]
    rfl

/-- Characters side by side are one text. -/
theorem ofSeq_anchored (c : Char) (t : Text) :
    Node.ofSeq (.look .start :: (c :: t).map fun c => .text [c]) = anchoredNode (c :: t) := by
  have hparts : ∀ t : Text, (t.map fun c => Node.text [c]).flatMap Node.parts =
      t.map fun c => .text [c] := fun t => by
    rw [List.flatMap_map, List.map_eq_flatMap]
    rfl
  have hjoin : ∀ (t : Text) (c : Char), ((c :: t).map fun c => Node.text [c]).foldr Node.joinTo [] =
      [.text (c :: t)] := by
    intro t
    induction t with
    | nil => exact fun _ => rfl
    | cons d t ih =>
      intro c
      rw [List.map_cons, List.foldr_cons, ih]
      rfl
  rw [Node.ofSeq, List.flatMap_cons, hparts, List.foldr_append, hjoin]
  rfl

theorem nodeOf_anchored (t : Text) : nodeOf {} (anchored t) = .ok (anchoredNode t) := by
  unfold nodeOf
  rw [show Options.ignoreBlanks {} = false from rfl, parse_anchored]
  show Node.ofPattern {} _ = _
  rcases t with _ | ⟨c, t⟩
  · rfl
  · show (Node.interpret {} (.concat (.anchor .startLine :: Reading.literals (c :: t)))).map _ = _
    have hparts : Node.interpretAll {} (.anchor .startLine :: Reading.literals (c :: t)) =
        .ok (.look .start :: (c :: t).map fun c => .text [c], {}) := by
      rw [Node.interpretAll, Node.interpret]
      show (Node.interpretAll {} (Reading.literals (c :: t))).bind _ = _
      rw [interpretAll_literals]
      rfl
    rw [Node.interpret, hparts, ← ofSeq_anchored]
    rfl

theorem matches_anchoredNode {a b : Spot} : (anchoredNode t).Matches a b ↔
    a.1.before = none ∧ (Node.text t).Matches a b := by
  have hlook : Look.start.holds a.1 = true ↔ a.1.before = none := Option.isNone_iff_eq_none
  rcases t with _ | ⟨c, t⟩
  · show Look.start.holds a.1 = true ∧ b = a ↔ _ ∧ ∃ rest, _
    rw [hlook]
    exact and_congr_right fun _ => ⟨fun h => ⟨_, rfl, h⟩, fun ⟨_, _, h⟩ => h⟩
  · constructor
    · rintro ⟨_, ⟨hstart, rfl⟩, _, htext, rfl⟩
      exact ⟨hlook.mp hstart, htext⟩
    · rintro ⟨hstart, htext⟩
      exact ⟨a, ⟨hlook.mpr hstart, rfl⟩, b, htext, rfl⟩

theorem before_place {i : Nat} {v : Text} (hi : i ≤ v.length) :
    (place v i).before = none ↔ i = 0 := by
  rcases i with _ | i
  · exact iff_of_true rfl rfl
  · have hne : (place v i).rest ≠ [] := by
      rw [rest_place, Ne, List.drop_eq_nil_iff]
      omega
    obtain ⟨c, rest, hrest⟩ := List.exists_cons_of_ne_nil hne
    rw [← advance_place, Cursor.advance_of_cons hrest]
    exact iff_of_false (Option.some_ne_none c) (Nat.succ_ne_zero i)

/-- The pattern begins a match only at the front of a value that begins with the text. -/
theorem begins_anchoredNode_iff {i : Nat} {v : Text} (hi : i ≤ v.length) :
    (anchoredNode t).Begins v i ↔ i = 0 ∧ t <+: v := by
  constructor
  · rintro ⟨b, hb⟩
    obtain ⟨hbefore, rest, hrest, -⟩ := matches_anchoredNode.mp hb
    obtain rfl := (before_place hi).mp hbefore
    exact ⟨rfl, rest, hrest.symm⟩
  · rintro ⟨rfl, rest, hrest⟩
    exact ⟨_, matches_anchoredNode.mpr ⟨rfl, rest, hrest.symm, rfl⟩⟩

theorem isMatch_anchored {e : Regex} (he : e.Runs (anchoredNode t)) (v : Text) :
    e.isMatch v = true ↔ t <+: v := by
  rw [isMatch_iff he]
  constructor
  · rintro ⟨i, hi, hbegins⟩
    exact ((begins_anchoredNode_iff hi).mp hbegins).2
  · intro h
    exact ⟨0, Nat.zero_le _, (begins_anchoredNode_iff (Nat.zero_le _)).mpr ⟨rfl, h⟩⟩

/-- At the front of a value the empty text is replaced once. -/
theorem replace_front {e : Regex} (he : e.Runs (anchoredNode [])) (v : Text) (f : Match → Text) :
    ∃ m, e.replace false v f = f m ++ v := by
  rw [Script.replace_eq_splice, Script.replaced, if_neg Bool.false_ne_true]
  have hall := successive_allMatches he v
  generalize e.allMatches v = ms at hall
  have hzero : (anchoredNode []).Begins v 0 :=
    (begins_anchoredNode_iff (Nat.zero_le _)).mpr ⟨rfl, List.nil_prefix⟩
  cases hall with
  | done hresumes hnone =>
    cases hresumes
    exact absurd hzero (hnone 0 (Nat.le_refl 0) (Nat.zero_le _))
  | @next i j _ m ms hresumes hfirst _ _ =>
    cases hresumes
    have hstart : m.start = 0 := by
      by_contra hne
      exact hfirst.leftmost 0 (Nat.le_refl 0) (Nat.pos_of_ne_zero hne) hzero
    have hstop : m.stop = 0 := by
      obtain ⟨noted, hmatches, -⟩ := hfirst.matches_node
      obtain ⟨-, rest, -, hspot⟩ := matches_anchoredNode.mp hmatches
      have hplace : place v m.stop = place v m.start := congrArg Prod.fst hspot
      have hpos := congrArg Cursor.pos hplace
      rwa [pos_place hfirst.stop_le, pos_place hfirst.start_le_length, hstart] at hpos
    refine ⟨m, ?_⟩
    rw [List.take_succ_cons, List.take_zero, splice, splice, hstart, hstop]
    rfl

end Regex

namespace Script

open Regex

/-! ## The fragment -/

/-- The substitution that puts a text in front of a value unless the value begins with it. -/
def anchoredPrefix (p : Text) : Text :=
  "s/^/".toList ++ (backslashed ['\\', '$', '/'] p ++
    ("/ unless /".toList ++ (anchored p ++ ['/'])))

theorem clean_anchored (p : Text) : Clean '/' (anchored p) :=
  .char (by decide) (by decide) (clean_backslashed (by decide) (by decide) p)

theorem lexes_anchoredPrefix (p : Text) : Lexes (anchoredPrefix p)
    [.subst ['^'] (backslashed ['\\', '$', '/'] p) [], .unlessWord, .matching (anchored p) []] := by
  have hblank : Separates ' ' := ⟨by decide, by decide, by decide, by decide⟩
  have hfront : Clean '/' ['^'] := clean_of_forall (by simp)
  have htext : Clean '/' (backslashed ['\\', '$', '/'] p) :=
    clean_backslashed (by decide) (by decide) p
  have hflags : ∀ c ∈ ([] : Text), c.isAlpha = true := List.forall_mem_nil _
  have hsubst := scan_subst (by decide) hfront htext hflags
  have hunless : scan 'u' ['n', 'l', 'e', 's', 's'] = .ok (.unlessWord, []) := by rfl
  have hmatch : scan '/' (anchored p ++ ['/']) = .ok (.matching (anchored p) [], []) :=
    scanMatch_of_clean (by decide) (clean_anchored p) hflags nofun
  have hsource : anchoredPrefix p =
      's' :: ('/' :: (['^'] ++ '/' :: (backslashed ['\\', '$', '/'] p ++ ['/'])) ++
        ' ' :: ('u' :: (['n', 'l', 'e', 's', 's'] ++ ' ' :: ('/' :: (anchored p ++ ['/']))))) := by
    simp [anchoredPrefix]
  rw [hsource]
  refine .token (by decide) (scan_append hblank (fun h => ?_) hsubst) (.blank (by decide) ?_)
  · rcases h with h | h <;> cases h
  refine .token (by decide) (scan_append hblank (fun h => ?_) hunless) (.blank (by decide) ?_)
  · rcases h with h | h <;> cases h
  exact .token (by decide) hmatch .nil

/-- The fragment is read as a substitution at the front, guarded by a match of the text. -/
theorem parse_anchoredPrefix {p : Text} {front whole : Regex}
    (hfront : Regex.build {} (anchored []) = .ok front)
    (hwhole : Regex.build {} (anchored p) = .ok whole) :
    Script.parse (anchoredPrefix p) =
      .ok [⟨.substitute front (templateOf [.text p]) false,
        some ⟨true, .matching (.var .value) whole false⟩⟩] := by
  have htemplate : Template.parse true (backslashed ['\\', '$', '/'] p) =
      .ok (templateOf [.text p]) := by
    have h := parse_templateBody (d := '/') (by decide) true [.text p]
    rwa [templateBody, List.flatMap_singleton] at h
  have hbuild : ∀ {allowed pattern r}, Regex.build {} pattern = .ok r →
      Builds allowed pattern [] r := fun h => ⟨List.forall_mem_nil _, h⟩
  exact parse_of_lexes (lexes_anchoredPrefix p) (.last (.some (.guarded true
    (.substitute (hbuild hfront) htemplate) (.and (.unary (.value (hbuild hwhole)))))))

end Script

namespace Editor

/-- A text is put in front of a value unless the value begins with it. -/
theorem apply_anchoredPrefix {p : Text} {front whole : Regex}
    (hfront : front.Runs (Regex.anchoredNode [])) (hwhole : whole.Runs (Regex.anchoredNode p))
    (field : Field) (ctx : Context) (value : Text) :
    apply ⟨field, [.run [⟨.substitute front (Script.templateOf [.text p]) false,
      some ⟨true, .matching (.var .value) whole false⟩⟩]]⟩ ctx value =
        if p.isPrefixOf value then value else p ++ value := by
  rw [apply_run_singleton]
  show (if (whole.isMatch value != false) != true then
    (front.replace false value fun m => Script.render value ctx (m.group? value)
      (Script.templateOf [.text p]), Flow.proceed) else (value, Flow.proceed)).1 = _
  have hmatch : whole.isMatch value = p.isPrefixOf value := by
    rw [Bool.eq_iff_iff, Regex.isMatch_anchored hwhole, List.isPrefixOf_iff_prefix]
  rw [hmatch]
  cases p.isPrefixOf value with
  | true => rfl
  | false =>
    obtain ⟨m, hm⟩ := Regex.replace_front hfront value fun m =>
      Script.render value ctx (m.group? value) (Script.templateOf [.text p])
    show front.replace false value _ = _
    rw [hm, Script.render_templateOf]
    show p ++ [] ++ value = p ++ value
    rw [List.append_nil]

/-- A text is put in front of a value unless the value begins with it, as long as its pattern is not
too large. The result begins with the text, so that another run changes nothing. -/
theorem anchoredPrefix_is_idempotent (p : Text)
    (hsize : Regex.build {} (Regex.anchored p) ≠ .error (.tooLarge Regex.sizeLimit))
    (field : Field) : ∃ e, compile field [.expression (Script.anchoredPrefix p)] = .ok e ∧
      ∀ ctx value,
        e.apply ctx value = (if p.isPrefixOf value then value else p ++ value) ∧
        p <+: e.apply ctx value ∧
        ∀ other, e.apply other (e.apply ctx value) = e.apply ctx value := by
  obtain ⟨front, hfront⟩ := Script.exists_of_isOk
    (r := Regex.build {} (Regex.anchored [])) (by decide +kernel)
  obtain ⟨whole, hwhole⟩ : ∃ whole, Regex.build {} (Regex.anchored p) = .ok whole := by
    rw [Regex.build_of_nodeOf (Regex.nodeOf_anchored p)] at hsize ⊢
    split at hsize
    · rename_i hfits
      exact ⟨_, if_pos hfits⟩
    · exact absurd rfl hsize
  have hruns : ∀ {t e}, Regex.build {} (Regex.anchored t) = .ok e →
      e.Runs (Regex.anchoredNode t) := fun {t e} he => by
    obtain ⟨n, hn, hruns⟩ := Regex.exists_node_of_build he
    obtain rfl := Except.ok.inj ((Regex.nodeOf_anchored t).symm.trans hn)
    exact hruns
  have happly := fun ctx value => apply_anchoredPrefix (hruns hfront) (hruns hwhole) field ctx value
  have hbegins : ∀ value : Text, p <+: if p.isPrefixOf value then value else p ++ value := by
    intro value
    split
    · exact List.isPrefixOf_iff_prefix.mp ‹_›
    · exact List.prefix_append p value
  refine ⟨_, compile_expression (Script.parse_anchoredPrefix hfront hwhole) field,
    fun ctx value => ⟨happly ctx value, ?_, fun other => ?_⟩⟩
  · rw [happly]
    exact hbegins value
  · rw [happly, happly, if_pos (List.isPrefixOf_iff_prefix.mpr (hbegins value))]

/-- A text with characters that mean something in patterns, in replacements and between slashes. -/
theorem anchoredPrefix_is_idempotent_path :
    let p := ['$', '/', '\\', '(', 'a']
    Regex.build {} (Regex.anchored p) ≠ .error (.tooLarge Regex.sizeLimit) ∧
      ∃ e, compile .title [.expression (Script.anchoredPrefix p)] = .ok e ∧
        ∀ ctx, e.apply ctx "b".toList = "$/\\(ab".toList ∧
          e.apply ctx "$/\\(ab".toList = "$/\\(ab".toList := by
  intro p
  have hsize : Regex.build {} (Regex.anchored p) ≠ .error (.tooLarge Regex.sizeLimit) := by
    obtain ⟨e, he⟩ := Script.exists_of_isOk
      (r := Regex.build {} (Regex.anchored p)) (by decide +kernel)
    rw [he]
    exact fun h => by cases h
  obtain ⟨e, he, happly⟩ := anchoredPrefix_is_idempotent p hsize .title
  refine ⟨hsize, e, he, fun ctx => ⟨?_, ?_⟩⟩
  · exact (happly ctx _).1.trans (by decide)
  · exact (happly ctx _).1.trans (by decide)

end Editor

end TagEdit
