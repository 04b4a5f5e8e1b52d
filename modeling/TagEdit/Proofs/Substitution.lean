import TagEdit.Proofs.Regex.Finding
import TagEdit.Proofs.Spelling

/-!
# Substitutions

A substitution puts a text in place of each of its matches and leaves what stands between them. The
text is rendered from the match and from the value as it was before, whatever has been put in so
far. A condition on the same pattern tells whether there is anything to replace.
-/

namespace TagEdit.Script

open Regex

variable {P R F : Text} {p : Script} {n : Node}

/-! ## Templates without references -/

/-- A template with a match and a value put into it. A group without a text is the empty text. -/
def Template.fill (value : Text) (group : Nat → Option Text) : Template → Template :=
  List.map fun
    | .group n => .text ((group n).getD [])
    | .var .value => .text value
    | p => p

/-- Once it has been filled, a template does not depend on a value or a match. -/
theorem render_fill (value other : Text) (ctx : Context) (group : Nat → Option Text)
    (ps : Template) : render other ctx (fun _ => none) (Template.fill value group ps) =
      render value ctx group ps := by
  have hfrom : ∀ s, renderFrom other ctx (fun _ => none) s (Template.fill value group ps) =
      renderFrom value ctx group s ps := by
    induction ps with
    | nil => exact fun _ => rfl
    | cons p ps ih =>
      intro s
      cases p with
      | var v => cases v <;> exact congrArg _ (ih _)
      | modifier m => exact ih _
      | _ => exact congrArg _ (ih _)
  exact hfrom {}

/-! ## From sources to actions -/

theorem derivesScript_of_parse {source : Text} {us : List Token} (h : Lexes source us)
    (hp : Script.parse source = .ok p) : DerivesScript us p := by
  obtain ⟨ts, hts, rfl⟩ := h 1
  have htokens : tokenize source = .ok ts := hts
  unfold Script.parse at hp
  rw [htokens] at hp
  exact statements_sound ts.stop ts.list hp

theorem DerivesStatement.exists_substitute {s : Statement}
    (h : DerivesStatement [.subst P R F] s) : ∃ r ps, Builds substFlags P F r ∧
      Template.parse true R = .ok ps ∧ s = ⟨.substitute r ps (F.contains 'g'), none⟩ := by
  generalize hts : [Token.subst P R F] = ts at h
  cases h with
  | bare h =>
    cases h with
    | last => cases hts
    | substitute hb hps =>
      cases hts
      exact ⟨_, _, hb, hps, rfl⟩
    | assign => cases hts
  | guarded negated h _ =>
    obtain ⟨t, us, rfl, -⟩ := (DerivesStatement.bare h).first
    have hlength := congrArg List.length hts
    simp at hlength

theorem DerivesScript.exists_substitute (h : DerivesScript [.subst P R F] p) :
    ∃ r ps, Builds substFlags P F r ∧ Template.parse true R = .ok ps ∧
      p = [⟨.substitute r ps (F.contains 'g'), none⟩] := by
  generalize hts : [Token.subst P R F] = ts at h
  cases h with
  | last h =>
    cases h with
    | none => cases hts
    | some h =>
      obtain ⟨r, ps, hb, hps, rfl⟩ := DerivesStatement.exists_substitute (hts ▸ h)
      exact ⟨r, ps, hb, hps, rfl⟩
  | @cons ts us _ _ h _ =>
    rcases ts with _ | ⟨t, ts⟩
    · cases hts
    · have hlength := congrArg List.length hts
      simp at hlength

/-! ## The condition -/

/-- The flags of a substitution that a match may have. -/
def withoutGlobal (flags : Text) : Text := flags.filter (· != 'g')

theorem optionsOf_withoutGlobal (F : Text) : optionsOf (withoutGlobal F) = optionsOf F := by
  have hcontains : ∀ c ≠ 'g', (withoutGlobal F).contains c = F.contains c := fun c hc => by
    simp [withoutGlobal, hc]
  simp only [optionsOf, hcontains _ (by decide : 'i' ≠ 'g'), hcontains _ (by decide : 'm' ≠ 'g'),
    hcontains _ (by decide : 's' ≠ 'g'), hcontains _ (by decide : 'x' ≠ 'g')]

/-- The pattern of a substitution is a pattern of a match. -/
theorem Builds.withoutGlobal {r : Regex} (h : Builds substFlags P F r) :
    Builds matchFlags P (withoutGlobal F) r := by
  refine ⟨fun c hc => ?_, (optionsOf_withoutGlobal F).symm ▸ h.2⟩
  obtain ⟨hmem, hne⟩ := List.mem_filter.mp hc
  have hg := h.1 c hmem
  have hsplit : substFlags = 'g' :: matchFlags := by decide
  rw [hsplit, List.mem_cons] at hg
  exact hg.resolve_left (by simpa using hne)

/-- Tokens derive one condition at most. -/
theorem DerivesCond.unique {us : List Token} {c d : Cond} (hc : DerivesCond us c)
    (hd : DerivesCond us d) : c = d := by
  have hread : ∀ {e}, DerivesCond us e → reading (cond 1 (us.map (⟨·, 1⟩))) = .ok (e, []) := by
    intro e he
    have hend : Looser 1 [] := by simp [Looser]
    have h := he.reads 1 (us.map (⟨·, 1⟩)) (by simp [Function.comp_def]) (hend.mono (by decide))
    rwa [List.append_nil, orTail_stops 1 e hend] at h
  have h := (hread hc).symm.trans (hread hd)
  cases h
  rfl

/-! ## What a substitution does -/

theorem run_substitute (r : Regex) (ps : Template) (everywhere : Bool) (ctx : Context) (v : Text) :
    Script.run ctx v [⟨.substitute r ps everywhere, none⟩] =
      (r.replace everywhere v fun m => render v ctx (m.group? v) ps, .proceed) := rfl

/-- The matches that a substitution replaces. -/
def replaced (r : Regex) (everywhere : Bool) (v : Text) : List Match :=
  if everywhere then r.allMatches v else (r.allMatches v).take 1

theorem replace_eq_splice (r : Regex) (everywhere : Bool) (v : Text) (f : Match → Text) :
    r.replace everywhere v f = splice v f 0 (replaced r everywhere v) := by
  rw [replace, replaced, matchesUpTo_one]

theorem exists_replaced_eq_take (r : Regex) (everywhere : Bool) (v : Text) :
    ∃ k, replaced r everywhere v = (r.allMatches v).take k := by
  cases everywhere with
  | false => exact ⟨1, rfl⟩
  | true => exact ⟨_, (List.take_length).symm⟩

/-- The replaced matches, with what stands around them, make up the value. -/
theorem splice_replaced {r : Regex} (hr : r.Runs n) (everywhere : Bool) (v : Text) :
    splice v (·.text v) 0 (replaced r everywhere v) = v := by
  obtain ⟨k, hk⟩ := exists_replaced_eq_take r everywhere v
  rw [hk]
  exact (successive_allMatches hr v).splice_take k

theorem replaced_eq_nil_iff {r : Regex} (hr : r.Runs n) (everywhere : Bool) (v : Text) :
    replaced r everywhere v = [] ↔ r.isMatch v = false := by
  rw [← allMatches_eq_nil_iff hr, replaced]
  split
  · rfl
  · rw [List.take_eq_nil_iff]
    simp

/-- The whole match in its own place. -/
theorem parse_wholeMatch (h : R = "$&".toList ∨ R = "$\x7b0\x7d".toList) :
    Template.parse true R = .ok [.group 0] := by
  have hparse : ∀ {cs}, readName cs = .ok (some (['0'], [])) →
      Template.parse true ('$' :: cs) = .ok [.group 0] := fun hname => by
    rw [parse_reference hname (by rfl), Template.parse]
    rfl
  rcases h with rfl | rfl
  · exact hparse (by rfl)
  · exact hparse (by rfl)

theorem render_wholeMatch (v : Text) (ctx : Context) (group : Nat → Option Text) :
    render v ctx group [.group 0] = (group 0).getD [] :=
  List.append_nil _

/-- To put every match in its own place changes nothing. -/
theorem run_wholeMatch {r : Regex} (hr : r.Runs n) (everywhere : Bool) (ctx : Context) (v : Text) :
    Script.run ctx v [⟨.substitute r [.group 0] everywhere, none⟩] = (v, .proceed) := by
  rw [run_substitute, replace_eq_splice]
  refine congrArg (·, Flow.proceed) ?_
  rw [splice_eq_interleave]
  have hmap : (replaced r everywhere v).map (fun m => render v ctx (m.group? v) [.group 0]) =
      (replaced r everywhere v).map (·.text v) := by
    refine List.map_congr_left fun m hm => ?_
    obtain ⟨k, hk⟩ := exists_replaced_eq_take r everywhere v
    have hof := (successive_allMatches hr v).forall_isOf m (List.mem_of_mem_take (hk ▸ hm))
    rw [render_wholeMatch, hof.group_zero hr.numbered]
    rfl
  rw [hmap, ← splice_eq_interleave, splice_replaced hr]

/-- A substitution that compiles replaces exactly the matches of its pattern. They are the
successive leftmost ones, all of them with the flag `g` and otherwise the first. Value and result are
the same texts with the matches in turn and with their replacements in turn; a replacement is the
template with the match and the whole value put into it. There is none if and only if the pattern
without the flag is a condition that does not hold, and then nothing changes. A substitution of the
whole match for itself compiles if its pattern does, and never changes anything. -/
theorem substitution_replaces_matches (source P R F : Text)
    (hsource : Lexes source [.subst P R F]) :
    (∀ p, Script.parse source = .ok p → ∃ r n ps, Builds substFlags P F r ∧
      nodeOf (optionsOf F) P = .ok n ∧ r.Runs n ∧ Template.parse true R = .ok ps ∧
      ∀ (ctx : Context) (v : Text),
        let used := replaced r (F.contains 'g') v
        Successive n v 0 none (r.allMatches v) ∧
        interleave (gaps v 0 used) (used.map (·.text v)) = v ∧
        p.run ctx v = (interleave (gaps v 0 used) (used.map fun m =>
          render [] ctx (fun _ => none) (Template.fill v (m.group? v) ps)), .proceed) ∧
        (∃ c, DerivesCond [.matching P (withoutGlobal F)] c) ∧
        (∀ c, DerivesCond [.matching P (withoutGlobal F)] c →
          (used = [] ↔ c.holds v ctx = false)) ∧
        (used = [] → p.run ctx v = (v, .proceed))) ∧
    ((∃ r, Builds substFlags P F r) → R = "$&".toList ∨ R = "$\x7b0\x7d".toList →
      ∃ p, Script.parse source = .ok p ∧ ∀ ctx v, p.run ctx v = (v, .proceed)) := by
  constructor
  · intro p hp
    obtain ⟨r, ps, hb, hps, rfl⟩ := (derivesScript_of_parse hsource hp).exists_substitute
    obtain ⟨n, hnode, hr⟩ := exists_node_of_build hb.2
    refine ⟨r, n, ps, hb, hnode, hr, hps, fun ctx v => ?_⟩
    have hrun : ∀ f, r.replace (F.contains 'g') v f = interleave
        (gaps v 0 (replaced r (F.contains 'g') v)) ((replaced r (F.contains 'g') v).map f) :=
      fun f => by rw [replace_eq_splice, splice_eq_interleave]
    have hsplit := splice_replaced hr (F.contains 'g') v
    have hcond : DerivesCond [.matching P (withoutGlobal F)] (.matching (.var .value) r false) :=
      .and (.unary (.value hb.withoutGlobal))
    refine ⟨successive_allMatches hr v, ?_, ?_, ⟨_, hcond⟩, fun c hc => ?_, fun hnil => ?_⟩
    · rwa [← splice_eq_interleave]
    · simp only [run_substitute, hrun, render_fill]
    · rw [hc.unique hcond, replaced_eq_nil_iff hr]
      simp [Cond.holds, Expr.eval, Var.read]
    · rw [run_substitute, replace_eq_splice, hnil]
      rw [hnil] at hsplit
      exact congrArg (·, Flow.proceed) hsplit
  · rintro ⟨r, hb⟩ hR
    obtain ⟨n, -, hr⟩ := exists_node_of_build hb.2
    exact ⟨_, parse_of_lexes hsource (.last (.some (.bare (.substitute hb (parse_wholeMatch hR))))),
      fun ctx v => run_wholeMatch hr _ ctx v⟩

/-- The matches of `a*` are empty almost everywhere. -/
theorem substitution_replaces_matches_star :
    let source := ['s', '|', 'a', '*', '|', '$', '&', '|', 'g']
    Lexes source [.subst ['a', '*'] ['$', '&'] ['g']] ∧
      ∃ p, Script.parse source = .ok p ∧ ∀ ctx v, p.run ctx v = (v, .proceed) := by
  intro source
  have hpattern : Clean '|' ['a', '*'] := clean_of_forall (by simp)
  have hreplacement : Clean '|' ['$', '&'] := clean_of_forall (by simp)
  have hflags : ∀ c ∈ ['g'], c.isAlpha = true := List.forall_mem_singleton.mpr rfl
  have hlexes : Lexes source [.subst ['a', '*'] ['$', '&'] ['g']] :=
    .token (by decide) (scan_subst (by decide) hpattern hreplacement hflags) .nil
  obtain ⟨r, hr⟩ := exists_of_isOk
    (r := Regex.build (optionsOf ['g']) ['a', '*']) (by decide +kernel)
  have hbuilds : Builds substFlags ['a', '*'] ['g'] r := ⟨by simp [substFlags], hr⟩
  exact ⟨hlexes, (substitution_replaces_matches _ _ _ _ hlexes).2 ⟨r, hbuilds⟩ (.inl (by decide))⟩

end TagEdit.Script
