import TagEdit.Proofs.ExitStatus
import TagEdit.Proofs.FileNames
import TagEdit.Proofs.Utf8

/-!
# The tracks of the working directory

A run without paths looks for its files by a pattern. The pattern is matched against the names in
the working directory, and a name, taken as a path, leads back to its entry. So what is found are
the regular files whose names end in `.mp3` behind a stem that does not open with a dot, and since
the components of a bare name are that name alone, the files come in the order of their bytes.
-/

namespace TagEdit

open TagEdit.Path TagEdit.Path.Symbols

/-! ## Names as paths -/

namespace Path

variable {α : Type} [DecidableEq α] [Symbols α]

/-- A name that a directory can hold. -/
@[mk_iff]
structure IsName (name : Bytes) : Prop where
  ne_nil : name ≠ []
  ne_dot : name ≠ [dot]
  ne_dots : name ≠ [dot, dot]
  no_slash : slash ∉ name
  no_zero : 0 ∉ name
  length_le : name.length ≤ Disk.maxName

instance (name : Bytes) : Decidable (IsName name) := decidable_of_iff _ (isName_iff name).symm

namespace IsName

variable {name a b : Bytes}

theorem pieces_eq (h : IsName name) : pieces name = [name] := pieces_of_not_mem h.no_slash

theorem component?_eq (h : IsName name) : component? name = some (.name name) := by
  rw [component?, if_neg (not_or.mpr ⟨h.ne_nil, h.ne_dot⟩), if_neg h.ne_dots]

theorem isAbsolute_eq (h : IsName name) : isAbsolute name = false := by
  rw [isAbsolute, beq_eq_false_iff_ne]
  exact fun hhead => h.no_slash (List.mem_of_head? hhead)

theorem components_eq (h : IsName name) : components name = [.name name] := by
  have hinner : (pieces name).filterMap component? = [.name name] := by
    rw [h.pieces_eq, List.filterMap_cons_some h.component?_eq, List.filterMap_nil]
  have hcurrent : (pieces name).head? ≠ some [dot] := by
    rw [h.pieces_eq]
    exact fun hhead => h.ne_dot (Option.some.inj hhead)
  simp only [components, hinner, h.isAbsolute_eq, hcurrent, Bool.false_eq_true, if_false]

/-- Names are compared as paths by their bytes. -/
theorem compareFiles_eq (ha : IsName a) (hb : IsName b) : compareFiles a b = compareBytes a b := by
  rw [compareFiles, ha.components_eq, hb.components_eq]
  exact Ordering.then_eq

end IsName

/-- The comparison of bytes is the lexicographic one. -/
theorem compareBytes_eq_gt {a b : Bytes} : compareBytes a b = .gt ↔ b < a := by
  induction a, b using compareBytes.induct with
  | case1 => simp [compareBytes]
  | case2 b bs => simp [compareBytes]
  | case3 a as => simp [compareBytes]
  | case4 a as b bs ih =>
    rw [compareBytes, Ordering.then_eq_gt, Nat.compare_eq_gt, Nat.compare_eq_eq, ih,
      List.cons_lt_cons_iff, UInt8.lt_iff_toNat_lt, UInt8.toNat_inj, eq_comm (a := a)]

end Path

/-! ## The working directory -/

namespace Disk

variable {d : Disk} {loc : Location} {name : Bytes}

/-- What lies below a location are the items that it leads to. -/
theorem mem_below_iff {names : List Bytes} {item : Item} :
    (names, item) ∈ d.below loc ↔ names ≠ [] ∧ (loc ++ names, item) ∈ d.items := by
  have hbelow : ∀ place, (loc.isPrefixOf place && place != loc) = true ↔
      ∃ names, names ≠ [] ∧ loc ++ names = place := by
    intro place
    rw [Bool.and_eq_true, List.isPrefixOf_iff_prefix, bne_iff_ne]
    constructor
    · rintro ⟨⟨names, rfl⟩, hne⟩
      exact ⟨names, fun h => hne (by rw [h, List.append_nil]), rfl⟩
    · rintro ⟨names, hne, rfl⟩
      exact ⟨List.prefix_append _ _, fun h => hne (List.append_right_eq_self.mp h)⟩
  rw [below, List.mem_filterMap]
  constructor
  · rintro ⟨⟨place, other⟩, hmem, h⟩
    split at h
    · rename_i hplace
      obtain ⟨names', hne, rfl⟩ := (hbelow place).mp hplace
      rw [List.drop_left] at h
      cases h
      exact ⟨hne, hmem⟩
    · cases h
  · rintro ⟨hne, hmem⟩
    refine ⟨_, hmem, ?_⟩
    rw [if_pos ((hbelow _).mpr ⟨names, hne, rfl⟩), List.drop_left]

/-- The names in a directory are those that lead to an item. -/
theorem mem_names_iff : name ∈ d.names loc ↔ (d.item? (loc ++ [name])).isSome := by
  have hnames : name ∈ d.names loc ↔ ∃ item, ([name], item) ∈ d.below loc := by
    rw [names, List.mem_filterMap]
    constructor
    · rintro ⟨⟨names, item⟩, hmem, h⟩
      split at h
      · rename_i heq
        cases h
        obtain rfl : names = [name] := heq
        exact ⟨item, hmem⟩
      · cases h
    · rintro ⟨item, hmem⟩
      exact ⟨_, hmem, rfl⟩
  have hne : loc ++ [name] ≠ [] := List.append_ne_nil_of_right_ne_nil _ (List.cons_ne_nil _ _)
  rw [hnames, item?, if_neg hne, Option.isSome_map, List.find?_isSome]
  simp [mem_below_iff]

/-- The working directory is one, and its entries have names of their own. -/
@[mk_iff]
structure Orderly (d : Disk) : Prop where
  here : d.item? d.here = some .directory
  isName : ∀ name ∈ d.names d.here, IsName name
  nodup : (d.names d.here).Nodup

instance (d : Disk) : Decidable d.Orderly := decidable_of_iff _ (orderly_iff d).symm

/-- A single dot leads to the working directory. -/
theorem Orderly.location?_dot (hd : d.Orderly) : d.location? [dot] = some d.here := by
  have hstep : d.step d.here [dot] = .ok d.here := by
    rw [step, hd.here]
    rfl
  have hresolve : d.resolve [dot] = .ok d.here := by
    show [[dot]].foldlM d.step d.here = _
    rw [List.foldlM_cons, hstep]
    rfl
  rw [location?, hresolve]
  rfl

/-- A name is followed in one step. -/
theorem resolve_name (h : IsName name) : d.resolve name = d.step d.here name := by
  have hzero : name.contains 0 = false := by
    rw [List.contains_eq_mem]
    exact decide_eq_false h.no_zero
  have hlength : ¬ maxPath < name.length := Nat.not_lt.mpr (h.length_le.trans (by decide))
  rw [resolve, hzero, if_neg Bool.false_ne_true, if_neg h.ne_nil, if_neg hlength, h.pieces_eq,
    start, h.isAbsolute_eq, if_neg Bool.false_ne_true, List.foldlM_cons]
  exact bind_pure _

/-- The name of an entry leads to it. -/
theorem Orderly.lookup_name (hd : d.Orderly) (hname : name ∈ d.names d.here) :
    d.lookup name = d.item? (d.here ++ [name]) := by
  have h := hd.isName name hname
  have hdir : (d.item? d.here != some .directory) = false := by
    rw [hd.here]
    rfl
  have hstep : d.step d.here name = .ok (d.here ++ [name]) := by
    simp only [step, hdir, h.component?_eq, stepInto, if_neg (Nat.not_lt.mpr h.length_le),
      mem_names_iff.mp hname, Bool.false_eq_true, if_false, if_true]
  rw [lookup, location?, resolve_name h, hstep]
  rfl

end Disk

/-! ## Names as texts -/

namespace Glob

/-- A text and its bytes open with a dot alike. -/
theorem head?_eq_dot_iff {name : Bytes} {text : Text} (hread : Utf8.decode? name = some text) :
    name.head? = some dot ↔ text.head? = some '.' := by
  constructor
  · intro hhead
    obtain ⟨bs, rfl⟩ := List.head?_eq_some_iff.mp hhead
    rw [Utf8.decode?_cons] at hread
    obtain ⟨c, hc, hrest⟩ := Option.bind_eq_some_iff.mp hread
    obtain ⟨t, -, rfl⟩ := Option.map_eq_some_iff.mp hrest
    rw [show dot = UInt8.ofNat 46 from rfl, Utf8.readPiece_one (by decide)] at hc
    cases hc
    rfl
  · intro hhead
    obtain ⟨t, rfl⟩ := List.head?_eq_some_iff.mp hhead
    rw [← Utf8.encode_of_decode? hread]
    rfl

/-- A name is visible if it is a text that does not open with a dot. -/
theorem visible?_eq_some {name : Bytes} {text : Text} :
    visible? name = some text ↔ Utf8.decode? name = some text ∧ text.head? ≠ some '.' := by
  unfold visible?
  by_cases hname : name.head? = some dot
  · rw [if_pos (beq_iff_eq.mpr hname)]
    refine iff_of_false nofun ?_
    rintro ⟨hread, hvisible⟩
    exact hvisible ((head?_eq_dot_iff hread).mp hname)
  · rw [if_neg (mt beq_iff_eq.mp hname)]
    exact ⟨fun hread => ⟨hread, mt (head?_eq_dot_iff hread).mpr hname⟩, And.left⟩

/-! ## Matching -/

/-- Characters match those that are the same up to case. -/
theorem matchName_chars {opening : Bool} {text cs : Text} :
    matchName opening (text.map .char) cs = true ↔ cs.map Char.toLower = text.map Char.toLower := by
  induction text generalizing opening cs with
  | nil =>
    rw [List.map_nil, matchName, List.isEmpty_iff]
    simp
  | cons t text ih =>
    cases cs with
    | nil =>
      rw [List.map_cons, matchName]
      · simp
      · rintro ⟨⟩
    | cons c cs =>
      rw [List.map_cons, matchName, Bool.and_eq_true, ih]
      · simp [Token.accepts, sameLetter]
      · rintro ⟨⟩

/-- A star matches any stem, in front of what the rest matches, that does not open the name with a
dot. -/
theorem matchName_anyChars {opening : Bool} {ts : List Token} {cs : Text} :
    matchName opening (.anyChars :: ts) cs = true ↔
      ∃ stem rest, cs = stem ++ rest ∧ (opening = true → stem.head? ≠ some '.') ∧
        matchName (opening && stem.isEmpty) ts rest = true := by
  induction cs generalizing opening with
  | nil =>
    rw [matchName]
    constructor
    · exact fun h => ⟨[], [], rfl, fun _ => (Option.some_ne_none _).symm, by simpa using h⟩
    · rintro ⟨stem, rest, hsplit, -, h⟩
      obtain ⟨rfl, rfl⟩ := List.append_eq_nil_iff.mp hsplit.symm
      simpa using h
  | cons c cs ih =>
    rw [matchName, Bool.or_eq_true, Bool.and_eq_true, ih]
    constructor
    · rintro (h | ⟨hopen, stem, rest, rfl, -, h⟩)
      · exact ⟨[], c :: cs, rfl, fun _ => (Option.some_ne_none _).symm, by simpa using h⟩
      · refine ⟨c :: stem, rest, rfl, ?_, by simpa using h⟩
        rintro rfl
        simpa using hopen
    · rintro ⟨stem, rest, hsplit, hopen, h⟩
      rcases List.cons_eq_append_iff.mp hsplit with ⟨rfl, rfl⟩ | ⟨stem, rfl, rfl⟩
      · exact .inl (by simpa using h)
      · refine .inr ⟨?_, stem, rest, rfl, by simp, by simpa using h⟩
        cases opening
        · rfl
        · simpa using hopen rfl

/-- A text that ends in `.mp3`, in letters of either case, behind a stem that does not open with a
dot. -/
def IsMp3Name (text : Text) : Prop :=
  ∃ stem suffix, text = stem ++ suffix ∧ stem ≠ [] ∧ stem.head? ≠ some '.' ∧
    suffix.map Char.toLower = ".mp3".toList

/-- The tokens of the default pattern. -/
def mp3Tokens : List Token := .anyChars :: ".mp3".toList.map .char

theorem eq_dot_of_toLower {c : Char} (h : c.toLower = '.') : c = '.' := by
  unfold Char.toLower at h
  split at h
  · rename_i hupper
    have hbounds : 65 ≤ c.val.toNat ∧ c.val.toNat ≤ 90 := hupper
    have hsum : (c.val.toNat + 32) % 2 ^ 32 = 46 := congrArg (fun c => c.val.toNat) h
    omega
  · exact h

/-- The default pattern matches the visible texts of that form. -/
theorem matchName_mp3_iff {text : Text} :
    (text.head? ≠ some '.' ∧ matchName true mp3Tokens text = true) ↔ IsMp3Name text := by
  have hlower : ".mp3".toList.map Char.toLower = ".mp3".toList := rfl
  rw [mp3Tokens, matchName_anyChars]
  simp only [matchName_chars, hlower]
  constructor
  · rintro ⟨hvisible, stem, suffix, rfl, hopen, hsuffix⟩
    refine ⟨stem, suffix, rfl, ?_, hopen trivial, hsuffix⟩
    -- behind an empty stem the dot of the suffix would open the name
    rintro rfl
    obtain ⟨c, cs, rfl, hc, -⟩ := List.map_eq_cons_iff.mp hsuffix
    rw [eq_dot_of_toLower hc] at hvisible
    exact hvisible rfl
  · rintro ⟨stem, suffix, rfl, hne, hopen, hsuffix⟩
    refine ⟨?_, stem, suffix, rfl, fun _ => hopen, hsuffix⟩
    rwa [List.head?_append_of_ne_nil _ hne]

/-! ## The files that are found -/

section

variable {d : Disk}

/-- In the working directory a pattern selects among the names. -/
theorem walk_wild (hd : d.Orderly) {ts : List Token} (hts : ts.head? ≠ some (.char '.')) :
    walk d [.wild ts] [dot] =
      (d.names d.here).filter fun name => (visible? name).any (matchName true ts) := by
  have hentry : ∀ name, entryPath [dot] name = name := fun name => if_pos (by decide)
  have hspecials : ¬ (ts.head? = some (.char '.') && d.isDirectory [dot]) = true := by
    simp [hts]
  simp only [walk, visibleNames, hd.location?_dot, hentry, if_neg hspecials, List.flatMap_nil,
    List.append_nil]
  induction d.names d.here with
  | nil => rfl
  | cons name names ih =>
    rcases hvisible : visible? name with _ | text
    · simpa [hvisible] using ih
    · by_cases hmatch : matchName true ts text = true
      · simpa [hvisible, hmatch, walk] using ih
      · simpa [hvisible, hmatch] using ih

/-- Files in the working directory are put in the order of their names. -/
theorem pairwise_mergeSort_compareFiles {paths : List FilePath} (hnames : ∀ p ∈ paths, IsName p)
    (hnodup : paths.Nodup) :
    (paths.mergeSort fun a b => compareFiles a b != .gt).Pairwise (· < ·) := by
  have hle : ∀ a ∈ paths, ∀ b ∈ paths, (compareFiles a b != .gt) = decide (a ≤ b) := by
    intro a ha b hb
    rw [(hnames a ha).compareFiles_eq (hnames b hb), Bool.eq_iff_iff, bne_iff_ne, ne_eq,
      compareBytes_eq_gt, List.not_lt, decide_eq_true_iff]
  have hsort : paths.mergeSort (fun a b => compareFiles a b != .gt) =
      paths.mergeSort fun a b => decide (a ≤ b) := by
    simpa only [List.map_id] using List.map_mergeSort (f := id) hle
  rw [hsort]
  have htrans : ∀ a b c : FilePath, decide (a ≤ b) = true → decide (b ≤ c) = true →
      decide (a ≤ c) = true := by
    simpa only [decide_eq_true_eq] using fun a b c => List.le_trans
  have htotal : ∀ a b : FilePath, (decide (a ≤ b) || decide (b ≤ a)) = true := by
    simpa only [Bool.or_eq_true, decide_eq_true_eq] using List.le_total
  have hsorted := List.pairwise_mergeSort htrans htotal paths
  simp only [decide_eq_true_eq] at hsorted
  refine (hsorted.and ((List.mergeSort_perm paths _).nodup_iff.mpr hnodup)).imp ?_
  rintro a b ⟨hab, hne⟩
  exact Std.lt_of_le_of_ne hab hne

end

end Glob

/-- A regular file of the working directory is under a name of the form of the default pattern. -/
def Disk.IsTrack (d : Disk) (name : Bytes) : Prop :=
  ∃ content text, d.item? (d.here ++ [name]) = some (.file content) ∧
    Utf8.decode? name = some text ∧ Glob.IsMp3Name text

namespace Glob

variable {d : Disk}

/-- What the default pattern selects, before it is put in order. -/
theorem files_mp3Pattern (hd : d.Orderly) :
    mp3Pattern.files d =
      ((d.names d.here).filter fun name => (d.content? name).isSome &&
        (visible? name).any (matchName true mp3Tokens)).mergeSort
          fun a b => compareFiles a b != .gt := by
  have hpattern : mp3Pattern = ⟨false, [.wild mp3Tokens], false⟩ := rfl
  have hwalk := walk_wild hd (show mp3Tokens.head? ≠ some (.char '.') from nofun)
  simp only [hpattern, Pattern.files, Bool.false_eq_true, if_false, hwalk, List.filter_filter,
    Bool.not_false, Bool.true_or, Bool.and_true]

theorem mem_files_iff (hd : d.Orderly) {path : FilePath} :
    path ∈ mp3Pattern.files d ↔ d.IsTrack path := by
  have hmatch : (visible? path).any (matchName true mp3Tokens) = true ↔
      ∃ text, Utf8.decode? path = some text ∧ IsMp3Name text := by
    simp only [Option.any_eq_true, visible?_eq_some, and_assoc, matchName_mp3_iff]
  have hfile (hname : path ∈ d.names d.here) : (d.content? path).isSome = true ↔
      ∃ content, d.item? (d.here ++ [path]) = some (.file content) := by
    rw [Disk.content?, hd.lookup_name hname]
    split
    · rename_i content heq
      simp [heq]
    · rename_i hnone
      simpa using hnone
  rw [files_mp3Pattern hd, List.mem_mergeSort, List.mem_filter, Bool.and_eq_true, hmatch]
  constructor
  · rintro ⟨hname, hcontent, text, htext⟩
    obtain ⟨content, hitem⟩ := (hfile hname).mp hcontent
    exact ⟨content, text, hitem, htext⟩
  · rintro ⟨content, text, hitem, htext⟩
    have hname : path ∈ d.names d.here := Disk.mem_names_iff.mpr (by rw [hitem]; rfl)
    exact ⟨hname, (hfile hname).mpr ⟨content, hitem⟩, text, htext⟩

theorem pairwise_files (hd : d.Orderly) : (mp3Pattern.files d).Pairwise (· < ·) := by
  rw [files_mp3Pattern hd]
  exact pairwise_mergeSort_compareFiles (fun p hp => hd.isName p (List.mem_of_mem_filter hp))
    (hd.nodup.filter _)

/-- What a run has for its files. Among names that are texts, a run without paths finds the tracks
of the working directory and nothing else, each once and in the order of the bytes of their names;
that there are none is an error. Paths that are given are kept as they are. -/
theorem resolveInputs_finds_tracks (d : Disk) :
    (d.Orderly → d.NamesAreTexts → breaksDown d [] = false ∧
      (resolveInputs d [] = .error (.noMatch defaultPattern) ↔ ∀ path, ¬ d.IsTrack path) ∧
      ((∃ path, d.IsTrack path) → ∃ paths, resolveInputs d [] = .ok paths ∧
        (∀ path, path ∈ paths ↔ d.IsTrack path) ∧ paths.Pairwise (· < ·))) ∧
    ∀ files, files ≠ [] → breaksDown d files = false ∧ resolveInputs d files = .ok files := by
  constructor
  · intro hd htexts
    have hinputs : resolveInputs d [] = if mp3Pattern.files d = [] then
        .error (.noMatch defaultPattern) else .ok (mp3Pattern.files d) := resolveInputs_eq {} d
    have hnone : mp3Pattern.files d = [] ↔ ∀ path, ¬ d.IsTrack path := by
      simp only [List.eq_nil_iff_forall_not_mem, mem_files_iff hd]
    refine ⟨Bool.eq_false_iff.mpr fun h => (breaksDown_iff.mp h).2 htexts, ?_, fun hsome => ?_⟩
    · rw [hinputs, ← hnone]
      split
      · exact iff_of_true rfl ‹_›
      · exact iff_of_false nofun ‹_›
    · rw [← not_forall_not, ← hnone] at hsome
      rw [hinputs, if_neg hsome]
      exact ⟨_, rfl, fun path => mem_files_iff hd, pairwise_files hd⟩
  · intro files hfiles
    refine ⟨Bool.eq_false_iff.mpr fun h => hfiles (breaksDown_iff.mp h).1, ?_⟩
    cases files with
    | nil => exact absurd rfl hfiles
    | cons path paths => rfl

/-- A working directory with two tracks, a hidden file and a directory. -/
theorem resolveInputs_finds_tracks_among_others :
    let track := Utf8.ofString "b.Mp3"
    let d := ((((Disk.within [[119]]).put [[119], track] (.file [])).put
      [[119], Utf8.ofString "a.mp3.mp3"] (.file [])).put
      [[119], Utf8.ofString ".c.mp3"] (.file [])).put [[119], Utf8.ofString "d.mp3"] .directory
    d.Orderly ∧ d.NamesAreTexts ∧ d.IsTrack track ∧
      ∃ paths, resolveInputs d [] = .ok paths ∧ track ∈ paths ∧ paths.Pairwise (· < ·) := by
  intro track d
  have hd : d.Orderly := by decide +kernel
  have htexts : d.NamesAreTexts := by
    by_contra h
    have : breaksDown d [] = false := by decide +kernel
    rw [breaksDown_iff.mpr ⟨rfl, h⟩] at this
    cases this
  have htrack : d.IsTrack track :=
    ⟨[], "b.Mp3".toList, by decide, Utf8.decode?_encode_text _, ['b'], ".Mp3".toList, rfl, nofun,
      by decide, rfl⟩
  obtain ⟨-, -, hfound⟩ := (resolveInputs_finds_tracks d).1 hd htexts
  obtain ⟨paths, hpaths, hmem, hsorted⟩ := hfound ⟨track, htrack⟩
  exact ⟨hd, htexts, htrack, paths, hpaths, (hmem track).mpr htrack, hsorted⟩

/-- A file whose name is nothing but the suffix is hidden by the dot, so that it is not found. -/
theorem resolveInputs_hides_bare_suffix :
    let d := (Disk.within [[119]]).put [[119], Utf8.ofString ".mp3"] (.file [])
    d.Orderly ∧ d.item? (d.here ++ [Utf8.ofString ".mp3"]) = some (.file []) ∧
      Utf8.decode? (Utf8.ofString ".mp3") = some ([] ++ ".mp3".toList) ∧
      breaksDown d [] = false ∧ resolveInputs d [] = .error (.noMatch defaultPattern) := by
  exact ⟨by decide +kernel, by decide, Utf8.decode?_encode_text _, by decide +kernel,
    by decide +kernel⟩

end Glob

end TagEdit
